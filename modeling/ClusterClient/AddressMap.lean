/-
  ClusterClient.AddressMap — what is kept for each address.

  A list of entries in the order in which the addresses were first seen. Addresses are compared
  as addresses, so no two entries are for the same server.

  Main statements: `value?_put_same`, `value?_put_other`, `value?_drop_same` and
  `value?_drop_other` say what the table holds after a change.
-/
import ClusterClient.Address

namespace ClusterClient

/-- Entries by address. -/
abbrev AddressMap (α : Type) := List (Address × α)

namespace AddressMap

variable {α : Type}

/-- The entry for an address. -/
def value? (m : AddressMap α) (a : Address) : Option α :=
  (List.find? (fun e => e.1.same a) m).map (·.2)

/-- Sets the entry for an address. -/
def put (m : AddressMap α) (a : Address) (v : α) : AddressMap α :=
  match m with
  | [] => [(a, v)]
  | e :: rest => if e.1.same a then (e.1, v) :: rest else e :: put rest a v

/-- Drops the entry for an address. -/
def drop (m : AddressMap α) (a : Address) : AddressMap α :=
  List.filter (fun e => !e.1.same a) m

theorem value?_cons (e : Address × α) (m : AddressMap α) (a : Address) :
    value? (e :: m) a = if e.1.same a then some e.2 else value? m a := by
  cases h : e.1.same a <;> simp [value?, h]

/-- Addresses of the same server find the same. -/
theorem value?_congr (m : AddressMap α) {a b : Address} (h : a.same b = true) :
    value? m a = value? m b := by
  have hsame : ∀ e : Address × α, e.1.same a = e.1.same b := by
    intro e
    rw [Address.same_comm, Address.same_congr e.1 h, Address.same_comm]
  simp only [value?, hsame]

/-- An address finds what was put under any address of the same server. -/
theorem value?_put_same (m : AddressMap α) {a b : Address} (v : α) (h : a.same b = true) :
    value? (put m a v) b = some v := by
  induction m with
  | nil => simp [put, value?, h]
  | cons e rest ih =>
    by_cases he : e.1.same a
    · have hb : e.1.same b = true := by rw [Address.same_congr b he]; exact h
      simp [put, he, value?_cons, hb]
    · have hb : e.1.same b = false := by
        rw [Address.same_comm, ← Address.same_congr e.1 h, Address.same_comm]
        simpa using he
      rw [put, if_neg he, value?_cons, hb]
      simpa using ih

/-- Other addresses find what they found before. -/
theorem value?_put_other (m : AddressMap α) {a b : Address} (v : α) (h : a.same b = false) :
    value? (put m a v) b = value? m b := by
  induction m with
  | nil => simp [put, value?, h]
  | cons e rest ih =>
    by_cases he : e.1.same a
    · have hb : e.1.same b = false := by rw [Address.same_congr b he]; exact h
      simp [put, he, value?_cons, hb]
    · rw [put, if_neg he, value?_cons, value?_cons, ih]

/-- What was dropped is found no more. -/
theorem value?_drop_same (m : AddressMap α) {a b : Address} (h : a.same b = true) :
    value? (drop m a) b = none := by
  simp only [value?, drop, Option.map_eq_none_iff, List.find?_eq_none, List.mem_filter]
  intro e he hb
  have ha : e.1.same a = true := by
    rw [Address.same_comm, Address.same_congr e.1 h, Address.same_comm]
    exact hb
  simp [ha] at he

/-- Dropping an address changes nothing for others. -/
theorem value?_drop_other (m : AddressMap α) {a b : Address} (h : a.same b = false) :
    value? (drop m a) b = value? m b := by
  induction m with
  | nil => rfl
  | cons e rest ih =>
    cases he : e.1.same a
    · have hd : drop (e :: rest) a = e :: drop rest a := by simp [drop, he]
      rw [hd, value?_cons, value?_cons, ih]
    · have hd : drop (e :: rest) a = drop rest a := by simp [drop, he]
      have hb : e.1.same b = false := by rw [Address.same_congr b he]; exact h
      rw [hd, ih, value?_cons, hb]
      simp

end AddressMap

end ClusterClient
