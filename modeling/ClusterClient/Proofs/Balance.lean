/-
  ClusterClient.Proofs.Balance — the books of one pool balance.

  A pool keeps six counters, the permits, the connections that wait and those that are lent.  They
  tell of each other: every connection that was opened waits, is lent or was closed, and a permit
  is missing for each one that is lent.  Idle connections hold no permit, so that there are never
  more connections than permits needs an argument: a new one is opened only when none waits.

  `Pool.Balanced` says how the counters agree.  Every operation on a pool keeps it, however
  connections are opened.  `Pool.InOrder` adds which connections are held by borrowers and under
  which of them the network has failed.  It is kept as long as connections report the numbers that
  they were opened with.

  Main statements: `Pool.InOrder.lends`, `Pool.InOrder.refused`, `Pool.InOrder.fails` and
  `Pool.InOrder.comesBack`, one for each thing that can happen to a pool.
-/
import ClusterClient.Pool
import Mathlib.Data.List.Nodup
import Mathlib.Data.List.Perm.Basic

namespace ClusterClient

/-! ## §1. Operations on a pool. -/

namespace Pool

/-- A check-out fails and costs a number at most, or it lends the connection that has waited
    longest, or a new one if none waits. -/
theorem checkOut_cases (establish : Establish) (p : Pool) :
    (∃ e next, p.nextId ≤ next ∧
      p.checkOut establish = ⟨.error e, false, { p with nextId := next }⟩) ∨
    (∃ rest c waiting, p.permits = rest + 1 ∧ p.idle = c :: waiting ∧
      p.checkOut establish =
        ⟨.ok c.description, false, lend { p with
          permits := rest
          idle := waiting } c.description⟩) ∨
    (∃ rest c, p.permits = rest + 1 ∧ p.idle = [] ∧ establish p.nextId = .ok c ∧
      p.checkOut establish =
        ⟨.ok c, true, lend { p with
          permits := rest
          nextId := p.nextId + 1
          established := p.established + 1 } c⟩) := by
  obtain ⟨address, permits, nextId, idle, _⟩ := p
  cases permits with
  | zero => exact .inl ⟨_, nextId, Nat.le_refl _, rfl⟩
  | succ rest =>
    cases idle with
    | cons c waiting => exact .inr (.inl ⟨rest, c, waiting, rfl, rfl, rfl⟩)
    | nil =>
      unfold checkOut
      dsimp only
      cases hopen : establish nextId with
      | error e => exact .inl ⟨e, nextId + 1, Nat.le_succ _, rfl⟩
      | ok c => exact .inr (.inr ⟨rest, c, rfl, rfl, rfl, rfl⟩)

/-- The pool after the return of a lent connection. -/
def returned (p : Pool) (c : Connection) (others : List Connection) : Pool :=
  { p with
    leased := others
    checkedOut := p.checkedOut - 1
    totalCheckIns := p.totalCheckIns + 1
    permits := p.permits + 1
    closed := if c.broken then p.closed + 1 else p.closed
    idle := if c.broken then p.idle else p.idle ++ [c] }

theorem checkIn_eq {p : Pool} {before after : List Connection} {c : Connection}
    (h : p.leased = before ++ c :: after)
    (first : ∀ c' ∈ before, c'.description.id ≠ c.description.id) :
    p.checkIn c.description.id = p.returned c (before ++ after) := by
  have hother : ∀ c' ∈ before, ¬ decide (c'.description.id = c.description.id) = true :=
    fun c' hc' => by simpa using first c' hc'
  have hfound : p.lent? c.description.id = some c :=
    List.find?_eq_some_iff_append.mpr ⟨by simp, before, after, h, by simpa using first⟩
  have herase : p.leased.eraseP (fun c' => c'.description.id = c.description.id) =
      before ++ after := by
    rw [h, List.eraseP_append_right _ hother, List.eraseP_cons_of_pos (by simp)]
  unfold checkIn returned
  rw [hfound]
  dsimp only
  rw [herase]
  cases c.broken <;> rfl

/-- What comes back was lent, or nothing happens. -/
theorem checkIn_cases (p : Pool) (id : Nat) :
    p.checkIn id = p ∨ ∃ before c after, p.leased = before ++ c :: after ∧
      p.checkIn id = p.returned c (before ++ after) := by
  cases hfound : p.lent? id with
  | none =>
    left
    unfold checkIn
    rw [hfound]
  | some c =>
    right
    obtain ⟨hid, before, after, hleased, first⟩ := List.find?_eq_some_iff_append.mp hfound
    have heq : c.description.id = id := by simpa using hid
    subst heq
    exact ⟨before, c, after, hleased, checkIn_eq hleased (by simpa using first)⟩

/-! ## §2. Counters. -/

/-- The counters of a pool that lends up to `capacity` connections agree with each other and with
    the connections. -/
structure Balanced (capacity : Nat) (p : Pool) : Prop where
  counted : p.checkedOut = p.leased.length
  turnover : p.totalCheckOuts = p.totalCheckIns + p.checkedOut
  stock : p.established = p.idle.length + p.checkedOut + p.closed
  room : p.idle.length + p.checkedOut ≤ capacity
  permits : p.permits + p.checkedOut = capacity

namespace Balanced

variable {capacity : Nat} {p : Pool}

theorem empty (a : Address) (capacity : Nat) : (empty a capacity).Balanced capacity :=
  ⟨rfl, rfl, rfl, Nat.zero_le _, rfl⟩

theorem checkOut (h : p.Balanced capacity) (establish : Establish) :
    (p.checkOut establish).pool.Balanced capacity := by
  obtain ⟨counted, turnover, stock, room, permits⟩ := h
  obtain ⟨e, next, -, hwent⟩ | ⟨rest, c, waiting, hpermit, hidle, hwent⟩ |
    ⟨rest, c, hpermit, hidle, -, hwent⟩ := p.checkOut_cases establish
  · rw [hwent]
    exact ⟨counted, turnover, stock, room, permits⟩
  · -- A connection goes from those that wait to those that are lent.
    rw [hidle, List.length_cons] at stock room
    rw [hwent]
    constructor <;> simp only [lend, List.length_cons] <;> omega
  · -- The permit that was left makes room for a new one, as none waits.
    rw [hidle, List.length_nil] at stock room
    rw [hwent]
    constructor <;> simp only [lend, hidle, List.length_cons, List.length_nil] <;> omega

theorem markBroken (h : p.Balanced capacity) (id : Nat) : (p.markBroken id).Balanced capacity :=
  ⟨h.counted.trans (List.length_map _).symm, h.turnover, h.stock, h.room, h.permits⟩

theorem returned (h : p.Balanced capacity) {before after : List Connection} {c : Connection}
    (hleased : p.leased = before ++ c :: after) :
    (p.returned c (before ++ after)).Balanced capacity := by
  obtain ⟨counted, turnover, stock, room, permits⟩ := h
  rw [hleased, List.length_append, List.length_cons] at counted
  unfold Pool.returned
  cases c.broken <;> constructor <;>
    simp only [List.length_append, List.length_singleton, if_true, Bool.false_eq_true, if_false]
      <;> omega

theorem checkIn (h : p.Balanced capacity) (id : Nat) : (p.checkIn id).Balanced capacity := by
  obtain hwent | ⟨before, c, after, hleased, hwent⟩ := p.checkIn_cases id
  · rwa [hwent]
  · rw [hwent]
    exact h.returned hleased

end Balanced

/-! ## §3. Connections. -/

/-- The numbers of the connections that are open. -/
def numbers (p : Pool) : List Nat := (p.leased ++ p.idle).map (·.description.id)

/-- A pool in which every connection is where it should be: `live` are those that borrowers hold,
    and `failed` the numbers of those under which the network has ever failed. -/
structure InOrder (capacity : Nat) (live : List ConnectionDescription) (failed : List Nat)
    (p : Pool) : Prop extends p.Balanced capacity where
  lent : p.leased.map (·.description) = live
  broken : ∀ c ∈ p.leased, c.broken = true ↔ c.description.id ∈ failed
  whole : ∀ c ∈ p.idle, c.description.id ∉ failed
  known : ∀ n ∈ failed, n < p.nextId
  opened : ∀ n ∈ p.numbers, n < p.nextId
  distinct : p.numbers.Nodup

namespace InOrder

variable {capacity : Nat} {p : Pool} {live : List ConnectionDescription} {failed : List Nat}

theorem empty (a : Address) (capacity : Nat) : (empty a capacity).InOrder capacity [] [] where
  toBalanced := .empty a capacity
  lent := rfl
  broken := nofun
  whole := nofun
  known := nofun
  opened := nofun
  distinct := List.nodup_nil

theorem numbers_eq (h : p.InOrder capacity live failed) :
    p.numbers = live.map (·.id) ++ p.idle.map (·.description.id) := by
  rw [numbers, List.map_append, ← h.lent, List.map_map]
  rfl

theorem checkedOut_eq (h : p.InOrder capacity live failed) : p.checkedOut = live.length := by
  rw [h.counted, ← h.lent, List.length_map]

/-- Numbers that are told with 32 bits are distinct as long as no more than that were taken. -/
theorem distinct_uint32 (h : p.InOrder capacity live failed) (size : p.nextId ≤ UInt32.size) :
    (p.numbers.map UInt32.ofNat).Nodup := by
  refine h.distinct.map_on fun n hn n' hn' heq => ?_
  have hsmall := Nat.lt_of_lt_of_le (h.opened n hn) size
  have hsmall' := Nat.lt_of_lt_of_le (h.opened n' hn') size
  have hnat := congrArg UInt32.toNat heq
  rwa [UInt32.toNat_ofNat_of_lt' hsmall, UInt32.toNat_ofNat_of_lt' hsmall'] at hnat

/-- A check-out that fails costs a number at most. -/
theorem refused (h : p.InOrder capacity live failed) {establish : Establish} {e : Error}
    (hwent : (p.checkOut establish).result = .error e) :
    (p.checkOut establish).pool.InOrder capacity live failed ∧
      (p.checkOut establish).pool.status = p.status ∧
      (p.checkOut establish).pool.permits = p.permits ∧
      (p.checkOut establish).pool.idle = p.idle := by
  have hbalanced := h.toBalanced.checkOut establish
  obtain ⟨e, next, hle, heq⟩ | ⟨_, _, _, _, _, heq⟩ | ⟨_, _, _, _, _, heq⟩ :=
    p.checkOut_cases establish
  · rw [heq] at hbalanced ⊢
    have hlater : ∀ n, n < p.nextId → n < next := fun n hn => Nat.lt_of_lt_of_le hn hle
    exact ⟨⟨hbalanced, h.lent, h.broken, h.whole, fun n hn => hlater n (h.known n hn),
      fun n hn => hlater n (h.opened n hn), h.distinct⟩, rfl, rfl, rfl⟩
  · rw [heq] at hwent
    cases hwent
  · rw [heq] at hwent
    cases hwent

/-- What is lent has never failed, and no borrower holds it already. -/
theorem lends (h : p.InOrder capacity live failed) {establish : Establish}
    (honest : ∀ n c, establish n = .ok c → c.id = n) {c : ConnectionDescription}
    (hwent : (p.checkOut establish).result = .ok c) :
    (p.checkOut establish).pool.InOrder capacity (c :: live) failed ∧ c.id ∉ failed := by
  have hbalanced := h.toBalanced.checkOut establish
  obtain ⟨_, _, _, heq⟩ | ⟨rest, c', waiting, hpermit, hidle, heq⟩ |
    ⟨rest, c', hpermit, hidle, hopen, heq⟩ := p.checkOut_cases establish
  · rw [heq] at hwent
    cases hwent
  · rw [heq] at hwent hbalanced ⊢
    cases hwent
    have hwhole : c'.description.id ∉ failed := h.whole c' (hidle ▸ List.mem_cons_self)
    -- The connection goes to the other list, and no number is added.
    have hnumbers : p.numbers.Perm (c'.description.id :: (p.leased ++ waiting).map
        (·.description.id)) := by
      rw [numbers, hidle]
      exact List.perm_middle.map _
    refine ⟨⟨hbalanced, congrArg (c'.description :: ·) h.lent, ?_, ?_, h.known, ?_, ?_⟩, hwhole⟩
    · intro c hc
      obtain rfl | hc := List.mem_cons.mp hc
      · exact iff_of_false nofun hwhole
      · exact h.broken c hc
    · exact fun c hc => h.whole c (hidle ▸ List.mem_cons_of_mem c' hc)
    · exact fun n hn => h.opened n (hnumbers.mem_iff.mpr hn)
    · exact hnumbers.nodup_iff.mp h.distinct
  · rw [heq] at hwent hbalanced ⊢
    cases hwent
    have hid : c.id = p.nextId := honest _ _ hopen
    have hnew : c.id ∉ failed := by
      intro hfailed
      have hlt := h.known _ hfailed
      omega
    -- The number of the new connection is the next one, and no other connection has it.
    have hfresh : c.id ∉ p.numbers := by
      intro hopened
      have hlt := h.opened _ hopened
      omega
    have hlater : ∀ n, n < p.nextId → n < p.nextId + 1 := fun _ hn => Nat.lt_succ_of_lt hn
    refine ⟨⟨hbalanced, congrArg (c :: ·) h.lent, ?_, h.whole, fun n hn => hlater n (h.known n hn),
      ?_, List.nodup_cons.mpr ⟨hfresh, h.distinct⟩⟩, hnew⟩
    · intro c' hc'
      obtain rfl | hc' := List.mem_cons.mp hc'
      · exact iff_of_false nofun hnew
      · exact h.broken c' hc'
    · intro n hn
      obtain rfl | hn := List.mem_cons.mp hn
      · show c.id < p.nextId + 1
        omega
      · exact hlater n (h.opened n hn)

/-- The network fails under a connection that is held. -/
theorem fails (h : p.InOrder capacity live failed) {c : ConnectionDescription} (held : c ∈ live) :
    (p.markBroken c.id).InOrder capacity live (c.id :: failed) := by
  have hdescription : ∀ c' : Connection,
      (if c'.description.id = c.id then { c' with broken := true } else c').description =
        c'.description := by
    intro c'
    split <;> rfl
  have hlent : (p.markBroken c.id).leased.map (·.description) = p.leased.map (·.description) := by
    show (p.leased.map _).map _ = _
    rw [List.map_map]
    exact List.map_congr_left fun c' _ => hdescription c'
  have hnumbers : (p.markBroken c.id).numbers = p.numbers := by
    have hids := congrArg (List.map (·.id)) hlent
    rw [List.map_map, List.map_map] at hids
    unfold numbers
    rw [List.map_append, List.map_append]
    exact congrArg (· ++ p.idle.map (·.description.id)) hids
  have hc : c.id ∈ p.numbers := by
    rw [h.numbers_eq]
    exact List.mem_append_left _ (List.mem_map_of_mem held)
  refine ⟨h.toBalanced.markBroken c.id, hlent.trans h.lent, ?_, ?_, ?_, ?_, ?_⟩
  · intro c' hc'
    obtain ⟨c₀, hc₀, rfl⟩ := List.mem_map.mp hc'
    rw [hdescription, List.mem_cons]
    split
    case isTrue hid => exact iff_of_true rfl (.inl hid)
    case isFalse hid => rw [h.broken c₀ hc₀, or_iff_right hid]
  · -- What waits is not what is held.
    intro c' hc' hfailed
    obtain hid | hfailed := List.mem_cons.mp hfailed
    · have hdistinct := h.distinct
      rw [h.numbers_eq, List.nodup_append] at hdistinct
      exact hdistinct.2.2 c.id (List.mem_map_of_mem held) c'.description.id
        (List.mem_map_of_mem hc') hid.symm
    · exact h.whole c' hc' hfailed
  · intro n hn
    obtain rfl | hn := List.mem_cons.mp hn
    · exact h.opened _ hc
    · exact h.known n hn
  · rw [hnumbers]
    exact h.opened
  · rw [hnumbers]
    exact h.distinct

/-- A connection that comes back is found, and it is broken if the network has ever failed under
    it. -/
theorem checkIn_eq {before after : List ConnectionDescription} {c : ConnectionDescription}
    (h : p.InOrder capacity (before ++ c :: after) failed) :
    ∃ lent first rest, p.leased = first ++ lent :: rest ∧ first.map (·.description) = before ∧
      lent.description = c ∧ rest.map (·.description) = after ∧
      p.checkIn c.id = p.returned lent (first ++ rest) := by
  obtain ⟨first, others, hleased, hbefore, hothers⟩ := List.map_eq_append_iff.mp h.lent
  obtain ⟨lent, rest, rfl, rfl, hafter⟩ := List.map_eq_cons_iff.mp hothers
  refine ⟨lent, first, rest, hleased, hbefore, rfl, hafter, Pool.checkIn_eq hleased ?_⟩
  -- No other connection that is lent has its number.
  intro c' hc' hid
  have hdistinct := h.distinct
  rw [numbers, hleased, List.append_assoc, List.map_append, List.nodup_append] at hdistinct
  exact hdistinct.2.2 _ (List.mem_map_of_mem hc') _ List.mem_cons_self hid

/-- What comes back is closed if the network has ever failed under it, and waits otherwise. -/
theorem comesBack {before after : List ConnectionDescription} {c : ConnectionDescription}
    (h : p.InOrder capacity (before ++ c :: after) failed) :
    (p.checkIn c.id).InOrder capacity (before ++ after) failed ∧
      (c.id ∈ failed → (p.checkIn c.id).closed = p.closed + 1 ∧ (p.checkIn c.id).idle = p.idle) ∧
      (c.id ∉ failed → (p.checkIn c.id).closed = p.closed ∧
        (p.checkIn c.id).idle = p.idle ++ [⟨c, false⟩]) := by
  obtain ⟨lent, first, rest, hleased, rfl, rfl, rfl, heq⟩ := h.checkIn_eq
  have hbalanced := h.toBalanced.returned hleased
  have hbroken := h.broken lent (hleased ▸ List.mem_append_right _ List.mem_cons_self)
  have hlent : (first ++ rest).map (·.description) =
      first.map (·.description) ++ rest.map (·.description) := List.map_append
  have hstays : ∀ c ∈ first ++ rest, c.broken = true ↔ c.description.id ∈ failed := by
    intro c hc
    refine h.broken c ?_
    rw [hleased]
    exact ((List.sublist_cons_self lent rest).append_left first).subset hc
  have hnumbers : p.numbers.Perm (lent.description.id :: (first ++ rest ++ p.idle).map
      (·.description.id)) := by
    rw [numbers, hleased, List.append_assoc, List.append_assoc]
    exact List.perm_middle.map _
  have hopened := fun n hn => h.opened n (hnumbers.mem_iff.mpr hn)
  have hdistinct := hnumbers.nodup_iff.mp h.distinct
  rw [heq]
  unfold Pool.returned at hbalanced ⊢
  obtain ⟨c, flag⟩ := lent
  cases flag with
  | true =>
    -- It is closed, so its number is gone.
    have hfailed : c.id ∈ failed := hbroken.mp rfl
    refine ⟨⟨hbalanced, hlent, hstays, h.whole, h.known, ?_, ?_⟩, fun _ => ⟨rfl, rfl⟩,
      fun hnot => absurd hfailed hnot⟩
    · exact fun n hn => hopened n (List.mem_cons_of_mem _ hn)
    · exact (List.nodup_cons.mp hdistinct).2
  | false =>
    -- It waits behind the others.
    have hfailed : c.id ∉ failed := fun hmem => nomatch hbroken.mpr hmem
    have hback : ((Connection.mk c false :: (first ++ rest ++ p.idle)).map
        (·.description.id)).Perm
          ((first ++ rest ++ (p.idle ++ [Connection.mk c false])).map (·.description.id)) := by
      rw [← List.append_assoc]
      exact (List.perm_append_singleton _ _).symm.map _
    refine ⟨⟨hbalanced, hlent, hstays, ?_, h.known, ?_, ?_⟩,
      fun hmem => absurd hmem hfailed, fun _ => ⟨rfl, rfl⟩⟩
    · intro c' hc'
      obtain hc' | hc' := List.mem_append.mp hc'
      · exact h.whole c' hc'
      · rw [List.mem_singleton.mp hc']
        exact hfailed
    · exact fun n hn => hopened n (hback.mem_iff.mpr hn)
    · exact hback.nodup_iff.mp hdistinct

end InOrder

end Pool

end ClusterClient
