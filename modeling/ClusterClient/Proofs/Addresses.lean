/-
  ClusterClient.Proofs.Addresses — how addresses are read, written and told apart.

  An address is read from a host, or from a host, a colon and a port, and written with both.  The
  port is what stands behind the last colon, for digits are no colons, so that what is written says
  which server is meant, whatever the host is made of.  Equality, order, hash and display were each
  written by themselves, and each of them comes down to the host and the effective port.

  What is written of an address that was read is read as the same server again.  This rests on
  small letters being written as themselves, and on no letter being written as a colon.

  Main statements: `parse?_eq_some_iff`, `parse?_display`, `display_eq_iff`, the instances of
  `Std.TransCmp` and `Std.LawfulBEqCmp` for the order of addresses, and
  `Address.reads_and_prints`.
-/
import ClusterClient.Proofs.LowerCase
import ClusterClient.Proofs.Servers
import Mathlib.Data.List.Induction
import Mathlib.Data.List.TakeWhile
import Mathlib.Data.List.Nodup
import Mathlib.Data.Nat.Digits.Defs

namespace ClusterClient

/-! ## §1. Ports. -/

/-- The number that decimal digits stand for: the last one counts once, the one before it ten
    times, and so on. -/
def decimalValue (digits : List Char) : Nat :=
  Nat.ofDigits 10 (digits.reverse.map fun c => c.toNat - '0'.toNat)

/-- A text that is read as a number of 16 bits: decimal digits, after an optional plus sign. -/
def Reads16 (text : String) (n : Nat) : Prop :=
  ∃ digits : List Char, (text.toList = digits ∨ text.toList = '+' :: digits) ∧ digits ≠ [] ∧
    (∀ c ∈ digits, c.isDigit = true) ∧ n = decimalValue digits ∧ n < 2 ^ 16

theorem decimalValue_eq (cs : List Char) :
    decimalValue cs = cs.foldl (fun n c => 10 * n + (c.toNat - '0'.toNat)) 0 := by
  -- The fold meets the last digit last, so the induction is from the back.
  induction cs using List.reverseRecOn with
  | nil => rfl
  | append_singleton cs c ih =>
    rw [List.foldl_append, ← ih, decimalValue, List.reverse_append, List.map_append]
    show Nat.ofDigits 10 (_ :: List.map _ cs.reverse) = _
    rw [Nat.ofDigits_cons, Nat.add_comm]
    rfl

theorem decimalDigits?_eq_some_iff (cs : List Char) (n : Nat) :
    Text.decimalDigits? cs = some n ↔
      cs ≠ [] ∧ (∀ c ∈ cs, c.isDigit = true) ∧ n = decimalValue cs := by
  cases cs with
  | nil => simp [Text.decimalDigits?]
  | cons c rest =>
    rw [decimalValue_eq]
    show (if (c :: rest).all Char.isDigit = true then some _ else none) = some n ↔ _
    by_cases hall : (c :: rest).all Char.isDigit = true
    · rw [if_pos hall, Option.some.injEq]
      rw [List.all_eq_true] at hall
      exact ⟨fun h => ⟨List.cons_ne_nil c rest, hall, h.symm⟩, fun h => h.2.2.symm⟩
    · rw [if_neg hall]
      rw [List.all_eq_true] at hall
      exact ⟨nofun, fun h => absurd h.2.1 hall⟩

/-- Digits of a number stand for it. -/
theorem decimalValue_toDigits (n : Nat) : decimalValue (Nat.toDigits 10 n) = n := by
  rw [decimalValue_eq, ← Nat.ofDigitChars_eq_foldl]
  exact Nat.ofDigitChars_ten_toDigits

/-- A number of 16 bits is read from its digits. -/
theorem reads16_toString {n : Nat} (h : n < 2 ^ 16) : Reads16 (toString n) n := by
  refine ⟨Nat.toDigits 10 n, .inl ?_, Nat.toDigits_ne_nil, ?_, (decimalValue_toDigits n).symm, h⟩
  · rw [Nat.toString_eq_ofList_toDigits, String.toList_ofList]
  · intro c hc
    exact Nat.isDigit_of_mem_toDigits (by decide) (by decide) hc

theorem colon_notMem_toDigits (n : Nat) : ':' ∉ Nat.toDigits 10 n := by
  intro h
  have hdigit : ':'.isDigit = true := Nat.isDigit_of_mem_toDigits (by decide) (by decide) h
  exact absurd hdigit (by decide)

namespace Address

/-- The port that digits are read as: the number they stand for, if it is one. -/
theorem portOfDigits_eq_some_iff (digits : List Char) (p : UInt16) :
    (match Text.decimalDigits? digits with
      | some n => if 0 < n ∧ n < UInt16.size then some (UInt16.ofNat n) else none
      | none => none) = some p ↔
      (digits ≠ [] ∧ (∀ c ∈ digits, c.isDigit = true) ∧ p.toNat = decimalValue digits) ∧
        1 ≤ p.toNat := by
  rw [← decimalDigits?_eq_some_iff]
  cases Text.decimalDigits? digits with
  | none => simp
  | some n =>
    rw [Option.some.injEq]
    dsimp only
    constructor
    · intro h
      split at h
      · next hbounds =>
        have hnat : p.toNat = n := by
          rw [← Option.some.inj h]
          exact UInt16.toNat_ofNat_of_lt hbounds.2
        rw [hnat]
        exact ⟨rfl, hbounds.1⟩
      · cases h
    · rintro ⟨rfl, hpos⟩
      rw [if_pos ⟨hpos, p.toNat_lt⟩, UInt16.ofNat_toNat]

/-- A port is what is read as a number of 16 bits, zero excepted. -/
theorem readPort?_eq_some_iff (text : String) (p : UInt16) :
    readPort? text.toList = some p ↔ Reads16 text p.toNat ∧ 1 ≤ p.toNat := by
  have hlt : p.toNat < 2 ^ 16 := p.toNat_lt
  unfold readPort? Reads16
  refine (portOfDigits_eq_some_iff _ p).trans (and_congr_left fun _ => ?_)
  split
  · next rest heq =>
    rw [heq]
    constructor
    · rintro ⟨hne, hall, hvalue⟩
      exact ⟨rest, .inr rfl, hne, hall, hvalue, hlt⟩
    · rintro ⟨digits, hdigits | hdigits, hne, hall, hvalue, -⟩
      -- A plus sign is no digit.
      · subst hdigits
        exact absurd (hall '+' List.mem_cons_self) (by decide)
      · rw [← (List.cons.inj hdigits).2] at hne hall hvalue
        exact ⟨hne, hall, hvalue⟩
  · next hplain =>
    constructor
    · rintro ⟨hne, hall, hvalue⟩
      exact ⟨text.toList, .inl rfl, hne, hall, hvalue, hlt⟩
    · rintro ⟨digits, rfl | hdigits, hne, hall, hvalue, -⟩
      · exact ⟨hne, hall, hvalue⟩
      · exact absurd hdigits (hplain digits)

/-! ## §2. Reading. -/

theorem toList_colon (host port : String) :
    (host ++ ":" ++ port).toList = host.toList ++ ':' :: port.toList := by
  rw [String.toList_append, String.toList_append, List.append_assoc]
  rfl

/-- What stands before the first colon of a text, and what stands from there on. -/
theorem split_at_colon {host : List Char} (h : ':' ∉ host) (rest : List Char) :
    (host ++ ':' :: rest).takeWhile (· ≠ ':') = host ∧
      (host ++ ':' :: rest).dropWhile (· ≠ ':') = ':' :: rest := by
  have hall : ∀ c ∈ host, decide (c ≠ ':') = true := by
    intro c hc
    rw [decide_eq_true_eq]
    rintro rfl
    exact h hc
  constructor
  · rw [List.takeWhile_append_of_pos hall, List.takeWhile_cons_of_neg (by decide),
      List.append_nil]
  · rw [List.dropWhile_append_of_pos hall, List.dropWhile_cons_of_neg (by decide)]

/-- A text without a colon is its own first part. -/
theorem unsplit {host : List Char} (h : ':' ∉ host) :
    host.takeWhile (· ≠ ':') = host ∧ host.dropWhile (· ≠ ':') = [] := by
  have hall : ∀ c ∈ host, decide (c ≠ ':') = true := by
    intro c hc
    rw [decide_eq_true_eq]
    rintro rfl
    exact h hc
  exact ⟨List.takeWhile_eq_self_iff.mpr hall, List.dropWhile_eq_nil_iff.mpr hall⟩

/-- A host is read by itself, unless it is empty. -/
theorem parse?_host {host : String} (h : ':' ∉ host.toList) :
    parse? host = if host = "" then none else some ⟨Text.lowercase host, none⟩ := by
  obtain ⟨htake, hdrop⟩ := unsplit h
  unfold parse?
  dsimp only
  rw [htake, hdrop, String.ofList_toList]
  by_cases hempty : host = ""
  · rw [if_pos hempty, if_pos (String.toList_eq_nil_iff.mpr hempty)]
  · rw [if_neg hempty, if_neg fun hnil => hempty (String.toList_eq_nil_iff.mp hnil)]

/-- With a host go those texts behind the colon that are read as ports. -/
theorem parse?_host_port {host : String} (h : ':' ∉ host.toList) (port : String) :
    parse? (host ++ ":" ++ port) = if host = "" then none else
      (readPort? port.toList).map fun p => ⟨Text.lowercase host, some p⟩ := by
  obtain ⟨htake, hdrop⟩ := split_at_colon h port.toList
  unfold parse?
  dsimp only
  rw [toList_colon, htake, hdrop, String.ofList_toList]
  by_cases hempty : host = ""
  · rw [if_pos hempty, if_pos (String.toList_eq_nil_iff.mpr hempty)]
  · rw [if_neg hempty, if_neg fun hnil => hempty (String.toList_eq_nil_iff.mp hnil)]

/-- An address is read from a host without a colon, or from a host and a port with a colon between
    them, and from nothing else. -/
theorem parse?_eq_some_iff (text : String) (a : Address) :
    parse? text = some a ↔ ∃ host : String, host ≠ "" ∧ ':' ∉ host.toList ∧
      a.host = Text.lowercase host ∧
      (text = host ∧ a.port = none ∨
        ∃ (port : String) (p : UInt16), text = host ++ ":" ++ port ∧ Reads16 port p.toNat ∧
          1 ≤ p.toNat ∧ a.port = some p) := by
  constructor
  · intro h
    by_cases hcolon : ':' ∈ text.toList
    -- The host ends at the first colon.
    · obtain ⟨cs, rest, hsplit, hcs⟩ := List.eq_append_cons_of_mem hcolon
      have hhost : ':' ∉ (String.ofList cs).toList := by rwa [String.toList_ofList]
      have htext : text = String.ofList cs ++ ":" ++ String.ofList rest := by
        rw [← String.toList_inj, hsplit, toList_colon, String.toList_ofList,
          String.toList_ofList]
      rw [htext, parse?_host_port hhost] at h
      split at h
      · cases h
      · next hne =>
        obtain ⟨p, hp, ha⟩ := Option.map_eq_some_iff.mp h
        obtain ⟨hreads, hpos⟩ := (readPort?_eq_some_iff _ p).mp hp
        rw [← ha]
        exact ⟨_, hne, hhost, rfl, .inr ⟨_, p, htext, hreads, hpos, rfl⟩⟩
    · rw [parse?_host hcolon] at h
      split at h
      · cases h
      · next hne =>
        rw [← Option.some.inj h]
        exact ⟨text, hne, hcolon, rfl, .inl ⟨rfl, rfl⟩⟩
  · obtain ⟨written, port⟩ := a
    rintro ⟨host, hne, hcolon, rfl, ⟨rfl, rfl⟩ | ⟨digits, p, rfl, hreads, hpos, rfl⟩⟩
    · rw [parse?_host hcolon, if_neg hne]
    · rw [parse?_host_port hcolon, if_neg hne,
        (readPort?_eq_some_iff digits p).mpr ⟨hreads, hpos⟩]
      rfl

/-! ## §3. Writing. -/

theorem toList_display (a : Address) :
    a.display.toList = a.host.toList ++ ':' :: Nat.toDigits 10 a.effectivePort.toNat := by
  unfold display
  rw [toList_colon, Nat.toString_eq_ofList_toDigits, String.toList_ofList]

/-- Two texts that are the same before and behind their last colons are the same, and the other
    way round. -/
theorem last_colon {before before' after after' : List Char} (h : ':' ∉ after)
    (h' : ':' ∉ after') : before ++ ':' :: after = before' ++ ':' :: after' ↔
      before = before' ∧ after = after' := by
  constructor
  · intro heq
    rcases List.append_eq_append_iff.mp heq with
      ⟨middle, hbefore, hafter⟩ | ⟨middle, hbefore, hafter⟩
    -- A middle that is not empty would put a colon behind the last one.
    · cases middle with
      | nil =>
        rw [List.append_nil] at hbefore
        exact ⟨hbefore.symm, (List.cons.inj hafter).2⟩
      | cons c middle =>
        have hmem : ':' ∈ after := by
          rw [(List.cons.inj hafter).2]
          exact List.mem_append_right middle List.mem_cons_self
        exact absurd hmem h
    · cases middle with
      | nil =>
        rw [List.append_nil] at hbefore
        exact ⟨hbefore, (List.cons.inj hafter).2.symm⟩
      | cons c middle =>
        have hmem : ':' ∈ after' := by
          rw [(List.cons.inj hafter).2]
          exact List.mem_append_right middle List.mem_cons_self
        exact absurd hmem h'
  · rintro ⟨rfl, rfl⟩
    rfl

/-- Addresses are written alike exactly if they have the host and the effective port in common. -/
theorem display_eq_iff (a b : Address) : a.display = b.display ↔ a.key = b.key := by
  have hdigits : Nat.toDigits 10 a.effectivePort.toNat = Nat.toDigits 10 b.effectivePort.toNat ↔
      a.effectivePort = b.effectivePort := by
    constructor
    · intro h
      have hvalue := congrArg decimalValue h
      rw [decimalValue_toDigits, decimalValue_toDigits] at hvalue
      exact UInt16.toNat.inj hvalue
    · intro h
      rw [h]
  rw [← String.toList_inj, toList_display, toList_display,
    last_colon (colon_notMem_toDigits _) (colon_notMem_toDigits _), String.toList_inj, hdigits,
    key, key, Prod.mk.injEq]

/-- What is written of an address that was read is read as the same server. -/
theorem parse?_display {text : String} {a : Address} (h : parse? text = some a) :
    parse? a.display = some ⟨a.host, some a.effectivePort⟩ := by
  obtain ⟨host, hne, hcolon, hhost, hport⟩ := (parse?_eq_some_iff text a).mp h
  have hpos : 1 ≤ a.effectivePort.toNat := by
    unfold effectivePort
    rcases hport with ⟨-, hport⟩ | ⟨-, p, -, -, hp, hport⟩
    · rw [hport]
      decide
    · rw [hport]
      exact hp
  -- The host is in small letters already.
  have hagain : a.host = Text.lowercase a.host := by rw [hhost, Text.lowercase_lowercase]
  rw [parse?_eq_some_iff]
  refine ⟨a.host, ?_, ?_, hagain, .inr ⟨toString a.effectivePort.toNat, a.effectivePort, rfl,
    reads16_toString a.effectivePort.toNat_lt, hpos, rfl⟩⟩
  · rw [hhost]
    exact Text.lowercase_ne_empty hne
  · intro hmem
    rw [hhost] at hmem
    exact hcolon (Text.colon_mem_lowercase hmem)

/-! ## §4. Telling apart. -/

theorem beq_iff (a b : Address) : (a == b) = true ↔ a.key = b.key := same_iff a b

/-- A port is known by its two bytes. -/
theorem port_of_bytes {p q : UInt16} (hlow : p.toUInt8 = q.toUInt8)
    (hhigh : (p >>> 8).toUInt8 = (q >>> 8).toUInt8) : p = q := by
  have hmod := congrArg UInt8.toNat hlow
  have hdiv := congrArg UInt8.toNat hhigh
  simp only [UInt16.toNat_toUInt8, UInt16.toNat_shiftRight, Nat.shiftRight_eq_div_pow,
    UInt16.reduceToNat, Nat.reduceMod, Nat.reducePow] at hmod hdiv
  have hp := p.toNat_lt
  have hq := q.toNat_lt
  exact UInt16.toNat.inj (by omega)

/-- A host is known by its bytes. -/
theorem host_of_bytes {s t : String} (h : s.toUTF8.data.toList = t.toUTF8.data.toList) : s = t :=
  String.toByteArray_inj.mp (ByteArray.ext (Array.toList_inj.mp h))

/-- The hash is made of the same bytes exactly if host and effective port are the same. -/
theorem hashInput_eq_iff (a b : Address) : a.hashInput = b.hashInput ↔ a.key = b.key := by
  constructor
  · intro h
    -- The last three bytes are the one that no text has and the port.
    obtain ⟨hhost, hport⟩ := List.append_inj' h rfl
    obtain ⟨hlow, hhigh⟩ := List.cons.inj (List.cons.inj hport).2
    exact Prod.ext (host_of_bytes hhost) (port_of_bytes hlow (List.cons.inj hhigh).1)
  · intro h
    obtain ⟨hhost, hport⟩ := Prod.mk.inj h
    unfold hashInput
    rw [hhost, hport]

instance : Std.TransCmp Address.order :=
  inferInstanceAs (Std.TransCmp (compareLex (compareOn host) (compareOn effectivePort)))

/-- Neither address goes before the other exactly if they have host and effective port in
    common. -/
theorem order_eq_eq_iff (a b : Address) : a.order b = .eq ↔ a.key = b.key := by
  have hhost : compare a.host b.host = .eq ↔ a.host = b.host := Std.compare_eq_iff_eq
  have hport : compare a.effectivePort b.effectivePort = .eq ↔
      a.effectivePort = b.effectivePort := Std.compare_eq_iff_eq
  show (compare a.host b.host).then (compare a.effectivePort b.effectivePort) = .eq ↔ _
  rw [Ordering.then_eq_eq, hhost, hport, key, key, Prod.mk.injEq]

instance : Std.LawfulBEqCmp Address.order where
  compare_eq_iff_beq {a b} := (order_eq_eq_iff a b).trans (beq_iff a b).symm

end Address

/-! ## §5. Tables. -/

namespace AddressMap

variable {α : Type}

/-- A change of a table. -/
inductive Edit (α : Type) where
  | put (a : Address) (v : α)
  | drop (a : Address)

/-- The table after a change. -/
def edit (m : AddressMap α) : Edit α → AddressMap α
  | .put a v => m.put a v
  | .drop a => m.drop a

/-- The table that these changes make, one after the other. -/
def made (edits : List (Edit α)) : AddressMap α := edits.foldl edit []

/-- An entry that is put adds its key, unless the key is there. -/
theorem keys_put (m : AddressMap α) (a : Address) (v : α) :
    (m.put a v).map (·.1.key) =
      if a.key ∈ m.map (·.1.key) then m.map (·.1.key) else m.map (·.1.key) ++ [a.key] := by
  induction m with
  | nil => rfl
  | cons e rest ih =>
    by_cases h : e.1.same a = true
    · have hkey : e.1.key = a.key := (Address.same_iff _ _).mp h
      simp [put, h, hkey]
    · have hkey : a.key ≠ e.1.key := by
        intro hk
        exact h ((Address.same_iff _ _).mpr hk.symm)
      simp only [put, if_neg h, List.map_cons, ih, List.mem_cons, hkey, false_or]
      split <;> rfl

/-- A change keeps the keys distinct. -/
theorem nodup_edit {m : AddressMap α} (h : (m.map (·.1.key)).Nodup) (e : Edit α) :
    ((m.edit e).map (·.1.key)).Nodup := by
  cases e with
  | put a v =>
    show ((m.put a v).map (·.1.key)).Nodup
    rw [keys_put]
    exact nodup_added h a.key
  | drop a => exact h.sublist (List.filter_sublist.map _)

/-- Whatever was put and dropped, no key comes twice. -/
theorem nodup_made (edits : List (Edit α)) : ((made edits).map (·.1.key)).Nodup := by
  have hfold : ∀ (edits : List (Edit α)) (m : AddressMap α), (m.map (·.1.key)).Nodup →
      ((edits.foldl edit m).map (·.1.key)).Nodup := by
    intro edits
    induction edits with
    | nil => exact fun m hm => hm
    | cons e rest ih => exact fun m hm => ih _ (nodup_edit hm e)
  exact hfold edits [] List.nodup_nil

end AddressMap

/-- What has different keys is written differently. -/
theorem nodup_display {β : Type} {entries : List β} {address : β → Address}
    (h : (entries.map fun e => (address e).key).Nodup) :
    (entries.map fun e => (address e).display).Nodup := by
  rw [List.nodup_map_iff_inj_on (.of_map _ h)]
  intro e he f hf heq
  exact List.inj_on_of_nodup_map h he hf (((address e).display_eq_iff _).mp heq)

/-! ## §6. The tables of a client. -/

namespace Client

theorem nodup_ensureMember {c : Client} (h : (c.known.map (·.1.key)).Nodup) (a : Address) :
    ((c.ensureMember a).known.map (·.1.key)).Nodup := by
  unfold ensureMember
  split
  · exact h
  · exact AddressMap.nodup_edit h (.put a c.members.length)

/-- Every change keeps the keys of the members distinct. -/
theorem Change.nodup {may : SessionId → Prop} {c c' : Client} (h : Client.Change may c c')
    (hc : (c.known.map (·.1.key)).Nodup) : (c'.known.map (·.1.key)).Nodup := by
  cases h with
  | described s =>
    have hpublished : (({ c with cluster := c.cluster.update s, version := c.version + 1 } :
        Client).known.map (·.1.key)).Nodup := hc
    exact nodup_ensureMember hpublished s.address
  | withdrawn a => exact AddressMap.nodup_edit hc (.drop a)
  | elapsed | member _ | session _ | opened => exact hc
  | ended id =>
    rw [(c.sameServers_endSession id).known]
    exact hc
  | dropped id =>
    rw [(c.sameServers_dropSession id).known]
    exact hc

/-- A client is started with one member for each key. -/
theorem nodup_start {o : Options} {c : Client} (h : start o = .ok c) :
    (c.known.map (·.1.key)).Nodup := by
  have hfold : ∀ (hosts : List Address) (c : Client), (c.known.map (·.1.key)).Nodup →
      ((hosts.foldl ensureMember c).known.map (·.1.key)).Nodup := by
    intro hosts
    induction hosts with
    | nil => exact fun c hc => hc
    | cons a rest ih => exact fun c hc => ih _ (nodup_ensureMember hc a)
  unfold start at h
  cases hr : o.refusal? with
  | some reason =>
    rw [hr] at h
    cases h
  | none =>
    rw [hr] at h
    cases h
    exact hfold o.hosts _ List.nodup_nil

end Client

/-- In all that can come about, no two servers that are described are written alike, and no two
    entries of the table of members. -/
theorem Scenario.Reachable.written_apart {s : Scenario} (h : s.Reachable) :
    (s.run.client.cluster.servers.map (·.address.display)).Nodup ∧
      (s.run.client.known.map (·.1.display)).Nodup := by
  have hknown := h.invariant (P := fun c => (c.known.map (·.1.key)).Nodup) Client.nodup_start
    Client.Change.nodup
  exact ⟨nodup_display h.sound.distinct, nodup_display hknown⟩

/-! ## §7. Addresses are consistent. -/

namespace Address

/-- Addresses are read, written and told apart consistently.  They are read from a host without a
    colon, or from a host and a port; what is written of an address that was read is read as the
    same server.  Two addresses, wherever they come from, are equal exactly if neither goes before
    the other, exactly if they have the same hash, and exactly if they are written alike; their
    order is a total one.  So in a table by addresses no two entries are written alike. -/
theorem reads_and_prints :
    (∀ (text : String) (a : Address), parse? text = some a ↔
      ∃ host : String, host ≠ "" ∧ ':' ∉ host.toList ∧ a.host = Text.lowercase host ∧
        (text = host ∧ a.port = none ∨
          ∃ (port : String) (p : UInt16), text = host ++ ":" ++ port ∧ Reads16 port p.toNat ∧
            1 ≤ p.toNat ∧ a.port = some p)) ∧
    (∀ (text : String) (a : Address), parse? text = some a →
      ∃ b, parse? a.display = some b ∧ (b == a) = true) ∧
    (∀ a b : Address, ((a == b) = true ↔ a.order b = .eq) ∧
      ((a == b) = true ↔ a.hashInput = b.hashInput) ∧ ((a == b) = true ↔ a.display = b.display)) ∧
    (∀ a b : Address, a.order b = (b.order a).swap) ∧
    (∀ a b c : Address, (a.order b).isLE = true → (b.order c).isLE = true →
      (a.order c).isLE = true) ∧
    ∀ (α : Type) (edits : List (AddressMap.Edit α)),
      ((AddressMap.made edits).map (·.1.display)).Nodup := by
  refine ⟨parse?_eq_some_iff, ?_, ?_, ?_, ?_, ?_⟩
  · intro text a h
    exact ⟨_, parse?_display h, (beq_iff _ a).mpr rfl⟩
  · intro a b
    rw [beq_iff, order_eq_eq_iff, hashInput_eq_iff, display_eq_iff]
    exact ⟨Iff.rfl, Iff.rfl, Iff.rfl⟩
  · intro a b
    exact Std.OrientedCmp.eq_swap
  · intro a b c hab hbc
    exact Std.TransCmp.isLE_trans hab hbc
  · intro α edits
    exact nodup_display (AddressMap.nodup_made edits)

/-- An address that was read in capital letters and with an unusual port is read as itself from
    what is written of it. -/
theorem reads_and_prints_mixed :
    parse? "Example.com:+027018" = some ⟨"example.com", some 27018⟩ ∧
      ∃ b, parse? (display ⟨"example.com", some 27018⟩) = some b ∧
        (b == (⟨"example.com", some 27018⟩ : Address)) = true := by
  have hport : Reads16 "+027018" 27018 :=
    ⟨['0', '2', '7', '0', '1', '8'], .inr (by decide), by decide, by simp, by decide +kernel,
      by decide⟩
  have hread : parse? "Example.com:+027018" = some ⟨"example.com", some 27018⟩ :=
    (parse?_eq_some_iff _ _).mpr ⟨"Example.com", by decide, by decide,
      by decide +kernel, .inr ⟨"+027018", 27018, by decide, hport, by decide, rfl⟩⟩
  exact ⟨hread, reads_and_prints.2.1 "Example.com:+027018" _ hread⟩

end Address

end ClusterClient
