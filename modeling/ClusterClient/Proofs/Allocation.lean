/-
  ClusterClient.Proofs.Allocation — who took which number.

  Beside a client goes a log.  It has an entry for each number that was taken by starting a
  transaction or by hand, and one for each insert that was executed, with all that it sent.
  `Keyed` says how the log and the client belong together: the numbers of one server session are
  in the log in increasing order, the counter of the server session is the last of them, whoever
  has the server session, and a transaction that is active has the number that was taken for it.

  What takes no numbers keeps this, whatever else it does.  A number that is taken is the next one
  of a server session that nobody else has, so the log may be extended with it.

  Main statements: `Keyed.extend` (the one argument about numbers), `Keyed.evolves`, `Keyed.took`,
  `Keyed.executed` and `Keyed.performed` (an insert on a binding, and through the executor).
-/
import ClusterClient.Proofs.Keys
import ClusterClient.Proofs.Numbers

namespace ClusterClient

open Run

/-! ## §1. The log. -/

/-- The command was made in a transaction: it says that it is not to be committed at once. -/
def Transmission.inside (t : Transmission) : Bool := Document.has t.command.body "autocommit"

/-- Where the session of a command with a number stood when it was sent. -/
def Transmission.key? (t : Transmission) : Option Key :=
  if t.command.hasTxnNumber then t.session.bind Session.key? else none

/-- What may take a number. -/
inductive Entry where
  /-- A number was taken, by starting a transaction or by hand. -/
  | took (key : Key)
  /-- An insert was executed and sent this, in order. -/
  | inserted (sent : List Transmission)

/-- The number that was taken.  An insert takes one outside of transactions only, and one for all
    of its attempts. -/
def Entry.allocated : Entry → List Key
  | .took key => [key]
  | .inserted [] => []
  | .inserted (t :: _) => if t.inside then [] else t.key?.toList

/-- All numbers that were taken, in order. -/
abbrev allocated (log : List Entry) : List Key := log.flatMap Entry.allocated

/-- If the keys are of the same server session, the first one is the smaller one. -/
def Key.Precedes (k k' : Key) : Prop := k.session = k'.session → k.number < k'.number

/-- What one insert sent: at most twice the same command, with a number of the session it was sent
    in.  In a transaction it is the number that was taken for that. -/
structure Attempts (log : List Entry) (sent : List Transmission) : Prop where
  le_two : sent.length ≤ 2
  command : ∀ t ∈ sent, ∀ t' ∈ sent, t.command = t'.command
  inside : ∀ t ∈ sent, ∀ t' ∈ sent, t.inside = t'.inside
  key : ∀ t ∈ sent, ∀ t' ∈ sent, t.key? = t'.key?
  numbered : ∀ t ∈ sent, t.command.hasTxnNumber = true → ∃ s, t.Numbered s
  outside : ∀ t ∈ sent, t.inside = false → t.command.hasTxnNumber = true → ∃ k, t.key? = some k
  joined : ∀ t ∈ sent, t.inside = true → ∀ k, t.key? = some k → Entry.took k ∈ log

namespace Attempts

variable {log log' : List Entry} {sent : List Transmission}

theorem nil (log : List Entry) : Attempts log [] where
  le_two := Nat.zero_le 2
  command := by simp
  inside := by simp
  key := by simp
  numbered := by simp
  outside := by simp
  joined := by simp

theorem mono (h : Attempts log sent) (hlog : log ⊆ log') : Attempts log' sent :=
  { h with joined := fun t ht hin k hk => hlog (h.joined t ht hin k hk) }

/-- Outside of a transaction all attempts carry the number that the insert took. -/
theorem allocated_eq (h : Attempts log sent) {t : Transmission} (ht : t ∈ sent)
    (outside : t.inside = false) : (Entry.inserted sent).allocated = t.key?.toList := by
  cases sent with
  | nil => cases ht
  | cons first rest =>
    have hfirst : first.inside = false := (h.inside _ List.mem_cons_self t ht).trans outside
    show (if first.inside then [] else first.key?.toList) = _
    rw [hfirst, h.key first List.mem_cons_self t ht]
    rfl

end Attempts

/-! ## §2. The invariant. -/

/-- How the log and the client belong together. -/
structure Keyed (log : List Entry) (c : Client) : Prop where
  /-- No server session is there twice. -/
  distinct : c.ids.Nodup
  fresh : ∀ id ∈ c.ids, id < c.nextIdentifier
  known : ∀ k ∈ allocated log, k.session < c.nextIdentifier
  increasing : (allocated log).Pairwise Key.Precedes
  /-- A counter is nowhere behind the numbers that were taken. -/
  bounded : ∀ k ∈ allocated log, ∀ k' ∈ c.keys, k'.session = k.session → k.number ≤ k'.number
  /-- Nor is it ahead of them. -/
  counted : ∀ k ∈ c.keys, k.number = 0 ∨ k ∈ allocated log
  active : ∀ s ∈ c.sessions, s.inTransaction = true → ∀ k, s.key? = some k → Entry.took k ∈ log
  attempts : ∀ sent, Entry.inserted sent ∈ log → Attempts log sent

/-- How a session may stand before and after these numbers were taken from it. -/
inductive Key.Moves : Option Key → Option Key → List Key → Prop where
  | stays (o : Option Key) : Moves o o []
  | takes (id n : Nat) : Moves (some ⟨id, n⟩) (some ⟨id, n + 1⟩) [⟨id, n + 1⟩]

namespace Key.Moves

variable {o o' : Option Key} {k k' : Key} {taken : List Key}

theorem exists_of_some (h : Moves (some k) o' taken) :
    ∃ k', o' = some k' ∧ k'.session = k.session ∧ k.number ≤ k'.number := by
  cases h with
  | stays => exact ⟨k, rfl, rfl, Nat.le_refl _⟩
  | takes id n => exact ⟨_, rfl, rfl, Nat.le_succ n⟩

/-- What is taken is the next number. -/
theorem of_mem (h : Moves o o' taken) (hk : k ∈ taken) :
    o' = some k ∧ ∃ k₀, o = some k₀ ∧ k₀.session = k.session ∧ k₀.number < k.number := by
  cases h with
  | stays => cases hk
  | takes id n =>
    rw [List.mem_singleton.mp hk]
    exact ⟨rfl, _, rfl, rfl, Nat.lt_succ_self n⟩

theorem mem_or_eq (h : Moves o (some k) taken) : k ∈ taken ∨ o = some k := by
  cases h with
  | stays => exact .inr rfl
  | takes id n => exact .inl List.mem_cons_self

theorem pairwise (h : Moves o o' taken) : taken.Pairwise Key.Precedes := by
  cases h with
  | stays => exact .nil
  | takes id n => exact List.pairwise_singleton _ _

end Key.Moves

/-! ## §3. What keeps it. -/

namespace Keyed

variable {log new : List Entry} {c c' : Client} {x : SessionContext}

/-- The session of the context may take the next number if it is recorded, and a transaction of it
    may be active if its number was recorded. -/
theorem extend (h : Keyed log c) (hsame : c.SameKeys x c')
    (hmoves : Key.Moves (x.key? c) (x.key? c') (allocated new))
    (hactive : ∀ s, x.session? c' = some s → s.inTransaction = true → ∀ k, s.key? = some k →
      Entry.took k ∈ log ++ new)
    (hattempts : ∀ sent, Entry.inserted sent ∈ new → Attempts (log ++ new) sent) :
    Keyed (log ++ new) c' := by
  have hallocated : allocated (log ++ new) = allocated log ++ allocated new := List.flatMap_append
  have hdistinct : c'.ids.Nodup := by
    obtain ⟨ids, hperm, hsub⟩ := hsame.ids
    exact hperm.nodup_iff.mp (h.distinct.sublist hsub)
  -- The identifier of the session of the context is that of one server session before and after.
  have hown : ∀ k' ∈ c'.keys, x.id? c = some k'.session →
      x.key? c' = some k' ∧ ∃ k, x.key? c = some k ∧ k.session = k'.session ∧
        k.number ≤ k'.number := by
    intro k' hk' hid
    rw [← x.map_key?] at hid
    obtain ⟨k, hk, hsession⟩ := Option.map_eq_some_iff.mp hid
    rw [hk] at hmoves
    obtain ⟨k'', hk'', hsession'', hle⟩ := hmoves.exists_of_some
    have heq : k' = k'' := Client.eq_of_mem_keys hdistinct (x.mem_keys hk'') hk'
      (hsession.symm.trans hsession''.symm)
    subst heq
    exact ⟨hk'', k, hk, hsession, hle⟩
  refine ⟨hdistinct, ?_, ?_, ?_, ?_, ?_, ?_, ?_⟩
  · intro id hid
    rw [hsame.nextIdentifier]
    exact h.fresh id (hsame.ids.subset hid)
  · intro k hk
    rw [hsame.nextIdentifier]
    rw [hallocated] at hk
    rcases List.mem_append.mp hk with hk | hk
    · exact h.known k hk
    · obtain ⟨-, k₀, hk₀, hsession, -⟩ := hmoves.of_mem hk
      rw [← hsession]
      exact h.fresh _ (Client.mem_ids_of_mem_keys (x.mem_keys hk₀))
  · rw [hallocated]
    refine List.pairwise_append.mpr ⟨h.increasing, hmoves.pairwise, ?_⟩
    -- The counter has been at all numbers that were taken before.
    intro k hk k' hk' hsession
    obtain ⟨-, k₀, hk₀, hsession₀, hlt⟩ := hmoves.of_mem hk'
    have hle := h.bounded k hk k₀ (x.mem_keys hk₀) (hsession₀.trans hsession.symm)
    exact Nat.lt_of_le_of_lt hle hlt
  · intro k hk k' hk' hsession
    rw [hallocated] at hk
    by_cases hid : x.id? c = some k'.session
    · obtain ⟨hk'', k₀, hk₀, hsession₀, hle⟩ := hown k' hk' hid
      rcases List.mem_append.mp hk with hk | hk
      · exact Nat.le_trans (h.bounded k hk k₀ (x.mem_keys hk₀) (hsession₀.trans hsession)) hle
      · obtain ⟨hnow, -⟩ := hmoves.of_mem hk
        rw [hk''] at hnow
        cases hnow
        exact Nat.le_refl _
    · rcases List.mem_append.mp hk with hk | hk
      · exact h.bounded k hk k' (hsame.keys k' hk' hid) hsession
      · -- Numbers are taken from the session of the context only.
        obtain ⟨-, k₀, hk₀, hsession₀, -⟩ := hmoves.of_mem hk
        refine absurd ?_ hid
        rw [SessionContext.id?_of_key? hk₀, hsession₀, hsession]
  · intro k' hk'
    rw [hallocated]
    by_cases hid : x.id? c = some k'.session
    · obtain ⟨hnow, -⟩ := hown k' hk' hid
      rw [hnow] at hmoves
      rcases hmoves.mem_or_eq with hmem | hbefore
      · exact .inr (List.mem_append_right _ hmem)
      · exact (h.counted k' (x.mem_keys hbefore)).imp_right (List.mem_append_left _)
    · exact (h.counted k' (hsame.keys k' hk' hid)).imp_right (List.mem_append_left _)
  · intro s' hs' ha k hk
    obtain ⟨i, hi⟩ := List.mem_iff_getElem?.mp hs'
    by_cases hx : x.session = some i
    · refine hactive s' ?_ ha k hk
      unfold SessionContext.session?
      rw [hx, Option.bind_some, hi]
    · obtain ⟨s, hs, ha', hkey⟩ := hsame.active i s' hx hi ha
      exact List.mem_append_left _ (h.active s (List.mem_of_getElem? hs) ha' k (hkey k hk))
  · intro sent hsent
    rcases List.mem_append.mp hsent with hsent | hsent
    · exact (h.attempts sent hsent).mono (List.subset_append_left _ _)
    · exact hattempts sent hsent

/-- An insert that sends nothing takes no number. -/
theorem unsent (h : Keyed log c) : Keyed (log ++ [.inserted []]) c := by
  refine h.extend (.refl .none c) (.stays none) nofun ?_
  intro sent hsent
  cases List.mem_singleton.mp hsent
  exact .nil _

/-- A session that is opened goes on from where its server session stands. -/
theorem opened (h : Keyed log c) (timeout : Nat) (implicit : Bool) :
    Keyed log (c.openSession timeout implicit).2 := by
  obtain ⟨v, waiting, hsessions, hwaiting, hcases⟩ := c.openSession_cases timeout implicit
  generalize (c.openSession timeout implicit).2 = c' at hsessions hwaiting hcases ⊢
  have hids : c'.ids =
      c.sessions.filterMap Session.id? ++ v.id :: waiting.map ServerSession.id := by
    unfold Client.ids
    rw [hsessions, hwaiting, List.filterMap_append, List.append_assoc]
    rfl
  have hkeys : c'.keys =
      c.sessions.filterMap Session.key? ++ v.key :: waiting.map ServerSession.key := by
    unfold Client.keys
    rw [hsessions, hwaiting, List.filterMap_append, List.append_assoc]
    rfl
  have hactive : ∀ s ∈ c'.sessions, s.inTransaction = true → ∀ k, s.key? = some k →
      Entry.took k ∈ log := by
    intro s hs ha
    rw [hsessions] at hs
    rcases List.mem_append.mp hs with hs | hs
    · exact h.active s hs ha
    · rw [List.mem_singleton.mp hs] at ha
      cases ha
  obtain ⟨hnext, hsub⟩ | ⟨hnext, rfl, hsub⟩ := hcases
  · -- A server session that waited goes to the new session, and no other one comes up.
    have hsubids : c'.ids.Sublist c.ids := by
      rw [hids]
      exact (hsub.map ServerSession.id).append_left _
    have hsubkeys : c'.keys.Sublist c.keys := by
      rw [hkeys]
      exact (hsub.map ServerSession.key).append_left _
    refine ⟨h.distinct.sublist hsubids, ?_, ?_, h.increasing, ?_, ?_, hactive, h.attempts⟩
    · rw [hnext]
      exact fun id hid => h.fresh id (hsubids.subset hid)
    · rw [hnext]
      exact h.known
    · exact fun k hk k' hk' => h.bounded k hk k' (hsubkeys.subset hk')
    · exact fun k hk => h.counted k (hsubkeys.subset hk)
  · -- A new server session has an identifier that nobody has had, and has taken no number.
    have hsubids := (hsub.map ServerSession.id).append_left (c.sessions.filterMap Session.id?)
    have hmem : ∀ k ∈ c'.keys, k ∈ c.keys ∨ k = ⟨c.nextIdentifier, 0⟩ := by
      intro k hk
      rw [hkeys] at hk
      rcases List.mem_append.mp hk with hk | hk
      · exact .inl (List.mem_append_left _ hk)
      · rcases List.mem_cons.mp hk with rfl | hk
        · exact .inr rfl
        · exact .inl (List.mem_append_right _ ((hsub.map ServerSession.key).subset hk))
    refine ⟨?_, ?_, ?_, h.increasing, ?_, ?_, hactive, h.attempts⟩
    · rw [hids]
      refine List.nodup_middle.mpr (List.nodup_cons.mpr ⟨?_, h.distinct.sublist hsubids⟩)
      exact fun hid => Nat.lt_irrefl _ (h.fresh _ (hsubids.subset hid))
    · intro id hid
      rw [hnext]
      rw [← c'.map_keys] at hid
      obtain ⟨k, hk, rfl⟩ := List.mem_map.mp hid
      obtain hold | rfl := hmem k hk
      · exact Nat.lt_succ_of_lt (h.fresh _ (Client.mem_ids_of_mem_keys hold))
      · exact Nat.lt_succ_self _
    · intro k hk
      rw [hnext]
      exact Nat.lt_succ_of_lt (h.known k hk)
    · intro k hk k' hk' hsession
      obtain hold | rfl := hmem k' hk'
      · exact h.bounded k hk k' hold hsession
      · have hlt := h.known k hk
        rw [← hsession] at hlt
        exact absurd hlt (Nat.lt_irrefl _)
    · intro k hk
      obtain hold | rfl := hmem k hk
      · exact h.counted k hold
      · exact .inl rfl

/-- What takes no number. -/
theorem change (hc : Client.Change nowhere c c') (h : Keyed log c) : Keyed log c' := by
  obtain ⟨timeout, implicit, rfl⟩ | length := hc.opened_or_stays
  · exact h.opened timeout implicit
  · have hsame : c.SameKeys .none c' := (hc.mono fun _ => False.elim).sameKeys length
    have hextend : Keyed (log ++ []) c' := h.extend hsame (.stays none) nofun nofun
    rwa [List.append_nil] at hextend

theorem evolves {r r' : Run} (h : Keyed log r.client) (hr : Evolves nowhere r r') :
    Keyed log r'.client :=
  hr.invariant (P := Keyed log) change h

/-- A number that is taken from a session by itself. -/
theorem took (h : Keyed log c) {id : SessionId} {s s' : Session} {k : Key}
    (found : c.sessions[id]? = some s) (hc : Session.Change c.now True s s')
    (hk : s.key? = some k) (hk' : s'.key? = some ⟨k.session, k.number + 1⟩) :
    Keyed (log ++ [.took ⟨k.session, k.number + 1⟩]) (c.modifySession id fun _ => s') := by
  have hafter : (c.modifySession id fun _ => s').sessions[id]? = some s' :=
    Client.sessions_modifySession found _
  have hsame : c.SameKeys ⟨some id, false⟩ (c.modifySession id fun _ => s') := by
    refine Client.sameKeys_modifySession fun s₀ hs₀ => ?_
    rw [found] at hs₀
    cases hs₀
    exact (hc.mono fun _ => rfl).sameKey
  refine h.extend hsame ?_ ?_ ?_
  · have hbefore : SessionContext.key? ⟨some id, false⟩ c = some k := by
      show c.sessions[id]?.bind Session.key? = some k
      rw [found, Option.bind_some, hk]
    have hnow : SessionContext.key? ⟨some id, false⟩ (c.modifySession id fun _ => s') =
        some ⟨k.session, k.number + 1⟩ := by
      show (c.modifySession id fun _ => s').sessions[id]?.bind Session.key? = _
      rw [hafter, Option.bind_some, hk']
    rw [hbefore, hnow]
    exact .takes k.session k.number
  · intro s₁ hs₁ _ k₁ hk₁
    have heq : s₁ = s' := Option.some.inj (hs₁.symm.trans hafter)
    subst heq
    rw [hk'] at hk₁
    cases hk₁
    exact List.mem_append_right _ List.mem_cons_self
  · intro sent hsent
    cases List.mem_singleton.mp hsent

end Keyed

/-! ## §4. What inserts send. -/

@[simp] theorem Session.key?_still (s : Session) : s.still.key? = s.key? := by
  obtain ⟨server, _⟩ := s
  cases server <;> rfl

theorem Session.Like.key? {s₀ s : Session} {k : Nat} (h : s₀.Like k s) : s₀.key? = s.key? := by
  rw [← key?_still, h]
  rfl

theorem Shows.key? {x : SessionContext} {c : Client} {k : Nat} {o : Option Session}
    (h : Shows x c k o) : x.key? c = o.bind Session.key? := by
  unfold SessionContext.key?
  obtain ⟨hs, rfl⟩ | ⟨s₀, s, hs, rfl, hlike⟩ := h.cases
  · rw [hs]
  · rw [hs]
    exact hlike.key?

/-- A session in a transaction looks like one that is, and stands where that stands. -/
theorem Shows.active {x : SessionContext} {c : Client} {k : Nat} {o : Option Session}
    (h : Shows x c k o) {s : Session} (hs : x.session? c = some s) (ha : s.inTransaction = true) :
    ∃ s', o = some s' ∧ s'.inTransaction = true ∧ s'.key? = s.key? := by
  obtain ⟨hnone, -⟩ | ⟨s₀, s', hs₀, ho, hlike⟩ := h.cases
  · rw [hnone] at hs
    cases hs
  · rw [hs] at hs₀
    cases hs₀
    exact ⟨s', ho, hlike.inTransaction.symm.trans ha, hlike.key?.symm⟩

namespace Transmission.Of

variable {t : Transmission} {command : Command} {o : Option Session}

/-- The session of the transmission, and the one that it looks like. -/
theorem session_cases (h : t.Of command o) :
    (t.session = none ∧ o = none) ∨
      ∃ s₀ s k, t.session = some s₀ ∧ o = some s ∧ s₀.Like k s := by
  obtain ⟨k, hsession⟩ := h.session
  cases hs : t.session with
  | none =>
    rw [hs] at hsession
    exact .inl ⟨rfl, Option.map_eq_none_iff.mp hsession.symm⟩
  | some s₀ =>
    rw [hs] at hsession
    obtain ⟨s, ho, hlike⟩ := Option.map_eq_some_iff.mp hsession.symm
    exact .inr ⟨s₀, s, k, rfl, ho, hlike.symm⟩

theorem inside_eq (h : t.Of command o) : t.inside = Document.has command.body "autocommit" := by
  unfold Transmission.inside
  rw [Document.has_eq_isSome, Document.has_eq_isSome, h.value?_eq (by decide) (by decide)]

theorem key?_eq (h : t.Of command o) :
    t.key? = if command.hasTxnNumber then o.bind Session.key? else none := by
  have hnumber : t.command.hasTxnNumber = command.hasTxnNumber := by
    rw [Command.hasTxnNumber_eq, h.txnNumber?_eq, ← Command.hasTxnNumber_eq]
  unfold Transmission.key?
  rw [hnumber]
  obtain ⟨hs, rfl⟩ | ⟨s₀, s, k, hs, rfl, hlike⟩ := h.session_cases
  · rw [hs]
  · rw [hs, Option.bind_some, hlike.key?, Option.bind_some]

end Transmission.Of

/-- What joins a transaction is not committed at once. -/
theorem Session.has_autocommit_join (s : Session) (database : String) (body : Document) :
    Document.has (Command.of database (s.join body)).body "autocommit" = true := by
  show Document.has (s.join body) "autocommit" = true
  have hvalue : (s.join body).value? "autocommit" = some (.boolean false) :=
    Document.value?_put _ _ _
  rw [Document.has_eq_isSome, hvalue]
  rfl

namespace Insert.Makes

variable {i : Insert} {o o' : Option Session} {command : Command} {log : List Entry}
variable {sent : List Transmission}

/-- To a command that does not read, the kind of the server makes no difference. -/
theorem prepare_eq (made : i.Makes o command o') (id : Option Nat) (kind : ServerKind) :
    command.prepare id kind = command.within id := by
  have hof : ∀ body, (Command.of i.database body).prepare id kind =
      (Command.of i.database body).within id := by
    intro body
    rw [Command.prepare_eq]
    split
    · cases id <;> rfl
    · rfl
  cases made <;> exact hof _

/-- Only in a transaction the session is in one afterwards, and stands where it stood. -/
theorem of_active (made : i.Makes o command o') {s' : Session} (ho' : o' = some s')
    (ha : s'.inTransaction = true) :
    ∃ s, o = some s ∧ s.inTransaction = true ∧ s.key? = s'.key? := by
  cases made with
  | @joined s active =>
    cases ho'
    exact ⟨s, rfl, active, rfl⟩
  | @numbered s idle =>
    cases ho'
    rw [show s.advanced.inTransaction = false from idle] at ha
    cases ha
  | plain idle =>
    rw [idle s' ho'] at ha
    cases ha

/-- Outside of a transaction an insert with a number has taken the next one. -/
theorem moves (made : i.Makes o command o') (ne_nil : sent ≠ [])
    (each : ∀ t ∈ sent, t.Of command o') :
    Key.Moves (o.bind Session.key?) (o'.bind Session.key?) (Entry.inserted sent).allocated := by
  obtain ⟨t, rest, rfl⟩ := List.exists_cons_of_ne_nil ne_nil
  have hof := each t List.mem_cons_self
  show Key.Moves _ _ (if t.inside then [] else t.key?.toList)
  rw [hof.inside_eq, hof.key?_eq]
  cases made with
  | @joined s active =>
    rw [s.has_autocommit_join]
    exact .stays _
  | numbered idle open_ =>
    obtain ⟨k, hk, hk'⟩ := Session.exists_key? open_
    rw [Option.bind_some, Option.bind_some, hk, hk']
    exact .takes k.session k.number
  | plain idle => exact .stays _

theorem attempts (made : i.Makes o command o') (each : ∀ t ∈ sent, t.Of command o')
    (le_two : sent.length ≤ 2)
    (numbered : ∀ t ∈ sent, t.command.hasTxnNumber = true → ∃ s, t.Numbered s)
    (hjoined : ∀ s, o = some s → s.inTransaction = true → ∀ k, s.key? = some k →
      Entry.took k ∈ log) : Attempts log sent where
  le_two := le_two
  command t ht t' ht' := by
    obtain ⟨kind, hc⟩ := (each t ht).command
    obtain ⟨kind', hc'⟩ := (each t' ht').command
    rw [hc, hc', made.prepare_eq, made.prepare_eq]
  inside t ht t' ht' := by rw [(each t ht).inside_eq, (each t' ht').inside_eq]
  key t ht t' ht' := by rw [(each t ht).key?_eq, (each t' ht').key?_eq]
  numbered := numbered
  outside t ht hout hnumber := by
    rw [(each t ht).inside_eq] at hout
    rw [Command.hasTxnNumber_eq, (each t ht).txnNumber?_eq, ← Command.hasTxnNumber_eq] at hnumber
    rw [(each t ht).key?_eq, if_pos hnumber]
    cases made with
    | @joined s active =>
      rw [s.has_autocommit_join] at hout
      cases hout
    | numbered idle open_ =>
      obtain ⟨k, -, hk'⟩ := Session.exists_key? open_
      exact ⟨_, hk'⟩
    | plain => cases hnumber
  joined t ht hin k hk := by
    rw [(each t ht).inside_eq] at hin
    rw [(each t ht).key?_eq] at hk
    cases made with
    | @joined s active =>
      split at hk
      · exact hjoined s rfl active k hk
      · cases hk
    | numbered | plain => cases hin

end Insert.Makes

/-! ## §5. Inserts. -/

namespace Keyed

variable {log : List Entry} {r r' : Run}

/-- However an insert goes in its session, its entry belongs into the log. -/
theorem sending (h : Keyed log r.client) {x : SessionContext} {o : Option Session} {i : Insert}
    {result : Except Error Nat} (hself : Shows x r.client 0 o)
    (hsame : r.client.SameKeys x r'.client) (hsending : Sending x 0 o (i.Makes o) r result r')
    (le_two : (r'.sent.drop r.sent.length).length ≤ 2)
    (numbered : ∀ t ∈ r'.sent.drop r.sent.length, t.command.hasTxnNumber = true →
      ∃ s, t.Numbered s) :
    Keyed (log ++ [.inserted (r'.sent.drop r.sent.length)]) r'.client := by
  -- If the session is in a transaction, the number of that is in the log.
  have hjoined : ∀ s, o = some s → s.inTransaction = true → ∀ k, s.key? = some k →
      Entry.took k ∈ log := by
    intro s ho ha k hk
    obtain ⟨-, hnone⟩ | ⟨s₀, s', hs₀, hs', hlike⟩ := hself.cases
    · rw [hnone] at ho
      cases ho
    · rw [hs'] at ho
      cases ho
      exact h.active s₀ (x.mem_of_session? hs₀) (hlike.inTransaction.trans ha) k
        (hlike.key?.trans hk)
  cases hsending with
  | unsent sent shows =>
    rw [sent, List.drop_length]
    refine h.extend hsame ?_ ?_ ?_
    · rw [hself.key?, shows.key?]
      exact .stays _
    · intro s hs ha k hk
      obtain ⟨s', ho, ha', hkey⟩ := shows.active hs ha
      exact List.mem_append_left _ (hjoined s' ho ha' k (hkey.trans hk))
    · intro sent hsent
      cases List.mem_singleton.mp hsent
      exact .nil _
  | @sent command o' _ _ new made shows sent ne_nil each =>
    rw [sent, List.drop_left] at le_two numbered ⊢
    refine h.extend hsame ?_ ?_ ?_
    · rw [hself.key?, shows.key?, allocated, List.flatMap_singleton]
      exact made.moves ne_nil each
    · intro s hs ha k hk
      obtain ⟨s', ho', ha', hkey'⟩ := shows.active hs ha
      -- Making the command has left the session in a transaction that it was in before.
      obtain ⟨s₀, ho, ha₀, hkey⟩ := made.of_active ho' ha'
      exact List.mem_append_left _ (hjoined s₀ ho ha₀ k (hkey.trans (hkey'.trans hk)))
    · intro sent hsent
      cases List.mem_singleton.mp hsent
      exact (made.attempts each le_two numbered hjoined).mono (List.subset_append_left _ _)

/-- An insert on a binding takes at most one number, and all that it sends carries it. -/
theorem executed (h : Keyed log r.client) (held : r.Held) (i : Insert) (b : Binding) :
    Keyed (log ++ [.inserted (((Operation.insert i).execute b).sends r)])
      (((Operation.insert i).execute b).on r).2.client := by
  have hself := Shows.self b.context r.client
  have hkept : AllKept ((b.context.session? r.client).map Session.still) := by
    intro s hs
    obtain ⟨s₀, hs₀, rfl⟩ := Option.map_eq_some_iff.mp hs
    exact held.kept_still hs₀
  have hsending := performRetryable_sending (i.request_makes b.context _) hkept
    (fun _ _ made => made.kept hkept) hself
  have hsame := execute_sameKeys b (.insert i) r
  have hnumbered : SendsNumbered ((Operation.insert i).execute b) r :=
    execute_sendsNumbered rfl held
  have hle : ((performRetryable b (i.request b.context)).sends r).length ≤ 2 :=
    sends_performRetryable_le
  -- An insert is its request; only what is made of the result is different.
  have hrun : (((Operation.insert i).execute b).on r).2 =
      ((performRetryable b (i.request b.context)).on r).2 := by
    unfold Operation.execute
    rw [Exec.on_bind_pure]
  unfold SendsNumbered Exec.sends at hnumbered
  unfold Exec.sends at hle ⊢
  rw [hrun] at hsame hnumbered ⊢
  exact h.sending hself hsame hsending hle hnumbered

/-- So does an insert through the executor. -/
theorem performed (h : Keyed log r.client) (held : r.Held) (i : Insert)
    (preference : ReadPreference) (session : Option SessionId) :
    Keyed (log ++ [.inserted ((perform (.insert i) preference session).sends r)])
      ((perform (.insert i) preference session).on r).2.client := by
  have hr : (Operation.insert i).reads = false := rfl
  obtain ⟨hnone, hunbound⟩ | ⟨b, r₁, hbound, hsends, hclosed⟩ :=
    perform_cases hr preference session r
  · rw [hnone]
    exact (h.evolves hunbound).unsent
  · rw [hsends]
    exact ((h.evolves hbound).executed (hbound.held held) i b).evolves hclosed

end Keyed

end ClusterClient
