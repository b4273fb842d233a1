/-
  ClusterClient.Proofs.Chronicle — no number of a server session is used twice.

  A chronicle is a scenario together with the log of what has taken numbers since its client was
  started.  What a step adds to the log is read off its answer and what it sends.  Steps may be
  done in any order: sessions are opened, explicit and implicit ones, transactions are started and
  ended, inserts are executed, sessions end and their server sessions go to the next ones.  Only
  one thing is left out that no caller can do: to mark a transaction as active without starting it.

  Along every chronicle the log and the client belong together.  So the numbers of a server session
  are taken in increasing order by whoever has it, and what two commands carry tells whether they
  are attempts of the same insert.  Numbers go out with 64 bits; that tells them apart as long as
  no counter reaches the greatest number there is.

  Main statements: `step_keyed`, `Scenario.Chronicle.keyed`, `Scenario.Chronicle.neverReused`.
-/
import ClusterClient.Proofs.Allocation
import Mathlib.Algebra.Group.Nat.Defs

namespace ClusterClient

open Run

/-! ## §1. What steps add to the log. -/

/-- What a step adds to the log, as its answer and what it sent tell. -/
def Step.entries : Step → Answer → List Transmission → List Entry
  | .startTransaction _ _, .called none s, _ => s.key?.toList.map .took
  | .context _ true, .advanced (some n) x, _ => x.id.toList.map fun id => .took ⟨id, n⟩
  | .perform (.ok (.insert _)) _ _, _, sent => [.inserted sent]
  | .execute _ (.ok (.insert _)), _, sent => [.inserted sent]
  | _, _, _ => []

/-- Whether a step marks a transaction as active without starting it. -/
def Step.forces : Step → Bool
  | .callSession _ (.markAs state) => Transaction.isActive ⟨state, none⟩
  | _ => false

/-- The step has done nothing, or it has taken the next number of a session. -/
inductive TookOne (s : Scenario) : Scenario → List Entry → Prop where
  | nothing : TookOne s s []
  | next {s' : Scenario} {id : SessionId} {found found' : Session} {k : Key}
    (present : s.run.client.sessions[id]? = some found)
    (change : Session.Change s.run.client.now True found found') (before : found.key? = some k)
    (after : found'.key? = some ⟨k.session, k.number + 1⟩)
    (client : s'.run.client = s.run.client.modifySession id fun _ => found') :
    TookOne s s' [.took ⟨k.session, k.number + 1⟩]

/-- A step that takes no number adds nothing. -/
theorem Step.entries_of_numbers {what : Step} (h : what.numbers = false) (answer : Answer)
    (sent : List Transmission) : what.entries answer sent = [] := by
  unfold Step.entries
  split
  · cases h
  · cases h
  · cases h
  · cases h
  · rfl

namespace Scenario

/-- A transaction is started, or nothing has happened. -/
theorem run_step_startTransaction {s : Scenario} {name : String} {id : SessionId} {found : Session}
    (hname : s.sessions.lookup name = some id) (hfound : s.run.client.sessions[id]? = some found)
    (options : Option TransactionOptions) :
    (step (.startTransaction name (.ok options))).run s =
      match found.startTransaction options with
      | .error misuse => (.called (some (Error.of (.transaction misuse))) found, s)
      | .ok started => (.called none started, { s with
          run := { s.run with client := s.run.client.modifySession id fun _ => started } }) := by
  have hstart : (startTransaction id options).run s =
      (given s.run.client.sessions[id]? _).run s := rfl
  show (given (s.sessions.lookup name) fun id => startTransaction id options).run s = _
  rw [hname]
  show (startTransaction id options).run s = _
  rw [hstart, hfound]
  dsimp only [given]
  cases found.startTransaction options <;> rfl

theorem startTransaction_took (s : Scenario) (session : String)
    (options : Except DecodeError (Option TransactionOptions)) (sent : List Transmission) :
    TookOne s ((step (.startTransaction session options)).run s).2
      (Step.entries (.startTransaction session options)
        ((step (.startTransaction session options)).run s).1 sent) := by
  cases options with
  | error e =>
    have hrun : (step (.startTransaction session (.error e))).run s =
        (given (s.sessions.lookup session) fun _ => return .refused e).run s := rfl
    rw [hrun]
    cases s.sessions.lookup session with
    | none => exact .nothing
    | some id => exact .nothing
  | ok options =>
    have hrun : (step (.startTransaction session (.ok options))).run s =
        (given (s.sessions.lookup session) fun id => startTransaction id options).run s := rfl
    cases hname : s.sessions.lookup session with
    | none =>
      rw [hrun, hname]
      exact .nothing
    | some id =>
      cases hfound : s.run.client.sessions[id]? with
      | none =>
        have hstart : (startTransaction id options).run s =
            (given s.run.client.sessions[id]? _).run s := rfl
        rw [hrun, hname]
        show TookOne s ((startTransaction id options).run s).2
          (Step.entries _ ((startTransaction id options).run s).1 sent)
        rw [hstart, hfound]
        exact .nothing
      | some found =>
        rw [run_step_startTransaction hname hfound]
        cases hs : found.startTransaction options with
        | error misuse => exact .nothing
        | ok started =>
          obtain ⟨open_, heq⟩ := Session.startTransaction_eq hs
          obtain ⟨k, hk, hk'⟩ := Session.exists_key? open_
          have hafter : started.key? = some ⟨k.session, k.number + 1⟩ := by
            rw [heq]
            exact hk'
          show TookOne s _ (started.key?.toList.map .took)
          rw [hafter]
          exact .next hfound (.started hs trivial) hk hafter rfl

theorem contextOf_run (origin : ContextOrigin) (s : Scenario) :
    ∃ found, (contextOf origin).run s = (found, s) := by
  cases origin with
  | nowhere | source | binding => exact ⟨_, rfl⟩
  | session name retryWrites =>
    cases name with
    | none => exact ⟨_, rfl⟩
    | some name => exact ⟨_, rfl⟩

/-- The context is looked at after a number was taken from its session, if it has one to take. -/
theorem run_step_advance {s : Scenario} {origin : ContextOrigin} {x : SessionContext}
    (h : ((contextOf origin).run s).1 = some x) :
    (step (.context origin true)).run s =
      (.advanced (x.advance s.run.client).1 (x.report (x.advance s.run.client).2),
        { s with run := { s.run with client := (x.advance s.run.client).2 } }) := by
  obtain ⟨found, hfound⟩ := contextOf_run origin s
  show (given ((contextOf origin).run s).1 fun x => lookAt x true).run
    ((contextOf origin).run s).2 = _
  rw [h, hfound]
  rfl

theorem advance_took (s : Scenario) (origin : ContextOrigin) (sent : List Transmission) :
    TookOne s ((step (.context origin true)).run s).2
      (Step.entries (.context origin true) ((step (.context origin true)).run s).1 sent) := by
  cases hx : ((contextOf origin).run s).1 with
  | none =>
    obtain ⟨found, hfound⟩ := contextOf_run origin s
    have hrun : (step (.context origin true)).run s =
        (given ((contextOf origin).run s).1 fun x => lookAt x true).run
          ((contextOf origin).run s).2 := rfl
    rw [hrun, hx, hfound]
    exact .nothing
  | some x =>
    rw [run_step_advance hx]
    cases hs : x.session? s.run.client with
    | none =>
      have hnone : x.advance s.run.client = (none, s.run.client) := by
        rw [SessionContext.advance, hs, Option.bind_none]
      rw [hnone]
      exact .nothing
    | some held =>
      cases open_ : held.isEnded with
      | true =>
        rw [SessionContext.advance_of_ended hs open_]
        exact .nothing
      | false =>
        obtain ⟨k, hk, hk'⟩ := Session.exists_key? open_
        have hafter : x.id? (x.modify (fun _ => held.advanced) s.run.client) = some k.session := by
          rw [SessionContext.id?, SessionContext.session?_modify, hs, Option.map_some,
            Option.bind_some, Session.id?_of_key? hk']
        rw [SessionContext.advance_of_open hs open_]
        show TookOne s _ ((x.id? (x.modify (fun _ => held.advanced) s.run.client)).toList.map
          fun id => .took ⟨id, held.txnNumber + 1⟩)
        rw [hafter, Session.txnNumber_of_key? hk]
        obtain ⟨_ | id, _⟩ := x
        · cases hs
        · exact .next hs (.advanced (Session.advance_eq open_) trivial) hk hk' rfl

end Scenario

/-! ## §2. Steps keep the invariant. -/

namespace Keyed

variable {log new : List Entry} {s s' : Scenario}

theorem of_tookOne (h : Keyed log s.run.client) (htook : TookOne s s' new) :
    Keyed (log ++ new) s'.run.client := by
  cases htook with
  | nothing => rwa [List.append_nil]
  | next present change before after client =>
    rw [client]
    exact h.took present change before after

/-- A step that executes an insert. -/
theorem of_call (h : Keyed log s.run.client) (held : s.run.Held) {what : Step} {i : Insert}
    (hcall : what.operation? = some (.insert i)) :
    Keyed (log ++ [.inserted (Play.sends (Scenario.step what) s)])
      ((Scenario.step what).run s).2.run.client := by
  unfold Play.sends
  obtain hrun | ⟨preference, id, hrun⟩ | ⟨b, hrun⟩ := run_step_call hcall s
  · rw [hrun, List.drop_length]
    exact h.unsent
  · rw [hrun]
    exact h.performed held i preference id
  · rw [hrun]
    exact h.executed held i b

end Keyed

theorem step_keyed {log : List Entry} {s : Scenario} (h : Keyed log s.run.client)
    (held : s.run.Held) {what : Step} (unforced : what.forces = false) :
    Keyed (log ++ what.entries ((Scenario.step what).run s).1 (Play.sends (Scenario.step what) s))
      ((Scenario.step what).run s).2.run.client := by
  cases hn : what.numbers with
  | false =>
    rw [Step.entries_of_numbers hn, List.append_nil]
    have hstep : Evolves nowhere s.run ((Scenario.step what).run s).2.run :=
      Scenario.step_evolves what (fun ht => by rw [hn] at ht; cases ht) s
    exact h.evolves hstep
  | true =>
    -- Few steps take numbers at all.
    cases what with
    | startTransaction session options =>
      exact h.of_tookOne (Scenario.startTransaction_took s session options _)
    | context origin advance =>
      cases advance with
      | false => cases hn
      | true => exact h.of_tookOne (Scenario.advance_took s origin _)
    | callSession session call =>
      cases call with
      | look | finish | markInProgress => cases hn
      | markAs state =>
        have hactive : Transaction.isActive ⟨state, none⟩ = true := hn
        have hidle : Transaction.isActive ⟨state, none⟩ = false := unforced
        rw [hactive] at hidle
        cases hidle
    | perform operation rp session =>
      obtain ⟨_⟩ | ⟨operation⟩ := operation
      · cases hn
      · cases operation with
        | insert i => exact h.of_call held rfl
        | runCommand | dropCollection | dropUser | commit | abort => cases hn
    | execute binding operation =>
      obtain ⟨_⟩ | ⟨operation⟩ := operation
      · cases hn
      · cases operation with
        | insert i => exact h.of_call held rfl
        | runCommand | dropCollection | dropUser | commit | abort => cases hn
    | _ => cases hn

/-! ## §3. Chronicles. -/

namespace Scenario

/-- The scenarios that can come about, with what has taken numbers on the way. -/
inductive Chronicle : Scenario → List Entry → Prop where
  | begun {o : Options} {c : Client} (h : Client.start o = .ok c) : Chronicle (.begin c) []
  | stepped {s : Scenario} {log : List Entry} (h : Chronicle s log) (what : Step)
    (unforced : what.forces = false) :
    Chronicle ((step what).run s).2
      (log ++ what.entries ((step what).run s).1 (Play.sends (step what) s))
  | happened {s : Scenario} {log : List Entry} (h : Chronicle s log)
    (happenings : List Happening) :
    Chronicle { s with run := ((happenAll happenings).on s.run).2 } log
  /-- Anything but the client may become different. -/
  | elsewhere {s : Scenario} {log : List Entry} {r : Run} (h : Chronicle s log)
    (same : r.client = s.run.client) : Chronicle { s with run := r } log

namespace Chronicle

variable {s : Scenario} {log : List Entry}

theorem reachable (h : Chronicle s log) : s.Reachable := by
  induction h with
  | begun h => exact .begun h
  | stepped _ what _ ih => exact ih.stepped what
  | happened _ happenings ih => exact ih.happened happenings
  | elsewhere _ same ih => exact ih.elsewhere same

/-- Along every chronicle the log and the client belong together. -/
theorem keyed (h : Chronicle s log) : Keyed log s.run.client := by
  induction h with
  | @begun o c h =>
    obtain ⟨hsessions, hwaiting⟩ := sessions_start h
    have hids : c.ids = [] := by rw [Client.ids, hsessions, hwaiting]; rfl
    have hkeys : c.keys = [] := by rw [Client.keys, hsessions, hwaiting]; rfl
    show Keyed [] c
    refine ⟨hids ▸ .nil, ?_, by simp, .nil, by simp, ?_, ?_, by simp⟩
    · rw [hids]
      simp
    · rw [hkeys]
      simp
    · rw [hsessions]
      simp
  | stepped h what unforced ih => exact step_keyed ih h.reachable.held unforced
  | happened _ happenings ih =>
    exact ih.evolves ((sustains_evolves nowhere).happenAll happenings _)
  | elsewhere _ same ih => rwa [show _ = _ from same]

end Chronicle

/-- What steps add to the log, one after the other. -/
def entries (s : Scenario) : List Step → List Entry
  | [] => []
  | what :: rest =>
    what.entries ((step what).run s).1 (Play.sends (step what) s) ++
      entries ((step what).run s).2 rest

theorem Chronicle.after {o : Options} {c : Client} (h : Client.start o = .ok c)
    {steps : List Step} (unforced : ∀ what ∈ steps, what.forces = false) :
    Chronicle (Scenario.after c steps) ((begin c).entries steps) := by
  -- Induction on the steps, for every chronicle that they can go on from.
  have hfold : ∀ (steps : List Step) (s : Scenario) (log : List Entry), Chronicle s log →
      (∀ what ∈ steps, what.forces = false) →
      Chronicle (steps.foldl (fun s what => ((step what).run s).2) s)
        (log ++ s.entries steps) := by
    intro steps
    induction steps with
    | nil =>
      intro s log hs _
      rw [entries, List.append_nil]
      exact hs
    | cons what rest ih =>
      intro s log hs hunforced
      rw [entries, ← List.append_assoc]
      exact ih _ _ (hs.stepped what (hunforced what List.mem_cons_self)) fun next hnext =>
        hunforced next (List.mem_cons_of_mem _ hnext)
  exact hfold steps (begin c) [] (.begun h) unforced

end Scenario

/-! ## §4. Keys on the way to the servers. -/

namespace Command

/-- The command carries the key: the identifier of the server session and the number. -/
def Bears (c : Command) (k : Key) : Prop :=
  c.HasIdentifier (some k.session) ∧ c.HasNumber k.number

/-- Both commands carry the identifier of a session and a number, and these are the same. -/
def SameKey (c c' : Command) : Prop :=
  ∃ session number, c.body.value? "lsid" = some session ∧ c.txnNumber? = some number ∧
    c'.body.value? "lsid" = some session ∧ c'.txnNumber? = some number

/-- Numbers of 63 bits are told apart on the way. -/
theorem eq_of_int64_ofNat {n m : Nat} (hn : n < 2 ^ 63) (hm : m < 2 ^ 63)
    (hsent : Int64.ofNat n = Int64.ofNat m) : n = m := by
  have hnat : (UInt64.ofNat n).toNat = (UInt64.ofNat m).toNat :=
    congrArg (fun x => x.toUInt64.toNat) hsent
  rw [UInt64.toNat_ofNat', UInt64.toNat_ofNat'] at hnat
  omega

/-- What commands carry tells their keys apart. -/
theorem SameKey.eq_of_bears {c c' : Command} {k k' : Key} (h : c.SameKey c') (hk : c.Bears k)
    (hk' : c'.Bears k') (hn : k.number < 2 ^ 63) (hn' : k'.number < 2 ^ 63) : k = k' := by
  obtain ⟨session, number, hs, ht, hs', ht'⟩ := h
  have hid : k.session = k'.session := by
    have hvalue := (hk.1.symm.trans hs).trans (hs'.symm.trans hk'.1)
    simpa using hvalue
  have hnumber : Int64.ofNat k.number = Int64.ofNat k'.number :=
    Value.int64.inj (Option.some.inj ((hk.2.symm.trans ht).trans (ht'.symm.trans hk'.2)))
  cases k
  cases k'
  exact congrArg₂ Key.mk hid (eq_of_int64_ofNat hn hn' hnumber)

end Command

namespace Attempts

variable {log : List Entry} {sent : List Transmission} {t : Transmission}

/-- What an insert sends carries where its session stood. -/
theorem bears (h : Attempts log sent) (ht : t ∈ sent) {k : Key} (hk : t.key? = some k) :
    t.command.Bears k := by
  unfold Transmission.key? at hk
  split at hk
  case isFalse => cases hk
  case isTrue hhas =>
    obtain ⟨s, hs⟩ := h.numbered t ht hhas
    rw [hs.session, Option.bind_some] at hk
    exact ⟨Session.id?_of_key? hk ▸ hs.identifier, Session.txnNumber_of_key? hk ▸ hs.number⟩

/-- A session and a number in what an insert sends are where its session stood. -/
theorem exists_key? (h : Attempts log sent) (ht : t ∈ sent) {session number : Value}
    (hsession : t.command.body.value? "lsid" = some session)
    (hnumber : t.command.txnNumber? = some number) : ∃ k, t.key? = some k := by
  have hhas : t.command.hasTxnNumber = true := by
    rw [Command.hasTxnNumber_eq, hnumber]
    rfl
  obtain ⟨s, hs⟩ := h.numbered t ht hhas
  obtain ⟨id, hid', -⟩ := Option.map_eq_some_iff.mp (hs.identifier.symm.trans hsession)
  rw [← s.map_key?] at hid'
  obtain ⟨k, hk, -⟩ := Option.map_eq_some_iff.mp hid'
  exact ⟨k, by rw [Transmission.key?, if_pos hhas, hs.session, Option.bind_some, hk]⟩

end Attempts

/-! ## §5. Never reused. -/

/-- No number of a server session is used for two writes. -/
structure NeverReused (c : Client) (log : List Entry) : Prop where
  /-- From each server session numbers are taken in increasing order. -/
  increasing : (allocated log).Pairwise Key.Precedes
  /-- The counter of a server session is the last number that was taken from it. -/
  counters : ∀ k ∈ c.keys, (k.number = 0 ∨ k ∈ allocated log) ∧
    ∀ k' ∈ allocated log, k'.session = k.session → k'.number ≤ k.number
  /-- What an insert sends is one command, at most twice. -/
  attempts : ∀ sent, Entry.inserted sent ∈ log →
    sent.length ≤ 2 ∧ ∀ t ∈ sent, ∀ t' ∈ sent, t.command = t'.command
  /-- Outside of a transaction a command with a number carries the one that its insert took. -/
  carried : ∀ sent, Entry.inserted sent ∈ log → ∀ t ∈ sent, t.inside = false →
    t.command.hasTxnNumber = true →
      ∃ k, (Entry.inserted sent).allocated = [k] ∧ t.command.Bears k
  /-- Only attempts of the same insert carry the same key, and then they are the same. -/
  once : ∀ (i j : Nat) (sent sent' : List Transmission), log[i]? = some (.inserted sent) →
    log[j]? = some (.inserted sent') → ∀ t ∈ sent, ∀ t' ∈ sent', t.inside = false →
      t'.inside = false → t.command.SameKey t'.command →
        i = j ∧ t.command.body = t'.command.body
  /-- None of them carries the key of a command of a transaction. -/
  apart : ∀ sent sent', Entry.inserted sent ∈ log → Entry.inserted sent' ∈ log → ∀ t ∈ sent,
    ∀ t' ∈ sent', t.inside = false → t'.inside = true → ¬ t.command.SameKey t'.command

namespace Keyed

variable {log : List Entry} {c : Client} {sent sent' : List Transmission} {t t' : Transmission}

/-- A key is taken once. -/
theorem position_unique (h : Keyed log c) {i j : Nat} {e e' : Entry} (hi : log[i]? = some e)
    (hj : log[j]? = some e') {k : Key} (hk : k ∈ e.allocated) (hk' : k ∈ e'.allocated) :
    i = j := by
  obtain ⟨hilt, rfl⟩ := List.getElem?_eq_some_iff.mp hi
  obtain ⟨hjlt, rfl⟩ := List.getElem?_eq_some_iff.mp hj
  have hpairs := List.pairwise_iff_getElem.mp (List.pairwise_flatMap.mp h.increasing).2
  -- Of two entries that took it, one would have taken a smaller number.
  rcases Nat.lt_trichotomy i j with hlt | heq | hgt
  · exact absurd (hpairs i j hilt hjlt hlt k hk k hk' rfl) (Nat.lt_irrefl _)
  · exact heq
  · exact absurd (hpairs j i hjlt hilt hgt k hk' k hk rfl) (Nat.lt_irrefl _)

/-- Outside of a transaction a command carries what its insert took. -/
theorem allocated_of_outside (h : Keyed log c) (hsent : Entry.inserted sent ∈ log) (ht : t ∈ sent)
    (outside : t.inside = false) {k : Key} (hk : t.key? = some k) :
    (Entry.inserted sent).allocated = [k] := by
  rw [(h.attempts sent hsent).allocated_eq ht outside, hk]
  rfl

/-- Whatever an insert sends carries a number that was taken: by itself, or for the transaction. -/
theorem mem_allocated (h : Keyed log c) (hsent : Entry.inserted sent ∈ log) (ht : t ∈ sent)
    {k : Key} (hk : t.key? = some k) : k ∈ allocated log := by
  cases hin : t.inside with
  | false =>
    have htook := h.allocated_of_outside hsent ht hin hk
    exact List.mem_flatMap.mpr ⟨_, hsent, htook ▸ List.mem_singleton_self k⟩
  | true =>
    have hstarted := (h.attempts sent hsent).joined t ht hin k hk
    exact List.mem_flatMap.mpr ⟨_, hstarted, List.mem_singleton_self k⟩

/-- Where commands carry the same key, their sessions stood at the same key. -/
theorem exists_key?_of_sameKey (h : Keyed log c) (small : ∀ k ∈ allocated log, k.number < 2 ^ 63)
    (hsent : Entry.inserted sent ∈ log) (ht : t ∈ sent) (hsent' : Entry.inserted sent' ∈ log)
    (ht' : t' ∈ sent') (hsame : t.command.SameKey t'.command) :
    ∃ k, t.key? = some k ∧ t'.key? = some k := by
  have hattempts := h.attempts sent hsent
  have hattempts' := h.attempts sent' hsent'
  obtain ⟨session, number, hs, hn, hs', hn'⟩ := id hsame
  obtain ⟨k, hk⟩ := hattempts.exists_key? ht hs hn
  obtain ⟨k', hk'⟩ := hattempts'.exists_key? ht' hs' hn'
  have heq : k = k' := hsame.eq_of_bears (hattempts.bears ht hk) (hattempts'.bears ht' hk')
    (small k (h.mem_allocated hsent ht hk)) (small k' (h.mem_allocated hsent' ht' hk'))
  exact ⟨k, hk, heq ▸ hk'⟩

end Keyed

/-- Along every chronicle in which no counter reaches the greatest number that can be sent, no
    number of a server session is used for two writes. -/
theorem Scenario.Chronicle.neverReused {s : Scenario} {log : List Entry} (h : s.Chronicle log)
    (small : ∀ k ∈ allocated log, k.number < 2 ^ 63 - 1) : NeverReused s.run.client log := by
  have hkeyed := h.keyed
  have hsmall : ∀ k ∈ allocated log, k.number < 2 ^ 63 := fun k hk =>
    Nat.lt_of_lt_of_le (small k hk) (Nat.sub_le _ _)
  refine ⟨hkeyed.increasing, ?_, ?_, ?_, ?_, ?_⟩
  · intro k hk
    exact ⟨hkeyed.counted k hk, fun k' hk' hid => hkeyed.bounded k' hk' k hk hid.symm⟩
  · intro sent hsent
    exact ⟨(hkeyed.attempts sent hsent).le_two, (hkeyed.attempts sent hsent).command⟩
  · intro sent hsent t ht outside hnumber
    obtain ⟨k, hk⟩ := (hkeyed.attempts sent hsent).outside t ht outside hnumber
    have htook := hkeyed.allocated_of_outside hsent ht outside hk
    exact ⟨k, htook, (hkeyed.attempts sent hsent).bears ht hk⟩
  · intro i j sent sent' hi hj t ht t' ht' outside outside' hsame
    have hsent := List.mem_of_getElem? hi
    have hsent' := List.mem_of_getElem? hj
    obtain ⟨k, hk, hk'⟩ := hkeyed.exists_key?_of_sameKey hsmall hsent ht hsent' ht' hsame
    have htook := hkeyed.allocated_of_outside hsent ht outside hk
    have htook' := hkeyed.allocated_of_outside hsent' ht' outside' hk'
    -- Both inserts took this number, so they are one.
    have hij := hkeyed.position_unique hi hj (htook ▸ List.mem_singleton_self k)
      (htook' ▸ List.mem_singleton_self k)
    subst hij
    rw [hi] at hj
    cases hj
    exact ⟨rfl, by rw [(hkeyed.attempts sent hsent).command t ht t' ht']⟩
  · intro sent sent' hsent hsent' t ht t' ht' outside inside hsame
    obtain ⟨k, hk, hk'⟩ := hkeyed.exists_key?_of_sameKey hsmall hsent ht hsent' ht' hsame
    have htook := hkeyed.allocated_of_outside hsent ht outside hk
    have hstarted := (hkeyed.attempts sent' hsent').joined t' ht' inside k hk'
    -- The number would have been taken twice, by the insert and for the transaction.
    obtain ⟨i, hi⟩ := List.mem_iff_getElem?.mp hsent
    obtain ⟨j, hj⟩ := List.mem_iff_getElem?.mp hstarted
    have hij := hkeyed.position_unique hi hj (htook ▸ List.mem_singleton_self k)
      (List.mem_singleton_self k)
    subst hij
    rw [hi] at hj
    cases hj

namespace Lone

/-- Inserts in and outside of a transaction, and in sessions that take over its server session; the
    second one of these is sent twice, and its server session is not used again. -/
def recycling : List Step :=
  [.update primary, .startSession "s", .perform (.ok insert) .primary (some "s"),
    .startTransaction "s" (.ok none), .perform (.ok insert) .primary (some "s"),
    .perform (.ok .commit) .primary (some "s"), .dropSession "s",
    .perform (.ok insert) .primary none,
    .script address [⟨.error (Error.of (.network .brokenPipe none)), [], []⟩],
    .perform (.ok insert) .primary none, .perform (.ok insert) .primary none]

end Lone

/-- Five numbers are taken, four of them from the same server session. -/
theorem neverReused_lone :
    allocated ((Scenario.begin Lone.client).entries Lone.recycling) =
        [⟨0, 1⟩, ⟨0, 2⟩, ⟨0, 3⟩, ⟨0, 4⟩, ⟨1, 1⟩] ∧
      NeverReused (Scenario.after Lone.client Lone.recycling).run.client
        ((Scenario.begin Lone.client).entries Lone.recycling) := by
  have htaken : allocated ((Scenario.begin Lone.client).entries Lone.recycling) =
      [⟨0, 1⟩, ⟨0, 2⟩, ⟨0, 3⟩, ⟨0, 4⟩, ⟨1, 1⟩] := by decide +kernel
  have hstart : Client.start Lone.options = .ok Lone.client := rfl
  have hlog : (Scenario.after Lone.client Lone.recycling).Chronicle
      ((Scenario.begin Lone.client).entries Lone.recycling) := .after hstart (by decide)
  refine ⟨htaken, hlog.neverReused ?_⟩
  rw [htaken]
  decide

end ClusterClient
