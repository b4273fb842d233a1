/-
  ClusterClient.Proofs.SessionMachine — the state machine of a session.

  A caller may have a session under several names, and bindings and sources have it in their
  contexts.  It is the same session for all of them: transactions are started and marked, numbers
  are taken, operations are executed, the session is ended.  `Session.Moves` says how a session can
  be different after such a step, when it is known whether a transaction has begun with the step
  and how many numbers the step has taken; its answer and what it has sent tell that.

  A trace of a session is what was done to it since it was opened, for a caller or for one
  operation, while everything else went about its business.  Beside it goes a record: where the
  counter stood at first, how many numbers were taken, what the latest transaction was started with,
  and whether the session was ended.  A step keeps the two together, so they are together along
  every trace.

  Main statements: `step_does` (one step), `SessionTrace.proceeds` (all of them).
-/
import ClusterClient.Proofs.Ownership

namespace ClusterClient

open Run

/-! ## §1. Steps on a session. -/

/-- The step is done on the session, by one of its names or in a context that has it. -/
inductive Step.On (s : Scenario) (id : SessionId) : Step → Prop where
  | start {name : String} (h : s.sessions.lookup name = some id)
    (options : Option TransactionOptions) : On s id (.startTransaction name (.ok options))
  | call {name : String} (h : s.sessions.lookup name = some id) (call : SessionCall) :
    On s id (.callSession name call)
  | advance {origin : ContextOrigin} {x : SessionContext}
    (h : ((Scenario.contextOf origin).run s).1 = some x) (hx : x.session = some id) :
    On s id (.context origin true)
  | perform {name : String} (h : s.sessions.lookup name = some id) (operation : Operation)
    (preference : ReadPreference) : On s id (.perform (.ok operation) preference (some name))
  | execute {name : String} {b : Binding} (h : s.bindings.lookup name = some b)
    (hx : b.context.session = some id) (operation : Operation) :
    On s id (.execute name (.ok operation))

/-- How many numbers an operation has taken: one if it was an insert that stands alone. -/
def Operation.takes (sent : List Transmission) : Operation → Nat
  | .insert _ => if sent.any (·.command.standsAlone) then 1 else 0
  | _ => 0

namespace Step

/-- The options of the transaction that a step has started, if it has. -/
def begins : Step → Answer → Option (Option TransactionOptions)
  | .startTransaction _ (.ok options), .called none _ => some options
  | _, _ => none

/-- How many numbers of its session a step has taken. -/
def takes : Step → Answer → List Transmission → Nat
  | .startTransaction _ _, .called none _, _ => 1
  | .context _ true, .advanced (some _) _, _ => 1
  | .perform (.ok operation) _ _, _, sent => operation.takes sent
  | .execute _ (.ok operation), _, sent => operation.takes sent
  | _, _, _ => 0

/-- Whether a step ends its session. -/
def finishes : Step → Bool
  | .callSession _ .finish => true
  | _ => false

section Calls

variable {what : Step} {operation : Operation} (hcall : what.operation? = some operation)
include hcall

/-- A step that calls an operation starts no transaction, -/
theorem begins_of_call (answer : Answer) : what.begins answer = none := by
  unfold operation? at hcall
  split at hcall <;> cases hcall <;> rfl

/-- takes the numbers that the operation takes, -/
theorem takes_of_call (answer : Answer) (sent : List Transmission) :
    what.takes answer sent = operation.takes sent := by
  unfold operation? at hcall
  split at hcall <;> cases hcall <;> rfl

/-- and does not end its session. -/
theorem finishes_of_call : what.finishes = false := by
  unfold operation? at hcall
  split at hcall <;> cases hcall <;> rfl

end Calls

end Step

/-! ## §2. Moves of a session. -/

/-- The same server session, so many numbers later. -/
def Key.later (k : Key) (n : Nat) : Key := ⟨k.session, k.number + n⟩

/-- How a session can be different when a transaction may have begun with these options and so many
    numbers were taken. -/
structure Session.Moves (v : Session) (begun : Option (Option TransactionOptions)) (taken : Nat)
    (v' : Session) : Prop where
  implicit : v'.implicit = v.implicit
  /-- A session that has ended stays so, and no number is taken from it. -/
  ended : v.isEnded = true → v'.isEnded = true ∧ taken = 0
  /-- While it lasts it has the same server session, whose counter goes up by what was taken. -/
  counter : v'.isEnded = false → v'.key? = v.key?.map (·.later taken)
  begins : begun.isSome = true → v'.transaction.state = .starting
  starting : v'.transaction.state = .starting →
    begun.isSome = true ∨ v.transaction.state = .starting
  inProgress : v'.transaction.state = .inProgress →
    v.transaction.state = .starting ∨ v.transaction.state = .inProgress
  options : v'.transaction.options = begun.getD v.transaction.options

theorem Session.Like.implicit {s₀ s : Session} {k : Nat} (h : s₀.Like k s) :
    s₀.implicit = s.implicit := by
  show s₀.still.implicit = (s.heldBy k).implicit
  rw [h]

/-- Taking a number brings the counter one further. -/
theorem Session.key?_advanced (v : Session) : v.advanced.key? = v.key?.map (·.later 1) := by
  obtain ⟨server, _⟩ := v
  cases server <;> rfl

/-- Of the states of a transaction a first command changes one. -/
theorem Transaction.state_markInProgress (t : Transaction) : t.markInProgress.state =
    if t.state = .starting then .inProgress else t.state := by
  unfold markInProgress
  split <;> rfl

/-- A transaction is started in a session of a caller that has not ended and has no other. -/
theorem Session.startTransaction_cases (v : Session) (options : Option TransactionOptions) :
    (∃ v', v.startTransaction options = .ok v' ∧
        v.implicit = false ∧ v.isEnded = false ∧ v.inTransaction = false) ∨
      ∃ misuse, v.startTransaction options = .error misuse ∧
        ¬ (v.implicit = false ∧ v.isEnded = false ∧ v.inTransaction = false) := by
  unfold startTransaction
  -- One of the three is enough to refuse, and they are looked at in this order.
  cases hi : v.implicit with
  | true => exact .inr ⟨_, if_pos rfl, fun h => Bool.noConfusion h.1⟩
  | false =>
    cases ht : v.transaction.isActive with
    | true =>
      refine .inr ⟨_, by rfl, fun h => ?_⟩
      have hidle : v.transaction.isActive = false := h.2.2
      rw [ht] at hidle
      cases hidle
    | false =>
      cases he : v.isEnded with
      | true =>
        rw [Session.advance_eq_none he]
        exact .inr ⟨_, rfl, fun h => Bool.noConfusion h.2.1⟩
      | false =>
        rw [Session.advance_eq he]
        exact .inl ⟨_, rfl, rfl, rfl, ht⟩

namespace Session.Moves

variable {v v' : Session}

/-- Nothing was done. -/
theorem refl (v : Session) : v.Moves none 0 v where
  implicit := rfl
  ended h := ⟨h, rfl⟩
  counter _ := by simp [Key.later]
  begins h := by cases h
  starting := .inr
  inProgress := .inr
  options := rfl

/-- Uses that change nothing else do not matter. -/
theorem of_like {v₀ v₀' : Session} {begun : Option (Option TransactionOptions)} {taken k k' : Nat}
    (h : v.Moves begun taken v') (hv : v₀.Like k v) (hv' : v₀'.Like k' v') :
    v₀.Moves begun taken v₀' where
  implicit := by rw [hv'.implicit, h.implicit, hv.implicit]
  ended he := by
    rw [hv'.isEnded]
    exact h.ended (hv.isEnded ▸ he)
  counter he := by
    rw [hv'.key?, hv.key?]
    exact h.counter (hv'.isEnded ▸ he)
  begins hb := by
    rw [hv'.transaction]
    exact h.begins hb
  starting hs := by
    rw [hv.transaction]
    exact h.starting (hv'.transaction ▸ hs)
  inProgress hs := by
    rw [hv.transaction]
    exact h.inProgress (hv'.transaction ▸ hs)
  options := by rw [hv'.transaction, hv.transaction, h.options]

theorem started {options : Option TransactionOptions} (h : v.startTransaction options = .ok v') :
    v.Moves (some options) 1 v' := by
  obtain ⟨open_, rfl⟩ := Session.startTransaction_eq h
  exact {
    implicit := rfl
    ended := fun he => by rw [open_] at he; cases he
    counter := fun _ => v.key?_advanced
    begins := fun _ => rfl
    starting := fun _ => .inl rfl
    inProgress := nofun
    options := rfl }

theorem advanced (open_ : v.isEnded = false) : v.Moves none 1 v.advanced where
  implicit := rfl
  ended he := by
    rw [open_] at he
    cases he
  counter _ := v.key?_advanced
  begins h := by cases h
  starting := .inr
  inProgress := .inr
  options := rfl

/-- A change of the transaction that does not make it active. -/
theorem of_transaction {t : Transaction}
    (starting : t.state = .starting → v.transaction.state = .starting)
    (inProgress : t.state = .inProgress →
      v.transaction.state = .starting ∨ v.transaction.state = .inProgress)
    (options : t.options = v.transaction.options) :
    v.Moves none 0 { v with transaction := t } where
  implicit := rfl
  ended h := ⟨h, rfl⟩
  counter := (refl v).counter
  begins h := by cases h
  starting h := .inr (starting h)
  inProgress := inProgress
  options := options

theorem progressed (v : Session) : v.Moves none 0 v.markInProgress := by
  have hstate := v.transaction.state_markInProgress
  refine of_transaction (t := v.transaction.markInProgress) ?_ ?_ ?_
  · intro hs
    rw [hstate] at hs
    split at hs
    case isTrue h => exact h
    case isFalse h => exact absurd hs h
  · intro hs
    rw [hstate] at hs
    split at hs
    case isTrue h => exact .inl h
    case isFalse => exact .inr hs
  · unfold Transaction.markInProgress
    split <;> rfl

theorem marked {state : TransactionState} (h : Transaction.isActive ⟨state, none⟩ = false)
    (v : Session) : v.Moves none 0 (v.markAs state) := by
  refine of_transaction (t := { v.transaction with state := state }) ?_ ?_ rfl
  · rintro rfl
    cases h
  · rintro rfl
    cases h

theorem finished (v : Session) : v.Moves none 0 { v with server := none } where
  implicit := rfl
  ended _ := ⟨rfl, rfl⟩
  counter h := by cases h
  begins h := by cases h
  starting := .inr
  inProgress := .inr
  options := rfl

end Session.Moves

/-- However an operation goes, it starts no transaction, and it takes a number exactly if it sends
    an insert that stands alone. -/
theorem Effect.moves {s s' : Session} {operation : Operation} {result : Except Error Outcome}
    {new : List Transmission} (h : Effect s operation result new s') :
    s.Moves none (operation.takes new) s' := by
  cases h with
  | refused =>
    have hnone : operation.takes [] = 0 := by cases operation <;> rfl
    rw [hnone]
    exact .refl s
  | other ho =>
    cases operation with
    | insert | commit | abort => cases ho
    | runCommand | dropCollection | dropUser => exact .refl s
  | inserted made ne_nil each =>
    have halone := Ledger.any_eq_of_each (p := Command.standsAlone) ne_nil
      fun t ht => (each t ht).standsAlone_eq
    unfold Operation.takes
    dsimp only
    rw [halone]
    cases made with
    | joined =>
      rw [standsAlone_join]
      exact .progressed s
    | numbered _ open_ =>
      rw [standsAlone_put]
      exact .advanced open_
    | plain =>
      rw [standsAlone_body]
      exact .refl s
  | uncommitted => exact .refl s
  | committedAtOnce | committed => exact .marked rfl s
  | abortedAtOnce | aborted => exact .marked rfl s

/-! ## §3. What steps do. -/

/-- What a step does to its session. -/
structure Session.Does (v : Session) (what : Step) (answer : Answer) (sent : List Transmission)
    (v' : Session) : Prop where
  moves : v.Moves (what.begins answer) (what.takes answer sent) v'
  ended : v'.isEnded = (v.isEnded || what.finishes)
  holders : v'.holders = v.holders

namespace Scenario

variable {s : Scenario} {id : SessionId} {v : Session} {name : String}

theorem run_step_callSession (h : s.sessions.lookup name = some id) (call : SessionCall) :
    ((step (.callSession name call)).run s).2 =
      { s with run := { s.run with client := call.apply id s.run.client } } := by
  have hrun : (step (.callSession name call)).run s =
      (given (s.sessions.lookup name) fun id => callSession id call).run s := rfl
  rw [hrun, h]
  exact run_callSession s id call

theorem start_does (h : s.sessions.lookup name = some id)
    (found : s.run.client.sessions[id]? = some v) (options : Option TransactionOptions)
    (sent : List Transmission) :
    ∃ v', ((step (.startTransaction name (.ok options))).run s).2.run.client.sessions[id]? =
        some v' ∧ v.Does (.startTransaction name (.ok options))
          ((step (.startTransaction name (.ok options))).run s).1 sent v' := by
  rw [run_step_startTransaction h found]
  cases hs : v.startTransaction options with
  | error misuse => exact ⟨v, found, .refl v, (Bool.or_false _).symm, rfl⟩
  | ok started =>
    refine ⟨started, ?_, .started hs, ?_, ?_⟩
    · exact Client.sessions_modifySession found _
    · obtain ⟨-, rfl⟩ := Session.startTransaction_eq hs
      exact (Session.isEnded_advanced v).trans (Bool.or_false _).symm
    · obtain ⟨-, rfl⟩ := Session.startTransaction_eq hs
      rfl

theorem advance_does {origin : ContextOrigin} {x : SessionContext}
    (h : ((contextOf origin).run s).1 = some x) (hx : x.session = some id)
    (found : s.run.client.sessions[id]? = some v) (sent : List Transmission) :
    ∃ v', ((step (.context origin true)).run s).2.run.client.sessions[id]? = some v' ∧
      v.Does (.context origin true) ((step (.context origin true)).run s).1 sent v' := by
  have hs : x.session? s.run.client = some v := (SessionContext.session?_eq hx _).trans found
  rw [run_step_advance h]
  cases open_ : v.isEnded with
  | true =>
    rw [SessionContext.advance_of_ended hs open_]
    exact ⟨v, found, .refl v, (Bool.or_false _).symm, rfl⟩
  | false =>
    rw [SessionContext.advance_of_open hs open_]
    refine ⟨v.advanced, ?_, .advanced open_, ?_, rfl⟩
    · show (x.modify (fun _ => v.advanced) s.run.client).sessions[id]? = _
      rw [← SessionContext.session?_eq hx, SessionContext.session?_modify, hs]
      rfl
    · exact v.isEnded_advanced.trans (Bool.or_false _).symm

theorem call_does (h : s.sessions.lookup name = some id)
    (found : s.run.client.sessions[id]? = some v) {call : SessionCall}
    (unforced : Step.forces (.callSession name call) = false) (sent : List Transmission) :
    ∃ v', ((step (.callSession name call)).run s).2.run.client.sessions[id]? = some v' ∧
      v.Does (.callSession name call) ((step (.callSession name call)).run s).1 sent v' := by
  have hmodify := Client.sessions_modifySession found
  rw [run_step_callSession h]
  cases call with
  | look => exact ⟨v, found, .refl v, (Bool.or_false _).symm, rfl⟩
  | finish => exact ⟨_, Client.sessions_endSession found, .finished v, (Bool.or_true _).symm, rfl⟩
  | markInProgress => exact ⟨_, hmodify _, .progressed v, (Bool.or_false _).symm, rfl⟩
  | markAs state => exact ⟨_, hmodify _, .marked unforced v, (Bool.or_false _).symm, rfl⟩

/-- An operation, in whatever way a step calls it. -/
theorem operation_does {what : Step} {operation : Operation}
    (hcall : what.operation? = some operation) (w : Way)
    (hrun : ((step what).run s).2 = { s with run := ((w.perform id operation).on s.run).2 })
    (found : s.run.client.sessions[id]? = some v) (held : 0 < v.holders) :
    ∃ v', ((step what).run s).2.run.client.sessions[id]? = some v' ∧
      v.Does what ((step what).run s).1 (Play.sends (step what) s) v' := by
  -- What the operation leaves is told of the session as the operation sees it, and that of the
  -- client is like it before and afterwards.
  have hkept : v.still.Kept := fun _ => held
  have hshows : Shows ⟨some id, false⟩ s.run.client 0 (some v.still) := .of_found found
  obtain ⟨new, s', heffect, hsent, hshows'⟩ := w.perform_takes operation hkept hshows
  obtain ⟨v', found', hlike⟩ := hshows'.exists_like
  have hbefore : v.Like 0 v.still := rfl
  have hsends : Play.sends (step what) s = new := by
    unfold Play.sends
    rw [hrun]
    exact Exec.sends_eq_of_sent hsent
  rw [hrun, hsends]
  refine ⟨v', found', ?_, ?_, ?_⟩
  · rw [Step.begins_of_call hcall, Step.takes_of_call hcall]
    exact heffect.moves.of_like hbefore hlike
  · rw [Step.finishes_of_call hcall, hlike.isEnded, heffect.isEnded_eq, v.isEnded_still,
      Bool.or_false]
  · rw [hlike.holders, heffect.holders_eq]
    rfl

/-- Every step on a session that is there does one thing to it. -/
theorem step_does {what : Step} (on : what.On s id) (unforced : what.forces = false)
    (found : s.run.client.sessions[id]? = some v) (held : 0 < v.holders) :
    ∃ v', ((step what).run s).2.run.client.sessions[id]? = some v' ∧
      v.Does what ((step what).run s).1 (Play.sends (step what) s) v' := by
  cases on with
  | start h options => exact start_does h found options _
  | call h call => exact call_does h found unforced _
  | advance h hx => exact advance_does h hx found _
  | @perform name h operation preference =>
    have hsession : ((optionalSession? (some name)).run s).1 = some (some id) :=
      congrArg (Option.map some) h
    refine operation_does rfl (.executor preference) ?_ found held
    rw [run_step_perform, hsession]
    rfl
  | @execute name b h hx operation =>
    obtain ⟨preference, ⟨session, retryWrites⟩, ownsSession⟩ := b
    obtain rfl : session = some id := hx
    refine operation_does rfl (.bound preference retryWrites ownsSession) ?_ found held
    rw [run_step_execute, h]
    rfl

end Scenario

/-! ## §4. Traces of a session. -/

/-- What is known of a session from what was done to it. -/
structure SessionRecord where
  /-- Whether it was opened for one operation. -/
  implicit : Bool
  /-- The server session that it was opened with, and where its counter stood. -/
  first : Key
  /-- How many numbers were taken since. -/
  taken : Nat
  /-- What the latest transaction was started with. -/
  begun : Option (Option TransactionOptions)
  /-- Whether it was ended. -/
  finished : Bool

/-- A step was done on the session. -/
def SessionRecord.after (d : SessionRecord) (what : Step) (answer : Answer)
    (sent : List Transmission) : SessionRecord :=
  { d with
    taken := d.taken + what.takes answer sent
    begun := (what.begins answer).or d.begun
    finished := d.finished || what.finishes }

/-- What can have been done on a session since it was opened. -/
inductive SessionTrace (id : SessionId) : Scenario → SessionRecord → Prop where
  | opened {s : Scenario} {r : Run} {implicit : Bool} {v : Session} {k : Key}
    (h : (openSession? implicit).on s.run = (.ok (some id), r))
    (found : r.client.sessions[id]? = some v) (first : v.key? = some k) :
    SessionTrace id { s with run := r } ⟨implicit, k, 0, none, false⟩
  | stepped {s : Scenario} {d : SessionRecord} (h : SessionTrace id s d) {what : Step}
    (on : what.On s id) (unforced : what.forces = false) :
    SessionTrace id ((Scenario.step what).run s).2
      (d.after what ((Scenario.step what).run s).1 (Play.sends (Scenario.step what) s))
  /-- The session is named anew, held by others and used for other things, but not ended. -/
  | elsewhere {s s' : Scenario} {d : SessionRecord} (h : SessionTrace id s d)
    (rest : Undisturbed id s.run s'.run) : SessionTrace id s' d

/-- How the record and the session belong together. -/
structure SessionRecord.Fits (d : SessionRecord) (v : Session) : Prop where
  implicit : v.implicit = d.implicit
  finished : v.isEnded = d.finished
  counter : v.isEnded = false → v.key? = some (d.first.later d.taken)
  begun : v.inTransaction = true → d.begun = some v.transaction.options

namespace SessionRecord.Fits

variable {d : SessionRecord} {v v' : Session}

/-- Who holds the session does not matter, nor what every use of it changes. -/
theorem congr (h : d.Fits v) (hv : v'.still = { v.still with holders := v'.holders }) :
    d.Fits v' where
  implicit := by
    show v'.still.implicit = _
    rw [hv]
    exact h.implicit
  finished := by
    rw [← v'.isEnded_still, hv, ← h.finished, ← v.isEnded_still]
    rfl
  counter he := by
    have hkey : v'.key? = v.key? := by
      rw [← v'.key?_still, hv, ← v.key?_still]
      rfl
    rw [← v'.isEnded_still, hv] at he
    rw [hkey]
    exact h.counter (v.isEnded_still ▸ he)
  begun ht := by
    have htransaction : v'.transaction = v.transaction := by
      show v'.still.transaction = _
      rw [hv]
      rfl
    rw [Session.inTransaction, htransaction] at ht
    rw [htransaction]
    exact h.begun ht

/-- A step keeps the record and the session together. -/
theorem after {what : Step} {answer : Answer} {sent : List Transmission} (h : d.Fits v)
    (does : v.Does what answer sent v') : (d.after what answer sent).Fits v' where
  implicit := does.moves.implicit.trans h.implicit
  finished := by
    rw [does.ended, h.finished]
    rfl
  counter he := by
    have open_ : v.isEnded = false := by
      cases hv : v.isEnded with
      | false => rfl
      | true => rw [(does.moves.ended hv).1] at he; cases he
    rw [does.moves.counter he, h.counter open_]
    simp [Key.later, SessionRecord.after, Nat.add_assoc]
  begun ht := by
    show (what.begins answer).or d.begun = _
    rw [does.moves.options]
    cases hb : what.begins answer with
    | some options => rfl
    | none =>
      -- A transaction that has not begun now was active before.
      have hactive : v.inTransaction = true := by
        have hmoves := does.moves
        rw [hb] at hmoves
        unfold Session.inTransaction Transaction.isActive
        obtain hs | hs := Ledger.state_of_active ht
        · obtain hnone | hs := hmoves.starting hs
          · cases hnone
          · rw [hs]
        · obtain hs | hs := hmoves.inProgress hs <;> rw [hs]
      exact h.begun hactive

end SessionRecord.Fits

namespace SessionTrace

variable {id : SessionId} {s : Scenario} {d : SessionRecord}

/-- Along every trace the session is there, and the record belongs to it. -/
theorem fits (h : SessionTrace id s d) :
    ∃ v, s.run.client.sessions[id]? = some v ∧ 0 < v.holders ∧ d.Fits v := by
  -- Induction on the trace.  An operation can be followed only in a session that has a holder, so
  -- that is part of it.
  induction h with
  | opened h found first =>
    obtain ⟨server, timeout, found'⟩ := openSession?_found h
    rw [found] at found'
    cases found'
    exact ⟨_, found, Nat.one_pos, rfl, rfl, fun _ => first, nofun⟩
  | stepped _ on unforced ih =>
    obtain ⟨v, found, held, hfits⟩ := ih
    obtain ⟨v', found', does⟩ := Scenario.step_does on unforced found held
    exact ⟨v', found', does.holders ▸ held, hfits.after does⟩
  | elsewhere _ rest ih =>
    obtain ⟨v, found, -, hfits⟩ := ih
    obtain ⟨_, v', hv, found', hstill, held⟩ := rest
    rw [found] at hv
    cases hv
    exact ⟨v', found', held, hfits.congr hstill⟩

end SessionTrace

/-! ## §5. The state machine. -/

/-- Where a session is at the end of its trace, and how it goes on. -/
structure Proceeds (s : Scenario) (id : SessionId) (d : SessionRecord) (v : Session) : Prop where
  found : s.run.client.sessions[id]? = some v
  implicit : v.implicit = d.implicit
  /-- It has ended exactly if it was asked to. -/
  finished : v.isEnded = d.finished
  /-- Until then it has the server session that it was opened with, and the counter has gone up by
      one for each number that was taken. -/
  counter : v.isEnded = false → v.key? = some (d.first.later d.taken)
  /-- The read preference that is reported is the one that the transaction was started with. -/
  active : v.inTransaction = true → ∃ options, d.begun = some options ∧
    v.transactionReadPreference? = options.bind (·.readPreference)
  idle : v.inTransaction = false → v.transactionReadPreference? = none
  /-- Whatever is done next is a move of the session. -/
  does : ∀ {what : Step}, what.On s id → what.forces = false →
    ∃ v', ((Scenario.step what).run s).2.run.client.sessions[id]? = some v' ∧
      v.Does what ((Scenario.step what).run s).1 (Play.sends (Scenario.step what) s) v'
  /-- A transaction is started in a session of a caller that has not ended and has no other. -/
  starts : ∀ {name : String} (options : Option TransactionOptions),
    s.sessions.lookup name = some id →
    ((∃ started, ((Scenario.step (.startTransaction name (.ok options))).run s).1 =
        .called none started) ↔
      v.implicit = false ∧ v.isEnded = false ∧ v.inTransaction = false)
  /-- Where none is started nothing has happened at all. -/
  refuses : ∀ {name : String} (options : Option TransactionOptions),
    s.sessions.lookup name = some id →
    ¬ (v.implicit = false ∧ v.isEnded = false ∧ v.inTransaction = false) →
    ∃ misuse, (Scenario.step (.startTransaction name (.ok options))).run s =
      (.called (some (Error.of (.transaction misuse))) v, s)
  /-- The next number is taken, unless the session has ended; then nothing has happened. -/
  numbers : ∀ {origin : ContextOrigin} {x : SessionContext},
    ((Scenario.contextOf origin).run s).1 = some x → x.session = some id →
    ∃ report s', (Scenario.step (.context origin true)).run s =
        (.advanced (if v.isEnded then none else some (v.txnNumber + 1)) report, s') ∧
      (v.isEnded = true → s' = s)
  /-- When the session ends its server session is given back as it is. -/
  returns : ∀ {name : String} {server : ServerSession}, s.sessions.lookup name = some id →
    v.server = some server → s.run.client.Ends id server v.timeout
      ((Scenario.step (.callSession name .finish)).run s).2.run.client

/-- The state machine of a session.  After every trace, each step makes one move of it. -/
theorem SessionTrace.proceeds {id : SessionId} {s : Scenario} {d : SessionRecord}
    (h : SessionTrace id s d) : ∃ v, Proceeds s id d v := by
  obtain ⟨v, found, held, hfits⟩ := h.fits
  refine ⟨v, found, hfits.implicit, hfits.finished, hfits.counter, ?_, ?_, ?_, ?_, ?_, ?_, ?_⟩
  · intro active
    refine ⟨_, hfits.begun active, ?_⟩
    unfold Session.transactionReadPreference?
    exact if_pos active
  · intro idle
    unfold Session.transactionReadPreference?
    exact if_neg (Bool.eq_false_iff.mp idle)
  · exact fun on unforced => Scenario.step_does on unforced found held
  · intro name options hname
    rw [Scenario.run_step_startTransaction hname found]
    obtain ⟨v', hs, hmay⟩ | ⟨misuse, hs, hmay⟩ := v.startTransaction_cases options
    · rw [hs]
      exact iff_of_true ⟨v', rfl⟩ hmay
    · rw [hs]
      exact iff_of_false (fun ⟨_, hcalled⟩ => by cases hcalled) hmay
  · intro name options hname hmay
    rw [Scenario.run_step_startTransaction hname found]
    obtain ⟨_, -, hmay'⟩ | ⟨misuse, hs, -⟩ := v.startTransaction_cases options
    · exact absurd hmay' hmay
    · exact ⟨misuse, by rw [hs]⟩
  · intro origin x horigin hx
    have hs : x.session? s.run.client = some v := (SessionContext.session?_eq hx _).trans found
    rw [Scenario.run_step_advance horigin]
    cases open_ : v.isEnded with
    | true =>
      rw [SessionContext.advance_of_ended hs open_]
      exact ⟨_, _, rfl, fun _ => rfl⟩
    | false =>
      rw [SessionContext.advance_of_open hs open_]
      exact ⟨_, _, rfl, nofun⟩
  · intro name server hname hv
    rw [Scenario.run_step_callSession hname]
    exact Client.endSession_ends found hv

namespace Lone

/-- A caller has a session under two names. -/
def cloned : Scenario :=
  .after client [.update primary, .startSession "s", .cloneSession "s" "t"]

/-- A transaction was started under one name, -/
def joined : Scenario :=
  ((Scenario.step (.startTransaction "t" (.ok (some ⟨some .primary⟩)))).run cloned).2

/-- and in it an insert was executed under the other. -/
def joint : Scenario :=
  ((Scenario.step (.perform (.ok insert) .primary (some "s"))).run joined).2

theorem trace_cloned : SessionTrace 0 cloned ⟨false, ⟨0, 0⟩, 0, none, false⟩ := by
  have hopened : SessionTrace 0 { Scenario.after client [.update primary] with
      run := ((openSession? false).on (Scenario.after client [.update primary]).run).2 }
      ⟨false, ⟨0, 0⟩, 0, none, false⟩ := .opened rfl rfl rfl
  exact hopened.elsewhere ⟨_, _, rfl, rfl, rfl, by decide⟩

theorem trace_joint :
    SessionTrace 0 joint ⟨false, ⟨0, 0⟩, 1, some (some ⟨some .primary⟩), false⟩ := by
  have hstart : Step.On cloned 0 (.startTransaction "t" (.ok (some ⟨some .primary⟩))) :=
    .start rfl _
  have hstarted : SessionTrace 0 joined ⟨false, ⟨0, 0⟩, 1, some (some ⟨some .primary⟩), false⟩ :=
    trace_cloned.stepped hstart rfl
  have hperform : Step.On joined 0 (.perform (.ok insert) .primary (some "s")) :=
    .perform rfl _ _
  exact hstarted.stepped hperform rfl

end Lone

/-- The transaction is under way, and no other can be started. -/
theorem proceeds_lone :
    (∃ v, Proceeds Lone.joint 0 ⟨false, ⟨0, 0⟩, 1, some (some ⟨some .primary⟩), false⟩ v) ∧
      Lone.joint.run.client.sessions.map (fun v => (v.transaction.state, v.key?)) =
        [(.inProgress, some ⟨0, 1⟩)] :=
  ⟨Lone.trace_joint.proceeds, by decide +kernel⟩

end ClusterClient
