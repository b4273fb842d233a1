/-
  ClusterClient.Proofs.Labels — the label that the executor adds.

  An operation in a transaction that fails on its way to the servers may be run again together with
  all of the transaction, and the executor says so with a label.  It looks at the transaction as
  the operation leaves it.  So what it adds depends on what a failed operation makes of the
  transaction: an abort ends it whatever comes of it, all others leave it as it was.

  Main statements: `execute_failed_inTransaction` and `Run.Held.relays`.
-/
import ClusterClient.Proofs.Bindings
import ClusterClient.Proofs.TransactionInserts
import ClusterClient.Proofs.Judgement

namespace ClusterClient

open Run

/-! ## §1. The label. -/

namespace Error

/-- The error came up on the way to a server or back: on the network, in selecting the server, or in
    waiting for a connection. -/
def Passing (e : Error) : Prop :=
  (∃ fault message, e.cause = .network fault message) ∨
    (∃ criteria cluster, e.cause = .noServer criteria cluster) ∨
    ∃ address, e.cause = .poolExhausted address

theorem passing_iff (e : Error) : (e.isNetwork || e.isTimeout) = true ↔ e.Passing := by
  unfold isNetwork isTimeout Passing
  cases e.cause <;> simp

end Error

/-- One label may be added, and when. -/
theorem hasLabel_labelTransient (e : Error) (x : SessionContext) (c : Client) (label : String) :
    (labelTransient e x c).hasLabel label = true ↔ e.hasLabel label = true ∨
      (label = Error.transientTransaction ∧ x.inTransaction c = true ∧ e.Passing ∧
        e.hasLabel Error.unknownCommitResult = false) := by
  have hcondition : (x.inTransaction c && (e.isNetwork || e.isTimeout) &&
      !e.hasLabel Error.unknownCommitResult) = true ↔ x.inTransaction c = true ∧ e.Passing ∧
        e.hasLabel Error.unknownCommitResult = false := by
    rw [Bool.and_eq_true, Bool.and_eq_true, e.passing_iff, Bool.not_eq_true', and_assoc]
  unfold labelTransient
  split
  case isTrue h => rw [Error.hasLabel_addLabel, and_iff_left (hcondition.mp h)]
  case isFalse h =>
    exact (or_iff_left fun ⟨_, hadded⟩ => h (hcondition.mpr hadded)).symm

/-- Outside of transactions the error is not touched. -/
theorem labelTransient_of_idle {e : Error} {x : SessionContext} {c : Client}
    (idle : x.inTransaction c = false) : labelTransient e x c = e := by
  unfold labelTransient
  rw [idle]
  rfl

/-! ## §2. The transaction after an operation. -/

section Effects

variable {s s' : Session} {operation : Operation} {result : Except Error Outcome}
variable {new : List Transmission}

/-- No operation makes a transaction active. -/
theorem Effect.inTransaction_of_idle (h : Effect s operation result new s')
    (idle : s.inTransaction = false) : s'.inTransaction = false := by
  cases h with
  | refused | other | uncommitted => exact idle
  | inserted made ne_nil each =>
    have hinsert : Effect s (.insert _) result new s' := .inserted made ne_nil each
    rw [hinsert.inTransaction_of_insert, idle]
  | committedAtOnce | committed | abortedAtOnce | aborted => rfl

/-- An operation that fails leaves the transaction active, unless it is an abort. -/
theorem Effect.inTransaction_of_error {e : Error} (h : Effect s operation (.error e) new s')
    (hop : operation ≠ .abort) : s'.inTransaction = s.inTransaction := by
  cases h with
  | refused | other | uncommitted => rfl
  | inserted made ne_nil each =>
    have hinsert : Effect s (.insert _) (.error e) new s' := .inserted made ne_nil each
    exact hinsert.inTransaction_of_insert
  | aborted => exact absurd rfl hop

/-- After an abort that fails it is not active. -/
theorem Effect.inTransaction_of_abort {e : Error} (h : Effect s .abort (.error e) new s') :
    s'.inTransaction = false := by
  cases h with
  | refused h => exact h rfl
  | other h => cases h
  | aborted => rfl

end Effects

/-- As many sessions are there as before. -/
def AsMany (r r' : Run) : Prop := r'.client.sessions.length = r.client.sessions.length

instance : IsPreorder Run AsMany where
  refl _ := rfl
  trans _ _ _ h h' := Eq.trans h' h

theorem asMany_of_same {r r' : Run} (h : r.client.SameSessions r'.client) : AsMany r r' :=
  congrArg List.length h.sessions

/-- Operations on a binding open no sessions. -/
theorem upholds_asMany : Upholds anywhere AsMany (fun _ => AsMany) (fun _ => AsMany) where
  elsewhere {r r'} h := by
    show r'.client.sessions.length = r.client.sessions.length
    rw [h]
  aside _ _ length := length
  happen h r := asMany_of_same (happen_quiet h r).toSameSessions
  broke _ _ _ := rfl
  leasing := .constant fun id r => asMany_of_same (release_quiet id r).toSameSessions
  lending := .constant fun lease r => asMany_of_same (checkIn_quiet lease r).toSameSessions
  conclude criteria s := .of_keeps fun r =>
    asMany_of_same ((selecting_quiet.conclude criteria s).keeps r).toSameSessions
  checkOut id := .of_keeps fun r => asMany_of_same (checkOut_quiet id r).toSameSessions

section Executing

variable {b : Binding} {r : Run} {operation : Operation}

/-- A context without a session gets none. -/
theorem execute_session?_of_none (hs : b.context.session? r.client = none) :
    b.context.session? ((operation.execute b).on r).2.client = none := by
  have hmany : ((operation.execute b).on r).2.client.sessions.length =
      r.client.sessions.length :=
    upholds_asMany.execute b operation (fun _ _ _ => trivial) r
  unfold SessionContext.session? at hs ⊢
  cases hid : b.context.session with
  | none => rfl
  | some id =>
    rw [hid, Option.bind_some, List.getElem?_eq_none_iff] at hs
    rw [Option.bind_some, List.getElem?_eq_none_iff]
    exact hmany.trans_le hs

/-- A session stays where it is, and what the operation has made of its transaction is told by the
    effect. -/
theorem Run.Held.execute_effect (held : r.Held) (operation : Operation) {s : Session}
    (found : b.context.session? r.client = some s) :
    ∃ new s', Effect s.still operation ((operation.execute b).on r).1 new s' ∧
      b.context.inTransaction ((operation.execute b).on r).2.client = s'.inTransaction := by
  obtain ⟨new, s', heffect, -, hshows⟩ :=
    execute_takes operation (held.kept_still found) (.of_found found)
  obtain ⟨s₁, hs₁, hlike⟩ := hshows.exists_like
  refine ⟨new, s', heffect, ?_⟩
  rw [SessionContext.inTransaction_eq, hs₁, ← hlike.inTransaction]
  rfl

/-- Where no transaction is active, none is afterwards. -/
theorem execute_inTransaction_of_idle (held : r.Held)
    (idle : b.context.inTransaction r.client = false) :
    b.context.inTransaction ((operation.execute b).on r).2.client = false := by
  cases hs : b.context.session? r.client with
  | none =>
    rw [SessionContext.inTransaction_eq, execute_session?_of_none hs]
    rfl
  | some s =>
    obtain ⟨new, s', heffect, hafter⟩ := held.execute_effect operation hs
    rw [hafter]
    refine heffect.inTransaction_of_idle ?_
    rw [SessionContext.inTransaction_eq, hs] at idle
    exact idle

/-- An operation that fails changes nothing about that, unless it is an abort. -/
theorem execute_failed_inTransaction (held : r.Held) (hop : operation ≠ .abort) {e : Error}
    (he : ((operation.execute b).on r).1 = .error e) :
    b.context.inTransaction ((operation.execute b).on r).2.client =
      b.context.inTransaction r.client := by
  cases hs : b.context.session? r.client with
  | none =>
    rw [SessionContext.inTransaction_eq, SessionContext.inTransaction_eq,
      execute_session?_of_none hs, hs]
  | some s =>
    obtain ⟨new, s', heffect, hafter⟩ := held.execute_effect operation hs
    rw [he] at heffect
    rw [hafter, heffect.inTransaction_of_error hop, SessionContext.inTransaction_eq, hs]
    rfl

/-- After an abort that fails no transaction is active. -/
theorem abort_failed_inTransaction (held : r.Held) {e : Error}
    (he : ((Operation.abort.execute b).on r).1 = .error e) :
    b.context.inTransaction ((Operation.abort.execute b).on r).2.client = false := by
  cases hs : b.context.session? r.client with
  | none =>
    rw [SessionContext.inTransaction_eq, execute_session?_of_none hs]
    rfl
  | some s =>
    obtain ⟨new, s', heffect, hafter⟩ := held.execute_effect .abort hs
    rw [he] at heffect
    rw [hafter]
    exact heffect.inTransaction_of_abort

end Executing

/-! ## §3. What the executor returns. -/

/-- The operation is one that may be sent twice, and its first attempt fails with this error. -/
def Operation.FailsFirst (b : Binding) (r : Run) (e : Error) : Operation → Prop
  | .insert i => ∃ command r', Failed b (i.request b.context) r command e r'
  | .commit => (∃ s, b.context.session? r.client = some s ∧
      (s.transaction.state = .inProgress ∨ s.transaction.state = .committed)) ∧
    ∃ command r', Failed b (endRequest "commitTransaction" b.context) r command e r'
  | .abort => (∃ s, b.context.session? r.client = some s ∧ s.transaction.state = .inProgress) ∧
    ∃ command r', Failed b (endRequest "abortTransaction" b.context) r command e r'
  | .runCommand _ | .dropCollection _ _ | .dropUser _ _ => False

/-- What comes of an operation on a binding, and what the executor makes of it; `active` says
    whether a transaction was active before. -/
structure Relayed (operation : Operation) (b : Binding) (r : Run) (active : Bool)
    (result : Except Error Outcome) : Prop where
  succeeded : ∀ o, ((operation.execute b).on r).1 = .ok o → result = .ok o
  /-- The kind of the error is the same, and at most one label is added. -/
  failed : ∀ e, ((operation.execute b).on r).1 = .error e →
    ∃ e', result = .error e' ∧ e'.cause = e.cause ∧
      ∀ label, e'.hasLabel label = true ↔ e.hasLabel label = true ∨
        (label = Error.transientTransaction ∧
          b.context.inTransaction ((operation.execute b).on r).2.client = true ∧ e.Passing ∧
          e.hasLabel Error.unknownCommitResult = false)
  /-- In a transaction it is always added to what failed on the way, but for aborts. -/
  transient : active = true → operation ≠ .abort → ∀ e,
    ((operation.execute b).on r).1 = .error e → e.Passing →
    e.hasLabel Error.unknownCommitResult = false →
    result = .error (e.addLabel Error.transientTransaction)
  /-- What failed is the first attempt, also if there was a second one. -/
  original : ∀ e e', operation.FailsFirst b r e → ((operation.execute b).on r).1 = .error e' →
    e' = e
  aborted : operation = .abort → ∀ e, ((operation.execute b).on r).1 = .error e →
    result = .error e
  outside : active = false → ∀ e, ((operation.execute b).on r).1 = .error e → result = .error e

/-- What the executor returns for an operation in a session, or in none. -/
structure Relays (operation : Operation) (preference : ReadPreference)
    (session : Option SessionId) (r : Run) : Prop where
  refused : operation.Refused preference session r.client →
    (perform operation preference session).on r =
      (.error (Error.of (.notPrimaryInTransaction preference)), r)
  /-- Only an operation without a session can be left without a binding. -/
  unbound : ¬ operation.Refused preference session r.client → ∀ e r₁,
    (Binding.bind (operation.preferred preference) session).on r = (.error e, r₁) →
    session = none ∧ (perform operation preference session).on r = (.error e, r₁)
  bound : ¬ operation.Refused preference session r.client → ∀ b r₁,
    (Binding.bind (operation.preferred preference) session).on r = (.ok b, r₁) →
    Relayed operation b r₁ (SessionContext.inTransaction ⟨session, false⟩ r.client)
      ((perform operation preference session).on r).1

section Original

variable {α : Type} {b : Binding} {request : Request α} {command : Command} {e e' : Error}
variable {r r' : Run}

/-- A second attempt that fails reports the first failure. -/
theorem secondAttempt_error {interpret : Interpretation α}
    (h : ((secondAttempt b command e interpret).on r).1 = .error e') : e' = e := by
  rcases hr : (reach b .write).on r with ⟨e₁ | ⟨source, lease⟩, r₁⟩
  · rw [secondAttempt_of_unreached hr] at h
    cases h
    rfl
  rw [secondAttempt_of_reached ((reach_ok_iff ..).mp hr)] at h
  cases hc : canRetryWrite r₁.client source.selected.description lease.description b.context with
  | false =>
    rw [resend_of_unable hc] at h
    cases h
    rfl
  | true =>
    rw [resend_of_able hc] at h
    generalize (attempt source lease command interpret).on _ = went at h
    obtain ⟨e₂ | a, r₂⟩ := went
    · cases h
      rfl
    · cases h

theorem Failed.error_eq (hf : Failed b request r command e r')
    (h : ((performRetryable b request).on r).1 = .error e') : e' = e := by
  rw [performRetryable_of_failed hf] at h
  split at h
  · exact secondAttempt_error h
  · cases h
    rfl

end Original

theorem Except.error_of_map {α β : Type} {f : α → β} {x : Except Error α} {e : Error}
    (h : x.map f = .error e) : x = .error e := by
  cases x with
  | error e' =>
    cases h
    rfl
  | ok a => cases h

/-- Whatever the second attempt meets, the failure is the first one. -/
theorem Operation.FailsFirst.error_eq {operation : Operation} {b : Binding} {r : Run}
    {e e' : Error} (hf : operation.FailsFirst b r e)
    (h : ((operation.execute b).on r).1 = .error e') : e' = e := by
  cases operation with
  | insert i =>
    obtain ⟨command, r', hf⟩ := hf
    refine hf.error_eq (Except.error_of_map (f := Outcome.inserted) ?_)
    rw [← h, Operation.execute, Exec.on_bind_pure]
  | commit =>
    obtain ⟨⟨s, hs, used⟩, command, r', hf⟩ := hf
    refine hf.error_eq ?_
    rw [show (Operation.commit.execute b).on r = _ from commitTransaction_used hs used] at h
    generalize (performRetryable b (endRequest "commitTransaction" b.context)).on r = went at h ⊢
    obtain ⟨e₁ | d, r₁⟩ := went
    · cases h
      rfl
    · cases h
  | abort =>
    obtain ⟨⟨s, hs, used⟩, command, r', hf⟩ := hf
    refine hf.error_eq (Except.error_of_map (f := fun _ => Outcome.done) ?_)
    rw [← h, show (Operation.abort.execute b).on r = _ from abortTransaction_inProgress hs used]
  | runCommand | dropCollection | dropUser => cases hf

/-- The error of an operation is labelled by what its transaction is then. -/
theorem Run.Held.relayed {r : Run} (held : r.Held) (operation : Operation) (b : Binding) :
    Relayed operation b r (b.context.inTransaction r.client)
      ((executeLabelled operation b).on r).1 := by
  have hresult : ∀ e, ((operation.execute b).on r).1 = .error e →
      ((executeLabelled operation b).on r).1 =
        .error (labelTransient e b.context ((operation.execute b).on r).2.client) := by
    intro e he
    rw [executeLabelled_on]
    generalize (operation.execute b).on r = went at he ⊢
    obtain ⟨_ | _, _⟩ := went <;> cases he
    rfl
  refine ⟨?_, ?_, ?_, fun e e' hf => hf.error_eq, ?_, ?_⟩
  · intro o ho
    rw [executeLabelled_on]
    generalize (operation.execute b).on r = went at ho ⊢
    obtain ⟨_ | _, _⟩ := went <;> cases ho
    rfl
  · intro e he
    exact ⟨_, hresult e he, cause_labelTransient _ _ _, hasLabel_labelTransient _ _ _⟩
  · intro active hop e he hpassing hknown
    -- A failure leaves the transaction active, so the label is added.
    have hafter := (execute_failed_inTransaction held hop he).trans active
    rw [hresult e he, labelTransient, if_pos]
    rw [hafter, (e.passing_iff).mpr hpassing, hknown]
    rfl
  · rintro rfl e he
    rw [hresult e he, labelTransient_of_idle (abort_failed_inTransaction held he)]
  · intro idle e he
    rw [hresult e he, labelTransient_of_idle (execute_inTransaction_of_idle held idle)]

/-- What the executor returns, for every operation and however it fails. -/
theorem Run.Held.relays {r : Run} (held : r.Held) (operation : Operation)
    (preference : ReadPreference) (session : Option SessionId) :
    Relays operation preference session r where
  refused h := by rw [perform_on, if_pos h]
  unbound h e r₁ hbind := by
    rw [perform_on, if_neg h, withBinding_of_error hbind]
    have hbound := bind_bound (operation.preferred preference) session r
    rw [hbind] at hbound
    cases hbound with
    | failed => exact ⟨rfl, rfl⟩
  bound h b r₁ hbind := by
    have hbound := bind_bound (operation.preferred preference) session r
    have hevolves := (sustains_evolves nowhere).bind (operation.preferred preference) session r
    rw [hbind] at hbound hevolves
    rw [perform_on, if_neg h, withBinding_of_ok hbind, ← hbound.inTransaction]
    exact (hevolves.held held).relayed operation b

namespace Lone

/-- The run in which both attempts to commit fail on the network. -/
def severed : Run := { joining.run with deployment := { joining.run.deployment with
  replies := [(address, [⟨.error (Error.of (.network .brokenPipe none)), [], []⟩,
    ⟨.error (Error.of (.network .connectionReset none)), [], []⟩])] } }

theorem held_severed : severed.Held :=
  (reachable_joining.elsewhere (r := severed) rfl).held

end Lone

/-- The commit was sent twice in the transaction; the failure is the first one, labelled. -/
theorem relays_lone :
    Lone.severed.Held ∧ Relays .commit .primary (some 0) Lone.severed ∧
      ((perform .commit .primary (some 0)).sends Lone.severed).length = 2 ∧
      (((perform .commit .primary (some 0)).on Lone.severed).1.map fun _ => ()).mapError
          (fun e => (e.cause.message, e.labels)) =
        .error ("I/O error: broken pipe", ["TransientTransactionError"]) :=
  ⟨Lone.held_severed, Lone.held_severed.relays .commit .primary (some 0), by decide +kernel,
    by decide +kernel⟩

end ClusterClient
