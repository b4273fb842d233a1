/-
  ClusterClient.Proofs.Ending — how a transaction ends.

  A commit or an abort is refused where there is nothing to end, settled at once where nothing was
  sent, and otherwise it is a retryable request, which may stop at any point on its way.  What
  comes of the request is told by the replies that its attempts meet: it succeeds exactly if one of
  the attempts gets a reply that passes.  The request leaves the transaction of the session as it
  was, whatever comes of it; so all that the session sees is what the operation does afterwards,
  which a commit does after a success only, and an abort in any case.

  Main statements: `performRetryable_ok_iff` (when a retryable request succeeds),
  `Run.Held.commits_and_aborts` (both operations, from every state of the transaction).
-/
import ClusterClient.Proofs.Reachable
import ClusterClient.Proofs.Numbers

namespace ClusterClient

open Run

variable {α : Type}

/-! ## §1. Replies that pass. -/

/-- The next reply of the server on the connection is a success, and its interpretation is this. -/
def Run.Passes (r : Run) (lease : Lease) (interpret : Interpretation α) (a : α) : Prop :=
  ∃ reply, (r.deployment.nextReply lease.description.address).1.answer = .ok reply ∧
    reply.validate = .ok reply ∧ interpret reply lease.description.address = .ok a

/-- A reply is validated as it is. -/
theorem Document.eq_of_validate {reply d : Document} (h : reply.validate = .ok d) : d = reply := by
  unfold validate at h
  split at h
  · cases h
    rfl
  · split at h <;> cases h

section Attempts

variable {b : Binding} {request : Request α} {r : Run} {a : α}

/-- What comes of a command is the next reply, validated. -/
theorem send_result (lease : Lease) (command : Command) (x : SessionContext) (r : Run) :
    ((send lease command x).on r).1 =
      (r.deployment.nextReply lease.description.address).1.answer >>= Document.validate := by
  simp only [send, Exec.on_bind, Exec.on_lift, on_currentClient, on_emit, on_observe]
  rw [(follow_on ..).1]
  rfl

/-- An attempt succeeds exactly if the reply passes. -/
theorem attempt_ok_iff (source : Source) (lease : Lease) (command : Command)
    (interpret : Interpretation α) (r : Run) (a : α) :
    ((attempt source lease command interpret).on r).1 = .ok a ↔ r.Passes lease interpret a := by
  rw [attempt_on, send_result]
  unfold Passes
  cases (r.deployment.nextReply lease.description.address).1.answer with
  | error e => exact ⟨nofun, nofun⟩
  | ok reply =>
    show (reply.validate >>= fun reply => interpret reply lease.description.address) = .ok a ↔ _
    cases hv : reply.validate with
    | error e =>
      refine ⟨nofun, fun ⟨_, hreply, hvalid, _⟩ => ?_⟩
      cases hreply
      rw [hv] at hvalid
      cases hvalid
    | ok d =>
      obtain rfl := Document.eq_of_validate hv
      refine ⟨fun hpass => ⟨d, rfl, hv, hpass⟩, fun ⟨_, hreply, _, hpass⟩ => ?_⟩
      cases hreply
      exact hpass

/-! ## §2. When a retryable request succeeds. -/

variable (b request r) in
/-- In this run the request sends its command on the connection, for the first time or, after a
    failure, for the second. -/
inductive Attempted : Run → Lease → Prop where
  | first {source : Source} {lease : Lease} {command : Command} {r₁ : Run}
    (h : Opened b request r source lease command r₁) : Attempted r₁ lease
  | second {command : Command} {e : Error} {source : Source} {lease : Lease} {r' r'' : Run}
    (h : Failed b request r command e r') (chance : SecondChance b r' command e source lease r'') :
    Attempted r'' lease

variable (b request r) in
/-- One of the attempts of the request gets a reply that passes. -/
def Answered (a : α) : Prop :=
  ∃ r₁ lease, Attempted b request r r₁ lease ∧ r₁.Passes lease request.interpret a

theorem Opened.result_of_passes {source : Source} {lease : Lease} {command : Command} {r₁ : Run}
    (h : Opened b request r source lease command r₁) (hp : r₁.Passes lease request.interpret a) :
    ((performRetryable b request).on r).1 = .ok a := by
  have hresult := (attempt_ok_iff source lease command request.interpret r₁ a).mpr hp
  rcases ha : (attempt source lease command request.interpret).on r₁ with ⟨result, r₂⟩
  rw [ha] at hresult
  obtain rfl : result = .ok a := hresult
  exact (ends_succeeded h ha).result

theorem Failed.result_of_passes {source : Source} {lease : Lease} {command : Command} {e : Error}
    {r' r'' : Run} (h : Failed b request r command e r')
    (chance : SecondChance b r' command e source lease r'')
    (hp : r''.Passes lease request.interpret a) :
    ((performRetryable b request).on r).1 = .ok a := by
  obtain ⟨source₁, lease₁, r₁, r₂, hopen, ha, rfl⟩ := h.gaveBack
  -- That the command is sent again is told before, which changes no reply.
  have hresult := (attempt_ok_iff source lease command request.interpret
    ((emit (.retrying command.name source.selected.description.address e)).on r'').2 a).mpr hp
  rw [(ends_resent hopen ha chance).result, hresult]
  rfl

/-- A retryable request succeeds exactly if one of its attempts gets a reply that passes, wherever
    else it can stop. -/
theorem performRetryable_ok_iff :
    ((performRetryable b request).on r).1 = .ok a ↔ Answered b request r a := by
  constructor
  · intro hok
    have hcourse := performRetryable_course b request r
    generalize (performRetryable b request).on r = went at hok hcourse
    obtain ⟨result, r'⟩ := went
    obtain rfl : result = .ok a := hok
    cases hcourse with
    | @succeeded source lease command _ r₁ _ hopen ha =>
      refine ⟨r₁, lease, .first hopen, (attempt_ok_iff source lease command _ r₁ a).mp ?_⟩
      rw [ha]
    | @succeededAgain command e source lease _ _ r'' _ hfailed hmay hr hable ha =>
      have hpasses := (attempt_ok_iff source lease command request.interpret
        ((emit (.retrying command.name source.selected.description.address e)).on r'').2 a).mp
        (by rw [ha])
      exact ⟨r'', lease, .second hfailed (.of_mayRetry hmay hr hable), hpasses⟩
  · rintro ⟨_, _, hopen | ⟨hfailed, chance⟩, hp⟩
    · exact hopen.result_of_passes hp
    · exact hfailed.result_of_passes chance hp

end Attempts

/-! ## §3. The transaction of a session. -/

/-- The session of the context has this transaction, with this number. -/
def SessionContext.At (x : SessionContext) (c : Client) (t : Transaction) (n : Nat) : Prop :=
  ∃ s, x.session? c = some s ∧ s.transaction = t ∧ s.txnNumber = n

section Following

variable {b : Binding} {x : SessionContext} {c : Client} {r : Run} {s : Session}

theorem Shows.at {k : Nat} (h : Shows x c k (some s)) : x.At c s.transaction s.txnNumber := by
  obtain ⟨s₀, hs, hlike⟩ := h.exists_like
  exact ⟨s₀, hs, hlike.transaction, hlike.txnNumber⟩

theorem SessionContext.At.markAs {t : Transaction} {n : Nat} (h : x.At c t n)
    (state : TransactionState) :
    x.At (x.modify (Session.markAs state) c) { t with state := state } n := by
  obtain ⟨s, hs, rfl, rfl⟩ := h
  refine ⟨s.markAs state, ?_, rfl, rfl⟩
  rw [session?_modify, hs]
  rfl

/-- Sending the end of a transaction does not change it, whatever comes of it. -/
theorem endRequest_at (held : r.Held) (hs : b.context.session? r.client = some s) (name : String) :
    b.context.At ((performRetryable b (endRequest name b.context)).on r).2.client
      s.transaction s.txnNumber := by
  have hafter : Shows b.context
      ((performRetryable b (endRequest name b.context)).on r).2.client 0 (some s.still) := by
    have hsending := endRequest_sending name (held.kept_still hs).allKept (.of_found hs)
    generalize (performRetryable b (endRequest name b.context)).on r = went at hsending
    obtain ⟨result, r'⟩ := went
    cases hsending with
    | unsent _ shows => exact shows
    | sent made shows => exact made.1 ▸ shows
  rw [← s.txnNumber_still]
  exact hafter.at

end Following

/-! ## §4. Commits and aborts. -/

section Ending

variable (b : Binding) (r : Run)

namespace Binding

/-- One of the attempts to end the transaction gets a reply that is valid and reports no write
    concern failure. -/
def Acknowledged (name : String) : Prop :=
  ∃ reply, Answered b (endRequest name b.context) r reply

/-- The operation is refused as a misuse of transactions: nothing is sent, and nothing changes. -/
def Refuses (operation : Operation) : Prop :=
  ∃ misuse, (operation.execute b).on r = (.error (Error.of (.transaction misuse)), r)

/-- After the operation the session has this transaction, with this number. -/
def Leaves (operation : Operation) (t : Transaction) (n : Nat) : Prop :=
  b.context.At ((operation.execute b).on r).2.client t n

/-- What a commit does. -/
structure Commits : Prop where
  unbound : b.context.session? r.client = none → b.Refuses r .commit
  idle : ∀ {s}, b.context.session? r.client = some s →
    s.transaction.state = .none ∨ s.transaction.state = .aborted → b.Refuses r .commit
  /-- Where nothing was sent, nothing is sent for the commit either. -/
  unused : ∀ {s}, b.context.session? r.client = some s → s.transaction.state = .starting →
    Ends (Operation.commit.execute b) r (.ok .done) [] ∧
      b.Leaves r .commit { s.transaction with state := .committed } s.txnNumber
  /-- Otherwise it succeeds exactly if it is acknowledged, and if not, the transaction is what it
      was. -/
  used : ∀ {s}, b.context.session? r.client = some s →
    s.transaction.state = .inProgress ∨ s.transaction.state = .committed →
      (b.Acknowledged r "commitTransaction" ∧
        ((Operation.commit.execute b).on r).1 = .ok .done ∧
        b.Leaves r .commit { s.transaction with state := .committed } s.txnNumber) ∨
      (¬b.Acknowledged r "commitTransaction" ∧
        (∃ e, ((Operation.commit.execute b).on r).1 = .error e) ∧
        b.Leaves r .commit s.transaction s.txnNumber)

/-- What an abort does. -/
structure Aborts : Prop where
  unbound : b.context.session? r.client = none → b.Refuses r .abort
  /-- There is nothing to abort before a transaction, after a commit and after an abort. -/
  idle : ∀ {s}, b.context.session? r.client = some s → s.inTransaction = false →
    b.Refuses r .abort
  unused : ∀ {s}, b.context.session? r.client = some s → s.transaction.state = .starting →
    Ends (Operation.abort.execute b) r (.ok .done) [] ∧
      b.Leaves r .abort { s.transaction with state := .aborted } s.txnNumber
  /-- Otherwise it reports what comes of the request, and the transaction is aborted in any
      case. -/
  used : ∀ {s}, b.context.session? r.client = some s → s.transaction.state = .inProgress →
    ((Operation.abort.execute b).on r).1 =
      ((performRetryable b (endRequest "abortTransaction" b.context)).on r).1.map (fun _ => .done) ∧
    (Operation.abort.execute b).sends r =
      (performRetryable b (endRequest "abortTransaction" b.context)).sends r ∧
    b.Leaves r .abort { s.transaction with state := .aborted } s.txnNumber

variable {b r} {s : Session}

/-- What is settled at once is settled without the servers. -/
theorem settlesAtOnce {operation : Operation} {state : TransactionState}
    (hs : b.context.session? r.client = some s)
    (hon : (operation.execute b).on r =
      (.ok .done, { r with client := b.context.modify (Session.markAs state) r.client })) :
    Ends (operation.execute b) r (.ok .done) [] ∧
      b.Leaves r operation { s.transaction with state := state } s.txnNumber := by
  have hat : b.context.At r.client s.transaction s.txnNumber := ⟨s, hs, rfl, rfl⟩
  refine ⟨⟨by rw [hon], by rw [hon, List.append_nil]⟩, ?_⟩
  unfold Leaves
  rw [hon]
  exact hat.markAs state

theorem commits (held : r.Held) : b.Commits r where
  unbound hs := ⟨.noSessionToCommit, commitTransaction_unbound hs⟩
  idle hs hidle := ⟨.notStarted, commitTransaction_over hs hidle⟩
  unused hs hstate := settlesAtOnce hs (commitTransaction_starting hs hstate)
  used hs hused := by
    have hon : (Operation.commit.execute b).on r = _ := commitTransaction_used hs hused
    have hat := endRequest_at held hs "commitTransaction"
    unfold Acknowledged Leaves
    rw [hon]
    simp only [← performRetryable_ok_iff]
    -- The request succeeds or fails, and the session is told of success only.
    generalize (performRetryable b (endRequest "commitTransaction" b.context)).on r = went at hat ⊢
    obtain ⟨e | d, r'⟩ := went
    · exact .inr ⟨nofun, ⟨e, rfl⟩, hat⟩
    · exact .inl ⟨⟨d, rfl⟩, rfl, hat.markAs .committed⟩

theorem aborts (held : r.Held) : b.Aborts r where
  unbound hs := ⟨.noSessionToAbort, abortTransaction_unbound hs⟩
  idle hs hidle := abortTransaction_over hs hidle
  unused hs hstate := settlesAtOnce hs (abortTransaction_starting hs hstate)
  used hs hused := by
    have hon : (Operation.abort.execute b).on r = _ := abortTransaction_inProgress hs hused
    have hat := endRequest_at held hs "abortTransaction"
    unfold Exec.sends Leaves
    rw [hon]
    exact ⟨rfl, rfl, hat.markAs .aborted⟩

end Binding

/-- Commits and aborts on any binding, from every state of the transaction and wherever the request
    stops that ends it.  A session that has not ended has a holder, as it does in all that can come
    about (`Scenario.Reachable.held`). -/
theorem Run.Held.commits_and_aborts (held : r.Held) : b.Commits r ∧ b.Aborts r :=
  ⟨Binding.commits held, Binding.aborts held⟩

end Ending

namespace Lone

/-- The scenario in which an insert was sent in the transaction. -/
def joining : Scenario :=
  ((Scenario.step (.perform (.ok insert) .primary (some "s"))).run begun).2

theorem reachable_joining : joining.Reachable := reachable_begun.stepped _

/-- The next command fails on the network. -/
def flaky : Run := losing joining.run

theorem held_flaky : flaky.Held :=
  (reachable_joining.elsewhere (r := flaky) rfl).held

end Lone

/-- The second attempt to commit is acknowledged. -/
theorem commits_and_aborts_lone :
    Lone.flaky.Held ∧ Lone.bound.Acknowledged Lone.flaky "commitTransaction" ∧
      Lone.bound.Commits Lone.flaky ∧ Lone.bound.Aborts Lone.flaky ∧
      ((Operation.commit.execute Lone.bound).sends Lone.flaky).length = 2 := by
  obtain ⟨hcommits, haborts⟩ := Lone.held_flaky.commits_and_aborts Lone.bound
  obtain ⟨s, hs, hstate⟩ : ∃ s, Lone.bound.context.session? Lone.flaky.client = some s ∧
      s.transaction.state = .inProgress := ⟨_, rfl, by decide +kernel⟩
  have hok : ((Operation.commit.execute Lone.bound).on Lone.flaky).1.isOk = true := by
    decide +kernel
  refine ⟨Lone.held_flaky, ?_, hcommits, haborts, by decide +kernel⟩
  obtain ⟨hacknowledged, -⟩ | ⟨-, ⟨e, he⟩, -⟩ := hcommits.used hs (.inl hstate)
  · exact hacknowledged
  · rw [he] at hok
    cases hok

end ClusterClient
