/-
  ClusterClient.Proofs.Course — the course that a request takes.

  A request reaches a server and a connection, does its work there and gives both back.  `reach`
  and `giveBack` name the two ends, so that the runs between them can be spoken of.  A request
  with one attempt is its work between the two (`within_on`).  A retryable request may stop at
  seven places; for each there is an equation that says what comes of the request when it stops
  there, and together they are all: `performRetryable_course`.

  Main statements: `reach_ok_iff` and `reach_error_iff` (what it is to reach a connection),
  `within_on`, `performRetryable_course`.
-/
import ClusterClient.Proofs.Quiet

namespace ClusterClient

open Run

variable {α : Type}

/-! ## §1. Reaching a connection. -/

/-- Leases a server and one of its connections; without a connection the server is given back. -/
def reach (b : Binding) (intent : Intent) : Exec (Source × Lease) := do
  let source ← b.source intent
  match ← observe source.connection with
  | .ok lease => return (source, lease)
  | .error e =>
    source.release
    throw e

/-- Gives back the connection and the server. -/
def giveBack (source : Source) (lease : Lease) : Act Unit := do
  checkIn lease
  source.release

/-- The binding leases the server and the server lends the connection. -/
def Reached (b : Binding) (intent : Intent) (r : Run) (source : Source) (lease : Lease)
    (r' : Run) : Prop :=
  ∃ r₁, (b.source intent).on r = (.ok source, r₁) ∧ source.connection.on r₁ = (.ok lease, r')

theorem reach_ok_iff (b : Binding) (intent : Intent) (r r' : Run) (source : Source)
    (lease : Lease) :
    (reach b intent).on r = (.ok (source, lease), r') ↔ Reached b intent r source lease r' := by
  unfold reach Reached
  rw [Exec.on_bind]
  -- Both sides run the same actions, so they can differ only where one of them fails.
  rcases (b.source intent).on r with ⟨e | source', r₁⟩
  · simp
  · simp only [Exec.on_bind, on_observe]
    rcases hc : source'.connection.on r₁ with ⟨e | lease', r₂⟩
    · simp only [Exec.on_bind, Exec.on_lift, Exec.on_throw]
      refine ⟨(nomatch ·), fun ⟨_, hs, hl⟩ => ?_⟩
      cases hs
      rw [hc] at hl
      cases hl
    · simp only [Exec.on_pure, Prod.mk.injEq, Except.ok.injEq]
      refine ⟨fun ⟨⟨h, h'⟩, h''⟩ => ⟨r₁, ⟨h, rfl⟩, ?_⟩, fun ⟨_, hs, hl⟩ => ?_⟩
      · rw [← h, hc, h', h'']
      · rw [← hs.1, ← hs.2, hc] at hl
        cases hl
        exact ⟨⟨hs.1, rfl⟩, rfl⟩

/-- Nothing is reached when there is no server or the server has no connection. -/
theorem reach_error_iff (b : Binding) (intent : Intent) (r r' : Run) (e : Error) :
    (reach b intent).on r = (.error e, r') ↔
      (b.source intent).on r = (.error e, r') ∨
        ∃ source r₁ r₂, (b.source intent).on r = (.ok source, r₁) ∧
          source.connection.on r₁ = (.error e, r₂) ∧ r' = (source.release.on r₂).2 := by
  unfold reach
  rw [Exec.on_bind]
  rcases (b.source intent).on r with ⟨e' | source, r₁⟩
  · simp
  · simp only [Exec.on_bind, on_observe]
    rcases hc : source.connection.on r₁ with ⟨e' | lease, r₂⟩
    · simp only [Exec.on_bind, Exec.on_lift, Exec.on_throw, Prod.mk.injEq, Except.error.injEq]
      refine ⟨fun ⟨h, h'⟩ => .inr ⟨source, r₁, r₂, ⟨rfl, rfl⟩, ?_, h'.symm⟩, fun h => ?_⟩
      · rw [hc, h]
      · obtain ⟨h, -⟩ | ⟨_, _, _, hs, hl, h⟩ := h
        · cases h
        · cases hs.1
          rw [← hs.2, hc] at hl
          cases hl
          exact ⟨rfl, h.symm⟩
    · simp only [Exec.on_pure]
      refine ⟨(nomatch ·), fun h => ?_⟩
      obtain h | ⟨_, _, _, hs, hl, -⟩ := h
      · cases h
      · cases hs
        rw [hc] at hl
        cases hl

theorem reach_silent (b : Binding) (intent : Intent) : (reach b intent).Keeps Silent := by
  refine .bind (source_silent b intent) fun source =>
    .bind (.observe (checkOut_quiet _).silent) fun result => ?_
  cases result with
  | ok lease => exact .pure _
  | error e => exact .bind (.lift source.release_silent) fun _ => .throw e

theorem sent_of_unreached {b : Binding} {intent : Intent} {r r' : Run} {e : Error}
    (h : (reach b intent).on r = (.error e, r')) : r'.sent = r.sent := by
  have hs := reach_silent b intent r
  rwa [h] at hs

theorem giveBack_silent (source : Source) (lease : Lease) : (giveBack source lease).Keeps Silent :=
  .bind (checkIn_quiet lease).silent fun _ => source.release_silent

theorem sent_emit (event : Event) (r : Run) : ((emit event).on r).2.sent = r.sent := rfl

theorem sent_giveBack (source : Source) (lease : Lease) (r : Run) :
    ((giveBack source lease).on r).2.sent = r.sent :=
  giveBack_silent source lease r

theorem leaseSource_context {b : Binding} {criteria : Criteria} {r r' : Run} {source : Source}
    (h : (b.leaseSource criteria).on r = (.ok source, r')) : source.context = b.context := by
  unfold Binding.leaseSource at h
  rw [Exec.on_bind] at h
  rcases hs : (select criteria).on r with ⟨e | selected, r₁⟩ <;> rw [hs] at h
  · cases h
  · cases h
    rfl

/-- A source works in the session of its binding. -/
theorem source_context {b : Binding} {intent : Intent} {r r' : Run} {source : Source}
    (h : (b.source intent).on r = (.ok source, r')) : source.context = b.context := by
  cases intent with
  | write => exact leaseSource_context h
  | read =>
    simp only [Binding.source, Exec.on_bind, Exec.on_lift, on_currentClient] at h
    split at h
    · cases h
    · exact leaseSource_context h

theorem Reached.context {b : Binding} {intent : Intent} {r r' : Run} {source : Source}
    {lease : Lease} (h : Reached b intent r source lease r') : source.context = b.context := by
  obtain ⟨r₁, hs, -⟩ := h
  exact source_context hs

/-- Nothing is sent until there is a connection. -/
theorem Reached.sent_eq {b : Binding} {intent : Intent} {r r' : Run} {source : Source}
    {lease : Lease} (h : Reached b intent r source lease r') : r'.sent = r.sent := by
  have hr := reach_silent b intent r
  rwa [(reach_ok_iff b intent r r' source lease).mpr h] at hr

/-! ## §2. One attempt. -/

/-- Work on a connection of a server stands between reaching them and giving them back. -/
theorem within_on (b : Binding) (intent : Intent) (work : Source → Lease → Exec α) (r : Run) :
    (withSource b intent fun source => withConnection source (work source)).on r =
      match (reach b intent).on r with
      | (.error e, r') => (.error e, r')
      | (.ok (source, lease), r') =>
        (((work source lease).on r').1,
          ((giveBack source lease).on ((work source lease).on r').2).2) := by
  unfold withSource reach
  rw [Exec.on_bind, Exec.on_bind]
  rcases (b.source intent).on r with ⟨e | source, r₁⟩
  · rfl
  -- Without a connection the source is released on both sides, by cleanup and by hand.
  · simp only [Exec.on_bind, on_observe, on_ensuring, withConnection]
    rcases source.connection.on r₁ with ⟨e | lease, r₂⟩ <;> rfl

/-! ## §3. Two attempts. -/

section TwoAttempts

variable (b : Binding) (request : Request α) (r : Run)

/-- A server and a connection are reached, and the command is made for them. -/
structure Opened (source : Source) (lease : Lease) (command : Command) (r' : Run) : Prop where
  made : ∃ r₁, Reached b .write r source lease r₁ ∧
    (request.create source.selected.description lease.description).on r₁ = (.ok command, r')

/-- The first attempt to send the command fails, and what it leased is given back. -/
structure Failed (command : Command) (e : Error) (r' : Run) : Prop where
  gaveBack : ∃ source lease r₁ r₂, Opened b request r source lease command r₁ ∧
    (attempt source lease command request.interpret).on r₁ = (.error e, r₂) ∧
    r' = ((giveBack source lease).on r₂).2

variable {b request r}

theorem performRetryable_of_unreached {e : Error} {r' : Run}
    (h : (reach b .write).on r = (.error e, r')) :
    (performRetryable b request).on r = (.error e, r') := by
  unfold performRetryable firstAttempt
  rw [Exec.on_bind, within_on, h]

theorem performRetryable_of_unmade {source : Source} {lease : Lease} {e : Error} {r₁ r₂ : Run}
    (h : Reached b .write r source lease r₁)
    (hc : (request.create source.selected.description lease.description).on r₁ = (.error e, r₂)) :
    (performRetryable b request).on r = (.error e, ((giveBack source lease).on r₂).2) := by
  unfold performRetryable firstAttempt
  rw [Exec.on_bind, within_on, (reach_ok_iff ..).mpr h]
  simp only [Exec.on_bind, hc]

theorem performRetryable_of_succeeded {source : Source} {lease : Lease} {command : Command}
    {a : α} {r₁ r₂ : Run} (h : Opened b request r source lease command r₁)
    (ha : (attempt source lease command request.interpret).on r₁ = (.ok a, r₂)) :
    (performRetryable b request).on r = (.ok a, ((giveBack source lease).on r₂).2) := by
  obtain ⟨r₀, hr, hc⟩ := h.made
  unfold performRetryable firstAttempt
  rw [Exec.on_bind, within_on, (reach_ok_iff ..).mpr hr]
  simp only [Exec.on_bind, hc, on_observe, ha, Exec.on_pure]

/-- Whether the first failure is the last is decided by what failed. -/
theorem performRetryable_of_failed {command : Command} {e : Error} {r' : Run}
    (h : Failed b request r command e r') :
    (performRetryable b request).on r =
      if mayRetry command e then (secondAttempt b command e request.interpret).on r'
      else (.error e, r') := by
  obtain ⟨source, lease, r₁, r₂, ho, ha, rfl⟩ := h.gaveBack
  obtain ⟨r₀, hr, hc⟩ := ho.made
  unfold performRetryable firstAttempt
  rw [Exec.on_bind, within_on, (reach_ok_iff ..).mpr hr]
  simp only [Exec.on_bind, hc, on_observe, ha, Exec.on_pure, Exec.on_ite, Exec.on_throw]

theorem secondAttempt_of_unreached {command : Command} {first e : Error}
    {interpret : Interpretation α} {r' : Run} (h : (reach b .write).on r = (.error e, r')) :
    (secondAttempt b command first interpret).on r =
      (.error first, ((emit (.retryUnavailable command.name e)).on r').2) := by
  unfold secondAttempt
  rw [Exec.on_bind, on_observe]
  -- Without a server there is nothing to release before the failure is told.
  obtain hs | ⟨source, r₁, r₂, hs, hc, rfl⟩ := (reach_error_iff b .write r r' e).mp h
  · rw [hs]
    rfl
  · simp only [hs, on_ensuring, resendFrom, Exec.on_bind, on_observe, hc]
    rfl

theorem secondAttempt_of_reached {command : Command} {first : Error}
    {interpret : Interpretation α} {source : Source} {lease : Lease} {r' : Run}
    (h : Reached b .write r source lease r') :
    (secondAttempt b command first interpret).on r =
      (((resend b source lease command first interpret).on r').1,
        ((giveBack source lease).on
          ((resend b source lease command first interpret).on r').2).2) := by
  obtain ⟨r₁, hs, hc⟩ := h
  unfold secondAttempt
  simp only [Exec.on_bind, on_observe, hs, on_ensuring, resendFrom, hc]
  rfl

theorem resend_of_unable {source : Source} {lease : Lease} {command : Command} {first : Error}
    {interpret : Interpretation α}
    (h : canRetryWrite r.client source.selected.description lease.description b.context = false) :
    (resend b source lease command first interpret).on r =
      (.error first,
        ((emit (.retryAbandoned command.name source.selected.description.address)).on r).2) := by
  simp only [resend, Exec.on_bind, Exec.on_lift, on_currentClient, h]
  rfl

/-- What the second attempt reports is its own success or the first failure. -/
theorem resend_of_able {source : Source} {lease : Lease} {command : Command} {first : Error}
    {interpret : Interpretation α}
    (h : canRetryWrite r.client source.selected.description lease.description b.context = true) :
    (resend b source lease command first interpret).on r =
      match (attempt source lease command interpret).on
        ((emit (.retrying command.name source.selected.description.address first)).on r).2 with
      | (.ok a, r') => (.ok a, r')
      | (.error e, r') => (.error first, ((emit (.retryFailed command.name e)).on r').2) := by
  simp only [resend, Exec.on_bind, Exec.on_lift, on_currentClient, h, if_true, on_observe]
  rcases (attempt source lease command interpret).on _ with ⟨_ | _, _⟩ <;> rfl

/-! ## §4. The whole course. -/

variable (b request r)

/-- Where a retryable request stops: what comes of it there, and the run that it leaves. -/
inductive Course : Except Error α → Run → Prop where
  | unreached {e : Error} {r' : Run} (h : (reach b .write).on r = (.error e, r')) :
    Course (.error e) r'
  | unmade {source : Source} {lease : Lease} {e : Error} {r₁ r₂ : Run}
    (h : Reached b .write r source lease r₁)
    (hc : (request.create source.selected.description lease.description).on r₁ = (.error e, r₂)) :
    Course (.error e) ((giveBack source lease).on r₂).2
  | succeeded {source : Source} {lease : Lease} {command : Command} {a : α} {r₁ r₂ : Run}
    (h : Opened b request r source lease command r₁)
    (ha : (attempt source lease command request.interpret).on r₁ = (.ok a, r₂)) :
    Course (.ok a) ((giveBack source lease).on r₂).2
  | final {command : Command} {e : Error} {r' : Run} (h : Failed b request r command e r')
    (hm : mayRetry command e = false) : Course (.error e) r'
  | unreachedAgain {command : Command} {e e' : Error} {r' r'' : Run}
    (h : Failed b request r command e r') (hm : mayRetry command e = true)
    (hr : (reach b .write).on r' = (.error e', r'')) :
    Course (.error e) ((emit (.retryUnavailable command.name e')).on r'').2
  | abandoned {command : Command} {e : Error} {source : Source} {lease : Lease} {r' r'' : Run}
    (h : Failed b request r command e r') (hm : mayRetry command e = true)
    (hr : Reached b .write r' source lease r'')
    (hc : canRetryWrite r''.client source.selected.description lease.description b.context
      = false) :
    Course (.error e) ((giveBack source lease).on
      ((emit (.retryAbandoned command.name source.selected.description.address)).on r'').2).2
  | succeededAgain {command : Command} {e : Error} {source : Source} {lease : Lease} {a : α}
    {r' r'' r₃ : Run} (h : Failed b request r command e r') (hm : mayRetry command e = true)
    (hr : Reached b .write r' source lease r'')
    (hc : canRetryWrite r''.client source.selected.description lease.description b.context = true)
    (ha : (attempt source lease command request.interpret).on
      ((emit (.retrying command.name source.selected.description.address e)).on r'').2
        = (.ok a, r₃)) :
    Course (.ok a) ((giveBack source lease).on r₃).2
  | failedAgain {command : Command} {e e' : Error} {source : Source} {lease : Lease}
    {r' r'' r₃ : Run} (h : Failed b request r command e r') (hm : mayRetry command e = true)
    (hr : Reached b .write r' source lease r'')
    (hc : canRetryWrite r''.client source.selected.description lease.description b.context = true)
    (ha : (attempt source lease command request.interpret).on
      ((emit (.retrying command.name source.selected.description.address e)).on r'').2
        = (.error e', r₃)) :
    Course (.error e)
      ((giveBack source lease).on ((emit (.retryFailed command.name e')).on r₃).2).2

/-- After a first failure that allows it, the second attempt decides. -/
theorem Failed.course {command : Command} {e : Error} {r' : Run}
    (h : Failed b request r command e r') :
    Course b request r ((performRetryable b request).on r).1
      ((performRetryable b request).on r).2 := by
  rw [performRetryable_of_failed h]
  cases hm : mayRetry command e with
  | false => exact .final h hm
  | true =>
    rw [if_pos rfl]
    rcases hr : (reach b .write).on r' with ⟨e' | ⟨source, lease⟩, r''⟩
    · rw [secondAttempt_of_unreached hr]
      exact .unreachedAgain h hm hr
    · replace hr := (reach_ok_iff ..).mp hr
      rw [secondAttempt_of_reached hr]
      cases hc : canRetryWrite r''.client source.selected.description lease.description
        b.context with
      | false =>
        rw [resend_of_unable hc]
        exact .abandoned h hm hr hc
      | true =>
        rw [resend_of_able hc]
        rcases ha : (attempt source lease command request.interpret).on
          ((emit (.retrying command.name source.selected.description.address e)).on r'').2
          with ⟨e' | a, r₃⟩
        · exact .failedAgain h hm hr hc ha
        · exact .succeededAgain h hm hr hc ha

theorem performRetryable_course :
    Course b request r ((performRetryable b request).on r).1
      ((performRetryable b request).on r).2 := by
  -- One case for each action that can fail, in the order in which they are done.
  rcases hr : (reach b .write).on r with ⟨e | ⟨source, lease⟩, r₁⟩
  · rw [performRetryable_of_unreached hr]
    exact .unreached hr
  · replace hr := (reach_ok_iff ..).mp hr
    rcases hc : (request.create source.selected.description lease.description).on r₁
      with ⟨e | command, r₂⟩
    · rw [performRetryable_of_unmade hr hc]
      exact .unmade hr hc
    · have ho : Opened b request r source lease command r₂ := ⟨r₁, hr, hc⟩
      rcases ha : (attempt source lease command request.interpret).on r₂ with ⟨e | a, r₃⟩
      · exact Failed.course b request r ⟨source, lease, r₂, r₃, ho, ha, rfl⟩
      · rw [performRetryable_of_succeeded ho ha]
        exact .succeeded ho ha

end TwoAttempts

end ClusterClient
