/-
  ClusterClient.Proofs.Bindings — making a binding, and letting go of it.

  With a session of the caller a binding holds that session, and nothing else happens.  Without one
  it opens a session of its own, unless the deployment keeps no sessions; to find that out may take
  the selection of a server, which can fail, and then there is no binding and no session either.
  `Bound` has one case for each of these.

  Main statements: `bind_bound`, and `perform_on`: what the executor does is to refuse the
  operation, or to execute it between making a binding and letting go of it.
-/
import ClusterClient.Proofs.Conservation

namespace ClusterClient

open Run

/-! ## §1. Making a binding. -/

/-- What the client knows of sessions is what the cluster says in the end. -/
theorem sessionSupport_ok {r r' : Run} {support : SessionSupport}
    (h : sessionSupport.on r = (.ok support, r')) : r'.client.cluster.sessionSupport = support := by
  unfold sessionSupport at h
  simp only [Exec.on_bind, Exec.on_lift, on_currentClient] at h
  cases hknown : r.client.cluster.sessionSupport with
  | undetermined =>
    rw [hknown] at h
    simp only [Exec.on_bind, Exec.on_lift, on_currentClient] at h
    generalize (select .dataBearing).on r = went at h
    obtain ⟨e | selected, r₁⟩ := went
    · cases h
    · cases h
      rfl
  | supported timeout | unsupported =>
    rw [hknown] at h
    cases h
    exact hknown

/-- The binding that the executor makes for an operation without a session of the caller. -/
def ownBinding (preference : ReadPreference) (id : Option SessionId) (c : Client) : Binding :=
  ⟨preference, ⟨id, c.options.effectiveRetryWrites⟩, true⟩

/-- What comes of making a binding in a run. -/
inductive Bound (preference : ReadPreference) (r : Run) :
    Option SessionId → Except Error Binding → Run → Prop where
  | callers (id : SessionId) :
    Bound preference r (some id) (.ok (callersBinding preference id r.client))
      { r with client := r.client.holdSession id }
  /-- A session is opened for the operation, -/
  | opened {r₀ : Run} {timeout : Nat} (quiet : Quiet r r₀)
    (support : r₀.client.cluster.sessionSupport = .supported timeout) :
    Bound preference r none (.ok (ownBinding preference (some r₀.client.sessions.length) r.client))
      { r₀ with client := (r₀.client.openSession timeout true).2 }
  /-- or there are no sessions in the deployment, -/
  | sessionless {r₀ : Run} (quiet : Quiet r r₀)
    (support : ∀ timeout, r₀.client.cluster.sessionSupport ≠ .supported timeout) :
    Bound preference r none (.ok (ownBinding preference none r.client)) r₀
  /-- or it cannot be found out. -/
  | failed {e : Error} {r₀ : Run} (quiet : Quiet r r₀) : Bound preference r none (.error e) r₀

theorem bind_bound (preference : ReadPreference) (session : Option SessionId) (r : Run) :
    Bound preference r session ((Binding.bind preference session).on r).1
      ((Binding.bind preference session).on r).2 := by
  cases session with
  | some id => exact .callers id
  | none =>
    have hquiet := sessionSupport_quiet r
    unfold Binding.bind openSession?
    simp only [Exec.on_bind, Exec.on_lift, on_currentClient]
    rcases hsupport : sessionSupport.on r with ⟨e | support, r₀⟩
    · rw [hsupport] at hquiet
      exact .failed hquiet
    · rw [hsupport] at hquiet
      have hcluster := sessionSupport_ok hsupport
      cases support with
      | supported timeout => exact .opened hquiet hcluster
      | undetermined | unsupported =>
        have hnone : ∀ timeout, r₀.client.cluster.sessionSupport ≠ .supported timeout := by
          rw [hcluster]
          nofun
        exact .sessionless hquiet hnone

/-- What the snapshot says of sessions is not looked for. -/
theorem sessionSupport_of_known {r : Run}
    (h : r.client.cluster.sessionSupport ≠ .undetermined) :
    sessionSupport.on r = (.ok r.client.cluster.sessionSupport, r) := by
  unfold sessionSupport
  rw [Exec.on_bind, Exec.on_lift, on_currentClient]
  dsimp only
  cases hs : r.client.cluster.sessionSupport with
  | undetermined => exact absurd hs h
  | unsupported | supported => rfl

theorem openSession?_of_supported {r : Run} {timeout : Nat}
    (h : r.client.cluster.sessionSupport = .supported timeout) (implicit : Bool) :
    (openSession? implicit).on r = (.ok (some r.client.sessions.length),
      { r with client := (r.client.openSession timeout implicit).2 }) := by
  have hsupport := sessionSupport_of_known (r := r) (by rw [h]; nofun)
  unfold openSession?
  rw [Exec.on_bind, hsupport, h]
  rfl

/-- Where it is known that the deployment keeps sessions, there is always a binding. -/
theorem bind_of_supported {r : Run} {timeout : Nat}
    (h : r.client.cluster.sessionSupport = .supported timeout) (preference : ReadPreference) :
    (Binding.bind preference none).on r =
      (.ok (ownBinding preference (some r.client.sessions.length) r.client),
        { r with client := (r.client.openSession timeout true).2 }) := by
  unfold Binding.bind
  simp only [Exec.on_bind, Exec.on_lift, on_currentClient, openSession?_of_supported h]
  rfl

/-! ## §2. The transaction of a binding. -/

theorem SessionContext.session?_eq {x : SessionContext} {id : SessionId} (hx : x.session = some id)
    (c : Client) : x.session? c = c.sessions[id]? := by
  rw [session?, hx, Option.bind_some]

theorem SessionContext.inTransaction_eq (x : SessionContext) (c : Client) :
    x.inTransaction c = (x.session? c).any Session.inTransaction := by
  unfold inTransaction
  cases x.session? c <;> rfl

/-- A transaction is active in a binding exactly if it is in the session of the caller. -/
theorem Bound.inTransaction {preference : ReadPreference} {session : Option SessionId}
    {r r₁ : Run} {b : Binding} (h : Bound preference r session (.ok b) r₁) :
    b.context.inTransaction r₁.client = SessionContext.inTransaction ⟨session, false⟩ r.client := by
  cases h with
  | callers id =>
    have hheld : (callersBinding preference id r.client).context.session?
        (r.client.holdSession id) = (r.client.sessions[id]?).map (Session.heldBy 1) :=
      SessionContext.session?_modify ⟨some id, _⟩ (Session.heldBy 1) r.client
    rw [SessionContext.inTransaction_eq, SessionContext.inTransaction_eq, hheld, Option.any_map]
    rfl
  | sessionless => rfl
  | @opened r₀ timeout _ _ =>
    -- A session that was just opened has had no transaction.
    obtain ⟨v, hfound⟩ := sessions_openSession r₀.client timeout true
    have hopened :
        (ownBinding preference (some r₀.client.sessions.length) r.client).context.session?
          (r₀.client.openSession timeout true).2 = some (.start v timeout true) := hfound
    rw [SessionContext.inTransaction_eq, hopened]
    rfl

/-! ## §3. Executing on a binding. -/

/-- The preference that the executor binds an operation with. -/
def Operation.preferred (operation : Operation) (preference : ReadPreference) : ReadPreference :=
  if operation.reads then preference else .primary

/-- The executor refuses the operation: it reads, in a transaction, and not from the primary. -/
def Operation.Refused (operation : Operation) (preference : ReadPreference)
    (session : Option SessionId) (c : Client) : Prop :=
  operation.reads = true ∧ SessionContext.inTransaction ⟨session, false⟩ c = true ∧
    preference.isPrimary = false

instance (operation : Operation) (preference : ReadPreference) (session : Option SessionId)
    (c : Client) : Decidable (operation.Refused preference session c) :=
  inferInstanceAs (Decidable (_ ∧ _ ∧ _))

theorem perform_on (operation : Operation) (preference : ReadPreference)
    (session : Option SessionId) (r : Run) :
    (perform operation preference session).on r =
      if operation.Refused preference session r.client then
        (.error (Error.of (.notPrimaryInTransaction preference)), r)
      else (withBinding (operation.preferred preference) session
        (executeLabelled operation)).on r := by
  obtain hr | hr := Bool.eq_false_or_eq_true operation.reads
  · unfold Operation.Refused Operation.preferred perform
    simp only [hr, Exec.on_bind, Exec.on_lift, on_currentClient, if_true, true_and]
    cases SessionContext.inTransaction ⟨session, false⟩ r.client <;>
      cases preference.isPrimary <;> rfl
  · have hpreferred : operation.preferred preference = .primary := by
      unfold Operation.preferred
      rw [hr]
      rfl
    rw [perform_of_not_reads hr, hpreferred, if_neg]
    rintro ⟨hreads, -⟩
    rw [hr] at hreads
    cases hreads

theorem withBinding_of_error {α : Type} {preference : ReadPreference} {session : Option SessionId}
    {work : Binding → Exec α} {r r₁ : Run} {e : Error}
    (h : (Binding.bind preference session).on r = (.error e, r₁)) :
    (withBinding preference session work).on r = (.error e, r₁) := by
  unfold withBinding
  rw [Exec.on_bind, h]

theorem withBinding_of_ok {α : Type} {preference : ReadPreference} {session : Option SessionId}
    {work : Binding → Exec α} {r r₁ : Run} {b : Binding}
    (h : (Binding.bind preference session).on r = (.ok b, r₁)) :
    (withBinding preference session work).on r =
      (((work b).on r₁).1, (b.unbind.on ((work b).on r₁).2).2) := by
  unfold withBinding
  rw [Exec.on_bind, h]
  rfl

end ClusterClient
