/-
  ClusterClient.Proofs.Ownership — who ends a session.

  An operation that comes without a session opens one, and the binding that is made for it owns
  that session: it ends with the binding, whatever comes of the operation.  Its server session goes
  back to those that wait, once, and it is gone if the network lost a command of the operation or
  if it expires soon.

  A session of the caller is not owned.  Operations hold it and let go of it, and that is never the
  end, for the caller still has it.  A binding that was given a session is a holder like any other;
  the session ends when it lets go only if it was the last.

  Main statements: `perform_usesOwnSession`, `Run.Held.perform_given`,
  `Scenario.Reachable.ownership`.
-/
import ClusterClient.Proofs.Belonging
import ClusterClient.Proofs.Implicit
import ClusterClient.Proofs.ImplicitSession
import ClusterClient.Proofs.Publication

namespace ClusterClient

open Run

/-! ## §1. What is sent in a session. -/

section Sent

variable {s s' : Session} {operation : Operation} {result : Except Error Outcome}
variable {new : List Transmission}

theorem Insert.Makes.id?_eq {i : Insert} {command : Command}
    (h : i.Makes (some s) command (some s')) : s'.id? = s.id? := by
  cases h with
  | joined | plain => rfl
  | numbered => exact s.id?_advanced

theorem Effect.id?_eq (h : Effect s operation result new s') : s'.id? = s.id? := by
  cases h with
  | inserted made => exact made.id?_eq
  | refused | other | committedAtOnce | committed | uncommitted | abortedAtOnce | aborted => rfl

/-- What is sent in a session that has not ended carries its identifier. -/
theorem Effect.lsid (h : Effect s operation result new s') (open_ : s.isEnded = false)
    (hn : operation.isNumbered = true) : ∀ t ∈ new, t.command.HasIdentifier s.id? := by
  have hended := h.isEnded_eq
  have hid := h.id?_eq
  cases h with
  | refused | committedAtOnce | abortedAtOnce => exact fun t ht => nomatch ht
  | inserted _ _ each => exact fun t ht => hid ▸ (each t ht).lsid (hended.trans open_)
  | other ho =>
    rw [hn] at ho
    cases ho
  | committed _ _ each | uncommitted _ each | aborted _ each =>
    exact fun t ht => (each t ht).lsid open_

theorem Run.Held.execute_lsid {r : Run} {b : Binding} (held : r.Held) (operation : Operation)
    (found : b.context.session? r.client = some s) (open_ : s.isEnded = false) :
    ∀ t ∈ (operation.execute b).sends r, t.command.HasIdentifier s.id? := by
  have hk := held.kept_still found
  have hopen : s.still.isEnded = false := s.isEnded_still.trans open_
  intro t ht
  rw [← s.id?_still]
  cases hn : operation.isNumbered with
  | true =>
    obtain ⟨new, s', heffect, hsent, -⟩ := execute_takes operation hk (.of_found found)
    rw [Exec.sends_eq_of_sent hsent] at ht
    exact heffect.lsid hopen hn t ht
  | false =>
    obtain ⟨command, -, hof⟩ := execute_plain hn hk (.of_found found) t ht
    exact hof.lsid hopen

end Sent

/-! ## §2. The end of a session. -/

/-- The session has ended, and its server session went back. -/
structure Client.Ends (c : Client) (id : SessionId) (v : ServerSession) (timeout : Nat)
    (c' : Client) : Prop where
  ended : ∃ s, c'.sessions[id]? = some s ∧ s.isEnded = true
  others : ∀ i, i ≠ id → c'.sessions[i]? = c.sessions[i]?
  waiting : c'.waiting = ServerSession.Waiting.checkIn v timeout c.now c.waiting
  now : c'.now = c.now

namespace Client

variable {c c' : Client} {id : SessionId} {s : Session} {v : ServerSession} {timeout : Nat}

/-- A session that is ended is left without a server session. -/
theorem sessions_endSession (hs : c.sessions[id]? = some s) :
    (c.endSession id).sessions[id]? = some { s with server := none } := by
  unfold endSession
  rw [hs]
  dsimp only
  cases hv : s.server with
  | none =>
    dsimp only
    rw [hs, ← hv]
  | some v => exact sessions_modifySession hs _

theorem endSession_ends (hs : c.sessions[id]? = some s) (hv : s.server = some v) :
    c.Ends id v s.timeout (c.endSession id) := by
  have hend : c.endSession id = { c.modifySession id fun s => { s with server := none } with
      waiting := ServerSession.Waiting.checkIn v s.timeout c.now c.waiting } := by
    unfold endSession
    rw [hs]
    dsimp only
    rw [hv]
  refine ⟨⟨_, sessions_endSession hs, rfl⟩, fun i hi => ?_, by rw [hend], by rw [hend]; rfl⟩
  rw [hend]
  show (c.modifySession id _).sessions[i]? = _
  rw [getElem?_modifySession, if_neg (Ne.symm hi)]

/-- Letting go of a session that has ended gives nothing back. -/
theorem waiting_dropSession_of_ended (hs : c.sessions[id]? = some s) (hended : s.isEnded = true) :
    (c.dropSession id).waiting = c.waiting := by
  have hnone : s.server = none := Option.isNone_iff_eq_none.mp hended
  unfold dropSession endSession
  dsimp only
  rw [sessions_modifySession hs]
  dsimp only
  split
  · rw [hnone]
    rfl
  · rfl

theorem Ends.dropSession (h : c.Ends id v timeout c') :
    c.Ends id v timeout (c'.dropSession id) := by
  obtain ⟨s, hs, hended⟩ := h.ended
  have hnone : s.server = none := Option.isNone_iff_eq_none.mp hended
  have hsessions : ∀ i : SessionId, (c'.dropSession id).sessions[i]? =
      (c'.modifySession id Session.released).sessions[i]? := fun i => by
    rw [c'.sessions_dropSession id]
    rfl
  refine ⟨⟨s.released, ?_, ?_⟩, fun i hi => ?_, ?_, ?_⟩
  · rw [hsessions, sessions_modifySession hs]
  · unfold Session.released Session.isEnded
    split
    · rfl
    · exact hended
  · rw [hsessions, getElem?_modifySession, if_neg (Ne.symm hi)]
    exact h.others i hi
  · exact (waiting_dropSession_of_ended hs hended).trans h.waiting
  · obtain ⟨sessions, waiting, hdropped⟩ := c'.dropSession_eq id
    rw [hdropped]
    exact h.now

namespace Conserved

/-- A server session that went back clean and lasts waits, and nobody holds it. -/
theorem waits_of_ends (h : c'.Conserved) (ends : c.Ends id v timeout c') (clean : v.dirty = false)
    (lasts : v.aboutToExpire timeout c.now = false) :
    c'.holding v.id = 0 ∧ c'.waitingFor v.id = 1 := by
  have hmem : v ∈ c'.waiting := by
    rw [ends.waiting, ServerSession.Waiting.checkIn, clean, lasts]
    exact List.mem_cons_self
  have hpos : 0 < c'.waitingFor v.id := List.countP_pos_iff.mpr ⟨v, hmem, beq_self_eq_true _⟩
  have hcount := c'.count_ids v.id
  have hle := List.nodup_iff_count_le_one.mp h.distinct v.id
  omega

/-- Any other is gone. -/
theorem gone_of_ends (h : c.Conserved) (hs : c.sessions[id]? = some s) (hv : s.server = some v)
    (ends : c.Ends id v timeout c')
    (bad : v.dirty = true ∨ v.aboutToExpire timeout c.now = true) : v.id ∉ c'.ids := by
  have hid : s.id? = some v.id := by rw [Session.id?, hv, Option.map_some]
  intro hmem
  obtain hheld | hwaits := List.mem_append.mp hmem
  · obtain ⟨s', hs', hid'⟩ := List.mem_filterMap.mp hheld
    obtain ⟨i, hi⟩ := List.mem_iff_getElem?.mp hs'
    by_cases hii : i = id
    · -- Its own session has ended.
      obtain ⟨s'', hs'', hended⟩ := ends.ended
      rw [← hii, hi] at hs''
      cases hs''
      rw [Session.id?, Option.isNone_iff_eq_none.mp hended] at hid'
      cases hid'
    · rw [ends.others i hii] at hi
      exact hii (h.holder_unique hi hs hid' hid)
  · -- It has not waited before, and it was not taken back.
    obtain ⟨u, hu, hid'⟩ := List.mem_map.mp hwaits
    have hbad : (v.dirty || v.aboutToExpire timeout c.now) = true := by
      rw [Bool.or_eq_true]
      exact bad
    rw [ends.waiting, ServerSession.Waiting.checkIn, hbad] at hu
    have hkept := (ServerSession.Waiting.purge_sublist timeout c.now c.waiting).subset hu
    exact h.away (List.mem_of_getElem? hs) hid u hkept hid'

end Conserved

end Client

/-! ## §3. A session of the operation's own. -/

namespace Client

variable {c c' : Client}

theorem Conserved.same (h : c.Conserved) (hs : c.SameSessions c') : c'.Conserved := by
  have hids : c'.ids = c.ids := by
    unfold Client.ids
    rw [hs.sessions, hs.waiting]
  refine ⟨hids ▸ h.distinct, fun n hn => ?_, hs.waiting ▸ h.clean⟩
  rw [hs.nextIdentifier]
  exact h.made n (hids ▸ hn)

/-- A session that was just opened can be followed. -/
theorem Conserved.openSession_implicit (h : c.Conserved) (timeout : Nat) :
    ∃ v, c.HandsOut timeout (c.openSession timeout true).2 v ∧
      (c.openSession timeout true).2.sessions[c.sessions.length]? =
        some (.start v timeout true) ∧
      (c.openSession timeout true).2.HoldsImplicit
        ⟨c.sessions.length, v.id, timeout, (c.openSession timeout true).2.waiting⟩ 0 False := by
  obtain ⟨v, hsessions, hhands⟩ := c.openSession_handsOut timeout true
  have hclean : v.dirty = false := by
    generalize (c.openSession timeout true).2 = c' at hhands
    cases hhands with
    | again hwaited => exact h.clean v (hwaited ▸ List.mem_append_right _ List.mem_cons_self)
    | made => rfl
  have hfound : (c.openSession timeout true).2.sessions[c.sessions.length]? =
      some (.start v timeout true) := by
    rw [hsessions]
    exact List.getElem?_concat_length
  refine ⟨v, hhands, hfound, ⟨v, hfound, rfl, ?_⟩, rfl⟩
  rw [hclean]
  exact ⟨nofun, False.elim⟩

end Client

/-- A binding that owns its session ends it. -/
theorem unbind_ends {b : Binding} {r : Run} {id : SessionId} {s : Session} {v : ServerSession}
    (howns : b.ownsSession = true) (hx : b.context.session = some id)
    (hs : r.client.sessions[id]? = some s) (hv : s.server = some v) :
    r.client.Ends id v s.timeout (b.unbind.on r).2.client := by
  have hrun : (b.unbind.on r).2.client = (r.client.endSession id).dropSession id := by
    unfold Binding.unbind
    rw [hx, howns]
    rfl
  rw [hrun]
  exact (Client.endSession_ends hs hv).dropSession

/-- An operation has a session for itself.  It was opened for it, all that the operation sends is
    sent there, and it ends with the operation; its server session is given back once. -/
structure Binding.UsesOwnSession (b : Binding) (operation : Operation) (timeout : Nat)
    (r r₁ r' : Run) (sent : List Transmission) (v v' : ServerSession) : Prop where
  /-- There is no such session before, -/
  new : b.context.session? r.client = none
  /-- and then it is there, with a server session that has waited or is new. -/
  opened : b.context.session? r₁.client = some (.start v timeout true)
  handed : ∃ c, r.client.SameSessions c ∧ c.HandsOut timeout r₁.client v
  /-- Where the operation sends its commands, and in which session. -/
  sends : SentIn b.context (operation.Sends b r₁) sent
  lsid : ∀ t ∈ sent, t.command.HasIdentifier (some v.id)
  /-- The operation leaves the server session, -/
  used : ∃ s, b.context.session? ((operation.execute b).on r₁).2.client = some s ∧
    s.server = some v'
  same : v'.id = v.id
  /-- and it bears a mark exactly if the network has failed under a command. -/
  marked : v'.dirty = true ↔ operation.Loses b r₁
  ended : ∃ s, b.context.session? r'.client = some s ∧ s.isEnded = true
  /-- It is given back, to those that waited when the operation began. -/
  returned : r'.client.waiting =
    ServerSession.Waiting.checkIn v' timeout r'.client.now r₁.client.waiting
  waits : ¬ operation.Loses b r₁ → v'.aboutToExpire timeout r'.client.now = false →
    r'.client.holding v.id = 0 ∧ r'.client.waitingFor v.id = 1
  gone : operation.Loses b r₁ ∨ v'.aboutToExpire timeout r'.client.now = true →
    v.id ∉ r'.client.ids

section Own

variable {operation : Operation} {preference : ReadPreference} {r r₁ : Run} {b : Binding}

/-- Without a session of the caller nothing is refused. -/
theorem perform_own (operation : Operation) (preference : ReadPreference) (r : Run) :
    (perform operation preference none).on r =
      (withBinding (operation.preferred preference) none (executeLabelled operation)).on r := by
  rw [perform_on, if_neg]
  rintro ⟨-, hactive, -⟩
  cases hactive

/-- What is done on the binding, and then the binding is let go. -/
theorem withBinding_of_bound {session : Option SessionId}
    (hbind : (Binding.bind preference session).on r = (.ok b, r₁)) :
    ((withBinding preference session (executeLabelled operation)).on r).2 =
        (b.unbind.on ((operation.execute b).on r₁).2).2 ∧
      (withBinding preference session (executeLabelled operation)).sends r =
        (operation.execute b).sends r₁ := by
  have hrun : ((withBinding preference session (executeLabelled operation)).on r).2 =
      (b.unbind.on ((operation.execute b).on r₁).2).2 := by
    rw [withBinding_of_ok hbind, executeLabelled_run]
  have hsilent := bind_silent preference session r
  rw [hbind] at hsilent
  refine ⟨hrun, ?_⟩
  unfold Exec.sends
  rw [hrun, unbind_silent b _, show r₁.sent = r.sent from hsilent]

theorem perform_of_bound
    (hbind : (Binding.bind (operation.preferred preference) none).on r = (.ok b, r₁)) :
    ((perform operation preference none).on r).2 =
        (b.unbind.on ((operation.execute b).on r₁).2).2 ∧
      (perform operation preference none).sends r = (operation.execute b).sends r₁ := by
  unfold Exec.sends
  rw [perform_own]
  exact withBinding_of_bound hbind

/-- The operation, from where its session has just been opened. -/
theorem usesOwnSession_of_implicit {id : SessionId} {v : ServerSession} {timeout : Nat}
    {c : Client} (held : r₁.Held) (conserved : r₁.client.Conserved) (howns : b.ownsSession = true)
    (hx : b.context.session = some id) (new : b.context.session? r.client = none)
    (same : r.client.SameSessions c) (hands : c.HandsOut timeout r₁.client v)
    (opened : b.context.session? r₁.client = some (.start v timeout true))
    (hholds : r₁.client.HoldsImplicit ⟨id, v.id, timeout, r₁.client.waiting⟩ 0 False) :
    ∃ v', b.UsesOwnSession operation timeout r r₁ (b.unbind.on ((operation.execute b).on r₁).2).2
      ((operation.execute b).sends r₁) v v' := by
  have hlsid := held.execute_lsid operation opened rfl
  have hexecute : Evolves anywhere r₁ ((operation.execute b).on r₁).2 :=
    (sustains_evolves anywhere).execute b operation (fun _ _ _ => trivial) r₁
  obtain ⟨⟨v', hs, hid, hdirty⟩, hwaiting⟩ := execute_implicit hx hholds operation
  generalize hr₂ : ((operation.execute b).on r₁).2 = r₂ at hexecute hs hdirty hwaiting ⊢
  have conserved₂ : r₂.client.Conserved := hexecute.invariant Client.Change.conserved conserved
  have ends : r₂.client.Ends id v' timeout (b.unbind.on r₂).2.client :=
    unbind_ends howns hx hs rfl
  have conserved' : (b.unbind.on r₂).2.client.Conserved :=
    Evolves.invariant ((sustains_evolves anywhere).unbind b r₂) Client.Change.conserved conserved₂
  replace hid : v'.id = v.id := hid
  refine ⟨v', new, opened, ⟨c, same, hands⟩, execute_sentIn b r₁ operation, hlsid, ?_, hid,
    hdirty, ?_, ?_, ?_, ?_⟩
  · rw [hr₂, SessionContext.session?_eq hx]
    exact ⟨_, hs, rfl⟩
  · rw [SessionContext.session?_eq hx]
    exact ends.ended
  · rw [ends.waiting, ends.now, hwaiting]
  · intro kept lasts
    rw [ends.now] at lasts
    rw [← hid]
    exact conserved'.waits_of_ends ends (Bool.eq_false_iff.mpr fun h => kept (hdirty.mp h)) lasts
  · intro bad
    rw [ends.now] at bad
    rw [← hid]
    exact conserved₂.gone_of_ends hs rfl ends (bad.imp_left hdirty.mpr)

theorem perform_usesOwnSession {timeout : Nat} (held : r.Held) (conserved : r.client.Conserved)
    (hbind : (Binding.bind (operation.preferred preference) none).on r = (.ok b, r₁))
    (support : r₁.client.cluster.sessionSupport = .supported timeout) :
    ∃ v v', b.UsesOwnSession operation timeout r r₁ ((perform operation preference none).on r).2
      ((perform operation preference none).sends r) v v' := by
  obtain ⟨hrun, hsends⟩ := perform_of_bound hbind
  have hbound := bind_bound (operation.preferred preference) none r
  have hevolves := (sustains_evolves anywhere).bind (operation.preferred preference) none r
  rw [hbind] at hbound hevolves
  have held₁ : r₁.Held := hevolves.held held
  have conserved₁ : r₁.client.Conserved := hevolves.invariant Client.Change.conserved conserved
  rw [hrun, hsends]
  cases hbound with
  | sessionless _ hnone => exact absurd support (hnone timeout)
  | @opened r₀ timeout' quiet support' =>
    have hcluster := (r₀.client.sameServers_openSession timeout' true).cluster
    obtain rfl : timeout' = timeout := by
      have hsupport : r₀.client.cluster.sessionSupport = .supported timeout := hcluster ▸ support
      rw [support'] at hsupport
      exact SessionSupport.supported.inj hsupport
    have hsame := quiet.toSameSessions
    obtain ⟨v, hands, hfound, hholds⟩ := (conserved.same hsame).openSession_implicit timeout'
    have new : r.client.sessions[r₀.client.sessions.length]? = none := by
      rw [hsame.sessions]
      exact List.getElem?_eq_none_iff.mpr (Nat.le_refl _)
    exact ⟨v, usesOwnSession_of_implicit held₁ conserved₁ rfl rfl new hsame hands hfound hholds⟩

end Own

/-! ## §4. A session of the caller's. -/

section Given

variable {r : Run} {id : SessionId} {s : Session} {b : Binding}

/-- No operation ends the session that it is given, nor does it stay a holder. -/
theorem Run.Held.perform_given (held : r.Held) (found : r.client.sessions[id]? = some s) (w : Way)
    (operation : Operation) :
    ∃ s', ((w.perform id operation).on r).2.client.sessions[id]? = some s' ∧ s'.id? = s.id? ∧
      s'.isEnded = s.isEnded ∧ s'.holders = s.holders := by
  have hfound : SessionContext.session? ⟨some id, false⟩ r.client = some s := found
  obtain ⟨new, s', heffect, -, hshows⟩ :=
    w.perform_takes operation (held.kept_still hfound) (.of_found hfound)
  obtain ⟨s₁, hs₁, hlike⟩ := hshows.exists_like
  refine ⟨s₁, hs₁, ?_, ?_, ?_⟩
  · rw [hlike.id?, heffect.id?_eq, s.id?_still]
  · rw [hlike.isEnded, heffect.isEnded_eq, s.isEnded_still]
  · rw [hlike.holders, heffect.holders_eq]
    rfl

/-- A kept session ends with its last holder. -/
theorem Session.Kept.isEnded_released_iff (hk : s.Kept) (open_ : s.isEnded = false) :
    s.released.isEnded = true ↔ s.holders = 1 := by
  have hpos : 0 < s.holders := hk open_
  unfold Session.released
  split
  case isTrue hlast => exact iff_of_true rfl (by omega)
  case isFalse hleft =>
    refine iff_of_false ?_ fun hone => hleft (by omega)
    show ¬ s.isEnded = true
    rw [open_]
    nofun

/-- A binding that was given the session lets go of it, and does nothing else to it. -/
theorem unbind_given (howns : b.ownsSession = false) (hx : b.context.session = some id)
    (found : r.client.sessions[id]? = some s) :
    (b.unbind.on r).2.client.sessions[id]? = some s.released := by
  have hrun : (b.unbind.on r).2.client = r.client.dropSession id := by
    unfold Binding.unbind
    rw [hx, howns]
    rfl
  rw [hrun, r.client.sessions_dropSession, List.getElem?_modify_eq, found]
  rfl

end Given

/-! ## §5. In every scenario. -/

namespace Scenario

/-- Who ends which sessions, whatever is known of the cluster, whatever the operation is and
    whatever comes of it. -/
structure Ownership (s : Scenario) : Prop where
  /-- Without a binding there is no operation, and no server session was made or taken from those
      that wait. -/
  unbound : ∀ {operation : Operation} {preference : ReadPreference} {e : Error} {r₁ : Run},
    (Binding.bind (operation.preferred preference) none).on s.run = (.error e, r₁) →
    (perform operation preference none).on s.run = (.error e, r₁) ∧ r₁.sent = s.run.sent ∧
      s.run.client.SameSessions r₁.client
  /-- Where it is known that the deployment keeps sessions, there is a binding. -/
  binds : ∀ {preference : ReadPreference} {timeout : Nat},
    s.run.client.cluster.sessionSupport = .supported timeout →
    ∃ b r₁, (Binding.bind preference none).on s.run = (.ok b, r₁) ∧
      r₁.client.cluster.sessionSupport = .supported timeout
  /-- In a deployment that keeps sessions an operation has one for itself. -/
  housed : ∀ {operation : Operation} {preference : ReadPreference} {b : Binding} {r₁ : Run}
    {timeout : Nat},
    (Binding.bind (operation.preferred preference) none).on s.run = (.ok b, r₁) →
    r₁.client.cluster.sessionSupport = .supported timeout →
    b.ownsSession = true ∧ ∃ v v', b.UsesOwnSession operation timeout s.run r₁
      ((perform operation preference none).on s.run).2
      ((perform operation preference none).sends s.run) v v'
  /-- One that is given a session does not end it. -/
  given : ∀ {id : SessionId} {found : Session}, s.run.client.sessions[id]? = some found →
    ∀ (w : Way) (operation : Operation),
      ∃ found', ((w.perform id operation).on s.run).2.client.sessions[id]? = some found' ∧
        found'.id? = found.id? ∧ found'.isEnded = found.isEnded ∧ found'.holders = found.holders
  /-- A binding that is given a session is one of its holders and does not own it. -/
  bound : ∀ (preference : ReadPreference) (id : SessionId),
    ∃ b, (Binding.bind preference (some id)).on s.run =
        (.ok b, { s.run with client := s.run.client.holdSession id }) ∧
      b.context.session = some id ∧ b.ownsSession = false
  /-- When such a binding lets go, the session ends only if it has no other holder. -/
  unbinds : ∀ {b : Binding} {id : SessionId} {found : Session}, b.ownsSession = false →
    b.context.session = some id → s.run.client.sessions[id]? = some found →
    found.isEnded = false →
    ∃ found', (b.unbind.on s.run).2.client.sessions[id]? = some found' ∧
      (found'.isEnded = true ↔ found.holders = 1)
  /-- No transaction is active in a session that was opened for one operation. -/
  aloof : ∀ found ∈ s.run.client.sessions, found.implicit = true → found.inTransaction = false

theorem Reachable.ownership {s : Scenario} (h : s.Reachable) : s.Ownership where
  unbound {operation preference e r₁} hbind := by
    have hbound := bind_bound (operation.preferred preference) none s.run
    have hsilent := bind_silent (operation.preferred preference) none s.run
    rw [hbind] at hbound hsilent
    rw [perform_own, withBinding_of_error hbind]
    cases hbound with
    | failed quiet => exact ⟨rfl, hsilent, quiet.toSameSessions⟩
  binds support := ⟨_, _, bind_of_supported support _, support⟩
  housed {operation preference b r₁ timeout} hbind support := by
    have conserved : s.run.client.Conserved :=
      h.invariant Client.Conserved.start Client.Change.conserved
    refine ⟨?_, perform_usesOwnSession h.held conserved hbind support⟩
    have hbound := bind_bound (operation.preferred preference) none s.run
    rw [hbind] at hbound
    cases hbound <;> rfl
  given found w operation := h.held.perform_given found w operation
  bound preference id := ⟨_, rfl, rfl, rfl⟩
  unbinds howns hx found open_ := by
    have hk := h.held _ (List.mem_of_getElem? found)
    exact ⟨_, unbind_given howns hx found, hk.isEnded_released_iff open_⟩
  aloof := h.unmixed.aloof

end Scenario

namespace Lone

/-- A server session waits, and the next command is lost on the network. -/
def severing : Scenario :=
  .after client [.update primary, .startSession "s", .dropSession "s",
    .script address [⟨.error (Error.of (.network .brokenPipe none)), [], []⟩]]

theorem reachable_severing : severing.Reachable := .after (o := options) rfl _

/-- The caller has dropped the session that a binding was given. -/
def entrusted : Scenario :=
  .after client [.update primary, .startSession "s", .bind .primary (some "s") "b",
    .dropSession "s"]

theorem reachable_entrusted : entrusted.Reachable := .after (o := options) rfl _

end Lone

/-- An insert without a session is sent twice in the one that waits, and that is gone then. -/
theorem ownership_lone :
    Lone.severing.Ownership ∧ Lone.severing.run.client.waitingFor 0 = 1 ∧
      ((perform Lone.insert .primary none).sends Lone.severing.run).length = 2 ∧
      ((perform Lone.insert .primary none).on Lone.severing.run).2.client.ids = [] :=
  ⟨Lone.reachable_severing.ownership, by decide +kernel⟩

/-- The session of a binding that was given it ends with the binding, if it is the last holder. -/
theorem unbind_ends_lone :
    Lone.entrusted.Reachable ∧
      Lone.entrusted.bindings.map (fun e => (e.1, e.2.context.session, e.2.ownsSession)) =
        [("b", some 0, false)] ∧
      Lone.entrusted.run.client.sessions.map Session.isEnded = [false] ∧
      ((Scenario.step (.dropBinding "b")).run Lone.entrusted).2.run.client.sessions.map
        Session.isEnded = [true] :=
  ⟨Lone.reachable_entrusted, by decide +kernel⟩

end ClusterClient
