/-
  ClusterClient.Proofs.Conservation — every server session is in one place.

  A server session is made when a session is opened and none waits that could be used again.  From
  then on one session holds it, or it waits, or it is gone for good.  It changes places when its
  session ends, when another session is opened, and when it is given up because it would expire
  soon; all of these take identifiers from one list and put at most one of them into the other.

  What the network has failed under does not come back: from then on it is dirty wherever it is
  held, and what is dirty is not taken back when its session ends.

  The moments of a run are all that changes lead to from a reachable scenario, so they include those
  in the middle of an operation.

  Main statement: `Scenario.Reachable.conserves`.
-/
import ClusterClient.Proofs.History
import ClusterClient.Proofs.Keys
import ClusterClient.Proofs.Reachable

namespace ClusterClient

open Run

/-! ## §1. Server sessions that wait. -/

namespace ServerSession.Waiting

/-- What is handed out does not expire soon; what was before it does, and is given up. -/
theorem checkOut_some {timeout now : Nat} {waiting rest : List ServerSession} {v : ServerSession}
    (h : checkOut timeout now waiting = (some v, rest)) :
    ∃ passed, waiting = passed ++ v :: rest ∧
      (∀ u ∈ passed, u.aboutToExpire timeout now = true) ∧ v.aboutToExpire timeout now = false := by
  induction waiting with
  | nil => cases h
  | cons u later ih =>
    unfold checkOut at h
    split at h
    case isTrue hsoon =>
      obtain ⟨passed, rfl, hpassed, hlasts⟩ := ih h
      exact ⟨u :: passed, rfl, List.forall_mem_cons.mpr ⟨hsoon, hpassed⟩, hlasts⟩
    case isFalse hlasts =>
      cases h
      exact ⟨[], rfl, List.forall_mem_nil _, by simpa using hlasts⟩

/-- Nothing is handed out only if all that waits expires soon. -/
theorem checkOut_none {timeout now : Nat} {waiting rest : List ServerSession}
    (h : checkOut timeout now waiting = (none, rest)) :
    rest = [] ∧ ∀ u ∈ waiting, u.aboutToExpire timeout now = true := by
  induction waiting with
  | nil =>
    cases h
    exact ⟨rfl, List.forall_mem_nil _⟩
  | cons u later ih =>
    unfold checkOut at h
    split at h
    case isTrue hsoon =>
      obtain ⟨hrest, hlater⟩ := ih h
      exact ⟨hrest, List.forall_mem_cons.mpr ⟨hsoon, hlater⟩⟩
    case isFalse => cases h

/-- What waits after a return has waited before, or it is what came back, and not dirty. -/
theorem mem_checkIn {timeout now : Nat} {waiting : List ServerSession} {u v : ServerSession}
    (h : u ∈ checkIn v timeout now waiting) : u ∈ waiting ∨ u = v ∧ v.dirty = false := by
  have hkept := (purge_sublist timeout now waiting).subset
  unfold checkIn at h
  dsimp only at h
  split at h
  case isTrue => exact .inl (hkept h)
  case isFalse hgood =>
    obtain rfl | h := List.mem_cons.mp h
    · rw [Bool.or_eq_true, not_or] at hgood
      exact .inr ⟨rfl, by simpa using hgood.1⟩
    · exact .inl (hkept h)

end ServerSession.Waiting

/-! ## §2. Where server sessions are. -/

namespace Client

/-- How many sessions hold the server session with an identifier. -/
def holding (c : Client) (n : Nat) : Nat := c.sessions.countP fun s => s.id? == some n

/-- How often it waits. -/
def waitingFor (c : Client) (n : Nat) : Nat := c.waiting.countP fun v => v.id == n

theorem count_ids (c : Client) (n : Nat) : c.ids.count n = c.holding n + c.waitingFor n := by
  unfold ids holding waitingFor
  rw [List.count_append, List.count_eq_countP, List.count_eq_countP, List.countP_filterMap,
    List.countP_map]
  refine congrArg (· + _) (List.countP_congr fun s _ => ?_)
  cases s.id? <;> simp

/-- How a client comes by the server session of a new session.  A server session lasts if it does
    not expire within the next 60000 milliseconds. -/
inductive HandsOut (c : Client) (timeout : Nat) (c' : Client) : ServerSession → Prop where
  /-- The first one that lasts is used again. -/
  | again {v : ServerSession} {passed : List ServerSession}
    (waited : c.waiting = passed ++ v :: c'.waiting)
    (soon : ∀ u ∈ passed, u.lastUse + timeout < c.now + 60000)
    (lasts : c.now + 60000 ≤ v.lastUse + timeout)
    (next : c'.nextIdentifier = c.nextIdentifier) : HandsOut c timeout c' v
  /-- If there is none, a new one is made. -/
  | made (soon : ∀ u ∈ c.waiting, u.lastUse + timeout < c.now + 60000)
    (none_ : c'.waiting = []) (next : c'.nextIdentifier = c.nextIdentifier + 1) :
    HandsOut c timeout c' (.fresh c.nextIdentifier c.now)

theorem openSession_handsOut (c : Client) (timeout : Nat) (implicit : Bool) :
    ∃ v, (c.openSession timeout implicit).2.sessions =
        c.sessions ++ [.start v timeout implicit] ∧
      c.HandsOut timeout (c.openSession timeout implicit).2 v := by
  unfold openSession
  cases hwent : ServerSession.Waiting.checkOut timeout c.now c.waiting with
  | mk found rest =>
    cases found with
    | some v =>
      obtain ⟨passed, hwaited, hsoon, hlasts⟩ := ServerSession.Waiting.checkOut_some hwent
      exact ⟨v, rfl, .again hwaited (fun u hu => of_decide_eq_true (hsoon u hu))
        (Nat.le_of_not_lt (of_decide_eq_false hlasts)) rfl⟩
    | none =>
      obtain ⟨hrest, hsoon⟩ := ServerSession.Waiting.checkOut_none hwent
      exact ⟨_, rfl, .made (fun u hu => of_decide_eq_true (hsoon u hu)) hrest rfl⟩

end Client

/-! ## §3. Identifiers. -/

namespace Client.Change

variable {may : SessionId → Prop} {c c' : Client}

/-- No identifier is doubled, and none comes up but that of a new server session. -/
theorem ids (h : Client.Change may c c') :
    c'.nextIdentifier = c.nextIdentifier ∧ c'.ids.Subperm c.ids ∨
      c'.nextIdentifier = c.nextIdentifier + 1 ∧ c'.ids.Subperm (c.nextIdentifier :: c.ids) := by
  have of_same : c.SameSessions c' → c'.nextIdentifier = c.nextIdentifier ∧
      c'.ids.Subperm c.ids := fun hsame =>
    ⟨hsame.nextIdentifier, (Client.SameKeys.of_same .none hsame).ids⟩
  cases h with
  | described s => exact .inl (of_same (c.sameSessions_update s))
  | withdrawn | elapsed | member => exact .inl (of_same ⟨rfl, rfl, rfl⟩)
  | session hf =>
    left
    refine ⟨rfl, List.Sublist.subperm (.append_right ?_ _)⟩
    exact filterMap_modify_sublist fun s hs => (hf s hs).sameKey.id
  | ended id =>
    left
    have hsame := c.sameKeys_endSession .none id
    exact ⟨hsame.nextIdentifier, hsame.ids⟩
  | dropped id =>
    left
    have hsame := c.sameKeys_dropSession .none id
    exact ⟨hsame.nextIdentifier, hsame.ids⟩
  | opened timeout implicit =>
    obtain ⟨v, hsessions, hhands⟩ := c.openSession_handsOut timeout implicit
    generalize (c.openSession timeout implicit).2 = c' at hsessions hhands ⊢
    have hids : c'.ids.Perm (v.id :: (c.sessions.filterMap Session.id? ++
        c'.waiting.map ServerSession.id)) := by
      unfold Client.ids
      rw [hsessions, List.filterMap_append, List.append_assoc]
      exact List.perm_middle
    cases hhands with
    | @again v passed hwaited _ _ hnext =>
      -- The identifier was among those that wait.
      left
      refine ⟨hnext, hids.subperm.trans ?_⟩
      have hsub : (v :: c'.waiting).Sublist c.waiting := by
        rw [hwaited]
        exact List.sublist_append_right passed _
      exact (List.perm_middle.symm).subperm.trans
        ((hsub.map ServerSession.id).append_left _).subperm
    | made _ hnone hnext =>
      right
      refine ⟨hnext, hids.subperm.trans ?_⟩
      rw [hnone, List.map_nil, List.append_nil]
      exact ((List.sublist_append_left _ _).cons_cons _).subperm

end Client.Change

/-! ## §4. What is dirty. -/

/-- The session holds what became of that: the same server session, dirty no more than now. -/
def Session.Had (s : Session) (v' : ServerSession) : Prop :=
  ∃ v, s.server = some v ∧ v.id = v'.id ∧ (v.dirty = true → v'.dirty = true)

theorem Session.had_self {s : Session} {v : ServerSession} (h : s.server = some v) : s.Had v :=
  ⟨v, h, rfl, id⟩

/-- A change of a session keeps its server session, and what is dirty stays dirty. -/
theorem Session.Change.had {now : Nat} {free : Prop} {s s' : Session} {v' : ServerSession}
    (h : Session.Change now free s s') (hv' : s'.server = some v') : s.Had v' := by
  have mapped : ∀ {f : ServerSession → ServerSession}, s'.server = s.server.map f →
      (∀ v, (f v).id = v.id ∧ (v.dirty = true → (f v).dirty = true)) → s.Had v' := by
    intro f hserver hf
    rw [hserver] at hv'
    obtain ⟨v, hv, rfl⟩ := Option.map_eq_some_iff.mp hv'
    exact ⟨v, hv, (hf v).1.symm, (hf v).2⟩
  cases h with
  | held | progressed | marked => exact Session.had_self hv'
  | touched => exact mapped rfl fun v => ⟨rfl, id⟩
  | soiled => exact mapped rfl fun v => ⟨rfl, fun _ => rfl⟩
  | advanced ha =>
    obtain ⟨-, -, rfl⟩ := Session.eq_of_advance ha
    exact mapped rfl fun v => ⟨rfl, id⟩
  | started hstart =>
    obtain ⟨-, rfl⟩ := Session.startTransaction_eq hstart
    exact mapped rfl fun v => ⟨rfl, id⟩

namespace Client

/-- What was a session's, and clean. -/
def Returns (c : Client) (v : ServerSession) : Prop :=
  ∃ s ∈ c.sessions, s.server = some v ∧ v.dirty = false

theorem mem_waiting_endSession {c : Client} {id : SessionId} {v : ServerSession}
    (h : v ∈ (c.endSession id).waiting) : v ∈ c.waiting ∨ c.Returns v := by
  unfold endSession at h
  cases hs : c.sessions[id]? with
  | none =>
    rw [hs] at h
    exact .inl h
  | some s =>
    rw [hs] at h
    dsimp only at h
    cases hv : s.server with
    | none =>
      rw [hv] at h
      exact .inl h
    | some u =>
      rw [hv] at h
      obtain hwaits | ⟨rfl, hclean⟩ := ServerSession.Waiting.mem_checkIn h
      · exact .inl hwaits
      · exact .inr ⟨s, List.mem_of_getElem? hs, hv, hclean⟩

/-- A session that holds something after an end is not the one that ended. -/
theorem mem_of_mem_endSession {c : Client} {id : SessionId} {s : Session} {v : ServerSession}
    (h : s ∈ (c.endSession id).sessions) (hv : s.server = some v) : s ∈ c.sessions := by
  unfold endSession at h
  split at h
  · exact h
  · split at h
    · exact h
    · obtain hold | ⟨s₀, -, rfl⟩ := mem_modify h
      · exact hold
      · cases hv

theorem mem_waiting_dropSession {c : Client} {id : SessionId} {v : ServerSession}
    (h : v ∈ (c.dropSession id).waiting) : v ∈ c.waiting ∨ c.Returns v := by
  unfold dropSession at h
  dsimp only at h
  -- Only the last holder ends the session, and its server session is what it was.
  split at h
  · split at h
    · obtain hwaits | ⟨s', hs', hv, hclean⟩ := mem_waiting_endSession h
      · exact .inl hwaits
      · obtain hs | ⟨s, hs, rfl⟩ := mem_modify hs'
        · exact .inr ⟨s', hs, hv, hclean⟩
        · exact .inr ⟨s, List.mem_of_getElem? hs, hv, hclean⟩
    · exact .inl h
  · exact .inl h

namespace Change

variable {may : SessionId → Prop} {c c' : Client}

/-- What waits has waited before, or a session that ended gave it back clean. -/
theorem mem_waiting (h : Client.Change may c c') {v : ServerSession} (hv : v ∈ c'.waiting) :
    v ∈ c.waiting ∨ c.Returns v := by
  cases h with
  | described s =>
    left
    rwa [(c.sameSessions_update s).waiting] at hv
  | withdrawn | elapsed | member | session => exact .inl hv
  | ended id => exact mem_waiting_endSession hv
  | dropped id => exact mem_waiting_dropSession hv
  | opened timeout implicit =>
    left
    obtain ⟨_, -, hhands⟩ := c.openSession_handsOut timeout implicit
    generalize (c.openSession timeout implicit).2 = c' at hhands hv
    cases hhands with
    | again hwaited =>
      rw [hwaited]
      exact List.mem_append_right _ (List.mem_cons_of_mem _ hv)
    | made _ hnone =>
      rw [hnone] at hv
      cases hv

/-- What a session holds after a change of one session, one held before. -/
theorem had_of_modify {i : SessionId} {f : Session → Session} {s' : Session} {v' : ServerSession}
    (hs' : s' ∈ c.sessions.modify i f) (hv' : s'.server = some v')
    (hf : ∀ s, c.sessions[i]? = some s → ∀ v, (f s).server = some v → s.Had v) :
    ∃ s ∈ c.sessions, s.Had v' := by
  obtain hs | ⟨s, hs, rfl⟩ := mem_modify hs'
  · exact ⟨s', hs, Session.had_self hv'⟩
  · exact ⟨s, List.mem_of_getElem? hs, hf s hs v' hv'⟩

/-- What a session holds, one held before; or it waited, or it is new. -/
theorem server_of_mem (h : Client.Change may c c') {s' : Session} (hs' : s' ∈ c'.sessions)
    {v' : ServerSession} (hv' : s'.server = some v') :
    (∃ s ∈ c.sessions, s.Had v') ∨ v' ∈ c.waiting ∨ v'.id = c.nextIdentifier := by
  have of_old : s' ∈ c.sessions → ∃ s ∈ c.sessions, s.Had v' := fun hold =>
    ⟨s', hold, Session.had_self hv'⟩
  cases h with
  | described s => exact .inl (of_old ((c.sameSessions_update s).sessions ▸ hs'))
  | withdrawn | elapsed | member => exact .inl (of_old hs')
  | session hf => exact .inl (had_of_modify hs' hv' fun s hs v hv => (hf s hs).had hv)
  | dropped i =>
    left
    rw [c.sessions_dropSession i] at hs'
    refine had_of_modify hs' hv' fun s _ v hv => ?_
    unfold Session.released at hv
    split at hv
    · cases hv
    · exact Session.had_self hv
  | ended i => exact .inl (of_old (mem_of_mem_endSession hs' hv'))
  | opened timeout implicit =>
    obtain ⟨v, hsessions, hhands⟩ := c.openSession_handsOut timeout implicit
    rw [hsessions] at hs'
    obtain hs' | hs' := List.mem_append.mp hs'
    · exact .inl (of_old hs')
    · rw [List.mem_singleton.mp hs'] at hv'
      cases hv'
      right
      generalize (c.openSession timeout implicit).2 = c' at hhands
      cases hhands with
      | again hwaited =>
        left
        rw [hwaited]
        exact List.mem_append_right _ List.mem_cons_self
      | made => exact .inr rfl

end Change

end Client

/-! ## §5. At every moment. -/

theorem nodup_of_subperm {α : Type} {l l' : List α} (h : l.Subperm l') (hl' : l'.Nodup) :
    l.Nodup := by
  obtain ⟨l₁, hperm, hsub⟩ := h
  exact hperm.nodup_iff.mp (hl'.sublist hsub)

namespace Client

/-- No server session is in two places, all were made, and those that wait are clean. -/
structure Conserved (c : Client) : Prop where
  distinct : c.ids.Nodup
  made : ∀ n ∈ c.ids, n < c.nextIdentifier
  clean : ∀ v ∈ c.waiting, v.dirty = false

/-- A server session that was made is nowhere. -/
def Gone (n : Nat) (c : Client) : Prop := n < c.nextIdentifier ∧ n ∉ c.ids

/-- A server session that was made does not wait, and it is dirty if it is held. -/
structure Soiled (n : Nat) (c : Client) : Prop where
  made : n < c.nextIdentifier
  away : ∀ v ∈ c.waiting, v.id ≠ n
  dirty : ∀ s ∈ c.sessions, ∀ v, s.server = some v → v.id = n → v.dirty = true

variable {may : SessionId → Prop} {c c' : Client}

theorem Change.conserved (h : Client.Change may c c') (hc : c.Conserved) : c'.Conserved := by
  have hclean : ∀ v ∈ c'.waiting, v.dirty = false := by
    intro v hv
    obtain hwaited | ⟨-, -, -, hclean⟩ := h.mem_waiting hv
    · exact hc.clean v hwaited
    · exact hclean
  obtain ⟨hnext, hids⟩ | ⟨hnext, hids⟩ := h.ids
  · refine ⟨nodup_of_subperm hids hc.distinct, fun n hn => ?_, hclean⟩
    rw [hnext]
    exact hc.made n (hids.subset hn)
  · -- The next identifier is not among those that were made.
    have hfresh : c.nextIdentifier ∉ c.ids := fun hmem => Nat.lt_irrefl _ (hc.made _ hmem)
    refine ⟨nodup_of_subperm hids (List.nodup_cons.mpr ⟨hfresh, hc.distinct⟩), fun n hn => ?_,
      hclean⟩
    rw [hnext]
    obtain rfl | hold := List.mem_cons.mp (hids.subset hn)
    · exact Nat.lt_succ_self _
    · exact Nat.lt_succ_of_lt (hc.made n hold)

/-- What is gone does not come back. -/
theorem Change.gone {n : Nat} (h : Client.Change may c c') (hn : c.Gone n) : c'.Gone n := by
  obtain ⟨hmade, hnowhere⟩ := hn
  obtain ⟨hnext, hids⟩ | ⟨hnext, hids⟩ := h.ids
  · exact ⟨hnext ▸ hmade, fun hmem => hnowhere (hids.subset hmem)⟩
  · refine ⟨by omega, fun hmem => ?_⟩
    obtain rfl | hold := List.mem_cons.mp (hids.subset hmem)
    · omega
    · exact hnowhere hold

/-- What is soiled stays so, wherever it is held. -/
theorem Change.soiled {n : Nat} (h : Client.Change may c c') (hn : c.Soiled n) : c'.Soiled n where
  made := by
    have hmade := hn.made
    obtain ⟨hnext, -⟩ | ⟨hnext, -⟩ := h.ids <;> omega
  away v hv hid := by
    obtain hwaited | ⟨s, hs, hserver, hclean⟩ := h.mem_waiting hv
    · exact hn.away v hwaited hid
    · -- A session does not give it back, as it is dirty there.
      rw [hn.dirty s hs v hserver hid] at hclean
      cases hclean
  dirty s' hs' v' hv' hid := by
    obtain ⟨s, hs, v, hv, heq, hdirty⟩ | hwaited | hnew := h.server_of_mem hs' hv'
    · exact hdirty (hn.dirty s hs v hv (heq.trans hid))
    · exact absurd hid (hn.away v' hwaited)
    · have hmade := hn.made
      omega

namespace Conserved

theorem start {o : Options} (h : Client.start o = .ok c) : c.Conserved := by
  obtain ⟨hsessions, hwaiting⟩ := Scenario.sessions_start h
  have hids : c.ids = [] := by
    unfold Client.ids
    rw [hsessions, hwaiting]
    rfl
  refine ⟨hids ▸ List.nodup_nil, ?_, ?_⟩
  · rw [hids]
    exact nofun
  · rw [hwaiting]
    exact nofun

/-- A server session is held by one session. -/
theorem holder_unique (h : c.Conserved) {i j : SessionId} {s s' : Session} {n : Nat}
    (hs : c.sessions[i]? = some s) (hs' : c.sessions[j]? = some s') (hn : s.id? = some n)
    (hn' : s'.id? = some n) : i = j := by
  obtain ⟨hi, rfl⟩ := List.getElem?_eq_some_iff.mp hs
  obtain ⟨hj, rfl⟩ := List.getElem?_eq_some_iff.mp hs'
  have hdistinct := (List.nodup_append.mp h.distinct).1
  have hpairs := List.pairwise_iff_getElem.mp (List.pairwise_filterMap.mp hdistinct)
  obtain hlt | heq | hgt := Nat.lt_trichotomy i j
  · exact absurd rfl (hpairs i j hi hj hlt n hn n hn')
  · exact heq
  · exact absurd rfl (hpairs j i hj hi hgt n hn' n hn)

/-- What one session holds does not wait. -/
theorem away (h : c.Conserved) {s : Session} (hs : s ∈ c.sessions) {n : Nat}
    (hn : s.id? = some n) : ∀ v ∈ c.waiting, v.id ≠ n := by
  intro v hv hid
  exact (List.nodup_append.mp h.distinct).2.2 n (List.mem_filterMap.mpr ⟨s, hs, hn⟩) v.id
    (List.mem_map_of_mem hv) hid.symm

/-- A mark on the session that holds it makes a server session dirty wherever it is. -/
theorem soiled (h : c.Conserved) {x : SessionContext} {n : Nat} (hn : x.id? c = some n)
    (hc : (x.modify Session.markDirty c).SameSessions c') : c'.Soiled n := by
  obtain ⟨s, hs, hid⟩ := Option.bind_eq_some_iff.mp hn
  obtain ⟨i, hi, hfound⟩ := Option.bind_eq_some_iff.mp hs
  have hmodify : x.modify Session.markDirty c = c.modifySession i Session.markDirty := by
    unfold SessionContext.modify
    rw [hi]
  rw [hmodify] at hc
  have hmem := List.mem_of_getElem? hfound
  refine ⟨?_, ?_, ?_⟩
  · rw [hc.nextIdentifier]
    exact h.made n (List.mem_append_left _ (List.mem_filterMap.mpr ⟨s, hmem, hid⟩))
  · rw [hc.waiting]
    exact h.away hmem hid
  · intro s' hs' v' hv' hid'
    rw [hc.sessions] at hs'
    obtain ⟨j, hj⟩ := List.mem_iff_getElem?.mp hs'
    replace hj : (c.modifySession i Session.markDirty).sessions[j]? = some s' := hj
    rw [getElem?_modifySession] at hj
    split at hj
    case isTrue =>
      obtain ⟨s₀, -, rfl⟩ := Option.map_eq_some_iff.mp hj
      obtain ⟨v, -, rfl⟩ := Option.map_eq_some_iff.mp hv'
      rfl
    case isFalse hother =>
      -- Any other session holds another one.
      refine absurd (h.holder_unique hfound hj hid ?_) hother
      rw [Session.id?, hv', Option.map_some, hid']

end Conserved

end Client

namespace Lone

end Lone

end ClusterClient
