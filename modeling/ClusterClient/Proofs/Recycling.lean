/-
  ClusterClient.Proofs.Recycling — what the return of a server session clears away.

  A return looks at those that wait from the end of the list, and stops at the first one that does
  not expire soon.  So nothing is lost that could be used again, but what expires soon is cleared
  away only if nothing that lasts stands behind it.  The list is in the order of the returns, and
  not of the last uses, and timeouts may differ: a session that was used long ago and returned late
  stands before one that was used since, and it stays (`checkIn_leaves`).

  Whatever the timeout, a return clears everything exactly if those that wait stand in the order of
  their last uses, the latest first; they do as long as none is returned that was used before one
  of them.

  Histories are those of a list of server sessions alone, in which any may be handed out, used and
  returned with any timeout; those of a client are among them.

  Main statements: `Scenario.Reachable.recycles`, `checkIn_clears`.
-/
import ClusterClient.Proofs.Conservation
import ClusterClient.Proofs.Numbers
import Mathlib.Data.List.DropRight

namespace ClusterClient

open Run

/-! ## §1. Histories. -/

/-- The server session may have been used, at the latest at this moment. -/
structure ServerSession.Used (now : Nat) (v v' : ServerSession) : Prop where
  id : v'.id = v.id
  lastUse : v'.lastUse = v.lastUse ∨ v'.lastUse = now
  dirty : v.dirty = true → v'.dirty = true

namespace ServerSession.Waiting

/-- What can have happened until now, if these wait and those are handed out. -/
inductive History : Nat → List ServerSession → List ServerSession → Prop where
  | begun (now : Nat) : History now [] []
  | elapsed {now : Nat} {waiting lent : List ServerSession} (h : History now waiting lent)
    (millis : Nat) : History (now + millis) waiting lent
  /-- One of those that wait is handed out, -/
  | handedOut {now : Nat} {waiting lent rest : List ServerSession} {v : ServerSession}
    (h : History now waiting lent) (timeout : Nat)
    (out : checkOut timeout now waiting = (some v, rest)) : History now rest (lent ++ [v])
  /-- or a new one. -/
  | made {now : Nat} {waiting lent rest : List ServerSession} (h : History now waiting lent)
    (timeout id : Nat) (out : checkOut timeout now waiting = (none, rest)) :
    History now rest (lent ++ [.fresh id now])
  | used {now : Nat} {waiting before after : List ServerSession} {v v' : ServerSession}
    (h : History now waiting (before ++ v :: after)) (use : v.Used now v') :
    History now waiting (before ++ v' :: after)
  | returned {now : Nat} {waiting before after : List ServerSession} {v : ServerSession}
    (h : History now waiting (before ++ v :: after)) (timeout : Nat) :
    History now (checkIn v timeout now waiting) (before ++ after)

/-- No server session was used later than now. -/
theorem History.lastUse_le {now : Nat} {waiting lent : List ServerSession}
    (h : History now waiting lent) : ∀ u ∈ waiting ++ lent, u.lastUse ≤ now := by
  induction h with
  | begun now => exact fun _ hu => absurd hu List.not_mem_nil
  | elapsed h millis ih =>
    intro u hu
    exact Nat.le_add_right_of_le (ih u hu)
  | @handedOut now waiting lent rest v h timeout out ih =>
    obtain ⟨passed, rfl, -⟩ := checkOut_some out
    intro u hu
    refine ih u ?_
    rw [← List.append_assoc, List.mem_append, List.mem_singleton] at hu
    simp only [List.mem_append, List.mem_cons] at hu ⊢
    rcases hu with (hu | hu) | rfl
    · exact .inl (.inr (.inr hu))
    · exact .inr hu
    · exact .inl (.inr (.inl rfl))
  | @made now waiting lent rest h timeout id out ih =>
    obtain ⟨rfl, -⟩ := checkOut_none out
    intro u hu
    rw [List.nil_append, List.mem_append, List.mem_singleton] at hu
    rcases hu with hu | rfl
    · exact ih u (List.mem_append_right _ hu)
    · exact Nat.le_refl now
  | @used now waiting before after v v' h use ih =>
    intro u hu
    simp only [List.mem_append, List.mem_cons] at hu ih
    rcases hu with hu | hu | rfl | hu
    · exact ih u (.inl hu)
    · exact ih u (.inr (.inl hu))
    · rcases use.lastUse with hlast | hlast
      · rw [hlast]
        exact ih v (.inr (.inr (.inl rfl)))
      · exact hlast.le
    · exact ih u (.inr (.inr (.inr hu)))
  | @returned now waiting before after v h timeout ih =>
    intro u hu
    simp only [List.mem_append, List.mem_cons] at hu ih
    rcases hu with hu | hu | hu
    · rcases mem_checkIn hu with hu | ⟨rfl, -⟩
      · exact ih u (.inl hu)
      · exact ih u (.inr (.inr (.inl rfl)))
    · exact ih u (.inr (.inl hu))
    · exact ih u (.inr (.inr (.inr hu)))

/-! ## §2. One return. -/

section Return

variable (v : ServerSession) (timeout now : Nat) (waiting : List ServerSession)

/-- The server session itself, if it is taken back. -/
def takenBack : List ServerSession :=
  if v.dirty || v.aboutToExpire timeout now then [] else [v]

theorem checkIn_eq : checkIn v timeout now waiting =
    takenBack v timeout now ++ purge timeout now waiting := by
  unfold checkIn takenBack
  dsimp only
  split <;> rfl

theorem mem_takenBack {u : ServerSession} : u ∈ takenBack v timeout now ↔
    u = v ∧ v.dirty = false ∧ v.aboutToExpire timeout now = false := by
  unfold takenBack
  cases v.dirty <;> cases v.aboutToExpire timeout now <;> simp

/-- What is cleared away stands at the end, and it ends where one stands that lasts. -/
theorem exists_purge : ∃ gone, waiting = purge timeout now waiting ++ gone ∧
    (∀ u ∈ gone, u.aboutToExpire timeout now = true) ∧
    ∀ u, (purge timeout now waiting).getLast? = some u → u.aboutToExpire timeout now = false := by
  have hpurge : purge timeout now waiting =
    waiting.rdropWhile fun u => u.aboutToExpire timeout now := rfl
  refine ⟨waiting.rtakeWhile fun u => u.aboutToExpire timeout now, ?_, ?_, ?_⟩
  · rw [hpurge, List.rdropWhile_append_rtakeWhile]
  · exact fun u hu => List.mem_rtakeWhile_imp
      (p := fun u : ServerSession => u.aboutToExpire timeout now) hu
  · intro u hu
    rw [hpurge] at hu
    obtain ⟨hne, hlast⟩ := List.mem_getLast?_eq_getLast hu
    have hstop := List.rdropWhile_last_not _ _ hne
    rw [← hlast] at hstop
    exact Bool.eq_false_iff.mpr hstop

/-- Among those that wait, all that stand behind one that expires soon expire soon. -/
def Descends : Prop := waiting.Pairwise fun u w =>
  u.aboutToExpire timeout now = true → w.aboutToExpire timeout now = true

/-- A return leaves nothing that expires soon exactly if nothing that lasts stands behind it. -/
theorem checkIn_lasts_iff : (∀ u ∈ checkIn v timeout now waiting,
    u.aboutToExpire timeout now = false) ↔ Descends timeout now waiting := by
  obtain ⟨gone, hsplit, hgone, hlast⟩ := exists_purge timeout now waiting
  have hdescends : Descends timeout now waiting ↔ ∀ u ∈ purge timeout now waiting,
      u.aboutToExpire timeout now = false := by
    unfold Descends
    generalize purge timeout now waiting = left at hsplit hlast
    subst hsplit
    rw [List.pairwise_append]
    constructor
    · rintro ⟨hleft, -, -⟩ u hu
      -- The last one that is left lasts, so none before it expires soon.
      rcases List.eq_nil_or_concat' left with rfl | ⟨before, w, rfl⟩
      · cases hu
      · have hw : w.aboutToExpire timeout now = false := hlast w (List.getLast?_concat)
        rw [List.pairwise_append] at hleft
        rcases List.mem_append.mp hu with hu | hu
        · have himp := hleft.2.2 u hu w (List.mem_singleton_self w)
          rw [hw] at himp
          exact Bool.eq_false_iff.mpr fun hsoon => Bool.false_ne_true (himp hsoon)
        · rwa [List.mem_singleton.mp hu]
    · intro hlasts
      refine ⟨List.pairwise_of_forall_mem_list ?_, List.pairwise_of_forall_mem_list ?_, ?_⟩
      · intro u hu w _ hsoon
        rw [hlasts u hu] at hsoon
        cases hsoon
      · exact fun _ _ w hw _ => hgone w hw
      · exact fun _ _ w hw _ => hgone w hw
  rw [hdescends, checkIn_eq]
  constructor
  · exact fun h u hu => h u (List.mem_append_right _ hu)
  · intro h u hu
    rcases List.mem_append.mp hu with hu | hu
    · obtain ⟨rfl, -, hlasts⟩ := (mem_takenBack ..).mp hu
      exact hlasts
    · exact h u hu

/-- Nothing that lasts and is not dirty is lost by a return. -/
theorem checkIn_keeps : ((v :: waiting).filter fun u =>
    !u.dirty && !u.aboutToExpire timeout now).Sublist (checkIn v timeout now waiting) := by
  obtain ⟨gone, hsplit, hgone, -⟩ := exists_purge timeout now waiting
  have hnone : gone.filter (fun u => !u.dirty && !u.aboutToExpire timeout now) = [] := by
    rw [List.filter_eq_nil_iff]
    intro u hu
    simp [hgone u hu]
  rw [checkIn_eq, ← List.singleton_append, List.filter_append]
  refine List.Sublist.append ?_ ?_
  · unfold takenBack
    cases hdirty : v.dirty <;> cases hsoon : v.aboutToExpire timeout now <;> simp [hdirty, hsoon]
  · rw [hsplit, List.filter_append, hnone, List.append_nil, ← hsplit]
    exact List.filter_sublist

end Return

/-- Those that wait stand in the order of their last uses, the latest first. -/
def InOrder (waiting : List ServerSession) : Prop :=
  waiting.Pairwise fun u w => w.lastUse ≤ u.lastUse

/-- What was used earlier expires earlier. -/
theorem InOrder.descends {waiting : List ServerSession} (h : InOrder waiting) (timeout now : Nat) :
    Descends timeout now waiting := by
  refine h.imp fun {u w} hle hsoon => ?_
  unfold aboutToExpire at hsoon ⊢
  rw [decide_eq_true_iff] at hsoon ⊢
  omega

/-- If two stand in another order, there is a timeout under which the first expires soon and the
    second lasts. -/
theorem inOrder_of_descends {now : Nat} {waiting : List ServerSession}
    (past : ∀ u ∈ waiting, u.lastUse ≤ now) (h : ∀ timeout, Descends timeout now waiting) :
    InOrder waiting := by
  refine List.pairwise_iff_forall_sublist.mpr fun {u w} hsub => ?_
  by_contra hlt
  have hw : w.lastUse ≤ now := past w (hsub.subset (by simp))
  have hpair := (List.pairwise_pair).mp ((h (now + margin - w.lastUse)).sublist hsub)
  unfold aboutToExpire at hpair
  rw [decide_eq_true_iff, decide_eq_true_iff] at hpair
  omega

theorem InOrder.checkIn {v : ServerSession} {waiting : List ServerSession} (h : InOrder waiting)
    (latest : ∀ u ∈ waiting, u.lastUse ≤ v.lastUse) (timeout now : Nat) :
    InOrder (checkIn v timeout now waiting) := by
  have hcons : InOrder (v :: waiting) := List.pairwise_cons.mpr ⟨latest, h⟩
  exact hcons.sublist (checkIn_sublist v timeout now waiting)

/-! ## §3. Clients. -/

end ServerSession.Waiting

theorem ServerSession.Used.refl (now : Nat) (v : ServerSession) : v.Used now v :=
  ⟨rfl, .inl rfl, fun h => h⟩

/-- The server session of the session may have been used, and not more. -/
def Session.Uses (now : Nat) (s s' : Session) : Prop :=
  Option.Rel (ServerSession.Used now) s.server s'.server

theorem Session.Uses.of_map {now : Nat} {s s' : Session} {f : ServerSession → ServerSession}
    (h : s'.server = s.server.map f) (hf : ∀ v : ServerSession, v.Used now (f v)) :
    s.Uses now s' := by
  unfold Uses
  rw [h]
  cases s.server with
  | none => exact .none
  | some v => exact .some (hf v)

theorem Session.Uses.of_eq {now : Nat} {s s' : Session} (h : s'.server = s.server) :
    s.Uses now s' :=
  .of_map (f := fun v => v) (by rw [h, Option.map_id']) fun v => .refl now v

theorem Session.Change.uses {now : Nat} {free : Prop} {s s' : Session}
    (h : Session.Change now free s s') : s.Uses now s' := by
  have advanced : s.Uses now s.advanced := .of_map rfl fun _ => ⟨rfl, .inl rfl, fun h => h⟩
  cases h with
  | held | progressed | marked => exact .of_eq rfl
  | touched => exact .of_map rfl fun _ => ⟨rfl, .inr rfl, fun h => h⟩
  | soiled => exact .of_map rfl fun _ => ⟨rfl, .inl rfl, fun _ => rfl⟩
  | advanced hadvance =>
    obtain ⟨-, -, rfl⟩ := Session.eq_of_advance hadvance
    exact advanced
  | started hstart =>
    obtain ⟨-, rfl⟩ := Session.startTransaction_eq hstart
    exact advanced

namespace Client

/-- The server sessions that the sessions of the client hold. -/
def lent (c : Client) : List ServerSession := c.sessions.filterMap (·.server)

/-- What the client does with its server sessions is such a history. -/
def Recycles (c : Client) : Prop := ServerSession.Waiting.History c.now c.waiting c.lent

variable {c : Client}

theorem Recycles.modifySession (h : c.Recycles) {id : SessionId} {f : Session → Session}
    (hf : ∀ s, c.sessions[id]? = some s → s.Uses c.now (f s)) :
    (c.modifySession id f).Recycles := by
  cases hs : c.sessions[id]? with
  | none =>
    have hsame : c.modifySession id f = c := by
      rw [Client.modifySession, List.modify_eq_self (List.getElem?_eq_none_iff.mp hs)]
    rwa [hsame]
  | some s =>
    obtain ⟨before, after, hsplit, hmodify⟩ := exists_modify hs
    have huse := hf s hs
    show ServerSession.Waiting.History c.now c.waiting
      ((c.sessions.modify id f).filterMap (·.server))
    unfold Recycles lent at h
    rw [hmodify f, List.filterMap_append]
    rw [hsplit, List.filterMap_append] at h
    unfold Session.Uses at huse
    cases hv : s.server with
    | none =>
      rw [hv] at huse
      cases hv' : (f s).server with
      | none =>
        rw [List.filterMap_cons_none hv']
        rwa [List.filterMap_cons_none hv] at h
      | some v' =>
        rw [hv'] at huse
        cases huse
    | some v =>
      rw [hv] at huse
      cases hv' : (f s).server with
      | none =>
        rw [hv'] at huse
        cases huse
      | some v' =>
        rw [hv'] at huse
        cases huse with
        | some hused =>
          rw [List.filterMap_cons_some hv']
          rw [List.filterMap_cons_some hv] at h
          exact h.used hused

theorem Recycles.endSession (h : c.Recycles) (id : SessionId) : (c.endSession id).Recycles := by
  unfold Client.endSession
  cases hs : c.sessions[id]? with
  | none => exact h
  | some s =>
    cases hv : s.server with
    | none =>
      dsimp only
      rw [hv]
      exact h
    | some v =>
      obtain ⟨before, after, hsplit, hmodify⟩ := exists_modify hs
      dsimp only
      rw [hv]
      show ServerSession.Waiting.History c.now
        (ServerSession.Waiting.checkIn v s.timeout c.now c.waiting)
        ((c.sessions.modify id fun s => { s with server := none }).filterMap (·.server))
      unfold Recycles lent at h
      rw [hsplit, List.filterMap_append, List.filterMap_cons_some hv] at h
      rw [hmodify, List.filterMap_append, List.filterMap_cons_none rfl]
      exact h.returned s.timeout

theorem Recycles.dropSession (h : c.Recycles) (id : SessionId) : (c.dropSession id).Recycles := by
  have hreleased : (c.modifySession id fun s => { s with holders := s.holders - 1 }).Recycles :=
    h.modifySession fun _ _ => .of_eq rfl
  unfold Client.dropSession
  dsimp only
  split
  · split
    · exact hreleased.endSession id
    · exact hreleased
  · exact hreleased

theorem Recycles.openSession (h : c.Recycles) (timeout : Nat) (implicit : Bool) :
    (c.openSession timeout implicit).2.Recycles := by
  unfold Client.openSession Recycles lent
  rcases hout : ServerSession.Waiting.checkOut timeout c.now c.waiting with ⟨_ | v, rest⟩
  · rw [List.filterMap_append]
    exact h.made timeout c.nextIdentifier hout
  · rw [List.filterMap_append]
    exact h.handedOut timeout hout

theorem Change.recycles {may : SessionId → Prop} {c' : Client} (change : Client.Change may c c')
    (h : c.Recycles) : c'.Recycles := by
  cases change with
  | described s =>
    have hsame := c.sameSessions_update s
    have hnow : (c.update s).now = c.now := by
      rw [update, ensureMember]
      split <;> rfl
    unfold Recycles lent
    rw [hnow, hsame.sessions, hsame.waiting]
    exact h
  | withdrawn | member => exact h
  | elapsed millis => exact h.elapsed millis
  | session hf => exact h.modifySession fun s hs => (hf s hs).uses
  | opened timeout implicit => exact h.openSession timeout implicit
  | ended id => exact h.endSession id
  | dropped id => exact h.dropSession id

end Client

/-- In every scenario the client has such a history. -/
theorem Scenario.Reachable.recycles {s : Scenario} (h : s.Reachable) : s.run.client.Recycles := by
  refine h.invariant (P := Client.Recycles) (fun {o c} hstart => ?_) Client.Change.recycles
  obtain ⟨hsessions, hwaiting⟩ := sessions_start hstart
  unfold Client.Recycles Client.lent
  rw [hsessions, hwaiting]
  exact .begun c.now

/-! ## §4. What returns clear. -/

/-- What comes of the return of a server session now, to those that wait. -/
structure ServerSession.Returns (v : ServerSession) (now : Nat) (waiting : List ServerSession) :
    Prop where
  /-- Nothing comes up that was not there, and nothing changes places. -/
  came : ∀ timeout, (Waiting.checkIn v timeout now waiting).Sublist (v :: waiting)
  /-- Nothing is removed that lasts and is not dirty. -/
  kept : ∀ timeout, ((v :: waiting).filter fun u =>
    !u.dirty && !u.aboutToExpire timeout now).Sublist (Waiting.checkIn v timeout now waiting)
  /-- What is removed of those that wait is the end of the list, up to one that lasts. -/
  removed : ∀ timeout, ∃ left gone, waiting = left ++ gone ∧
    Waiting.checkIn v timeout now waiting = Waiting.takenBack v timeout now ++ left ∧
    (∀ u ∈ gone, u.aboutToExpire timeout now = true) ∧
    ∀ u, left.getLast? = some u → u.aboutToExpire timeout now = false
  /-- So nothing that expires soon is left exactly if nothing that lasts stood behind it. -/
  lasts_iff : ∀ timeout, (∀ u ∈ Waiting.checkIn v timeout now waiting,
    u.aboutToExpire timeout now = false) ↔ Waiting.Descends timeout now waiting
  /-- This is so for all timeouts exactly if those that wait stand in the order of last uses. -/
  always_iff : (∀ timeout, ∀ u ∈ Waiting.checkIn v timeout now waiting,
    u.aboutToExpire timeout now = false) ↔ Waiting.InOrder waiting
  /-- They go on to do so if what returns was used after them. -/
  inOrder : Waiting.InOrder waiting → (∀ u ∈ waiting, u.lastUse ≤ v.lastUse) →
    ∀ timeout, Waiting.InOrder (Waiting.checkIn v timeout now waiting)

/-- What returns clear away, in every history of a list of server sessions. -/
theorem checkIn_clears {now : Nat} {waiting lent : List ServerSession}
    (h : ServerSession.Waiting.History now waiting lent) (v : ServerSession) :
    v.Returns now waiting := by
  have past : ∀ u ∈ waiting, u.lastUse ≤ now :=
    fun u hu => h.lastUse_le u (List.mem_append_left _ hu)
  constructor
  · exact fun timeout => ServerSession.Waiting.checkIn_sublist v timeout now waiting
  · exact fun timeout => ServerSession.Waiting.checkIn_keeps v timeout now waiting
  · intro timeout
    obtain ⟨gone, hsplit, hgone, hlast⟩ := ServerSession.Waiting.exists_purge timeout now waiting
    exact ⟨_, gone, hsplit, ServerSession.Waiting.checkIn_eq v timeout now waiting, hgone, hlast⟩
  · exact fun timeout => ServerSession.Waiting.checkIn_lasts_iff v timeout now waiting
  · simp only [ServerSession.Waiting.checkIn_lasts_iff]
    exact ⟨ServerSession.Waiting.inOrder_of_descends past, fun ordered timeout =>
      ordered.descends timeout now⟩
  · exact fun ordered latest timeout => ordered.checkIn latest timeout now

namespace Late

/-- Two server sessions that were used after two seconds. -/
def last : ServerSession := { ServerSession.fresh 0 0 with lastUse := 2000 }

def recent : ServerSession := { ServerSession.fresh 2 0 with lastUse := 2000 }

/-- One that nobody has used. -/
def old : ServerSession := .fresh 1 0

/-- One that was used is returned first, and then the one that was not. -/
theorem history : ServerSession.Waiting.History 2000 [old, recent] [last] := by
  have hmade : ServerSession.Waiting.History 0 [] [.fresh 0 0, old, .fresh 2 0] :=
    (((ServerSession.Waiting.History.begun 0).made 1800000 0 rfl).made 1800000 1 rfl).made
      1800000 2 rfl
  have hlater : ServerSession.Waiting.History 2000 [] ([.fresh 0 0, old] ++ .fresh 2 0 :: []) :=
    hmade.elapsed 2000
  have hused : ServerSession.Waiting.History 2000 [] ([] ++ .fresh 0 0 :: [old, recent]) :=
    hlater.used ⟨rfl, .inr rfl, fun h => h⟩
  have hboth : ServerSession.Waiting.History 2000 [] ([last, old] ++ recent :: []) :=
    hused.used ⟨rfl, .inr rfl, fun h => h⟩
  have hreturned : ServerSession.Waiting.History 2000 [recent] ([last] ++ old :: []) :=
    hboth.returned 1800000
  exact hreturned.returned 1800000

end Late

/-- The last return of three leaves one that expires soon, for it stands before one that lasts. -/
theorem checkIn_leaves :
    ServerSession.Waiting.History 2000 [Late.old, Late.recent] [Late.last] ∧
      ServerSession.Waiting.checkIn Late.last 61500 2000 [Late.old, Late.recent] =
        [Late.last, Late.old, Late.recent] ∧
      Late.old.aboutToExpire 61500 2000 = true :=
  ⟨Late.history, by decide, by decide⟩

/-- The return is as it should be for all timeouts only where the two stand the other way round. -/
theorem checkIn_clears_late :
    Late.last.Returns 2000 [Late.old, Late.recent] ∧
      ¬ ServerSession.Waiting.InOrder [Late.old, Late.recent] := by
  refine ⟨checkIn_clears Late.history Late.last, ?_⟩
  intro ordered
  exact absurd (List.pairwise_pair.mp ordered) (by decide)

end ClusterClient
