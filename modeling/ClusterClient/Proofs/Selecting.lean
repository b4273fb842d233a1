/-
  ClusterClient.Proofs.Selecting — what selecting a server and lending a connection keep.

  A search goes on while things happen and ends with a lease or a failure, and a check-out waits
  before it lends a connection.  What they keep follows from what the single happenings, the lease
  and the loan keep.  `Selecting` lists what has to be shown of a relation `R` between runs, with
  `S` for a server that is leased, and the selection is walked through once for all of them.

  Main statements: `Selecting.select` and `Selecting.sessionSupport`.
-/
import ClusterClient.Proofs.Keeping

namespace ClusterClient

open Run

variable {R : Run → Run → Prop} {S : MemberId → Run → Run → Prop}

/-! ## §1. Leases and loans that are nothing special. -/

section Parts

variable [IsPreorder Run R] (told : ∀ e, (emit e).Keeps R)
include told

theorem Exec.Keeps.conclude (leased : ∀ id, (onClient (·.lease id)).Keeps R)
    (criteria : Criteria) (s : Search) : (conclude criteria s).Keeps R := by
  unfold Run.conclude
  cases s with
  | found s =>
    refine .bind (.lift .currentClient) fun c => ?_
    cases c.known.value? s.address with
    | some id =>
      exact .bind (.lift (leased id)) fun _ => .bind (.lift (told _)) fun _ => .pure _
    | none => exact .throw _
  | failed cluster => exact .bind (.lift (told _)) fun _ => .throw _
  | examining | undecided _ _ | waiting _ => exact .throw _

theorem Exec.Keeps.checkOut (waits : beginWait.Keeps R) (happens : ∀ h, (happen h).Keeps R)
    {id : MemberId}
    (lent : ∀ (r : Run) (m : Member), r.client.members[id]? = some m →
      R r { r with client := r.client.modifyMember id fun m' =>
        { m' with pool := (m.pool.checkOut (r.deployment.establish m.pool.address)).pool } }) :
    (checkOut id).Keeps R := by
  refine .bind (.lift waits) fun _ => .bind (.lift (.happenAll happens _)) fun _ => ?_
  intro r
  rw [Exec.on_bind, Exec.on_get]
  dsimp only
  cases hm : r.client.members[id]? with
  | none => exact refl_of R r
  | some m =>
    -- The pool that is put back is that of the member, after the check-out.
    rw [Exec.on_bind, Exec.on_lift]
    refine trans_of R (lent r m hm) (Exec.Keeps.bind (.settle _) (fun c => ?_) _)
    -- A new connection makes one event more.
    split
    · exact .bind (.lift (told _)) fun _ => .bind (.lift (told _)) fun _ => .pure _
    · exact .bind (.lift (told _)) fun _ => .pure _

theorem Act.Keeps.checkIn {lease : Lease}
    (returned : (onClient (·.modifyMember lease.member fun m =>
      { m with pool := m.pool.checkIn lease.description.id })).Keeps R) :
    (checkIn lease).Keeps R := by
  refine .bind .get fun r => ?_
  cases r.client.members[lease.member]? with
  | none => exact .pure _
  | some m =>
    refine .bind (told _) fun _ => ?_
    dsimp only
    split
    · exact .bind (told _) fun _ => returned
    · exact returned

end Parts

/-! ## §2. The walk through the selection. -/

/-- The relation is kept by selecting a server, up to the lease. -/
structure Selecting (R : Run → Run → Prop) (S : MemberId → Run → Run → Prop) : Prop where
  emit : ∀ e, (emit e).Keeps R
  beginWait : beginWait.Keeps R
  happen : ∀ h, (happen h).Keeps R
  leasing : Lending R S release
  conclude : ∀ criteria s, (conclude criteria s).Lends R fun selected => S selected.member

namespace Selecting

/-- A lease of a server, wherever the selection keeps its member. -/
theorem leasingSelected (h : Selecting R S) :
    Lending R (fun selected : Selected => S selected.member)
      fun selected => release selected.member where
  before := h.leasing.before
  after := h.leasing.after
  back := h.leasing.back

variable [IsPreorder Run R] (h : Selecting R S)
include h

theorem tellWaiting (criteria : Criteria) (told : Bool) :
    (Run.tellWaiting criteria told).Keeps R := by
  cases told
  · exact h.emit _
  · exact .pure _

theorem search (criteria : Criteria) (instant : Bool) (happenings : List Happening) :
    ∀ (told : Bool) (s : Search), (Run.search criteria instant told s happenings).Lends R
      fun selected => S selected.member := by
  have hl := h.leasingSelected
  have hproceed : ∀ timeIsUp s, (Run.proceed criteria timeIsUp s).Keeps R :=
    fun _ _ r => refl_of R r
  -- Only a search that waits goes on to what happens later; any other is concluded at once.
  induction happenings with
  | nil =>
    intro told s
    refine .after hl (.lift (hproceed instant s)) fun next => ?_
    cases next with
    | waiting seen =>
      exact .after hl (.lift (h.tellWaiting criteria told)) fun _ =>
        .after hl (.lift (hproceed _ _)) fun _ => h.conclude _ _
    | examining | undecided _ _ | found _ | failed _ => exact h.conclude _ _
  | cons happening later ih =>
    intro told s
    refine .after hl (.lift (hproceed instant s)) fun next => ?_
    cases next with
    | waiting seen =>
      exact .after hl (.lift (h.tellWaiting criteria told)) fun _ =>
        .after hl (.lift (h.happen happening)) fun _ => ih _ _
    | examining | undecided _ _ | found _ | failed _ =>
      exact .ensuring hl (h.conclude _ _) (.happenAll h.happen _)

theorem selectDuring (criteria : Criteria) (happenings : List Happening) :
    (Run.selectDuring criteria happenings).Lends R fun selected => S selected.member :=
  .after h.leasingSelected (.lift (h.emit _)) fun _ =>
    .after h.leasingSelected (.lift .currentClient) fun _ => h.search _ _ _ _ _

theorem select (criteria : Criteria) :
    (Run.select criteria).Lends R fun selected => S selected.member :=
  .after h.leasingSelected (.lift h.beginWait) fun _ => h.selectDuring _ _

theorem sessionSupport : Run.sessionSupport.Keeps R := by
  refine .bind (.lift .currentClient) fun c => ?_
  cases c.cluster.sessionSupport with
  | undetermined =>
    exact (h.select _).giveBackThen h.leasingSelected fun _ =>
      .bind (.lift .currentClient) fun _ => .pure _
  | unsupported | supported => exact .pure _

end Selecting

end ClusterClient
