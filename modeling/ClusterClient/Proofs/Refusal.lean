/-
  ClusterClient.Proofs.Refusal — only the client refuses to read.

  A read in a transaction that is not meant for the primary is refused, with an error that no server
  gives.  So whoever sees this error knows that the client has refused, provided that the servers on
  the other side do not make it up.  `Deployment.Unrefusing` says that they do not, and it is kept
  while time goes by.  An action is *unrefusing* when, working with such servers, it does not fail
  with a refusal; what is put together of unrefusing actions is unrefusing.  All that a read does
  besides refusing is of that kind.

  Main statements: `leaseSource_unrefusing`, `checkOut_unrefusing` and `attempt_unrefusing`.
-/
import ClusterClient.Proofs.Quiet

namespace ClusterClient

open Run

variable {α β : Type}

/-! ## §1. Errors. -/

namespace Error

/-- The error is the refusal of a read in a transaction. -/
def IsRefusal (e : Error) : Prop := ∃ rp, e.cause = .notPrimaryInTransaction rp

@[simp] theorem cause_addLabel (e : Error) (label : String) :
    (e.addLabel label).cause = e.cause := by
  unfold addLabel
  split <;> rfl

@[simp] theorem cause_addLabels (e : Error) (labels : List String) :
    (e.addLabels labels).cause = e.cause := by
  unfold addLabels
  induction labels generalizing e with
  | nil => rfl
  | cons label rest ih => rw [List.foldl_cons, ih, cause_addLabel]

@[simp] theorem cause_labelled (cause : Cause) (labels : List String) :
    (labelled cause labels).cause = cause := by
  unfold labelled
  cases cause <;> simp only [cause_addLabels]

@[simp] theorem cause_of (cause : Cause) : (of cause).cause = cause := cause_labelled cause []

theorem isRefusal_of (rp : ReadPreference) : (of (.notPrimaryInTransaction rp)).IsRefusal :=
  ⟨rp, cause_of _⟩

theorem not_isRefusal_of {cause : Cause} (h : ∀ rp, cause ≠ .notPrimaryInTransaction rp) :
    ¬ (of cause).IsRefusal :=
  fun ⟨rp, hrp⟩ => h rp ((cause_of cause).symm.trans hrp)

/-- A label says nothing of the cause. -/
theorem isRefusal_congr {e e' : Error} (h : e'.cause = e.cause) : e'.IsRefusal ↔ e.IsRefusal := by
  unfold IsRefusal
  rw [h]

end Error

@[simp] theorem cause_labelTransient (e : Error) (x : SessionContext) (c : Client) :
    (labelTransient e x c).cause = e.cause := by
  unfold labelTransient
  split
  · exact Error.cause_addLabel e _
  · rfl

/-- A refusal is no failure of the network and no wait that ran out, so it is not labelled. -/
theorem labelTransient_refusal (rp : ReadPreference) (x : SessionContext) (c : Client) :
    labelTransient (Error.of (.notPrimaryInTransaction rp)) x c =
      Error.of (.notPrimaryInTransaction rp) := by
  unfold labelTransient
  exact if_neg (by simp [Error.isNetwork, Error.isTimeout])

/-- A reply is not read as a refusal. -/
theorem Document.validate_unrefusing {reply : Document} {e : Error}
    (h : reply.validate = .error e) : ¬ e.IsRefusal := by
  rintro ⟨rp, hcause⟩
  unfold validate at h
  split at h
  · cases h
  · split at h
    · cases h
      rw [Error.cause_labelled] at hcause
      cases hcause
    · cases h
      rw [Error.cause_of] at hcause
      cases hcause

/-- Nor does an answer become one when it is looked at. -/
theorem Document.validated_unrefusing {answer : Except Error Document} {e : Error}
    (h : ∀ e, answer = .error e → ¬ e.IsRefusal) (he : answer >>= validate = .error e) :
    ¬ e.IsRefusal := by
  cases answer with
  | error e' =>
    cases he
    exact h e rfl
  | ok reply => exact validate_unrefusing he

/-! ## §2. Servers. -/

/-- It does not make connecting fail with a refusal. -/
def Happening.Unrefusing : Happening → Prop
  | .unreachable _ e => ¬ e.IsRefusal
  | .described _ | .withdrawn _ | .reachable _ | .elapsed _ => True

/-- No server fails with a refusal, now or later. -/
structure Deployment.Unrefusing (d : Deployment) : Prop where
  replies : ∀ entry ∈ d.replies, ∀ reply ∈ entry.2, ∀ e, reply.answer = .error e → ¬ e.IsRefusal
  unreachable : ∀ entry ∈ d.unreachable, ¬ Error.IsRefusal entry.2
  meanwhile : ∀ wait ∈ d.meanwhile, ∀ h ∈ wait, Happening.Unrefusing h

namespace AddressMap

/-- What a table holds after a change was there before or was put there. -/
theorem mem_put {γ : Type} {m : AddressMap γ} {a : Address} {v : γ} {entry : Address × γ}
    (h : entry ∈ m.put a v) : entry ∈ m ∨ entry.2 = v := by
  induction m with
  | nil =>
    rw [List.mem_singleton.mp h]
    exact .inr rfl
  | cons first rest ih =>
    unfold put at h
    split at h
    · rcases List.mem_cons.mp h with rfl | h
      · exact .inr rfl
      · exact .inl (List.mem_cons_of_mem first h)
    · rcases List.mem_cons.mp h with rfl | h
      · exact .inl List.mem_cons_self
      · exact (ih h).imp_left (List.mem_cons_of_mem first)

theorem mem_of_value? {γ : Type} {m : AddressMap γ} {a : Address} {v : γ}
    (h : m.value? a = some v) : ∃ entry ∈ m, entry.2 = v := by
  obtain ⟨entry, hfound, rfl⟩ := Option.map_eq_some_iff.mp h
  exact ⟨entry, List.mem_of_find?_eq_some hfound, rfl⟩

end AddressMap

namespace Deployment.Unrefusing

variable {d : Deployment}

/-- Whatever servers report, nothing else is on its way. -/
theorem quiet (h : d.replies = [] ∧ d.unreachable = [] ∧ d.meanwhile = []) : d.Unrefusing := by
  obtain ⟨_, _, _, _⟩ := d
  obtain ⟨rfl, rfl, rfl⟩ := h
  exact ⟨List.forall_mem_nil _, List.forall_mem_nil _, List.forall_mem_nil _⟩

theorem nextWait (h : d.Unrefusing) :
    d.nextWait.2.Unrefusing ∧ ∀ happening ∈ d.nextWait.1, happening.Unrefusing := by
  obtain ⟨replies, unreachable, reports, _ | ⟨first, rest⟩⟩ := d
  · exact ⟨h, List.forall_mem_nil _⟩
  · refine ⟨⟨h.replies, h.unreachable, fun wait hw => ?_⟩, ?_⟩
    · exact h.meanwhile wait (List.mem_cons_of_mem first hw)
    · exact h.meanwhile first List.mem_cons_self

theorem nextReply (h : d.Unrefusing) (a : Address) :
    (d.nextReply a).2.Unrefusing ∧
      ∀ e, (d.nextReply a).1.answer = .error e → ¬ e.IsRefusal := by
  have scripted : ∀ reply rest, d.replies.value? a = some (reply :: rest) →
      (∀ e, reply.answer = .error e → ¬ e.IsRefusal) ∧
        { d with replies := d.replies.put a rest }.Unrefusing := by
    intro reply rest hv
    obtain ⟨entry, hentry, heq⟩ := AddressMap.mem_of_value? hv
    have heach := h.replies entry hentry
    rw [heq] at heach
    refine ⟨heach reply List.mem_cons_self, fun kept hkept => ?_, h.unreachable, h.meanwhile⟩
    -- The script of the server is shorter now; those of the others are as they were.
    obtain hkept | hkept := AddressMap.mem_put hkept
    · exact h.replies kept hkept
    · rw [hkept]
      exact fun reply' hr => heach reply' (List.mem_cons_of_mem reply hr)
  have unscripted : ∀ e, ScriptedReply.success.answer = .error e → ¬ e.IsRefusal := by
    intro e he
    cases he
  unfold Deployment.nextReply
  cases hv : d.replies.value? a with
  | none => exact ⟨h, unscripted⟩
  | some script =>
    cases script with
    | nil => exact ⟨h, unscripted⟩
    | cons reply rest => exact (scripted reply rest hv).symm

theorem establish (h : d.Unrefusing) {a : Address} {n : Nat} {e : Error}
    (failed : d.establish a n = .error e) : ¬ e.IsRefusal := by
  unfold Deployment.establish at failed
  cases hv : d.unreachable.value? a with
  | none =>
    rw [hv] at failed
    cases failed
  | some e' =>
    rw [hv] at failed
    cases failed
    obtain ⟨entry, hentry, rfl⟩ := AddressMap.mem_of_value? hv
    exact h.unreachable entry hentry

end Deployment.Unrefusing

/-! ## §3. Actions. -/

/-- If the servers do not refuse in the first run, they do not in the second. -/
def KeepsUnrefusing (r r' : Run) : Prop := r.deployment.Unrefusing → r'.deployment.Unrefusing

instance : IsPreorder Run KeepsUnrefusing where
  refl _ h := h
  trans _ _ _ h h' hr := h' (h hr)

theorem onClient_keepsUnrefusing (f : Client → Client) : (onClient f).Keeps KeepsUnrefusing :=
  fun _ h => h

theorem emit_keepsUnrefusing (e : Event) : (emit e).Keeps KeepsUnrefusing := fun _ h => h

theorem happen_keepsUnrefusing {h : Happening} (hh : h.Unrefusing) :
    (happen h).Keeps KeepsUnrefusing := by
  intro r hr
  cases h with
  | described s => exact ⟨hr.replies, hr.unreachable, hr.meanwhile⟩
  | withdrawn | elapsed => exact hr
  | unreachable a e =>
    refine ⟨hr.replies, fun entry hentry => ?_, hr.meanwhile⟩
    obtain hentry | hentry := AddressMap.mem_put hentry
    · exact hr.unreachable entry hentry
    · rw [hentry]
      exact hh
  | reachable a =>
    exact ⟨hr.replies, fun entry hentry => hr.unreachable entry (List.mem_filter.mp hentry).1,
      hr.meanwhile⟩

theorem happenAll_keepsUnrefusing {happenings : List Happening}
    (h : ∀ happening ∈ happenings, happening.Unrefusing) :
    (happenAll happenings).Keeps KeepsUnrefusing := by
  induction happenings with
  | nil => exact fun r => refl_of KeepsUnrefusing r
  | cons happening rest ih =>
    intro r
    rw [on_happenAll_cons]
    exact trans_of KeepsUnrefusing (happen_keepsUnrefusing (h _ List.mem_cons_self) r)
      (ih (fun h' hh' => h h' (List.mem_cons_of_mem _ hh')) _)

/-- With servers that do not refuse the action does not fail with a refusal, and they do not refuse
    afterwards. -/
def Exec.Unrefusing (x : Exec α) : Prop :=
  ∀ r, r.deployment.Unrefusing →
    (x.on r).2.deployment.Unrefusing ∧ ∀ e, (x.on r).1 = .error e → ¬ e.IsRefusal

namespace Exec.Unrefusing

theorem lift {x : Act α} (hx : x.Keeps KeepsUnrefusing) : Exec.Unrefusing (liftM x) :=
  fun r hr => ⟨hx r hr, nofun⟩

theorem pure (a : α) : Exec.Unrefusing (Pure.pure a) := fun _ hr => ⟨hr, nofun⟩

theorem throw {e : Error} (h : ¬ e.IsRefusal) : Exec.Unrefusing (throw e : Exec α) := by
  refine fun r hr => ⟨hr, fun e' he' => ?_⟩
  cases he'
  exact h

theorem throwOf {cause : Cause} (h : ∀ rp, cause ≠ .notPrimaryInTransaction rp) :
    Exec.Unrefusing (MonadExcept.throw (Error.of cause) : Exec α) :=
  throw (Error.not_isRefusal_of h)

theorem settle {result : Except Error α} (h : ∀ e, result = .error e → ¬ e.IsRefusal) :
    Exec.Unrefusing (settle result) :=
  fun _ hr => ⟨hr, h⟩

theorem bind {x : Exec α} {f : α → Exec β} (hx : x.Unrefusing) (hf : ∀ a, (f a).Unrefusing) :
    Exec.Unrefusing (x >>= f) := by
  intro r hr
  have hfirst := hx r hr
  rw [Exec.on_bind]
  generalize x.on r = went at hfirst ⊢
  obtain ⟨e | a, r'⟩ := went
  · refine ⟨hfirst.1, fun e' he' => ?_⟩
    cases he'
    exact hfirst.2 e rfl
  · exact hf a r' hfirst.1

theorem ensuring {x : Exec α} {cleanup : Act Unit} (hx : x.Unrefusing)
    (hc : cleanup.Keeps KeepsUnrefusing) : Exec.Unrefusing (ensuring x cleanup) :=
  fun r hr => ⟨hc _ (hx r hr).1, (hx r hr).2⟩

/-- What came of an unrefusing action is looked at. -/
theorem observing {x : Exec α} {f : Except Error α → Exec β} (hx : x.Unrefusing)
    (hok : ∀ a, (f (.ok a)).Unrefusing) (herror : ∀ e, ¬ e.IsRefusal → (f (.error e)).Unrefusing) :
    Exec.Unrefusing (observe x >>= f) := by
  intro r hr
  have hfirst := hx r hr
  rw [Exec.on_bind, on_observe]
  generalize x.on r = went at hfirst ⊢
  obtain ⟨e | a, r'⟩ := went
  · exact herror e (hfirst.2 e rfl) r' hfirst.1
  · exact hok a r' hfirst.1

/-- An action that looks at the run finds servers that do not refuse. -/
theorem reading {f : Run → Exec α} (hf : ∀ r, r.deployment.Unrefusing → (f r).Unrefusing) :
    Exec.Unrefusing (get >>= f) :=
  fun r hr => hf r hr r hr

/-- What happens while an action waits does not make it refuse. -/
theorem waiting {f : List Happening → Exec α}
    (hf : ∀ happenings, (∀ h ∈ happenings, h.Unrefusing) → (f happenings).Unrefusing) :
    Exec.Unrefusing (liftM beginWait >>= f) := by
  intro r hr
  obtain ⟨hrest, hwait⟩ := hr.nextWait
  exact hf r.deployment.nextWait.1 hwait _ hrest

end Exec.Unrefusing

/-! ## §4. Selecting a server. -/

/-- A search fails because there is no server, whatever the servers may say. -/
theorem conclude_not_refusal {criteria : Criteria} {s : Search} {r : Run} {e : Error}
    (h : ((conclude criteria s).on r).1 = .error e) : ¬ e.IsRefusal := by
  unfold Run.conclude at h
  cases s with
  | found d =>
    rw [Exec.on_bind, Exec.on_lift, on_currentClient] at h
    dsimp only at h
    cases hk : r.client.known.value? d.address with
    | some id =>
      rw [hk] at h
      cases h
    | none =>
      rw [hk] at h
      cases h
      exact Error.not_isRefusal_of nofun
  | failed cluster | examining | undecided _ _ | waiting _ =>
    cases h
    exact Error.not_isRefusal_of nofun

theorem conclude_unrefusing (criteria : Criteria) (s : Search) :
    (conclude criteria s).Unrefusing := by
  have hkeeps : (conclude criteria s).Keeps KeepsUnrefusing :=
    .conclude emit_keepsUnrefusing (fun _ => onClient_keepsUnrefusing _) criteria s
  exact fun r hr => ⟨hkeeps r hr, fun _ he => conclude_not_refusal he⟩

theorem search_unrefusing (criteria : Criteria) (instant : Bool) {happenings : List Happening}
    (h : ∀ happening ∈ happenings, happening.Unrefusing) :
    ∀ (told : Bool) (s : Search), (search criteria instant told s happenings).Unrefusing := by
  have hproceed : ∀ timeIsUp s, (Run.proceed criteria timeIsUp s).Keeps KeepsUnrefusing :=
    fun _ _ r => refl_of KeepsUnrefusing r
  have htell : ∀ told, (tellWaiting criteria told).Keeps KeepsUnrefusing := by
    intro told
    cases told
    · exact emit_keepsUnrefusing _
    · exact .pure _
  induction happenings with
  | nil =>
    intro told s
    refine .bind (.lift (hproceed instant s)) fun next => ?_
    cases next with
    | waiting seen =>
      exact .bind (.lift (htell told)) fun _ => .bind (.lift (hproceed _ _)) fun _ =>
        conclude_unrefusing _ _
    | examining | undecided _ _ | found _ | failed _ => exact conclude_unrefusing _ _
  | cons happening later ih =>
    intro told s
    refine .bind (.lift (hproceed instant s)) fun next => ?_
    cases next with
    | waiting seen =>
      exact .bind (.lift (htell told)) fun _ =>
        .bind (.lift (happen_keepsUnrefusing (h _ List.mem_cons_self))) fun _ =>
          ih (fun h' hh' => h h' (List.mem_cons_of_mem _ hh')) _ _
    | examining | undecided _ _ | found _ | failed _ =>
      exact .ensuring (conclude_unrefusing _ _) (happenAll_keepsUnrefusing h)

theorem select_unrefusing (criteria : Criteria) : (select criteria).Unrefusing :=
  .waiting fun _ h => .bind (.lift (emit_keepsUnrefusing _)) fun _ =>
    .bind (.lift .currentClient) fun _ => search_unrefusing _ _ h _ _

theorem leaseSource_unrefusing (b : Binding) (criteria : Criteria) :
    (b.leaseSource criteria).Unrefusing :=
  .bind (select_unrefusing criteria) fun _ => .bind (.lift .currentClient) fun _ =>
    .bind (.lift (onClient_keepsUnrefusing _)) fun _ =>
      .bind (.lift (onClient_keepsUnrefusing _)) fun _ => .pure _

/-! ## §5. Using a connection. -/

/-- A check-out fails because the pool is exhausted or the server cannot be reached. -/
theorem Pool.checkOut_unrefusing {d : Deployment} (hd : d.Unrefusing) {p : Pool} {a : Address}
    {e : Error} (h : (p.checkOut (d.establish a)).result = .error e) : ¬ e.IsRefusal := by
  obtain ⟨address, permits, nextId, idle, _⟩ := p
  cases permits with
  | zero =>
    cases h
    rintro ⟨rp, hcause⟩
    rw [Error.cause_of] at hcause
    cases hcause
  | succ rest =>
    cases idle with
    | cons c waiting => cases h
    | nil =>
      unfold checkOut at h
      dsimp only at h
      cases hopen : d.establish a nextId with
      | error e' =>
        rw [hopen] at h
        cases h
        exact hd.establish hopen
      | ok c =>
        rw [hopen] at h
        cases h

theorem checkOut_unrefusing (id : MemberId) : (checkOut id).Unrefusing := by
  refine .waiting fun happenings h => .bind (.lift (happenAll_keepsUnrefusing h)) fun _ =>
    .reading fun r hr => ?_
  cases r.client.members[id]? with
  | none => exact .throwOf nofun
  | some m =>
    refine .bind (.lift (onClient_keepsUnrefusing _)) fun _ =>
      .bind (.settle fun e => Pool.checkOut_unrefusing hr) fun c => ?_
    -- A new connection makes one event more.
    split
    · exact .bind (.lift (emit_keepsUnrefusing _)) fun _ =>
        .bind (.lift (emit_keepsUnrefusing _)) fun _ => .pure _
    · exact .bind (.lift (emit_keepsUnrefusing _)) fun _ => .pure _

theorem checkIn_keepsUnrefusing (lease : Lease) : (checkIn lease).Keeps KeepsUnrefusing :=
  .checkIn emit_keepsUnrefusing (onClient_keepsUnrefusing _)

theorem exchange_unrefusing (lease : Lease) (command : Command) (session : Option Session) :
    (exchange lease command session).Unrefusing := by
  refine .bind (.lift (.modify fun _ h => h)) fun _ => .reading fun r hr => ?_
  obtain ⟨hnext, hanswer⟩ := hr.nextReply lease.description.address
  -- What comes with the reply are descriptions and removals.
  refine .bind (.lift (.modify fun _ _ => hnext)) fun _ =>
    .bind (.lift (happenAll_keepsUnrefusing ?_)) fun _ =>
      .bind (.lift (happenAll_keepsUnrefusing ?_)) fun _ => .settle fun e he => ?_
  · simp [Happening.Unrefusing]
  · simp [Happening.Unrefusing]
  · exact Document.validated_unrefusing hanswer he

theorem follow_unrefusing (lease : Lease) (name : String) (x : SessionContext)
    {result : Except Error Document} (h : ∀ e, result = .error e → ¬ e.IsRefusal) :
    (follow lease name x result).Unrefusing := by
  cases result with
  | ok reply => exact .bind (.lift (emit_keepsUnrefusing _)) fun _ => .pure _
  | error e =>
    have told : Exec.Unrefusing (do
        emit (.commandFailed name lease.description.address lease.description.id e)
        throw e : Exec Document) :=
      .bind (.lift (emit_keepsUnrefusing _)) fun _ => .throw (h e rfl)
    unfold Run.follow
    dsimp only
    split
    · exact .bind (.lift (onClient_keepsUnrefusing _)) fun _ =>
        .bind (.lift (onClient_keepsUnrefusing _)) fun _ => told
    · exact told

theorem send_unrefusing (lease : Lease) (command : Command) (x : SessionContext) :
    (send lease command x).Unrefusing :=
  .bind (.lift .currentClient) fun _ => .bind (.lift (emit_keepsUnrefusing _)) fun _ =>
    .observing (exchange_unrefusing _ _ _) (fun _ => follow_unrefusing _ _ _ nofun)
      fun e he => follow_unrefusing _ _ _ fun e' he' => by
        cases he'
        exact he

/-- An attempt refuses only if the interpretation of the reply does. -/
theorem attempt_unrefusing (source : Source) (lease : Lease) (command : Command)
    {interpret : Interpretation α}
    (h : ∀ reply a e, interpret reply a = .error e → ¬ e.IsRefusal) :
    (attempt source lease command interpret).Unrefusing :=
  .bind (send_unrefusing lease command source.context) fun reply => .settle (h reply _)

end ClusterClient
