/-
  ClusterClient.Proofs.Support — whether a deployment keeps sessions, and who gets one.

  What a snapshot says of sessions is told by the servers that hold data and that operations can be
  routed to, its keepers: nothing without a keeper, no if one of them names no timeout, and
  otherwise the least timeout.  The reader goes through them one by one and may stop at any; the
  invariant is that it has the least timeout of those that it has gone through.  As a matter of
  sets the answer has nothing to do with the order of the snapshot.

  Without a keeper a server that holds data is looked for.  The search goes another way, by the
  criteria, the latency window and the table of members, and it finds no server exactly if there is
  no keeper.  So the two never disagree on why there is no session: if nothing is published
  meanwhile, the search that follows an undetermined answer is in vain, and no other answer is
  followed by a search.

  Main statement: `support_agrees`.
-/
import ClusterClient.Proofs.Bindings
import ClusterClient.Proofs.Enumeration
import ClusterClient.Proofs.Publication
import Mathlib.Order.Bounds.Basic

namespace ClusterClient

open Run

/-! ## §1. The reader of a snapshot. -/

/-- The timeouts that servers name. -/
def timeouts (servers : Set ServerDescription) : Set Nat :=
  {n | ∃ s ∈ servers, s.sessionTimeout = some n}

/-- What servers that hold data say of sessions, together. -/
inductive SessionSupport.Of (keepers : Set ServerDescription) : SessionSupport → Prop where
  | undetermined (none : keepers = ∅) : Of keepers .undetermined
  | unsupported (s : ServerDescription) (keeper : s ∈ keepers) (unnamed : s.sessionTimeout = none) :
    Of keepers .unsupported
  | supported {timeout : Nat} (named : ∀ s ∈ keepers, s.sessionTimeout.isSome = true)
    (least : IsLeast (timeouts keepers) timeout) : Of keepers (.supported timeout)

namespace SessionSupport

theorem timeouts_insert {s : ServerDescription} {n : Nat} (h : s.sessionTimeout = some n)
    (servers : Set ServerDescription) :
    timeouts (insert s servers) = insert n (timeouts servers) := by
  ext m
  show (∃ t ∈ insert s servers, t.sessionTimeout = some m) ↔ m = n ∨ m ∈ timeouts servers
  rw [Set.exists_mem_insert, h, Option.some_inj, eq_comm]
  rfl

/-- The reader has gone through some servers, which all named a timeout, and knows the least; it
    goes through the rest. -/
theorem of_go {seen : Set ServerDescription} {least : Nat}
    (named : ∀ s ∈ seen, s.sessionTimeout.isSome = true) (hleast : IsLeast (timeouts seen) least)
    (rest : List ServerDescription) :
    Of (seen ∪ {s | s ∈ rest}) (ofServers.go least rest) := by
  induction rest generalizing seen least with
  | nil =>
    have hseen : seen ∪ {s | s ∈ ([] : List ServerDescription)} = seen := by simp
    rw [hseen]
    exact .supported named hleast
  | cons s rest ih =>
    unfold ofServers.go
    cases hs : s.sessionTimeout with
    | none => exact .unsupported s (.inr List.mem_cons_self) hs
    | some timeout =>
      have hnamed : ∀ t ∈ insert s seen, t.sessionTimeout.isSome = true := by
        intro t ht
        rcases Set.mem_insert_iff.mp ht with rfl | ht
        · rw [hs]
          rfl
        · exact named t ht
      have hmin : IsLeast (timeouts (insert s seen)) (min least timeout) := by
        rw [timeouts_insert hs, min_comm]
        exact hleast.insert timeout
      have hall : insert s seen ∪ {t | t ∈ rest} = seen ∪ {t | t ∈ s :: rest} := by
        ext t
        simp only [Set.mem_union, Set.mem_insert_iff, Set.mem_ofPred_eq, List.mem_cons]
        rw [or_assoc, or_left_comm]
      rw [← hall]
      exact ih hnamed hmin

/-- The reader answers for all the servers of a list. -/
theorem of_ofServers (servers : List ServerDescription) :
    Of {s | s ∈ servers} (ofServers servers) := by
  cases servers with
  | nil => exact .undetermined (by simp)
  | cons s rest =>
    rw [ofServers]
    cases hs : s.sessionTimeout with
    | none =>
      have hfirst : s ∈ {t | t ∈ s :: rest} := List.mem_cons_self
      exact .unsupported s hfirst hs
    | some timeout =>
      have hfirst : IsLeast (timeouts {s}) timeout := by
        refine ⟨⟨s, rfl, hs⟩, ?_⟩
        rintro n ⟨t, rfl, hn⟩
        rw [hs] at hn
        exact (Option.some.inj hn).le
      have hall : ({s} : Set ServerDescription) ∪ {t | t ∈ rest} = {t | t ∈ s :: rest} := by
        ext t
        simp
      have hnamed : ∀ t ∈ ({s} : Set ServerDescription), t.sessionTimeout.isSome = true := by
        intro t ht
        rw [Set.mem_singleton_iff.mp ht, hs]
        rfl
      rw [← hall]
      exact of_go hnamed hfirst rest

section Answers

variable {keepers : Set ServerDescription} {support : SessionSupport} (h : Of keepers support)
include h

theorem Of.undetermined_iff : support = .undetermined ↔ keepers = ∅ := by
  cases h with
  | undetermined hnone => simp [hnone]
  | unsupported s hs => simp [Set.nonempty_iff_ne_empty.mp ⟨s, hs⟩]
  | supported _ least =>
    obtain ⟨s, hs, -⟩ := least.1
    simp [Set.nonempty_iff_ne_empty.mp ⟨s, hs⟩]

theorem Of.unsupported_iff :
    support = .unsupported ↔ ∃ s ∈ keepers, s.sessionTimeout = none := by
  cases h with
  | undetermined hnone => simp [hnone]
  | unsupported s hs unnamed => exact iff_of_true rfl ⟨s, hs, unnamed⟩
  | supported named _ =>
    refine iff_of_false nofun ?_
    rintro ⟨s, hs, hnone⟩
    have hsome := named s hs
    rw [hnone] at hsome
    cases hsome

theorem Of.supported_iff (timeout : Nat) : support = .supported timeout ↔
    keepers.Nonempty ∧ (∀ s ∈ keepers, s.sessionTimeout.isSome = true) ∧
      IsLeast (timeouts keepers) timeout := by
  cases h with
  | undetermined hnone => simp [hnone]
  | unsupported s hs unnamed =>
    refine iff_of_false nofun ?_
    rintro ⟨-, named, -⟩
    have hsome := named s hs
    rw [unnamed] at hsome
    cases hsome
  | supported named least =>
    constructor
    · intro heq
      cases heq
      obtain ⟨s, hs, -⟩ := least.1
      exact ⟨⟨s, hs⟩, named, least⟩
    · rintro ⟨-, -, least'⟩
      rw [least.unique least']

end Answers

end SessionSupport

namespace ClusterDescription

/-- The servers that hold data and that operations can be routed to. -/
def keepers (c : ClusterDescription) : Set ServerDescription :=
  {s ∈ c.routable | s.kind.isDataBearing = true}

/-- What a snapshot says of sessions is what its keepers say. -/
theorem of_sessionSupport (c : ClusterDescription) :
    SessionSupport.Of c.keepers c.sessionSupport := by
  have hkeepers : {s | s ∈ c.servers.filter fun s => s.isSelectable && s.kind.isDataBearing} =
      c.keepers := by
    ext s
    show s ∈ c.servers.filter _ ↔ s ∈ c.routable ∧ s.kind.isDataBearing = true
    rw [← c.mem_selectable, selectable, List.mem_filter, List.mem_filter, Bool.and_eq_true,
      and_assoc]
  rw [← hkeepers]
  exact SessionSupport.of_ofServers _

/-- The keepers are a matter of the descriptions, not of their order. -/
theorem Reorders.keepers_eq {c c' : ClusterDescription} (h : c.Reorders c') :
    c'.keepers = c.keepers := by
  rw [keepers, keepers, h.routable_eq]

/-! ## §2. Looking for a server that holds data. -/

/-- The servers that a search for one that holds data accepts are the keepers, also in a deployment
    of a single server, where other predicates may accept more. -/
theorem suited_dataBearing (c : ClusterDescription) : c.suited .dataBearing = c.keepers := by
  ext s
  show s ∈ c.routable ∧ s.kind.isDataBearing = true ∧ (_ ∨ s.kind.isDataBearing = true) ↔
    s ∈ c.routable ∧ s.kind.isDataBearing = true
  exact and_congr_right fun _ => and_iff_left_of_imp Or.inr

/-- If all servers can be leased, the search finds one exactly if there is a keeper. -/
theorem choose?_dataBearing {c : ClusterDescription} {load : Address → Option Nat}
    (leasable : ∀ s ∈ c.servers, (load s.address).isSome = true) :
    c.choose? load .dataBearing = none ↔ c.keepers = ∅ := by
  rw [c.choose?_eq_none_iff, ← c.suited_dataBearing, ← Set.not_nonempty_iff_eq_empty,
    ← c.nearby_nonempty]
  constructor
  · rintro hnone ⟨s, hs⟩
    have hsome := leasable s (c.mem_servers_of_nearby hs)
    rw [hnone s hs] at hsome
    cases hsome
  · intro hempty s hs
    exact absurd ⟨s, hs⟩ hempty

end ClusterDescription

/-! ## §3. A search in vain. -/

/-- During the wait that begins with the run nothing is published of any server. -/
def Run.Unheard (r : Run) : Prop :=
  ∀ n ∈ r.deployment.nextWait.1, ∀ a, n.concerns a = false

/-- Nothing is published if nothing at all is to happen. -/
theorem Run.unheard_of_idle {r : Run} (h : r.deployment.nextWait.1 = []) : r.Unheard := by
  intro n hn
  rw [h] at hn
  cases hn

/-- What publishes nothing is at most the passing of time. -/
theorem Client.hear_of_unpublished {n : Happening} (h : ∀ a, n.concerns a = false) (c : Client) :
    ∃ now, c.hear n = { c with now := now } := by
  cases n with
  | described s | withdrawn a => exact absurd (Address.same_refl _) (Bool.eq_false_iff.mp (h _))
  | unreachable | reachable => exact ⟨c.now, rfl⟩
  | elapsed millis => exact ⟨c.now + millis, rfl⟩

namespace Search

/-- The search is about to look, or waits to look again. -/
inductive Looking : Search → Prop where
  | examining : Looking .examining
  | waiting (seen : Nat) : Looking (.waiting seen)

/-- Where there is no server to choose, a search goes on to its failure if time is up, and waits
    otherwise. -/
theorem proceed_unfound {s : Search} (hs : s.Looking) {c : Client} {criteria : Criteria}
    (hnone : c.cluster.choose? c.load criteria = none) (timeIsUp : Bool) :
    s.proceed c criteria timeIsUp = if timeIsUp then .failed c.cluster else .waiting c.version := by
  have hlooked : step c criteria timeIsUp .examining = .undecided c.version c.cluster := by
    simp only [step, hnone]
  cases hs with
  | examining =>
    unfold proceed
    rw [hlooked]
    cases timeIsUp <;> simp [step]
  | waiting seen =>
    unfold proceed
    cases timeIsUp with
    | true =>
      rw [show step c criteria true (.waiting seen) = .examining by simp [step], hlooked]
      rfl
    | false =>
      -- A newer version is looked at once more, and the search waits for the next.
      by_cases hv : c.version = seen
      · simp [step, hv]
      · rw [show step c criteria false (.waiting seen) = .examining by simp [step, hv], hlooked]
        rfl

end Search

/-- As long as there is no server to choose and nothing is published, a search fails. -/
theorem search_unfound (criteria : Criteria) (instant : Bool) (happenings : List Happening)
    (unheard : ∀ n ∈ happenings, ∀ a, n.concerns a = false) :
    ∀ (told : Bool) (s : Search) (r : Run), s.Looking →
      r.client.cluster.choose? r.client.load criteria = none →
      ((search criteria instant told s happenings).on r).1 =
        .error (Error.of (.noServer criteria r.client.cluster)) := by
  induction happenings with
  | nil =>
    intro told s r hs hnone
    have hproceed := Search.proceed_unfound hs hnone instant
    cases instant with
    | true =>
      rw [search_over [] (by rw [hproceed]; nofun), hproceed]
      rfl
    | false =>
      rw [search_timedOut hproceed, Search.proceed_unfound (.waiting _) hnone]
      rfl
  | cons next later ih =>
    intro told s r hs hnone
    have hproceed := Search.proceed_unfound hs hnone instant
    cases instant with
    | true =>
      rw [search_over (next :: later) (by rw [hproceed]; nofun), hproceed]
      rfl
    | false =>
      have hnext : ∀ a, next.concerns a = false := unheard next List.mem_cons_self
      have hlater : ∀ n ∈ later, ∀ a, n.concerns a = false :=
        fun n hn => unheard n (List.mem_cons_of_mem _ hn)
      rw [search_awoken next later hproceed]
      generalize hr₁ : ((happen next).on ((tellWaiting criteria told).on r).2).2 = r₁
      have hclient : r₁.client = r.client.hear next := by
        rw [← hr₁, happen_client, tellWaiting_client]
      obtain ⟨now, hnow⟩ := r.client.hear_of_unpublished hnext
      rw [hnow] at hclient
      have hstill : r₁.client.cluster.choose? r₁.client.load criteria = none := by
        rw [hclient]
        exact hnone
      have hfailed := ih hlater true (.waiting r.client.version) r₁ (.waiting _) hstill
      rw [hclient] at hfailed
      exact hfailed

/-- A selection fails if there is no server to choose and nothing is published. -/
theorem select_unfound {criteria : Criteria} {r : Run} (unheard : r.Unheard)
    (hnone : r.client.cluster.choose? r.client.load criteria = none) :
    ((select criteria).on r).1 = .error (Error.of (.noServer criteria r.client.cluster)) :=
  search_unfound criteria (r.client.options.effectiveSelectionTimeout == 0) _ unheard false
    .examining ((emit (.selectionStarted criteria)).on (beginWait.on r).2).2 .examining hnone

/-! ## §4. Starting a session. -/

section Opening

variable {r : Run} (implicit : Bool)

theorem openSession?_of_unsupported (h : r.client.cluster.sessionSupport = .unsupported) :
    (openSession? implicit).on r = (.ok none, r) := by
  have hsupport := sessionSupport_of_known (r := r) (by rw [h]; nofun)
  unfold openSession?
  rw [Exec.on_bind, hsupport, h]
  rfl

/-- Nothing is known of sessions: the search for a server that could tell is in vain. -/
theorem openSession?_of_undetermined (sound : r.client.Sound) (unheard : r.Unheard)
    (h : r.client.cluster.sessionSupport = .undetermined) :
    ((openSession? implicit).on r).1 =
      .error (Error.of (.noServer .dataBearing r.client.cluster)) := by
  have hnone : r.client.cluster.choose? r.client.load .dataBearing = none := by
    rw [ClusterDescription.choose?_dataBearing fun s hs => sound.load_of_mem hs]
    exact r.client.cluster.of_sessionSupport.undetermined_iff.mp h
  have hfailed := select_unfound unheard hnone
  unfold openSession? sessionSupport
  simp only [Exec.on_bind, Exec.on_lift, on_currentClient, h]
  rcases hs : (select .dataBearing).on r with ⟨result, r'⟩
  rw [hs] at hfailed
  subst hfailed
  rfl

end Opening

/-! ## §5. The two agree. -/

/-- What the snapshot `c'`, which is `c` in some order, says of sessions, and whether a server that
    holds data is found in it. -/
structure ClusterDescription.Tells (c c' : ClusterDescription) (load : Address → Option Nat) :
    Prop where
  undetermined : c'.sessionSupport = .undetermined ↔ c.keepers = ∅
  unfound : c'.sessionSupport = .undetermined ↔ c'.choose? load .dataBearing = none
  supported : ∀ timeout, c'.sessionSupport = .supported timeout ↔
    c.keepers.Nonempty ∧ (∀ s ∈ c.keepers, s.sessionTimeout.isSome = true) ∧
      IsLeast (timeouts c.keepers) timeout
  unsupported : c'.sessionSupport = .unsupported ↔ ∃ s ∈ c.keepers, s.sessionTimeout = none

theorem ClusterDescription.Reorders.tells {c c' : ClusterDescription} (h : c.Reorders c')
    {load : Address → Option Nat}
    (leasable : ∀ s ∈ c.servers, (load s.address).isSome = true) : c.Tells c' load := by
  have hof : SessionSupport.Of c.keepers c'.sessionSupport := by
    rw [← h.keepers_eq]
    exact c'.of_sessionSupport
  have hleasable : ∀ s ∈ c'.servers, (load s.address).isSome = true :=
    fun s hs => leasable s (h.servers.mem_iff.mpr hs)
  refine ⟨hof.undetermined_iff, ?_, hof.supported_iff, hof.unsupported_iff⟩
  rw [hof.undetermined_iff, choose?_dataBearing hleasable, h.keepers_eq]

/-- Who gets a session in a run: a caller, or an operation without a session of the caller. -/
structure Run.Starts (r : Run) : Prop where
  /-- A caller gets a session with the timeout of the deployment, -/
  opened : ∀ timeout, r.client.cluster.sessionSupport = .supported timeout ↔
    ∃ id v, (startSession.on r).1 = .ok id ∧
      (startSession.on r).2.client.sessions[id]? = some (.start v timeout false)
  /-- or is told that there are no sessions, -/
  refused : r.client.cluster.sessionSupport = .unsupported ↔
    ∃ e, (startSession.on r).1 = .error e ∧ e.cause = .sessionsNotSupported
  /-- or that no server was found. -/
  unfound : r.client.cluster.sessionSupport = .undetermined ↔
    ∃ e criteria cluster, (startSession.on r).1 = .error e ∧ e.cause = .noServer criteria cluster
  /-- An operation gets a session of its own, -/
  openedOwn : ∀ timeout, r.client.cluster.sessionSupport = .supported timeout ↔
    ∃ id v, ((openSession? true).on r).1 = .ok (some id) ∧
      ((openSession? true).on r).2.client.sessions[id]? = some (.start v timeout true)
  /-- or none, -/
  sessionless : r.client.cluster.sessionSupport = .unsupported ↔
    ((openSession? true).on r).1 = .ok none
  /-- or fails as no server was found. -/
  unfoundOwn : r.client.cluster.sessionSupport = .undetermined ↔
    ∃ e criteria cluster, ((openSession? true).on r).1 = .error e ∧
      e.cause = .noServer criteria cluster

/-- If nothing is published meanwhile, who gets a session is a matter of what the snapshot says. -/
theorem Client.Sound.starts {r : Run} (sound : r.client.Sound) (unheard : r.Unheard) :
    r.Starts := by
  cases h : r.client.cluster.sessionSupport with
  | undetermined =>
    have hown := openSession?_of_undetermined true sound unheard h
    have hcallers : (startSession.on r).1 =
        .error (Error.of (.noServer .dataBearing r.client.cluster)) := by
      rw [startSession_on, openSession?_of_undetermined false sound unheard h]
      rfl
    constructor <;> simp [h, hown, hcallers, Error.of, Error.labelled, Error.addLabels]
  | unsupported =>
    have hown := openSession?_of_unsupported true h
    have hcallers : (startSession.on r).1 = .error (Error.of .sessionsNotSupported) := by
      rw [startSession_on, openSession?_of_unsupported false h]
      rfl
    constructor <;> simp [h, hown, hcallers, Error.of, Error.labelled, Error.addLabels]
  | supported timeout =>
    have hown := openSession?_of_supported h true
    have hopened := openSession?_of_supported h false
    have hcallers : (startSession.on r).1 = .ok r.client.sessions.length := by
      rw [startSession_on, hopened]
      rfl
    have hclient : (startSession.on r).2.client = (r.client.openSession timeout false).2 := by
      rw [startSession_on, hopened]
    have hfound : ∀ implicit timeout', timeout = timeout' ↔
        ∃ v, (r.client.openSession timeout implicit).2.sessions[r.client.sessions.length]? =
          some (.start v timeout' implicit) := by
      intro implicit timeout'
      obtain ⟨v, hv⟩ := sessions_openSession r.client timeout implicit
      have hlast : (r.client.openSession timeout implicit).2.sessions[r.client.sessions.length]? =
          some (.start v timeout implicit) := hv
      rw [hlast]
      constructor
      · rintro rfl
        exact ⟨v, rfl⟩
      · rintro ⟨v', heq⟩
        exact congrArg Session.timeout (Option.some.inj heq)
    constructor <;> simp [h, hown, hcallers, hclient, ← hfound]

/-- Session support and the start of a session agree, for all snapshots and all clients at work. -/
theorem support_agrees :
    (∀ (c c' : ClusterDescription) (load : Address → Option Nat), c.Reorders c' →
      (∀ s ∈ c.servers, (load s.address).isSome = true) → c.Tells c' load) ∧
    ∀ s : Scenario, s.Reachable →
      (∀ t ∈ s.run.client.cluster.servers, (s.run.client.load t.address).isSome = true) ∧
      (s.run.Unheard → s.run.Starts) := by
  refine ⟨fun c c' load h leasable => h.tells leasable, fun s hs => ⟨?_, ?_⟩⟩
  · exact fun t ht => hs.sound.load_of_mem ht
  · exact fun unheard => hs.sound.starts unheard

namespace Lone

/-- The primary, as a server that keeps no sessions. -/
def sessionless : ServerDescription := { primary with sessionTimeout := none }

/-- The client has heard of the server. -/
def told (s : ServerDescription) : Scenario := .after client [.update s]

theorem reachable_told (s : ServerDescription) : (told s).Reachable := .after (o := options) rfl _

end Lone

/-- Before the server is described, no server is found; if it keeps no sessions, an operation has
    none; if it keeps sessions, a caller gets one. -/
theorem support_agrees_lone :
    (∃ e criteria cluster, (startSession.on (Scenario.begin Lone.client).run).1 = .error e ∧
      e.cause = .noServer criteria cluster) ∧
    ((openSession? true).on (Lone.told Lone.sessionless).run).1 = .ok none ∧
    ∃ id v, (startSession.on (Lone.told Lone.primary).run).1 = .ok id ∧
      (startSession.on (Lone.told Lone.primary).run).2.client.sessions[id]? =
        some (.start v 1800000 false) := by
  have hbegun : (Scenario.begin Lone.client).run.Starts :=
    (support_agrees.2 _ (.begun (o := Lone.options) rfl)).2 (Run.unheard_of_idle rfl)
  have hsessionless : (Lone.told Lone.sessionless).run.Starts :=
    (support_agrees.2 _ (Lone.reachable_told _)).2 (Run.unheard_of_idle rfl)
  have hkeeping : (Lone.told Lone.primary).run.Starts :=
    (support_agrees.2 _ (Lone.reachable_told _)).2 (Run.unheard_of_idle rfl)
  exact ⟨hbegun.unfound.mp (by decide +kernel), hsessionless.sessionless.mp (by decide +kernel),
    (hkeeping.opened 1800000).mp (by decide +kernel)⟩

end ClusterClient
