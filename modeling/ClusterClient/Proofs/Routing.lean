/-
  ClusterClient.Proofs.Routing — where a command goes.

  Selecting a server may take a while, and things happen in the meantime.  The client hears of them
  one after the other, and at some moment the search is over: a server is chosen from the newest
  snapshot, by the operations that are in flight then.  What is left to happen happens afterwards.
  The choice is on record in the source, and the connection that the source lends leads to the
  server that was chosen, whatever has become of its description since.

  Main statements: `search_concludes`, `select_chosen` and `Reached.chosen`.
-/
import ClusterClient.Proofs.Choice
import ClusterClient.Proofs.Location

namespace ClusterClient

open Run

/-! ## §1. What the client hears. -/

namespace Client

/-- What becomes of the client when something happens on the other side. -/
def hear (c : Client) : Happening → Client
  | .described s => c.update s
  | .withdrawn a => c.remove a
  | .unreachable _ _ | .reachable _ => c
  | .elapsed millis => { c with now := c.now + millis }

/-- The client after it has heard of all of these, one after the other. -/
def hears (c : Client) (happenings : List Happening) : Client := happenings.foldl hear c

theorem hears_cons (c : Client) (h : Happening) (rest : List Happening) :
    c.hears (h :: rest) = (c.hear h).hears rest := rfl

theorem Sound.hear {c : Client} (hc : c.Sound) (h : Happening) : (c.hear h).Sound := by
  cases h with
  | described s => exact hc.update s
  | withdrawn a => exact hc.remove a
  | unreachable | reachable => exact hc
  | elapsed => exact hc.of_sameServers ⟨rfl, rfl, rfl⟩

theorem Sound.hears {c : Client} (hc : c.Sound) (happenings : List Happening) :
    (c.hears happenings).Sound := by
  induction happenings generalizing c with
  | nil => exact hc
  | cons h rest ih => exact ih (hc.hear h)

/-- The sessions have no part in what is heard of the servers. -/
theorem hear_modifySession (c : Client) (id : SessionId) (f : Session → Session) (h : Happening) :
    (c.modifySession id f).hear h = (c.hear h).modifySession id f := by
  cases h with
  | withdrawn | unreachable | reachable | elapsed => rfl
  | described s =>
    simp only [hear, update, ensureMember, modifySession]
    cases c.known.value? s.address <;> rfl

theorem hears_modifySession (c : Client) (id : SessionId) (f : Session → Session)
    (happenings : List Happening) :
    (c.modifySession id f).hears happenings = (c.hears happenings).modifySession id f := by
  induction happenings generalizing c with
  | nil => rfl
  | cons h rest ih => rw [hears_cons, hears_cons, hear_modifySession, ih]

end Client

/-- Amid the wait that begins with the run, having heard of some of what happens, the client is
    this. -/
def Run.AmidWait (r : Run) (c : Client) : Prop :=
  ∃ before after, r.deployment.nextWait.1 = before ++ after ∧ c = r.client.hears before

theorem Run.AmidWait.sound {r : Run} {c : Client} (h : r.AmidWait c) (hr : r.client.Sound) :
    c.Sound := by
  obtain ⟨before, _, -, rfl⟩ := h
  exact hr.hears before

/-- A change of a session makes no difference to what is heard amid a wait. -/
theorem Run.AmidWait.exists_of_modified {r : Run} {c : Client} {id : SessionId}
    {f : Session → Session} (h : AmidWait { r with client := r.client.modifySession id f } c) :
    ∃ c₀, r.AmidWait c₀ ∧ c = c₀.modifySession id f := by
  obtain ⟨before, after, hsplit, rfl⟩ := h
  exact ⟨r.client.hears before, ⟨before, after, hsplit, rfl⟩, r.client.hears_modifySession id f _⟩

theorem happen_client (h : Happening) (r : Run) :
    ((happen h).on r).2.client = r.client.hear h := by
  cases h <;> rfl

/-! ## §2. The end of a search. -/

namespace Search

/-- A server that a step finds was found before or is chosen now. -/
theorem step_found {c : Client} {criteria : Criteria} {timeIsUp : Bool} {s : Search}
    {d : ServerDescription} (h : s.step c criteria timeIsUp = .found d) :
    s = .found d ∨ c.cluster.choose? c.load criteria = some d := by
  cases s with
  | examining =>
    unfold step at h
    cases hc : c.cluster.choose? c.load criteria with
    | none =>
      rw [hc] at h
      cases h
    | some d' =>
      rw [hc] at h
      cases h
      exact .inr rfl
  | undecided | waiting =>
    simp only [step] at h
    split at h <;> cases h
  | found d' => exact .inl h
  | failed cluster => cases h

/-- Nothing has been found yet. -/
def Unfound (s : Search) : Prop := ∀ d, s ≠ .found d

theorem unfound_examining : Unfound .examining := fun _ h => by cases h

theorem unfound_waiting (seen : Nat) : Unfound (.waiting seen) := fun _ h => by cases h

/-- The server that was found is the choice of the client as it is. -/
def Backed (c : Client) (criteria : Criteria) (s : Search) : Prop :=
  ∀ d, s = .found d → c.cluster.choose? c.load criteria = some d

/-- What a search finds by going on is the choice of the client as it is. -/
theorem proceed_backed {s : Search} (h : s.Unfound) (c : Client) (criteria : Criteria)
    (timeIsUp : Bool) : Backed c criteria (s.proceed c criteria timeIsUp) := by
  intro d hd
  obtain hd | hd := step_found hd
  · obtain hd | hd := step_found hd
    · obtain hd | hd := step_found hd
      · exact absurd hd (h d)
      · exact hd
    · exact hd
  · exact hd

end Search

theorem tellWaiting_client (criteria : Criteria) (told : Bool) (r : Run) :
    ((tellWaiting criteria told).on r).2.client = r.client := by
  cases told <;> rfl

theorem proceed_on (criteria : Criteria) (timeIsUp : Bool) (s : Search) (r : Run) :
    (proceed criteria timeIsUp s).on r = (s.proceed r.client criteria timeIsUp, r) := rfl

section Rounds

variable {criteria : Criteria} {instant told : Bool} {s : Search} {r : Run}

/-- A search that need not wait is concluded, and what is left to happen happens after that. -/
theorem search_over (happenings : List Happening)
    (h : ¬∃ seen, s.proceed r.client criteria instant = .waiting seen) :
    (search criteria instant told s happenings).on r =
      (((conclude criteria (s.proceed r.client criteria instant)).on r).1,
        ((happenAll happenings).on
          ((conclude criteria (s.proceed r.client criteria instant)).on r).2).2) := by
  cases happenings with
  | nil | cons =>
    unfold search
    rw [Exec.on_bind, Exec.on_lift, proceed_on]
    dsimp only
    cases hp : s.proceed r.client criteria instant with
    | waiting seen => exact absurd ⟨seen, hp⟩ h
    | examining | undecided _ _ | found _ | failed _ => rfl

variable {seen : Nat}

/-- When a search waits and nothing is left to happen, time runs out. -/
theorem search_timedOut (h : s.proceed r.client criteria instant = .waiting seen) :
    (search criteria instant told s []).on r =
      (conclude criteria ((Search.waiting seen).proceed r.client criteria true)).on
        ((tellWaiting criteria told).on r).2 := by
  unfold search
  rw [Exec.on_bind, Exec.on_lift, proceed_on]
  dsimp only
  rw [h]
  dsimp only
  rw [Exec.on_bind, Exec.on_lift]
  dsimp only
  rw [Exec.on_bind, Exec.on_lift, proceed_on, tellWaiting_client]

/-- When a search waits, it goes on after what happens next. -/
theorem search_awoken (next : Happening) (later : List Happening)
    (h : s.proceed r.client criteria instant = .waiting seen) :
    (search criteria instant told s (next :: later)).on r =
      (search criteria instant true (.waiting seen) later).on
        ((happen next).on ((tellWaiting criteria told).on r).2).2 := by
  rw [search, Exec.on_bind, Exec.on_lift, proceed_on]
  dsimp only
  rw [h]
  dsimp only
  rw [Exec.on_bind, Exec.on_lift]
  dsimp only
  rw [Exec.on_bind, Exec.on_lift]

end Rounds

/-- A search is concluded at some moment, by a server that the client chooses at that moment or by a
    failure.  What is left to happen happens after that. -/
theorem search_concludes (criteria : Criteria) (instant : Bool) (happenings : List Happening) :
    ∀ (told : Bool) (s : Search) (r : Run), s.Unfound →
      ∃ (before after : List Happening) (verdict : Search) (r₁ : Run),
        happenings = before ++ after ∧ r₁.client = r.client.hears before ∧
        verdict.Backed r₁.client criteria ∧
        (search criteria instant told s happenings).on r =
          (((conclude criteria verdict).on r₁).1,
            ((happenAll after).on ((conclude criteria verdict).on r₁).2).2) := by
  -- Only a search that waits goes on to what happens later.
  induction happenings with
  | nil =>
    intro told s r hs
    by_cases hwaiting : ∃ seen, s.proceed r.client criteria instant = .waiting seen
    · obtain ⟨seen, hwaits⟩ := hwaiting
      refine ⟨[], [], (Search.waiting seen).proceed r.client criteria true,
        ((tellWaiting criteria told).on r).2, rfl, tellWaiting_client criteria told r, ?_, ?_⟩
      · rw [tellWaiting_client]
        exact Search.proceed_backed (Search.unfound_waiting seen) r.client criteria true
      · rw [search_timedOut hwaits]
        rfl
    · exact ⟨[], [], _, r, rfl, rfl, Search.proceed_backed hs r.client criteria instant,
        search_over [] hwaiting⟩
  | cons next later ih =>
    intro told s r hs
    by_cases hwaiting : ∃ seen, s.proceed r.client criteria instant = .waiting seen
    · obtain ⟨seen, hwaits⟩ := hwaiting
      obtain ⟨before, after, verdict, r₁, hsplit, hclient, hverdict, hwent⟩ :=
        ih true (.waiting seen) ((happen next).on ((tellWaiting criteria told).on r).2).2
          (Search.unfound_waiting seen)
      refine ⟨next :: before, after, verdict, r₁, by rw [hsplit, List.cons_append], ?_, hverdict,
        ?_⟩
      · rw [hclient, happen_client, tellWaiting_client, Client.hears_cons]
      · rw [search_awoken next later hwaits]
        exact hwent
    · exact ⟨[], next :: later, _, r, rfl, rfl, Search.proceed_backed hs r.client criteria instant,
        search_over (next :: later) hwaiting⟩

/-- What is concluded successfully is the server that was found. -/
theorem conclude_ok {criteria : Criteria} {verdict : Search} {r r' : Run} {selected : Selected}
    (h : (conclude criteria verdict).on r = (.ok selected, r')) :
    verdict = .found selected.description ∧
      r.client.known.value? selected.description.address = some selected.member := by
  cases verdict with
  | examining | undecided _ _ | waiting _ | failed _ => cases h
  | found d =>
    simp only [conclude, Exec.on_bind, Exec.on_lift, on_currentClient] at h
    cases hk : r.client.known.value? d.address with
    | none =>
      rw [hk] at h
      cases h
    | some id =>
      rw [hk] at h
      cases h
      exact ⟨rfl, hk⟩

/-- Selecting a server is a search that is concluded at some moment of the wait. -/
theorem select_concludes (criteria : Criteria) (r : Run) :
    ∃ (before after : List Happening) (verdict : Search) (r₁ : Run),
      r.deployment.nextWait.1 = before ++ after ∧ r₁.client = r.client.hears before ∧
      verdict.Backed r₁.client criteria ∧
      (select criteria).on r =
        (((conclude criteria verdict).on r₁).1,
          ((happenAll after).on ((conclude criteria verdict).on r₁).2).2) :=
  search_concludes criteria (r.client.options.effectiveSelectionTimeout == 0)
    r.deployment.nextWait.1 false .examining
    ((emit (.selectionStarted criteria)).on (beginWait.on r).2).2 Search.unfound_examining

/-- The server was chosen by the client, and its member found by the address. -/
structure Client.Chose (c : Client) (criteria : Criteria) (selected : Selected) : Prop where
  choice : c.cluster.choose? c.load criteria = some selected.description
  member : c.known.value? selected.description.address = some selected.member

/-- Selecting a server ends with the choice that the client makes at some moment of the wait. -/
theorem select_chosen {criteria : Criteria} {r r' : Run} {selected : Selected}
    (h : (select criteria).on r = (.ok selected, r')) :
    ∃ r₁, r.AmidWait r₁.client ∧ r₁.client.Chose criteria selected ∧ Evolves nowhere r₁ r' := by
  obtain ⟨before, after, verdict, r₁, hsplit, hclient, hverdict, hwent⟩ :=
    select_concludes criteria r
  rw [hwent] at h
  obtain ⟨hresult, rfl⟩ := Prod.mk.inj h
  obtain ⟨hfound, hmember⟩ := conclude_ok (Prod.ext hresult rfl)
  refine ⟨r₁, ⟨before, after, hsplit, hclient⟩, ⟨hverdict _ hfound, hmember⟩, ?_⟩
  exact trans_of (Evolves nowhere) (conclude_evolves criteria verdict r₁)
    ((sustains_evolves nowhere).happenAll after _)

/-! ## §3. Sources and connections. -/

/-- The criteria by which a binding leases a server. -/
def Binding.criteria (b : Binding) (c : Client) : Intent → Criteria
  | .write => .writable
  | .read => .readPreference (b.effectivePreference c)

theorem leaseSource_chosen {b : Binding} {criteria : Criteria} {r r' : Run} {source : Source}
    (h : (b.leaseSource criteria).on r = (.ok source, r')) :
    ∃ r₁, r.AmidWait r₁.client ∧ r₁.client.Chose criteria source.selected ∧
      Evolves nowhere r₁ r' := by
  unfold Binding.leaseSource at h
  rw [Exec.on_bind] at h
  cases hs : (select criteria).on r with
  | mk result r₂ =>
    rw [hs] at h
    cases result with
    | error e => cases h
    | ok selected =>
      obtain ⟨hsource, rfl⟩ := Prod.mk.inj h
      cases hsource
      obtain ⟨r₁, hamid, hchose, hr⟩ := select_chosen hs
      -- The session is touched and held after that.
      have touched : Evolves nowhere r₂
          { r₂ with client := b.context.modify (·.touch r₂.client.now) r₂.client } :=
        (sustains_evolves nowhere).modifyIf b.context fun s _ _ _ => .touched s
      exact ⟨r₁, hamid, hchose, trans_of (Evolves nowhere) hr
        (trans_of (Evolves nowhere) touched ((sustains_evolves nowhere).hold b.context _))⟩

theorem source_chosen {b : Binding} {intent : Intent} {r r' : Run} {source : Source}
    (h : (b.source intent).on r = (.ok source, r')) :
    ∃ r₁, r.AmidWait r₁.client ∧
      r₁.client.Chose (b.criteria r.client intent) source.selected ∧ Evolves nowhere r₁ r' := by
  cases intent with
  | write => exact leaseSource_chosen h
  | read =>
    simp only [Binding.source, Exec.on_bind, Exec.on_lift, on_currentClient] at h
    split at h
    · cases h
    · exact leaseSource_chosen h

/-- A connection that is reached leads to the server that the client chose for it. -/
theorem Reached.chosen {b : Binding} {intent : Intent} {r r' : Run} {source : Source}
    {lease : Lease} (h : Reached b intent r source lease r') (sound : r.client.Sound)
    (located : r.client.Located) :
    ∃ c, r.AmidWait c ∧
      c.cluster.choose? c.load (b.criteria r.client intent) = some source.selected.description ∧
      lease.description.address.same source.selected.description.address = true := by
  obtain ⟨r₂, hs, hc⟩ := h
  obtain ⟨r₁, hamid, hchose, hr⟩ := source_chosen hs
  refine ⟨r₁.client, hamid, hchose.choice, ?_⟩
  obtain ⟨m, hm, hsame⟩ := (hamid.sound sound).member _ _ hchose.member
  -- The member stays where it was when its server was chosen.
  obtain ⟨m', hm', haddress⟩ := hr.stays hm
  have hlocated : KeepsLocated r r₂ := by
    have hkeeps := ((sustains_located nowhere).source b intent).keeps r
    rwa [hs] at hkeeps
  rw [checkOut_address (hlocated located) hm' hc, haddress]
  exact hsame

/-! ## §4. The primary. -/

/-- Who is chosen to be the primary is one, unless the deployment is no replica set. -/
theorem Client.Sound.kind_of_choice {c : Client} (hc : c.Sound) {d : ServerDescription}
    (h : c.cluster.choose? c.load .writable = some d) (single : c.cluster.kind ≠ .single)
    (sharded : c.cluster.kind ≠ .sharded) : d.kind = .primary := by
  have hchosen := (ClusterDescription.choose?_eq_some_iff hc.distinct _ _ d).mp h
  have hsuited : d ∈ c.cluster.suited .writable := hchosen.1.1
  unfold ClusterDescription.suited Criteria.writable at hsuited
  dsimp only at hsuited
  cases hk : c.cluster.kind with
  | single => exact absurd hk single
  | sharded => exact absurd hk sharded
  | unknown =>
    rw [hk] at hsuited
    cases hsuited
  | replicaSetWithPrimary | replicaSetNoPrimary =>
    rw [hk] at hsuited
    exact hsuited.2

end ClusterClient
