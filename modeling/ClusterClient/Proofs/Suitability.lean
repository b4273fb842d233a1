/-
  ClusterClient.Proofs.Suitability — which servers criteria admit, as sets.

  Selection filters lists.  Here the servers that it means to keep are described as sets, without
  reference to how they are computed: who can be routed to, who is admitted by a read preference,
  what tag sets leave, and who is near enough.  The lists hold exactly the members of these sets.

  In a replica set with several primaries "the primary" of the mode that prefers primaries is the
  one that stands first in the snapshot.

  The window keeps the fastest of the servers that were measured, so it is never empty when some
  server is suited.

  Main statements: `mem_suitable`, `mem_inWindow` and `nearby_nonempty`.
-/
import ClusterClient.Selection
import Mathlib.Order.Bounds.Basic
import Mathlib.Order.WellFounded

namespace ClusterClient

/-! ## §1. The sets. -/

/-- The server has all tags of the set. -/
def ServerDescription.Carries (s : ServerDescription) (tags : TagSet) : Prop :=
  ∀ tag ∈ tags, s.tags.value? tag.1 = some tag.2

/-- Those of the candidates that match the first tag set that any candidate matches.  Without tag
    sets these are all candidates, and if no tag set is matched there are none. -/
def tagged (tagSets : Option (List TagSet)) (candidates : Set ServerDescription) :
    Set ServerDescription :=
  {s ∈ candidates | tagSets.getD [] = [] ∨
    ∃ before tags after, tagSets.getD [] = before ++ tags :: after ∧ s.Carries tags ∧
      ∀ earlier ∈ before, ∀ t ∈ candidates, ¬ t.Carries earlier}

namespace ClusterDescription

/-- The servers that operations can be routed to. -/
def routable (c : ClusterDescription) : Set ServerDescription :=
  {s | s ∈ c.servers ∧ s.ok = true ∧ s.state = .connected ∧ s.kind ≠ .unknown}

/-- Those of one kind. -/
def routableOf (c : ClusterDescription) (kind : ServerKind) : Set ServerDescription :=
  {s ∈ c.routable | s.kind = kind}

/-- The one of them that stands first in the snapshot, if there is any. -/
def firstOf (c : ClusterDescription) (kind : ServerKind) : Set ServerDescription :=
  {s ∈ c.routableOf kind | ∃ before after, c.servers = before ++ s :: after ∧
    ∀ t ∈ before, t ∉ c.routableOf kind}

/-- The members of a replica set that a read preference admits. -/
def admitted (c : ClusterDescription) (rp : ReadPreference) : Set ServerDescription :=
  let secondaries := tagged rp.tagSets? (c.routableOf .secondary)
  match rp with
  | .primary => c.routableOf .primary
  | .flexible .secondary _ => secondaries
  | .flexible .primaryPreferred _ =>
    {s | s ∈ c.firstOf .primary ∨ c.routableOf .primary = ∅ ∧ s ∈ secondaries}
  | .flexible .secondaryPreferred _ =>
    {s | s ∈ secondaries ∨ secondaries = ∅ ∧ s ∈ c.routableOf .primary}
  | .flexible .nearest _ =>
    tagged rp.tagSets? (c.routableOf .primary ∪ c.routableOf .secondary)

/-- The servers that the criteria admit. -/
def suited (c : ClusterDescription) : Criteria → Set ServerDescription
  | .predicate accepts =>
    {s ∈ c.routable | accepts s = true ∧ (c.kind = .single ∨ s.kind.isDataBearing = true)}
  | .readPreference rp =>
    match c.kind with
    | .unknown => ∅
    | .single => c.routableOf .standalone
    | .sharded => c.routableOf .router
    | .replicaSetWithPrimary | .replicaSetNoPrimary => c.admitted rp

/-- The suited servers that answer at most the threshold later than the fastest.  When nothing was
    measured these are all, otherwise only servers that were measured. -/
def nearby (c : ClusterDescription) (criteria : Criteria) : Set ServerDescription :=
  {s ∈ c.suited criteria | (∀ t ∈ c.suited criteria, t.roundTripTime = none) ∨
    ∃ least time, IsLeast {n | ∃ t ∈ c.suited criteria, t.roundTripTime = some n} least ∧
      s.roundTripTime = some time ∧ time ≤ least + c.localThreshold}

end ClusterDescription

/-! ## §2. Tag sets. -/

theorem ServerDescription.matchesTags_iff (s : ServerDescription) (tags : TagSet) :
    s.matchesTags tags = true ↔ s.Carries tags := by
  simp [matchesTags, Carries, List.all_eq_true]

theorem mem_tagged_of_none {tagSets : Option (List TagSet)} {candidates : Set ServerDescription}
    (h : tagSets.getD [] = []) : tagged tagSets candidates = candidates := by
  ext s
  simp [tagged, h]

namespace ClusterDescription

/-- The search for a tag set finds the first one that any server matches. -/
theorem mem_firstMatching (servers : List ServerDescription) (s : ServerDescription) :
    ∀ tagSets : List TagSet, s ∈ firstMatching servers tagSets ↔
      s ∈ servers ∧ ∃ before tags after, tagSets = before ++ tags :: after ∧ s.Carries tags ∧
        ∀ earlier ∈ before, ∀ t ∈ servers, ¬ t.Carries earlier := by
  intro tagSets
  induction tagSets with
  | nil => simp [firstMatching]
  | cons tags rest ih =>
    have hhits : ∀ t, t ∈ servers.filter (·.matchesTags tags) ↔ t ∈ servers ∧ t.Carries tags := by
      intro t
      rw [List.mem_filter, ServerDescription.matchesTags_iff]
    unfold firstMatching
    dsimp only
    by_cases hnone : servers.filter (·.matchesTags tags) = []
    -- No server matches: the first tag set that is matched is among the others.
    · have hmiss : ∀ t ∈ servers, ¬ t.Carries tags := by
        intro t ht hc
        have := (hhits t).mpr ⟨ht, hc⟩
        rw [hnone] at this
        cases this
      rw [hnone, List.isEmpty_nil, if_pos rfl, ih]
      refine and_congr_right fun hs => ⟨?_, ?_⟩
      · rintro ⟨before, matched, after, rfl, hc, hb⟩
        refine ⟨tags :: before, matched, after, rfl, hc, ?_⟩
        intro earlier he
        rcases List.mem_cons.mp he with rfl | he
        · exact hmiss
        · exact hb earlier he
      · rintro ⟨before, matched, after, heq, hc, hb⟩
        cases before with
        | nil =>
          cases heq
          exact absurd hc (hmiss s hs)
        | cons first before =>
          cases heq
          exact ⟨before, matched, after, rfl, hc, fun earlier he =>
            hb earlier (List.mem_cons_of_mem _ he)⟩
    -- A server matches: it is this tag set.
    · obtain ⟨t, ht⟩ := List.exists_mem_of_ne_nil _ hnone
      rw [if_neg (by simpa using hnone), hhits]
      refine and_congr_right fun hs => ⟨?_, ?_⟩
      · intro hc
        exact ⟨[], tags, rest, rfl, hc, nofun⟩
      · rintro ⟨before, matched, after, heq, hc, hb⟩
        cases before with
        | nil =>
          cases heq
          exact hc
        | cons first before =>
          cases heq
          exact absurd ((hhits t).mp ht).2
            (hb tags List.mem_cons_self t ((hhits t).mp ht).1)

/-- Narrowing a list keeps what tag sets leave of its members. -/
theorem mem_narrow {tagSets : Option (List TagSet)} {servers : List ServerDescription}
    {candidates : Set ServerDescription} (h : ∀ t, t ∈ servers ↔ t ∈ candidates)
    (s : ServerDescription) : s ∈ narrow tagSets servers ↔ s ∈ tagged tagSets candidates := by
  cases tagSets with
  | none => simp [narrow, mem_tagged_of_none, h]
  | some tagSets =>
    cases tagSets with
    | nil => simp [narrow, mem_tagged_of_none, h]
    | cons tags rest =>
      show s ∈ firstMatching servers (tags :: rest) ↔ _
      rw [mem_firstMatching]
      simp [tagged, h]

/-! ## §3. Suitable servers. -/

variable (c : ClusterDescription)

theorem mem_selectable (s : ServerDescription) : s ∈ c.selectable ↔ s ∈ c.routable := by
  simp [selectable, routable, ServerDescription.isSelectable, ServerDescription.isAvailable,
    and_assoc]

theorem mem_ofKind (kind : ServerKind) (s : ServerDescription) :
    s ∈ c.ofKind kind ↔ s ∈ c.routableOf kind := by
  rw [ofKind, List.mem_filter, mem_selectable, beq_iff_eq]
  rfl

/-- A list of servers is empty if the set of its members is. -/
theorem eq_nil_iff_of_mem {servers : List ServerDescription} {candidates : Set ServerDescription}
    (h : ∀ t, t ∈ servers ↔ t ∈ candidates) : servers = [] ↔ candidates = ∅ := by
  rw [List.eq_nil_iff_forall_not_mem, Set.eq_empty_iff_forall_notMem]
  exact forall_congr' fun t => not_congr (h t)

/-- The first of a kind in the list of that kind is the one that stands first of all. -/
theorem mem_firstOf (kind : ServerKind) (s : ServerDescription) :
    s ∈ c.firstOf kind ↔ ∃ rest, c.ofKind kind = s :: rest := by
  have hfilter : c.ofKind kind = c.servers.filter fun t => t.isSelectable && t.kind == kind := by
    rw [ofKind, selectable, List.filter_filter]
    exact congrArg (List.filter · c.servers) (funext fun t => Bool.and_comm _ _)
  have hmem : ∀ t ∈ c.servers,
      (t.isSelectable && t.kind == kind) = true ↔ t ∈ c.routableOf kind := by
    intro t ht
    rw [← mem_ofKind, hfilter, List.mem_filter]
    exact (and_iff_right ht).symm
  constructor
  · rintro ⟨hs, before, after, hsplit, hbefore⟩
    refine ⟨after.filter fun t => t.isSelectable && t.kind == kind, ?_⟩
    rw [hfilter, List.filter_eq_cons_iff]
    refine ⟨before, after, hsplit, ?_, ?_, rfl⟩
    · intro t ht
      have hin : t ∈ c.servers := hsplit ▸ List.mem_append_left _ ht
      rw [hmem t hin]
      exact hbefore t ht
    · exact (hmem s hs.1.1).mpr hs
  · rintro ⟨rest, hrest⟩
    have hs : s ∈ c.routableOf kind := by
      rw [← mem_ofKind, hrest]
      exact List.mem_cons_self
    rw [hfilter, List.filter_eq_cons_iff] at hrest
    obtain ⟨before, after, hsplit, hbefore, -, -⟩ := hrest
    refine ⟨hs, before, after, hsplit, ?_⟩
    intro t ht
    have hin : t ∈ c.servers := hsplit ▸ List.mem_append_left _ ht
    rw [← hmem t hin]
    exact hbefore t ht

theorem mem_suitableMembers (rp : ReadPreference) (s : ServerDescription) :
    s ∈ c.suitableMembers rp ↔ s ∈ c.admitted rp := by
  have hprimaries := c.mem_ofKind .primary
  have hsecondaries : ∀ t, t ∈ narrow rp.tagSets? (c.ofKind .secondary) ↔
      t ∈ tagged rp.tagSets? (c.routableOf .secondary) := mem_narrow (c.mem_ofKind .secondary)
  cases rp with
  | primary => exact hprimaries s
  | flexible mode options =>
    cases mode with
    | secondary => exact hsecondaries s
    | primaryPreferred =>
      show _ ↔ s ∈ c.firstOf .primary ∨ c.routableOf .primary = ∅ ∧ _
      unfold suitableMembers
      dsimp only
      rw [mem_firstOf, ← eq_nil_iff_of_mem hprimaries]
      cases c.ofKind .primary with
      | nil => simpa using hsecondaries s
      | cons first rest => simp [eq_comm]
    | secondaryPreferred =>
      show s ∈ (if (narrow _ (c.ofKind .secondary)).isEmpty then c.ofKind .primary
        else narrow _ (c.ofKind .secondary)) ↔ _ ∨ _ = ∅ ∧ _
      rw [← eq_nil_iff_of_mem hsecondaries, ← hsecondaries s, ← hprimaries s]
      split
      · next hnil => simp [List.isEmpty_iff.mp hnil]
      · next hne =>
        rw [List.isEmpty_iff] at hne
        simp [hne]
    | nearest =>
      refine mem_narrow (fun t => ?_) s
      rw [List.mem_filter, mem_selectable, Bool.or_eq_true, beq_iff_eq, beq_iff_eq]
      exact and_or_left

/-- The suitable servers are those that the criteria admit. -/
theorem mem_suitable (criteria : Criteria) (s : ServerDescription) :
    s ∈ c.suitable criteria ↔ s ∈ c.suited criteria := by
  cases criteria with
  | predicate accepts =>
    simp only [suitable, suited, List.mem_filter, mem_selectable, Set.mem_ofPred_eq,
      Bool.and_eq_true, Bool.or_eq_true, beq_iff_eq]
    rw [and_comm (a := _ ∨ _)]
  | readPreference rp =>
    unfold suitable suited
    dsimp only
    cases c.kind with
    | unknown => simp
    | single => exact c.mem_ofKind .standalone s
    | sharded => exact c.mem_ofKind .router s
    | replicaSetWithPrimary | replicaSetNoPrimary => exact c.mem_suitableMembers rp s

/-! ## §4. The window. -/

/-- What is within the window of a list, in terms of the set of its members. -/
theorem mem_withinWindow {servers : List ServerDescription} {candidates : Set ServerDescription}
    (h : ∀ t, t ∈ servers ↔ t ∈ candidates) (threshold : Nat) (s : ServerDescription) :
    s ∈ withinWindow threshold servers ↔ s ∈ candidates ∧
      ((∀ t ∈ candidates, t.roundTripTime = none) ∨
        ∃ least time, IsLeast {n | ∃ t ∈ candidates, t.roundTripTime = some n} least ∧
          s.roundTripTime = some time ∧ time ≤ least + threshold) := by
  unfold withinWindow
  cases hf : fastest? servers with
  | none =>
    have hnone : ∀ t ∈ candidates, t.roundTripTime = none := by
      intro t ht
      rw [fastest?, List.min?_eq_none_iff, List.filterMap_eq_nil_iff] at hf
      exact hf t ((h t).mpr ht)
    rw [h]
    exact (and_iff_left (Or.inl hnone)).symm
  | some fastest =>
    have hleast : IsLeast {n | ∃ t ∈ candidates, t.roundTripTime = some n} fastest := by
      rw [fastest?, List.min?_eq_some_iff] at hf
      simp only [List.mem_filterMap, h] at hf
      exact ⟨hf.1, fun n hn => hf.2 n hn⟩
    obtain ⟨t, ht, htime⟩ := hleast.1
    have hmeasured : ¬ ∀ t ∈ candidates, t.roundTripTime = none := by
      intro hnone
      rw [hnone t ht] at htime
      cases htime
    dsimp only
    rw [List.mem_filter, h, or_iff_right hmeasured]
    refine and_congr_right fun _ => ?_
    cases hs : s.roundTripTime with
    | none => simp
    | some time =>
      rw [decide_eq_true_iff]
      constructor
      · intro hle
        exact ⟨fastest, time, hleast, rfl, hle⟩
      · rintro ⟨least, time', hleast', heq, hle⟩
        cases heq
        rw [hleast.unique hleast']
        exact hle

/-- The servers in the window are those that are suited and near. -/
theorem mem_inWindow (criteria : Criteria) (s : ServerDescription) :
    s ∈ c.inWindow criteria ↔ s ∈ c.nearby criteria :=
  mem_withinWindow (c.mem_suitable criteria) c.localThreshold s

/-- Whenever a server is suited, one is near: the fastest. -/
theorem nearby_nonempty (criteria : Criteria) :
    (c.nearby criteria).Nonempty ↔ (c.suited criteria).Nonempty := by
  constructor
  · rintro ⟨s, hs, -⟩
    exact ⟨s, hs⟩
  · rintro ⟨s, hs⟩
    by_cases hnone : ∀ t ∈ c.suited criteria, t.roundTripTime = none
    · exact ⟨s, hs, .inl hnone⟩
    · have hmeasured : {n | ∃ t ∈ c.suited criteria, t.roundTripTime = some n}.Nonempty := by
        push Not at hnone
        obtain ⟨t, ht, hsome⟩ := hnone
        obtain ⟨n, hn⟩ := Option.ne_none_iff_exists'.mp hsome
        exact ⟨n, t, ht, hn⟩
      -- The fastest of those that were measured is in the window itself.
      obtain ⟨least, ⟨t, ht, htime⟩, hmin⟩ := wellFounded_lt.has_min _ hmeasured
      refine ⟨t, ht, .inr ⟨least, least, ⟨⟨t, ht, htime⟩, fun n hn => ?_⟩, htime, ?_⟩⟩
      · exact Nat.le_of_not_lt (hmin n hn)
      · exact Nat.le_add_right _ _

end ClusterDescription

end ClusterClient
