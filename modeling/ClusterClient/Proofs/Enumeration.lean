/-
  ClusterClient.Proofs.Enumeration — the order in which a snapshot is gone through.

  A snapshot has its servers in some order, and selection goes through them in that order.  Almost
  always the order does not matter: the suited servers are a set, and the choice among them is
  made by operations in flight and address.  There is one exception.  A preference for primaries
  takes the first primary that it meets for the only one, so where several servers take themselves
  for the primary of a replica set, the order decides between them.

  The orders of a snapshot are exactly those that histories of updates and removals give it.

  Main statements: `selection_order_iff`, which says exactly when the order decides, and
  `preferredPrimary_order`, where it does.
-/
import ClusterClient.Proofs.Choice

namespace ClusterClient

namespace ClusterDescription

variable {c c' : ClusterDescription}

/-! ## §1. What does not depend on the order. -/

theorem Reorders.routable_eq (h : c.Reorders c') : c'.routable = c.routable := by
  ext s
  show s ∈ c'.servers ∧ _ ↔ s ∈ c.servers ∧ _
  rw [h.servers.mem_iff]

theorem Reorders.routableOf_eq (h : c.Reorders c') (kind : ServerKind) :
    c'.routableOf kind = c.routableOf kind := by
  unfold routableOf
  rw [h.routable_eq]

/-- In a replica set, the criteria prefer primaries. -/
def PrefersPrimary (c : ClusterDescription) (criteria : Criteria) : Prop :=
  (c.kind = .replicaSetWithPrimary ∨ c.kind = .replicaSetNoPrimary) ∧
    ∃ options, criteria = .readPreference (.flexible .primaryPreferred options)

/-- In a replica set a read preference tells the members apart. -/
theorem suited_of_members (h : c.kind = .replicaSetWithPrimary ∨ c.kind = .replicaSetNoPrimary)
    (rp : ReadPreference) : c.suited (.readPreference rp) = c.admitted rp := by
  unfold suited
  dsimp only
  rcases h with h | h <;> rw [h]

/-- The suited servers do not depend on the order, unless primaries are preferred. -/
theorem Reorders.suited_eq (h : c.Reorders c') {criteria : Criteria}
    (hprefers : ¬ c.PrefersPrimary criteria) : c'.suited criteria = c.suited criteria := by
  have hof := h.routableOf_eq
  cases criteria with
  | predicate accepts =>
    unfold suited
    rw [h.routable_eq, h.kind]
  | readPreference rp =>
    by_cases hkind : c.kind = .replicaSetWithPrimary ∨ c.kind = .replicaSetNoPrimary
    -- In a replica set all modes but one look at sets of servers only.
    · rw [suited_of_members hkind, suited_of_members (h.kind ▸ hkind)]
      unfold admitted
      cases rp with
      | primary => exact hof .primary
      | flexible mode options =>
        cases mode with
        | primaryPreferred => exact absurd ⟨hkind, options, rfl⟩ hprefers
        | secondary | secondaryPreferred | nearest => simp only [hof]
    · unfold suited
      dsimp only
      rw [h.kind]
      cases hk : c.kind with
      | unknown => rfl
      | single => exact hof .standalone
      | sharded => exact hof .router
      | replicaSetWithPrimary => exact absurd (.inl hk) hkind
      | replicaSetNoPrimary => exact absurd (.inr hk) hkind

/-- Where the same servers are suited, the same one is chosen. -/
theorem Reorders.choose?_eq (h : c.Reorders c') (hdistinct : (c.servers.map (·.address.key)).Nodup)
    (load : Address → Option Nat) {criteria : Criteria}
    (hsuited : c'.suited criteria = c.suited criteria) :
    c'.choose? load criteria = c.choose? load criteria := by
  have hnearby : c'.nearby criteria = c.nearby criteria := by
    unfold nearby
    rw [hsuited, h.localThreshold]
  ext s
  rw [choose?_eq_some_iff hdistinct, choose?_eq_some_iff (h.distinct hdistinct), Chosen, Chosen,
    hnearby]

/-! ## §2. The primary that is met first. -/

/-- When primaries are preferred and there are any, only the first one is suited. -/
theorem suited_of_prefersPrimary {criteria : Criteria} (h : c.PrefersPrimary criteria)
    (hprimary : (c.routableOf .primary).Nonempty) :
    c.suited criteria = c.firstOf .primary := by
  obtain ⟨hkind, options, rfl⟩ := h
  rw [suited_of_members hkind]
  ext s
  exact or_iff_left fun hnone => hprimary.ne_empty hnone.1

/-- When primaries are preferred and there are none, the secondaries are suited. -/
theorem suited_of_no_primary {options : Option ReadOptions}
    (hkind : c.kind = .replicaSetWithPrimary ∨ c.kind = .replicaSetNoPrimary)
    (hnone : c.routableOf .primary = ∅) :
    c.suited (.readPreference (.flexible .primaryPreferred options)) =
      tagged (options.bind (·.tagSets)) (c.routableOf .secondary) := by
  rw [suited_of_members hkind]
  ext s
  show s ∈ c.firstOf .primary ∨ c.routableOf .primary = ∅ ∧ s ∈ tagged _ _ ↔ _
  have hfirst : s ∉ c.firstOf .primary := by
    intro hs
    have hin : s ∈ c.routableOf .primary := hs.1
    rw [hnone] at hin
    exact hin
  rw [or_iff_right hfirst]
  exact and_iff_right hnone

/-- When there is only one primary it is the first one. -/
theorem firstOf_eq_of_unique {kind : ServerKind} {s : ServerDescription}
    (hs : c.routableOf kind = {s}) : c.firstOf kind = {s} := by
  ext t
  rw [mem_firstOf, Set.mem_singleton_iff]
  have hmem : ∀ t, t ∈ c.ofKind kind ↔ t = s := by
    intro t
    rw [mem_ofKind, hs, Set.mem_singleton_iff]
  cases hlist : c.ofKind kind with
  | nil =>
    rw [hlist] at hmem
    exact absurd ((hmem s).mpr rfl) (by simp)
  | cons first rest =>
    rw [hlist] at hmem
    have hfirst : first = s := (hmem first).mp List.mem_cons_self
    simp [hfirst, eq_comm]

/-- A primary at the front of the snapshot is the one that is preferred. -/
theorem choose?_front {criteria : Criteria} (h : c.PrefersPrimary criteria)
    {p : ServerDescription} (hp : p ∈ c.routableOf .primary) {rest : List ServerDescription}
    (hfront : c.servers = p :: rest) (hdistinct : (c.servers.map (·.address.key)).Nodup)
    (load : Address → Option Nat) :
    c.choose? load criteria = (load p.address).map fun _ => p := by
  have hfirst : ∀ s, s ∈ c.suited criteria ↔ s = p := by
    intro s
    rw [suited_of_prefersPrimary h ⟨p, hp⟩, mem_firstOf]
    have hlist : ∃ others, c.ofKind .primary = p :: others :=
      (c.mem_firstOf .primary p).mp ⟨hp, [], rest, hfront, by simp⟩
    obtain ⟨others, hothers⟩ := hlist
    simp [hothers, eq_comm]
  have hnear : ∀ s, s ∈ c.nearby criteria ↔ s = p := by
    intro s
    constructor
    · intro hs
      exact (hfirst s).mp hs.1
    · rintro rfl
      obtain ⟨t, ht⟩ := (c.nearby_nonempty criteria).mpr ⟨s, (hfirst s).mpr rfl⟩
      rw [(hfirst t).mp ht.1] at ht
      exact ht
  cases hload : load p.address with
  | none =>
    rw [Option.map_none, choose?_eq_none_iff]
    intro s hs
    rw [(hnear s).mp hs]
    exact hload
  | some n =>
    rw [Option.map_some, choose?_eq_some_iff hdistinct]
    refine ⟨(hnear p).mpr rfl, n, hload, ?_⟩
    intro t ht hne
    exact absurd ((hnear t).mp ht) hne

/-- Any server can be brought to the front. -/
theorem exists_front {p : ServerDescription} (hp : p ∈ c.servers) :
    ∃ c', c.Reorders c' ∧ ∃ rest, c'.servers = p :: rest := by
  obtain ⟨before, after, hsplit⟩ := List.append_of_mem hp
  refine ⟨{ c with servers := p :: (before ++ after) }, ⟨rfl, rfl, ?_⟩, _, rfl⟩
  rw [hsplit]
  exact List.perm_middle

/-! ## §3. When the order decides. -/

/-- If the order may decide between primaries, none of them or only one can be leased: then it
    decides nothing. -/
theorem Reorders.choose?_eq_of_unique (h : c.Reorders c')
    (hdistinct : (c.servers.map (·.address.key)).Nodup) {load : Address → Option Nat}
    {criteria : Criteria} (hprefers : c.PrefersPrimary criteria)
    (hunique : ∀ p ∈ c.routableOf .primary, (load p.address).isSome = true →
      ∀ q ∈ c.routableOf .primary, q = p) :
    c'.choose? load criteria = c.choose? load criteria := by
  have hprefers' : c'.PrefersPrimary criteria := by
    unfold PrefersPrimary
    rw [h.kind]
    exact hprefers
  by_cases hprimary : (c.routableOf .primary).Nonempty
  · have hprimary' : (c'.routableOf .primary).Nonempty := by
      rw [h.routableOf_eq]
      exact hprimary
    have hsuited := suited_of_prefersPrimary hprefers hprimary
    have hsuited' := suited_of_prefersPrimary hprefers' hprimary'
    by_cases hleased : ∃ p ∈ c.routableOf .primary, (load p.address).isSome = true
    -- A primary that can be leased is the only one.
    · obtain ⟨p, hp, hload⟩ := hleased
      have honly : c.routableOf .primary = {p} :=
        Set.eq_singleton_iff_unique_mem.mpr ⟨hp, hunique p hp hload⟩
      refine h.choose?_eq hdistinct load ?_
      rw [hsuited, hsuited', firstOf_eq_of_unique honly,
        firstOf_eq_of_unique ((h.routableOf_eq .primary).trans honly)]
    -- Whichever comes first, it cannot be leased.
    · have hnone : ∀ p ∈ c.routableOf .primary, load p.address = none := by
        intro p hp
        cases hload : load p.address with
        | none => rfl
        | some n => exact absurd ⟨p, hp, by rw [hload]; rfl⟩ hleased
      have hchoice : c.choose? load criteria = none := by
        rw [choose?_eq_none_iff]
        intro s hs
        have hfirst : s ∈ c.firstOf .primary := hsuited ▸ hs.1
        exact hnone s hfirst.1
      have hchoice' : c'.choose? load criteria = none := by
        rw [choose?_eq_none_iff]
        intro s hs
        have hfirst : s ∈ c'.firstOf .primary := hsuited' ▸ hs.1
        exact hnone s (h.routableOf_eq .primary ▸ hfirst.1)
      rw [hchoice, hchoice']
  -- Without a primary the secondaries are suited, as a set.
  · rw [Set.not_nonempty_iff_eq_empty] at hprimary
    refine h.choose?_eq hdistinct load ?_
    obtain ⟨hkind, options, rfl⟩ := hprefers
    rw [suited_of_no_primary hkind hprimary,
      suited_of_no_primary (h.kind ▸ hkind) ((h.routableOf_eq .primary).trans hprimary),
      h.routableOf_eq]

/-- The order is of no account unless primaries are preferred and one that can be leased is not
    the only one. -/
theorem choose?_reorders_iff (hdistinct : (c.servers.map (·.address.key)).Nodup)
    (load : Address → Option Nat) (criteria : Criteria) :
    (∀ c', c.Reorders c' → (c'.choose? load criteria).map (·.address.key) =
        (c.choose? load criteria).map (·.address.key)) ↔
      (c.PrefersPrimary criteria → ∀ p ∈ c.routableOf .primary,
        (load p.address).isSome = true → ∀ q ∈ c.routableOf .primary, q = p) := by
  constructor
  · intro hsame hprefers p hp hload q hq
    -- With the one or the other at the front, that one is chosen.
    have hchoice : ∀ s ∈ c.routableOf .primary, ∃ c', c.Reorders c' ∧
        c'.choose? load criteria = (load s.address).map fun _ => s := by
      intro s hs
      obtain ⟨c', h, rest, hfront⟩ := exists_front hs.1.1
      have hprefers' : c'.PrefersPrimary criteria := by
        unfold PrefersPrimary
        rw [h.kind]
        exact hprefers
      have hs' : s ∈ c'.routableOf .primary := by
        rw [h.routableOf_eq]
        exact hs
      exact ⟨c', h, choose?_front hprefers' hs' hfront (h.distinct hdistinct) load⟩
    obtain ⟨cp, hcp, hchoicep⟩ := hchoice p hp
    obtain ⟨cq, hcq, hchoiceq⟩ := hchoice q hq
    obtain ⟨n, hn⟩ := Option.isSome_iff_exists.mp hload
    have heq := (hsame cq hcq).trans (hsame cp hcp).symm
    rw [hchoicep, hchoiceq, hn] at heq
    cases hm : load q.address with
    | none =>
      rw [hm] at heq
      cases heq
    | some m =>
      rw [hm] at heq
      have hkey : q.address.key = p.address.key := Option.some.inj heq
      exact List.inj_on_of_nodup_map hdistinct hq.1.1 hp.1.1 hkey
  · intro hunique c' h
    refine congrArg _ ?_
    by_cases hprefers : c.PrefersPrimary criteria
    · exact h.choose?_eq_of_unique hdistinct hprefers (hunique hprefers)
    · exact h.choose?_eq hdistinct load (h.suited_eq hprefers)

end ClusterDescription

/-! ## §4. Histories. -/

/-- The kind of a deployment does not depend on the order of the descriptions. -/
theorem ClusterKind.derive_perm {servers servers' : List ServerDescription}
    (h : servers.Perm servers') : derive servers' = derive servers := by
  have hdescribed := h.filter fun s => s.ok && s.isAvailable
  unfold derive
  dsimp only
  simp only [hdescribed.any_eq, hdescribed.isEmpty_eq]

namespace Scenario

/-- Servers can be removed from a snapshot. -/
theorem Reachable.removing {s : Scenario} (h : s.Reachable) (gone : List Address) :
    ∃ s' : Scenario, s'.Reachable ∧
      s'.run.client.cluster.localThreshold = s.run.client.cluster.localThreshold ∧
      s'.run.client.cluster.servers =
        s.run.client.cluster.servers.filter fun t => gone.all fun a => !t.address.same a := by
  induction gone generalizing s with
  | nil => exact ⟨s, h, rfl, by simp⟩
  | cons a rest ih =>
    obtain ⟨s', hs', hthreshold, hservers⟩ := ih (h.stepped (.remove a))
    refine ⟨s', hs', hthreshold, ?_⟩
    rw [hservers]
    show List.filter _ (s.run.client.cluster.servers.filter fun t => !t.address.same a) = _
    rw [List.filter_filter]
    refine congrArg (List.filter · _) (funext fun t => ?_)
    rw [List.all_cons, Bool.and_comm]

/-- Servers that are not known can be added to a snapshot, one behind the other. -/
theorem Reachable.adding {s : Scenario} (h : s.Reachable) (new : List ServerDescription)
    (hdistinct : ((s.run.client.cluster.servers ++ new).map (·.address.key)).Nodup) :
    ∃ s' : Scenario, s'.Reachable ∧
      s'.run.client.cluster.localThreshold = s.run.client.cluster.localThreshold ∧
      s'.run.client.cluster.servers = s.run.client.cluster.servers ++ new := by
  induction new generalizing s with
  | nil => exact ⟨s, h, rfl, by simp⟩
  | cons t rest ih =>
    have hcluster : ((step (.update t)).run s).2.run.client.cluster =
        s.run.client.cluster.update t := Client.cluster_ensureMember _ _
    have hplace : (s.run.client.cluster.update t).servers =
        s.run.client.cluster.servers ++ [t] := by
      refine ClusterDescription.place_of_notMem ?_
      rw [List.map_append, List.nodup_append] at hdistinct
      intro hin
      exact hdistinct.2.2 _ hin _ List.mem_cons_self rfl
    have hservers := congrArg ClusterDescription.servers hcluster
    rw [hplace] at hservers
    obtain ⟨s', hs', hthreshold, hnew⟩ := ih (h.stepped (.update t)) (by
      rw [hservers, List.append_assoc]
      exact hdistinct)
    refine ⟨s', hs', hthreshold.trans ?_, ?_⟩
    · rw [hcluster]
      rfl
    · rw [hnew, hservers, List.append_assoc]
      rfl

/-- Two histories that end with the same descriptions end with the same snapshot, up to its
    order. -/
theorem Reachable.reorders {s s' : Scenario} (h : s.Reachable) (h' : s'.Reachable)
    (hthreshold : s'.run.client.cluster.localThreshold = s.run.client.cluster.localThreshold)
    (hservers : s.run.client.cluster.servers.Perm s'.run.client.cluster.servers) :
    s.run.client.cluster.Reorders s'.run.client.cluster where
  kind := by
    rw [h.sound.kind, h'.sound.kind]
    exact ClusterKind.derive_perm hservers
  localThreshold := hthreshold
  servers := hservers

/-- Every order of a snapshot comes of some history. -/
theorem Reachable.reordered {s : Scenario} (h : s.Reachable) {c : ClusterDescription}
    (hc : s.run.client.cluster.Reorders c) :
    ∃ s' : Scenario, s'.Reachable ∧ s'.run.client.cluster = c := by
  obtain ⟨emptied, hemptied, hthreshold, hnone⟩ :=
    h.removing (s.run.client.cluster.servers.map (·.address))
  have hnil : emptied.run.client.cluster.servers = [] := by
    rw [hnone, List.filter_eq_nil_iff]
    intro t ht hall
    rw [List.all_eq_true] at hall
    have hself := hall t.address (List.mem_map_of_mem ht)
    rw [Address.same_refl] at hself
    cases hself
  obtain ⟨s', hs', hthreshold', hservers⟩ := hemptied.adding c.servers (by
    rw [hnil]
    exact hc.distinct h.sound.distinct)
  rw [hnil, List.nil_append] at hservers
  refine ⟨s', hs', ?_⟩
  have hkind : s'.run.client.cluster.kind = c.kind := by
    rw [hs'.sound.kind, hservers, hc.kind, h.sound.kind]
    exact ClusterKind.derive_perm hc.servers
  have hlocal : s'.run.client.cluster.localThreshold = c.localThreshold :=
    (hthreshold'.trans hthreshold).trans hc.localThreshold.symm
  have hparts : ∀ d : ClusterDescription, d.kind = c.kind → d.servers = c.servers →
      d.localThreshold = c.localThreshold → d = c := by
    rintro ⟨_, _, _⟩ rfl rfl rfl
    rfl
  exact hparts _ hkind hservers hlocal

end Scenario

/-! ## §5. What a snapshot and the load decide. -/

/-- When the snapshot and the operations in flight decide the choice, whatever the order of the
    snapshot: unless primaries are preferred and one that can be leased is not the only one.  The
    orders of the snapshot of a client are those in which histories of the client, and of other
    clients with the same threshold, end with the same descriptions. -/
theorem selection_order_iff {c : ClusterDescription}
    (hdistinct : (c.servers.map (·.address.key)).Nodup) (load : Address → Option Nat)
    (criteria : Criteria) :
    ((∀ c', c.Reorders c' → (c'.choose? load criteria).map (·.address.key) =
        (c.choose? load criteria).map (·.address.key)) ↔
      (c.PrefersPrimary criteria → ∀ p ∈ c.routableOf .primary,
        (load p.address).isSome = true → ∀ q ∈ c.routableOf .primary, q = p)) ∧
    ∀ s : Scenario, s.Reachable → s.run.client.cluster = c → ∀ c', c.Reorders c' ↔
      ∃ s' : Scenario, s'.Reachable ∧ s'.run.client.cluster = c' ∧
        c'.localThreshold = c.localThreshold ∧ c.servers.Perm c'.servers := by
  refine ⟨ClusterDescription.choose?_reorders_iff hdistinct load criteria, ?_⟩
  rintro s hs rfl c'
  constructor
  · intro h
    obtain ⟨s', hs', hcluster⟩ := hs.reordered h
    exact ⟨s', hs', hcluster, h.localThreshold, h.servers⟩
  · rintro ⟨s', hs', rfl, hthreshold, hservers⟩
    exact hs.reorders hs' hthreshold hservers

namespace Pair

/-- The scenario in which the second server described itself before the first one did. -/
def turned : Scenario :=
  .after client [.remove left, .update (primary right), .update (primary left)]

theorem reachable_turned : turned.Reachable := .after (o := options) rfl _

/-- Whoever may serve, a primary first. -/
def preferring : Criteria := .readPreference (.flexible .primaryPreferred none)

theorem reorders : described.run.client.cluster.Reorders turned.run.client.cluster :=
  ⟨rfl, rfl, .swap _ _ _⟩

end Pair

/-- Two servers take themselves for the primary.  Two histories that end with their descriptions
    and with no operations in flight choose different ones. -/
theorem preferredPrimary_order :
    Pair.described.Reachable ∧ Pair.turned.Reachable ∧
      Pair.described.run.client.cluster.Reorders Pair.turned.run.client.cluster ∧
      (Pair.described.run.client.cluster.choose? Pair.described.run.client.load
        Pair.preferring).map (·.address.key) = some Pair.left.key ∧
      (Pair.turned.run.client.cluster.choose? Pair.described.run.client.load
        Pair.preferring).map (·.address.key) = some Pair.right.key ∧
      Pair.left.key ≠ Pair.right.key :=
  ⟨Pair.reachable_described, Pair.reachable_turned, Pair.reorders, rfl, rfl, by decide⟩

/-- A write goes to the same one of the two after both histories. -/
theorem selection_order_iff_pair :
    (Pair.turned.run.client.cluster.choose? Pair.described.run.client.load
        .writable).map (·.address.key) =
      (Pair.described.run.client.cluster.choose? Pair.described.run.client.load
        .writable).map (·.address.key) := by
  have hiff := selection_order_iff Pair.reachable_described.sound.distinct
    Pair.described.run.client.load .writable
  refine hiff.1.mpr ?_ _ Pair.reorders
  rintro ⟨-, options, hcriteria⟩
  cases hcriteria

end ClusterClient
