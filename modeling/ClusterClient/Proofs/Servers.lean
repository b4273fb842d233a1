/-
  ClusterClient.Proofs.Servers — the two tables of servers agree.

  A client has the descriptions of the servers, and beside them a table that finds a member by its
  address.  Both are changed by the same updates, and they never come apart: no server is described
  twice, a server is described exactly if it is found, and what is found is a member of that
  address.  The kind of the cluster is always the one that its descriptions give.

  Main statements: `Scenario.Reachable.sound` and `Client.Sound.load_of_mem`.
-/
import ClusterClient.Proofs.Reachable

namespace ClusterClient

open Run

/-! ## §1. Descriptions. -/

/-- Adding what is not there yet leaves no two of a kind. -/
theorem nodup_added {β : Type} {keys : List β} (h : keys.Nodup) (key : β)
    [Decidable (key ∈ keys)] : (if key ∈ keys then keys else keys ++ [key]).Nodup := by
  split
  · exact h
  · next hnew =>
    refine List.nodup_append.mpr ⟨h, by simp, fun k hk k' hk' heq => ?_⟩
    rw [List.mem_singleton] at hk'
    exact hnew (hk' ▸ heq ▸ hk)

namespace ClusterDescription

/-- A description that is placed adds its key, unless the key is there. -/
theorem keys_place (s : ServerDescription) (l : List ServerDescription) :
    (place s l).map (·.address.key) =
      if s.address.key ∈ l.map (·.address.key) then l.map (·.address.key)
      else l.map (·.address.key) ++ [s.address.key] := by
  induction l with
  | nil => rfl
  | cons t rest ih =>
    by_cases h : t.address.same s.address = true
    · have hkey : t.address.key = s.address.key := (Address.same_iff _ _).mp h
      simp [place, h, hkey]
    · have hkey : s.address.key ≠ t.address.key := by
        intro hk
        exact h ((Address.same_iff _ _).mpr hk.symm)
      simp only [place, if_neg h, List.map_cons, ih, List.mem_cons, hkey, false_or]
      split <;> rfl

/-- A description of a server that is not known is placed at the end. -/
theorem place_of_notMem {s : ServerDescription} {l : List ServerDescription}
    (h : s.address.key ∉ l.map (·.address.key)) : place s l = l ++ [s] := by
  induction l with
  | nil => rfl
  | cons t rest ih =>
    rw [List.map_cons, List.mem_cons, not_or] at h
    have hne : t.address.same s.address = false := by
      rw [← Bool.not_eq_true, Address.same_iff]
      exact fun hkey => h.1 hkey.symm
    rw [place, hne, if_neg Bool.false_ne_true, ih h.2, List.cons_append]

/-- Placing a description keeps the keys distinct. -/
theorem nodup_place (s : ServerDescription) {l : List ServerDescription}
    (h : (l.map (·.address.key)).Nodup) : ((place s l).map (·.address.key)).Nodup := by
  rw [keys_place]
  exact nodup_added h s.address.key

/-- What is in the list afterwards was there before or was placed. -/
theorem mem_place {s t : ServerDescription} {l : List ServerDescription} (h : t ∈ place s l) :
    t = s ∨ t ∈ l := by
  induction l with
  | nil => exact .inl (List.mem_singleton.mp h)
  | cons u rest ih =>
    unfold place at h
    split at h
    · rcases List.mem_cons.mp h with rfl | hrest
      · exact .inl rfl
      · exact .inr (List.mem_cons_of_mem u hrest)
    · rcases List.mem_cons.mp h with rfl | hrest
      · exact .inr List.mem_cons_self
      · exact (ih hrest).imp_right (List.mem_cons_of_mem u)

/-- An address is found among the descriptions by its key. -/
theorem any_same_iff (l : List ServerDescription) (a : Address) :
    l.any (·.address.same a) = true ↔ a.key ∈ l.map (·.address.key) := by
  simp only [List.any_eq_true, List.mem_map, Address.same_iff]

theorem any_same_place (s : ServerDescription) (l : List ServerDescription) (a : Address) :
    (place s l).any (·.address.same a) = (s.address.same a || l.any (·.address.same a)) := by
  rw [Bool.eq_iff_iff, Bool.or_eq_true, any_same_iff, any_same_iff, Address.same_iff, keys_place]
  split
  · next hs =>
    refine ⟨Or.inr, ?_⟩
    rintro (h | h)
    · exact h ▸ hs
    · exact h
  · simp only [List.mem_append, List.mem_singleton]
    rw [or_comm, eq_comm]

theorem knows_update (c : ClusterDescription) (s : ServerDescription) (a : Address) :
    (c.update s).knows a = (s.address.same a || c.knows a) :=
  any_same_place s c.servers a

theorem knows_remove (c : ClusterDescription) (a b : Address) :
    (c.remove a).knows b = (!a.same b && c.knows b) := by
  rw [Bool.eq_iff_iff]
  simp only [knows, remove, List.any_filter, List.any_eq_true, Bool.and_eq_true,
    Bool.not_eq_true']
  constructor
  · rintro ⟨s, hs, ha, hb⟩
    refine ⟨?_, s, hs, hb⟩
    rw [Address.same_comm, ← Address.same_congr a hb]
    exact ha
  · rintro ⟨hab, s, hs, hb⟩
    refine ⟨s, hs, ?_, hb⟩
    rw [Address.same_congr a hb, Address.same_comm]
    exact hab

end ClusterDescription

/-! ## §2. Members. -/

namespace Client

/-- The two tables of a client agree. -/
structure Sound (c : Client) : Prop where
  distinct : (c.cluster.servers.map (·.address.key)).Nodup
  kind : c.cluster.kind = .derive c.cluster.servers
  known : ∀ a, (c.known.value? a).isSome = c.cluster.knows a
  member : ∀ a id, c.known.value? a = some id →
    ∃ m, c.members[id]? = some m ∧ m.address.same a = true

/-- An address that is looked for is found afterwards, and others are found as before. -/
theorem isSome_known_ensureMember (c : Client) (a b : Address) :
    ((c.ensureMember a).known.value? b).isSome =
      (a.same b || (c.known.value? b).isSome) := by
  unfold ensureMember
  cases hk : c.known.value? a with
  | some id =>
    dsimp only
    by_cases h : a.same b = true
    · rw [← AddressMap.value?_congr c.known h, hk, h]
      rfl
    · simp [h]
  | none =>
    dsimp only
    by_cases h : a.same b = true
    · simp [AddressMap.value?_put_same _ _ h, h]
    · rw [Bool.not_eq_true] at h
      simp [AddressMap.value?_put_other _ _ h, h]

/-- A member that is made is found under its address; members that are found stay. -/
theorem member_ensureMember {c : Client} (a : Address)
    (h : ∀ b id, c.known.value? b = some id →
      ∃ m, c.members[id]? = some m ∧ m.address.same b = true) (b : Address) (id : MemberId)
    (hb : (c.ensureMember a).known.value? b = some id) :
    ∃ m, (c.ensureMember a).members[id]? = some m ∧ m.address.same b = true := by
  unfold ensureMember at hb ⊢
  cases hk : c.known.value? a with
  | some _ =>
    rw [hk] at hb
    exact h b id hb
  | none =>
    rw [hk] at hb
    dsimp only at hb ⊢
    by_cases hab : a.same b = true
    · rw [AddressMap.value?_put_same _ _ hab] at hb
      cases hb
      exact ⟨newMember c.options a, by simp, hab⟩
    · rw [AddressMap.value?_put_other _ _ (by simpa using hab)] at hb
      obtain ⟨m, hm, hsame⟩ := h b id hb
      have hlt : id < c.members.length := (List.getElem?_eq_some_iff.mp hm).1
      exact ⟨m, by rw [List.getElem?_append_left hlt]; exact hm, hsame⟩

/-- A member that is there stays in its place. -/
theorem getElem?_ensureMember {c : Client} {id : MemberId} {m : Member}
    (h : c.members[id]? = some m) (a : Address) : (c.ensureMember a).members[id]? = some m := by
  unfold ensureMember
  split
  · exact h
  · exact (List.getElem?_append_left (List.getElem?_eq_some_iff.mp h).1).trans h

theorem getElem?_update {c : Client} {id : MemberId} {m : Member} (h : c.members[id]? = some m)
    (s : ServerDescription) : (c.update s).members[id]? = some m := by
  have hpublished : ({ c with cluster := c.cluster.update s, version := c.version + 1 } :
      Client).members[id]? = some m := h
  exact getElem?_ensureMember hpublished s.address

/-- What is among the members then was there before or is new. -/
theorem mem_ensureMember {c : Client} {a : Address} {m : Member}
    (h : m ∈ (c.ensureMember a).members) : m ∈ c.members ∨ m = newMember c.options a := by
  unfold ensureMember at h
  split at h
  · exact .inl h
  · exact (List.mem_append.mp h).imp_right List.mem_singleton.mp

@[simp] theorem cluster_ensureMember (c : Client) (a : Address) :
    (c.ensureMember a).cluster = c.cluster := by
  unfold ensureMember
  split <;> rfl

end Client

/-! ## §3. The tables agree. -/

/-- A change of a member leaves its address. -/
theorem Member.Change.address {m m' : Member} (h : m.Change m') : m'.address = m.address := by
  cases h <;> rfl

/-- Adding to the kinds of servers that nobody looked at settles no kind. -/
theorem ClusterKind.derive_of_not_ok {servers : List ServerDescription}
    (h : ∀ s ∈ servers, s.ok = false) : derive servers = .unknown := by
  have hnone : servers.filter (fun s => s.ok && s.isAvailable) = [] := by
    rw [List.filter_eq_nil_iff]
    intro s hs
    rw [h s hs]
    simp
  rw [derive, hnone]
  rfl

namespace Client

/-- What leaves the servers alone keeps the agreement. -/
theorem Sound.of_sameServers {c c' : Client} (hc : c.Sound) (h : c.SameServers c') : c'.Sound := by
  obtain ⟨hcluster, hknown, hmembers⟩ := h
  refine ⟨hcluster ▸ hc.distinct, hcluster ▸ hc.kind, ?_, ?_⟩
  · rw [hcluster, hknown]
    exact hc.known
  · rw [hknown, hmembers]
    exact hc.member

theorem Sound.update {c : Client} (hc : c.Sound) (s : ServerDescription) : (c.update s).Sound where
  distinct := by
    rw [Client.update, cluster_ensureMember]
    exact ClusterDescription.nodup_place s hc.distinct
  kind := by
    rw [Client.update, cluster_ensureMember]
    rfl
  known a := by
    rw [Client.update, isSome_known_ensureMember, cluster_ensureMember,
      ClusterDescription.knows_update]
    exact congrArg _ (hc.known a)
  member := member_ensureMember s.address hc.member

theorem Sound.remove {c : Client} (hc : c.Sound) (a : Address) : (c.remove a).Sound where
  distinct := hc.distinct.sublist (List.filter_sublist.map _)
  kind := rfl
  known b := by
    show ((c.known.drop a).value? b).isSome = (c.cluster.remove a).knows b
    rw [ClusterDescription.knows_remove]
    by_cases hab : a.same b = true
    · rw [AddressMap.value?_drop_same _ hab, hab]
      rfl
    · rw [AddressMap.value?_drop_other _ (by simpa using hab), hc.known b]
      simp [hab]
  member b id hb := by
    -- What is found after the removal was found before it.
    by_cases hab : a.same b = true
    · rw [show (c.remove a).known.value? b = none from AddressMap.value?_drop_same _ hab] at hb
      cases hb
    · rw [show (c.remove a).known.value? b = c.known.value? b from
        AddressMap.value?_drop_other _ (by simpa using hab)] at hb
      exact hc.member b id hb

theorem Sound.modifyMember {c : Client} (hc : c.Sound) {id : MemberId} {f : Member → Member}
    (hf : ∀ m, c.members[id]? = some m → (f m).address = m.address) :
    (c.modifyMember id f).Sound where
  distinct := hc.distinct
  kind := hc.kind
  known := hc.known
  member a id' ha := by
    obtain ⟨m, hm, hsame⟩ := hc.member a id' ha
    show ∃ m, (c.members.modify id f)[id']? = some m ∧ m.address.same a = true
    rw [List.getElem?_modify, hm]
    by_cases hid : id = id'
    · refine ⟨f m, by simp [hid], ?_⟩
      rw [hf m (hid ▸ hm)]
      exact hsame
    · exact ⟨m, by simp [hid], hsame⟩

/-- Every change keeps the agreement. -/
theorem Change.sound {may : SessionId → Prop} {c c' : Client} (h : Client.Change may c c')
    (hc : c.Sound) : c'.Sound := by
  cases h with
  | described s => exact hc.update s
  | withdrawn a => exact hc.remove a
  | member hm => exact hc.modifyMember fun m hmem => (hm m hmem).address
  | elapsed | session _ | opened => exact hc.of_sameServers ⟨rfl, rfl, rfl⟩
  | ended id => exact hc.of_sameServers (c.sameServers_endSession id)
  | dropped id => exact hc.of_sameServers (c.sameServers_dropSession id)

end Client

/-! ## §4. The start. -/

/-- The descriptions of seeds: one for each, and nobody looked at any. -/
theorem ClusterDescription.ofSeeds_servers (seeds : List Address) (threshold : Nat) :
    ((ofSeeds seeds threshold).servers.map (·.address.key)).Nodup ∧
      (∀ s ∈ (ofSeeds seeds threshold).servers, s.ok = false) ∧
      ∀ a, (ofSeeds seeds threshold).knows a = seeds.any (·.same a) := by
  -- Induction on the seeds, for every list that they are placed in.
  have hfold : ∀ (seeds : List Address) (l : List ServerDescription),
      (l.map (·.address.key)).Nodup → (∀ s ∈ l, s.ok = false) →
      let placed := seeds.foldl (fun known a => place (.placeholder a) known) l
      (placed.map (·.address.key)).Nodup ∧ (∀ s ∈ placed, s.ok = false) ∧
        ∀ a, placed.any (·.address.same a) =
          (seeds.any (·.same a) || l.any (·.address.same a)) := by
    intro seeds
    induction seeds with
    | nil => exact fun l hl hok => ⟨hl, hok, fun a => rfl⟩
    | cons b rest ih =>
      intro l hl hok
      have hok' : ∀ s ∈ place (.placeholder b) l, s.ok = false := by
        intro s hs
        rcases mem_place hs with rfl | hs
        · rfl
        · exact hok s hs
      obtain ⟨hdistinct, hplaced, hany⟩ := ih _ (nodup_place (.placeholder b) hl) hok'
      refine ⟨hdistinct, hplaced, fun a => ?_⟩
      have hb : (place (.placeholder b) l).any (·.address.same a) =
          (b.same a || l.any (·.address.same a)) := any_same_place (.placeholder b) l a
      rw [List.foldl_cons, hany a, hb, List.any_cons, ← Bool.or_assoc,
        Bool.or_comm (rest.any _) (b.same a)]
  obtain ⟨hdistinct, hok, hany⟩ := hfold seeds [] (by simp) (by simp)
  exact ⟨hdistinct, hok, fun a => (hany a).trans (Bool.or_false _)⟩

namespace Client

/-- The members of seeds: each seed is found, and what is found is a member. -/
theorem foldl_ensureMember (hosts : List Address) :
    ∀ c : Client, (∀ a id, c.known.value? a = some id →
        ∃ m, c.members[id]? = some m ∧ m.address.same a = true) →
      (hosts.foldl ensureMember c).cluster = c.cluster ∧
        (∀ a, ((hosts.foldl ensureMember c).known.value? a).isSome =
          (hosts.any (·.same a) || (c.known.value? a).isSome)) ∧
        ∀ a id, (hosts.foldl ensureMember c).known.value? a = some id →
          ∃ m, (hosts.foldl ensureMember c).members[id]? = some m ∧ m.address.same a = true := by
  induction hosts with
  | nil => exact fun c hc => ⟨rfl, fun a => rfl, hc⟩
  | cons b rest ih =>
    intro c hc
    obtain ⟨hcluster, hknown, hmember⟩ := ih (c.ensureMember b) (member_ensureMember b hc)
    refine ⟨hcluster.trans (cluster_ensureMember c b), fun a => ?_, hmember⟩
    rw [List.foldl_cons, hknown a, isSome_known_ensureMember, List.any_cons, ← Bool.or_assoc,
      Bool.or_comm (rest.any _) (b.same a)]

/-- A client is started with a member for each seed and for nothing else. -/
theorem sound_start {o : Options} {c : Client} (h : start o = .ok c) : c.Sound := by
  unfold start at h
  cases hr : o.refusal? with
  | some reason =>
    rw [hr] at h
    cases h
  | none =>
    rw [hr] at h
    cases h
    obtain ⟨hdistinct, hok, hany⟩ :=
      ClusterDescription.ofSeeds_servers o.hosts (1000 * o.effectiveLocalThreshold)
    generalize hthreshold : 1000 * o.effectiveLocalThreshold = threshold at *
    obtain ⟨hcluster, hknown, hmember⟩ := foldl_ensureMember o.hosts
      { options := o, now := 0, cluster := .ofSeeds o.hosts threshold, version := 0, known := [],
        members := [], waiting := [], nextIdentifier := 0, sessions := [] } nofun
    refine ⟨?_, ?_, fun a => ?_, hmember⟩
    · rw [hcluster]
      exact hdistinct
    · rw [hcluster]
      exact (ClusterKind.derive_of_not_ok hok).symm
    · rw [hknown a, hcluster]
      exact (Bool.or_false _).trans (hany a).symm

/-! ## §5. What follows from the agreement. -/

/-- Every described server has a member, which can be leased. -/
theorem Sound.load_of_mem {c : Client} (hc : c.Sound) {s : ServerDescription}
    (hs : s ∈ c.cluster.servers) : (c.load s.address).isSome = true := by
  have hknows : c.cluster.knows s.address = true :=
    List.any_eq_true.mpr ⟨s, hs, Address.same_refl s.address⟩
  obtain ⟨id, hid⟩ := Option.isSome_iff_exists.mp ((hc.known s.address).trans hknows)
  obtain ⟨m, hm, -⟩ := hc.member s.address id hid
  simp [load, memberAt?, hid, hm]

end Client

/-- In all that can come about the two tables agree. -/
theorem Scenario.Reachable.sound {s : Scenario} (h : s.Reachable) : s.run.client.Sound :=
  h.invariant Client.sound_start Client.Change.sound

end ClusterClient
