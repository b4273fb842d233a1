/-
  ClusterClient.Proofs.Publication — what a client knows of its servers.

  Descriptions are published and servers withdrawn, one after the other, in any order, and anything
  else may happen in between.  `Client.Heard` is the history of a client together with the log of
  what was published.  What the client knows of an address is what the log says of it last, or the
  placeholder of its seed: the addresses with a description and those with a member are the same,
  and the kind of the cluster is a matter of the current descriptions alone.

  A member is never changed by what is published.  One that is withdrawn lives on for those who
  hold leases of it, but no address leads to it again, so that nothing they do shows in the member
  that is made when the address comes back.

  Main statements: `Client.Heard.published`, and `Scenario.Reachable.heard`: all that can come about
  is such a history.
-/
import ClusterClient.Proofs.Routing
import ClusterClient.Proofs.Traffic

namespace ClusterClient

open Run

/-! ## §1. Finding a description. -/

namespace ClusterDescription

theorem find?_place (s : ServerDescription) (l : List ServerDescription) (a : Address) :
    (place s l).find? (·.address.same a) =
      if s.address.same a then some s else l.find? (·.address.same a) := by
  induction l with
  | nil => cases h : s.address.same a <;> simp [place, h]
  | cons t rest ih =>
    by_cases ht : t.address.same s.address = true
    · -- The description is replaced, and both of them are found or neither is.
      have hta : t.address.same a = s.address.same a := Address.same_congr a ht
      rw [place, if_pos ht, List.find?_cons, List.find?_cons, hta]
      cases s.address.same a <;> rfl
    · rw [place, if_neg ht, List.find?_cons, List.find?_cons, ih]
      cases hta : t.address.same a with
      | false => rfl
      | true =>
        have hsa : s.address.same a = false := by
          rw [← Bool.not_eq_true]
          intro hsa
          rw [Address.same_comm, ← Address.same_congr t.address hsa, Address.same_comm] at hta
          exact ht hta
        rw [hsa]
        rfl

/-- An update is what is found at its address, and at no other. -/
theorem server?_update (c : ClusterDescription) (s : ServerDescription) (a : Address) :
    (c.update s).server? a = if s.address.same a then some s else c.server? a :=
  find?_place s c.servers a

/-- Nothing is found at an address that was removed, and the same as before at others. -/
theorem server?_remove (c : ClusterDescription) (a b : Address) :
    (c.remove a).server? b = if a.same b then none else c.server? b := by
  have hsame : ∀ s : ServerDescription, s.address.same b = true →
      s.address.same a = a.same b := by
    intro s hs
    rw [Address.same_congr a hs, Address.same_comm]
  show (c.servers.filter fun s => !s.address.same a).find? _ = _
  rw [List.find?_filter]
  cases hab : a.same b with
  | true =>
    rw [if_pos rfl, List.find?_eq_none]
    intro s _
    cases hs : s.address.same b with
    | false => simp
    | true => simp [hsame s hs, hab]
  | false =>
    rw [if_neg Bool.false_ne_true]
    show _ = c.servers.find? _
    congr 1
    funext s
    cases hs : s.address.same b with
    | false => simp
    | true => simp [hsame s hs, hab]

/-- At a seed the placeholder is found, the last one if it was given repeatedly. -/
theorem server?_ofSeeds (seeds : List Address) (threshold : Nat) (a : Address) :
    (ofSeeds seeds threshold).server? a =
      (seeds.filter (·.same a)).getLast?.map .placeholder := by
  show (seeds.foldl (fun known a => place (.placeholder a) known) []).find? _ = _
  -- Induction on the seeds, from the last one.
  induction seeds using List.reverseRecOn with
  | nil => rfl
  | append_singleton seeds b ih =>
    rw [List.foldl_append, List.foldl_cons, List.foldl_nil, find?_place, ih, List.filter_append]
    show (if b.same a = true then _ else _) = _
    cases hb : b.same a <;> simp [hb]

/-- A server is described exactly if it is found. -/
theorem knows_eq (c : ClusterDescription) (a : Address) : c.knows a = (c.server? a).isSome := by
  rw [Bool.eq_iff_iff, knows, server?, List.any_eq_true, List.find?_isSome]

/-- Every description is found at its address. -/
theorem server?_of_mem {c : ClusterDescription}
    (distinct : (c.servers.map (·.address.key)).Nodup) {s : ServerDescription}
    (h : s ∈ c.servers) : c.server? s.address = some s := by
  have hfound : (c.server? s.address).isSome = true := by
    rw [← knows_eq]
    exact List.any_eq_true.mpr ⟨s, h, Address.same_refl s.address⟩
  obtain ⟨t, ht⟩ := Option.isSome_iff_exists.mp hfound
  have hsame : t.address.same s.address = true := by
    unfold server? at ht
    simpa using List.find?_some ht
  have hkey : t.address.key = s.address.key := (Address.same_iff _ _).mp hsame
  have hst : t = s :=
    List.inj_on_of_nodup_map distinct (List.mem_of_find?_eq_some ht) h hkey
  rw [ht, hst]

/-- Among the current descriptions that are ok there is one of this kind. -/
def Has (c : ClusterDescription) (kind : ServerKind) : Prop :=
  ∃ a s, c.server? a = some s ∧ s.ok = true ∧ s.kind = kind

theorem has_iff {c : ClusterDescription} (distinct : (c.servers.map (·.address.key)).Nodup)
    (kind : ServerKind) : c.Has kind ↔ ∃ s ∈ c.servers, s.ok = true ∧ s.kind = kind := by
  constructor
  · rintro ⟨a, s, hs, hok⟩
    exact ⟨s, List.mem_of_find?_eq_some hs, hok⟩
  · rintro ⟨s, hs, hok⟩
    exact ⟨s.address, s, server?_of_mem distinct hs, hok⟩

end ClusterDescription

/-! ## §2. The kind of a cluster. -/

namespace ClusterKind

/-- The kind of a deployment that has servers of these kinds. -/
def Of (has : ServerKind → Prop) : ClusterKind → Prop
  | .single => has .standalone
  | .sharded => ¬has .standalone ∧ has .router
  | .replicaSetWithPrimary => ¬has .standalone ∧ ¬has .router ∧ has .primary
  | .replicaSetNoPrimary => ¬has .standalone ∧ ¬has .router ∧ ¬has .primary ∧
      ∃ kind, kind ≠ .unknown ∧ has kind
  | .unknown => ∀ kind, kind ≠ .unknown → ¬has kind

/-- Known kinds that are there settle the kind of the deployment. -/
theorem Of.unique {has has' : ServerKind → Prop} {k k' : ClusterKind} (h : Of has k)
    (h' : Of has' k') (same : ∀ kind, kind ≠ .unknown → (has' kind ↔ has kind)) : k' = k := by
  have hstandalone := same .standalone (by decide)
  have hrouter := same .router (by decide)
  have hprimary := same .primary (by decide)
  cases k <;> cases k' <;> grind [Of]

/-- The servers that are described well. -/
abbrev described (servers : List ServerDescription) : List ServerDescription :=
  servers.filter fun s => s.ok && s.isAvailable

section Derive

variable {c : ClusterDescription} (distinct : (c.servers.map (·.address.key)).Nodup)
include distinct

theorem has_iff_described {kind : ServerKind} (known : kind ≠ .unknown) :
    c.Has kind ↔ ∃ s ∈ described c.servers, s.kind = kind := by
  simp only [ClusterDescription.has_iff distinct, described, List.mem_filter, Bool.and_eq_true,
    ServerDescription.isAvailable, bne_iff_ne, and_assoc]
  refine exists_congr fun s => and_congr_right fun _ => and_congr_right fun _ => ?_
  exact ⟨fun h => ⟨h ▸ known, h⟩, fun h => h.2⟩

theorem any_described {kind : ServerKind} (known : kind ≠ .unknown) :
    (described c.servers).any (·.kind == kind) = true ↔ c.Has kind := by
  simp only [has_iff_described distinct known, List.any_eq_true, beq_iff_eq]

theorem isEmpty_described :
    (described c.servers).isEmpty = true ↔ ∀ kind, kind ≠ .unknown → ¬c.Has kind := by
  rw [List.isEmpty_iff, List.eq_nil_iff_forall_not_mem]
  constructor
  · intro hnone kind known hkind
    obtain ⟨s, hs, -⟩ := (has_iff_described distinct known).mp hkind
    exact hnone s hs
  · intro hnone s hs
    have known : s.kind ≠ .unknown := by
      have hwell : s.ok = true ∧ s.kind ≠ .unknown := by
        simpa [ServerDescription.isAvailable] using (List.mem_filter.mp hs).2
      exact hwell.2
    exact hnone s.kind known ((has_iff_described distinct known).mpr ⟨s, hs, rfl⟩)

/-- The kind that is derived from descriptions is that of the servers that are described well. -/
theorem of_derive : Of c.Has (derive c.servers) := by
  have hstandalone : (described c.servers).any (·.kind == .standalone) = true ↔ c.Has .standalone :=
    any_described distinct (by decide)
  have hrouter : (described c.servers).any (·.kind == .router) = true ↔ c.Has .router :=
    any_described distinct (by decide)
  have hprimary : (described c.servers).any (·.kind == .primary) = true ↔ c.Has .primary :=
    any_described distinct (by decide)
  unfold derive
  dsimp only
  split
  · next h => exact hstandalone.mp h
  · next hs =>
    rw [hstandalone] at hs
    split
    · next h => exact ⟨hs, hrouter.mp h⟩
    · next hr =>
      rw [hrouter] at hr
      split
      · next h => exact ⟨hs, hr, hprimary.mp h⟩
      · next hp =>
        rw [hprimary] at hp
        split
        · next h => exact (isEmpty_described distinct).mp h
        · next h =>
          have hsome : ∃ kind, kind ≠ .unknown ∧ c.Has kind := by
            by_contra hnone
            exact h ((isEmpty_described distinct).mpr fun kind known hkind =>
              hnone ⟨kind, known, hkind⟩)
          exact ⟨hs, hr, hp, hsome⟩

end Derive

end ClusterKind

/-! ## §3. The log. -/

/-- Whether something is published of the server at an address. -/
def Happening.concerns (a : Address) : Happening → Bool
  | .described s => s.address.same a
  | .withdrawn b => b.same a
  | .unreachable _ _ | .reachable _ | .elapsed _ => false

/-- The description that is current after something was published. -/
def Happening.leaves? : Happening → Option ServerDescription
  | .described s => some s
  | _ => none

/-- What seeds and a log say last of the server at an address: its latest description, unless it
    was withdrawn since, and the placeholder if it is a seed of which nothing was published. -/
def lastTold (seeds : List Address) (log : List Happening) (a : Address) :
    Option ServerDescription :=
  match (log.filter (·.concerns a)).getLast? with
  | some told => told.leaves?
  | none => (seeds.filter (·.same a)).getLast?.map .placeholder

theorem lastTold_concat (seeds : List Address) (log : List Happening) (n : Happening)
    (a : Address) :
    lastTold seeds (log ++ [n]) a = if n.concerns a then n.leaves? else lastTold seeds log a := by
  unfold lastTold
  rw [List.filter_append]
  cases h : n.concerns a <;> simp [h]

namespace Client

theorem server?_hear (c : Client) (n : Happening) (a : Address) :
    (c.hear n).cluster.server? a = if n.concerns a then n.leaves? else c.cluster.server? a := by
  cases n with
  | described s =>
    show (c.update s).cluster.server? a = _
    rw [update, cluster_ensureMember]
    exact ClusterDescription.server?_update c.cluster s a
  | withdrawn b => exact ClusterDescription.server?_remove c.cluster b a
  | unreachable | reachable | elapsed => rfl

/-- A client that has come of one that was started with these options, and the log of what was
    published since. -/
inductive Heard (o : Options) : List Happening → Client → Prop where
  | started {c : Client} (h : start o = .ok c) : Heard o [] c
  | heard {log : List Happening} {c : Client} (h : Heard o log c) (n : Happening) :
    Heard o (log ++ [n]) (c.hear n)
  /-- Anything else may happen that publishes nothing. -/
  | beside {log : List Happening} {c c' : Client} (h : Heard o log c)
    (change : Client.Change anywhere c c') (quiet : c'.version = c.version) : Heard o log c'

@[simp] theorem version_ensureMember (c : Client) (a : Address) :
    (c.ensureMember a).version = c.version := by
  unfold ensureMember
  split <;> rfl

@[simp] theorem options_ensureMember (c : Client) (a : Address) :
    (c.ensureMember a).options = c.options := by
  unfold ensureMember
  split <;> rfl

/-- The end of a session is a matter of sessions alone. -/
theorem endSession_eq (c : Client) (id : SessionId) : ∃ sessions waiting,
    c.endSession id = { c with sessions := sessions, waiting := waiting } := by
  unfold endSession
  split
  · exact ⟨_, _, rfl⟩
  · split <;> exact ⟨_, _, rfl⟩

theorem dropSession_eq (c : Client) (id : SessionId) : ∃ sessions waiting,
    c.dropSession id = { c with sessions := sessions, waiting := waiting } := by
  unfold dropSession
  dsimp only
  split
  · split
    · obtain ⟨sessions, waiting, hended⟩ :=
        (c.modifySession id fun s => { s with holders := s.holders - 1 }).endSession_eq id
      exact ⟨sessions, waiting, hended⟩
    · exact ⟨_, _, rfl⟩
  · exact ⟨_, _, rfl⟩

/-- Every change publishes something or leaves alone what was published. -/
theorem Change.published_or_quiet {may : SessionId → Prop} {c c' : Client}
    (h : Client.Change may c c') :
    (∃ n, c' = c.hear n ∧ c'.version = c.version + 1) ∨
      c'.cluster = c.cluster ∧ c'.version = c.version := by
  cases h with
  | described s => exact .inl ⟨.described s, rfl, version_ensureMember _ s.address⟩
  | withdrawn a => exact .inl ⟨.withdrawn a, rfl, rfl⟩
  | elapsed | member | session | opened => exact .inr ⟨rfl, rfl⟩
  | ended id =>
    obtain ⟨sessions, waiting, hended⟩ := c.endSession_eq id
    rw [hended]
    exact .inr ⟨rfl, rfl⟩
  | dropped id =>
    obtain ⟨sessions, waiting, hdropped⟩ := c.dropSession_eq id
    rw [hdropped]
    exact .inr ⟨rfl, rfl⟩

/-- The options are those of the start. -/
theorem Change.options {may : SessionId → Prop} {c c' : Client} (h : Client.Change may c c') :
    c'.options = c.options := by
  cases h with
  | described s => exact options_ensureMember _ s.address
  | withdrawn | elapsed | member | session | opened => rfl
  | ended id => exact c.options_endSession id
  | dropped id => exact c.options_dropSession id

/-- A client is started with the descriptions of its seeds. -/
theorem start_eq_ok {o : Options} {c : Client} (h : start o = .ok c) :
    c.options = o ∧ c.cluster = .ofSeeds o.hosts (1000 * o.effectiveLocalThreshold) := by
  have hfold : ∀ (hosts : List Address) (c : Client),
      (hosts.foldl ensureMember c).options = c.options ∧
        (hosts.foldl ensureMember c).cluster = c.cluster := by
    intro hosts
    induction hosts with
    | nil => exact fun c => ⟨rfl, rfl⟩
    | cons a rest ih =>
      intro c
      obtain ⟨hoptions, hcluster⟩ := ih (c.ensureMember a)
      exact ⟨hoptions.trans (options_ensureMember c a), hcluster.trans (cluster_ensureMember c a)⟩
  unfold start at h
  cases hr : o.refusal? with
  | some reason =>
    rw [hr] at h
    cases h
  | none =>
    rw [hr] at h
    cases h
    exact hfold o.hosts _

namespace Heard

variable {o : Options} {log : List Happening} {c : Client}

theorem sound (h : Heard o log c) : c.Sound := by
  induction h with
  | started h => exact sound_start h
  | heard _ n ih => exact ih.hear n
  | beside _ change _ ih => exact change.sound ih

theorem options (h : Heard o log c) : c.options = o := by
  induction h with
  | started h => exact (start_eq_ok h).1
  | @heard _ c _ n ih =>
    rw [← ih]
    cases n with
    | described s => exact options_ensureMember _ s.address
    | withdrawn | unreachable | reachable | elapsed => rfl
  | beside _ change _ ih => exact change.options.trans ih

/-- The description at an address is what the log says last of it. -/
theorem server?_eq (h : Heard o log c) (a : Address) :
    c.cluster.server? a = lastTold o.hosts log a := by
  induction h with
  | started h =>
    rw [(start_eq_ok h).2, ClusterDescription.server?_ofSeeds]
    rfl
  | heard _ n ih => rw [server?_hear, lastTold_concat, ih]
  | beside _ change quiet ih =>
    obtain ⟨n, -, hversion⟩ | ⟨hcluster, -⟩ := change.published_or_quiet
    · exact absurd (hversion.symm.trans quiet) (Nat.succ_ne_self _)
    · rw [hcluster, ih]

end Heard

/-! ## §4. Members. -/

/-- A server is described exactly if there is a member for it. -/
theorem Sound.isSome_memberAt? {c : Client} (hc : c.Sound) (a : Address) :
    (c.memberAt? a).isSome = (c.cluster.server? a).isSome := by
  rw [← ClusterDescription.knows_eq, ← hc.known a]
  unfold memberAt?
  cases hid : c.known.value? a with
  | none => rfl
  | some id =>
    obtain ⟨m, hm, -⟩ := hc.member a id hid
    simp [hm]

theorem memberAt?_eq_some {c : Client} {a : Address} {m : Member} (h : c.memberAt? a = some m) :
    ∃ id, c.known.value? a = some id ∧ c.members[id]? = some m :=
  Option.bind_eq_some_iff.mp h

/-- An address that is known stays so when another one is looked for. -/
theorem known_ensureMember {c : Client} {a : Address} {id : MemberId}
    (h : c.known.value? a = some id) (b : Address) :
    (c.ensureMember b).known.value? a = some id := by
  unfold ensureMember
  cases hb : c.known.value? b with
  | some _ => exact h
  | none =>
    have hba : b.same a = false := by
      rw [← Bool.not_eq_true]
      intro hba
      rw [AddressMap.value?_congr c.known hba, h] at hb
      cases hb
    rw [AddressMap.value?_put_other c.known _ hba, h]

/-- An update leaves the members that are there as they are, at its own address too. -/
theorem memberAt?_update {c : Client} {a : Address} {m : Member} (h : c.memberAt? a = some m)
    (s : ServerDescription) : (c.update s).memberAt? a = some m := by
  obtain ⟨id, hid, hm⟩ := memberAt?_eq_some h
  have hpublished : ({ c with cluster := c.cluster.update s, version := c.version + 1 } :
      Client).known.value? a = some id := hid
  have hknown : (c.update s).known.value? a = some id := known_ensureMember hpublished s.address
  rw [memberAt?, hknown, Option.bind_some, getElem?_update hm s]

/-- An update at an address without a member makes a member that nobody has used. -/
theorem Sound.update_makes {c : Client} (hc : c.Sound) {s : ServerDescription} {a : Address}
    (ha : s.address.same a = true) (h : c.memberAt? a = none) :
    (c.update s).known.value? a = some c.members.length ∧
      (c.update s).members = c.members ++ [newMember c.options s.address] := by
  have hunknown : c.known.value? s.address = none := by
    rw [AddressMap.value?_congr c.known ha, ← Option.not_isSome_iff_eq_none, hc.known,
      ClusterDescription.knows_eq, ← hc.isSome_memberAt?, h]
    exact Bool.false_ne_true
  unfold Client.update ensureMember
  dsimp only
  rw [hunknown]
  exact ⟨AddressMap.value?_put_same c.known _ ha, rfl⟩

/-- An address that was removed leads to no member, and others lead where they led. -/
theorem known_remove (c : Client) (a b : Address) :
    (c.remove a).known.value? b = if a.same b then none else c.known.value? b := by
  show (c.known.drop a).value? b = _
  cases hab : a.same b with
  | true => exact AddressMap.value?_drop_same c.known hab
  | false => exact AddressMap.value?_drop_other c.known hab

/-- Addresses that lead to one member are the same. -/
theorem Sound.same_of_known {c : Client} (hc : c.Sound) {a b : Address} {id : MemberId}
    (ha : c.known.value? a = some id) (hb : c.known.value? b = some id) : a.same b = true := by
  obtain ⟨m, hm, hma⟩ := hc.member a id ha
  obtain ⟨m', hm', hmb⟩ := hc.member b id hb
  rw [hm] at hm'
  cases hm'
  rw [← Address.same_congr b hma]
  exact hmb

/-! ## §5. Members that were withdrawn. -/

/-- There is such a member, but no address leads to it. -/
structure Lost (c : Client) (id : MemberId) : Prop where
  there : id < c.members.length
  unknown : ∀ a, c.known.value? a ≠ some id

/-- A server that is removed leaves its member behind. -/
theorem Sound.lost_remove {c : Client} (hc : c.Sound) {a : Address} {id : MemberId}
    (ha : c.known.value? a = some id) : (c.remove a).Lost id where
  there := by
    obtain ⟨m, hm, -⟩ := hc.member a id ha
    exact (List.getElem?_eq_some_iff.mp hm).1
  unknown b := by
    rw [known_remove]
    split
    · simp
    · next hab => exact fun hb => hab (hc.same_of_known ha hb)

theorem Lost.of_sameServers {c c' : Client} {id : MemberId} (h : c.Lost id)
    (same : c.SameServers c') : c'.Lost id := by
  refine ⟨?_, ?_⟩
  · rw [same.members]
    exact h.there
  · rw [same.known]
    exact h.unknown

/-- No change leads back to it. -/
theorem Change.lost {may : SessionId → Prop} {c c' : Client} {id : MemberId}
    (h : Client.Change may c c') (hc : c.Lost id) : c'.Lost id := by
  cases h with
  | described s =>
    have hpublished : Lost { c with
        cluster := c.cluster.update s, version := c.version + 1 } id := ⟨hc.there, hc.unknown⟩
    unfold Client.update ensureMember
    split
    · exact hpublished
    · -- The member that is made comes after all others.
      refine ⟨?_, fun b => ?_⟩
      · exact Nat.lt_of_lt_of_le hc.there (by simp)
      · by_cases hb : s.address.same b = true
        · rw [AddressMap.value?_put_same _ _ hb]
          exact fun heq => Nat.ne_of_gt hc.there (Option.some.inj heq)
        · rw [AddressMap.value?_put_other _ _ (by simpa using hb)]
          exact hc.unknown b
  | withdrawn a =>
    refine ⟨hc.there, fun b => ?_⟩
    rw [known_remove]
    split
    · simp
    · exact hc.unknown b
  | @member id' f _ =>
    exact ⟨by rw [modifyMember, List.length_modify]; exact hc.there, hc.unknown⟩
  | elapsed | session | opened => exact ⟨hc.there, hc.unknown⟩
  | ended id' => exact hc.of_sameServers (c.sameServers_endSession id')
  | dropped id' => exact hc.of_sameServers (c.sameServers_dropSession id')

theorem Lost.changes {may : SessionId → Prop} {c c' : Client} {id : MemberId} (h : c.Lost id)
    (hr : Relation.ReflTransGen (Client.Change may) c c') : c'.Lost id := by
  induction hr with
  | refl => exact h
  | tail _ hchange ih => exact hchange.lost ih

end Client

/-! ## §6. Leases. -/

/-- What those do with a member who hold leases of it. -/
inductive Run.OnLease (id : MemberId) : (Run → Run) → Prop where
  | retained (source : Source) (h : source.selected.member = id) :
    OnLease id fun r => (source.retain.on r).2
  | lent (source : Source) (h : source.selected.member = id) :
    OnLease id fun r => (source.connection.on r).2
  | sent (lease : Lease) (h : lease.member = id) (command : Command) (x : SessionContext) :
    OnLease id fun r => ((send lease command x).on r).2
  | returned (lease : Lease) (h : lease.member = id) : OnLease id fun r => ((checkIn lease).on r).2
  | released (source : Source) (h : source.selected.member = id) :
    OnLease id fun r => (source.release.on r).2

/-- All members but one stay as they are. -/
def Spares (id : MemberId) (r r' : Run) : Prop :=
  ∀ id' m, id' ≠ id → r.client.members[id']? = some m → r'.client.members[id']? = some m

instance (id : MemberId) : IsPreorder Run (Spares id) where
  refl _ _ _ _ h := h
  trans _ _ _ h h' id' m hne hm := h' id' m hne (h id' m hne hm)

section Spares

variable {id : MemberId}

theorem spares_of_members {r r' : Run} (h : r'.client.members = r.client.members) :
    Spares id r r' := by
  intro id' m _ hm
  rwa [h]

theorem modifyMember_spares (f : Member → Member) :
    (onClient (·.modifyMember id f)).Keeps (Spares id) := by
  intro r id' m hne hm
  show (r.client.members.modify id f)[id']? = some m
  rw [List.getElem?_modify, hm]
  simp [hne.symm]

theorem happen_spares (h : Happening) : (happen h).Keeps (Spares id) := by
  intro r
  cases h with
  | described s => exact fun id' m _ hm => Client.getElem?_update hm s
  | withdrawn | unreachable | reachable | elapsed => exact spares_of_members rfl

theorem checkOut_spares : (checkOut id).Keeps (Spares id) :=
  .checkOut (fun _ _ => spares_of_members rfl) (fun _ => spares_of_members rfl) happen_spares
    fun r _ _ => modifyMember_spares _ r

theorem checkIn_spares (lease : Lease) : (checkIn lease).Keeps (Spares lease.member) :=
  .checkIn (fun _ _ => spares_of_members rfl) (modifyMember_spares _)

theorem modifyContext_spares (x : SessionContext) (f : Session → Session) :
    (onClient (x.modify f)).Keeps (Spares id) := by
  intro r
  obtain ⟨_ | session, _⟩ := x <;> exact spares_of_members rfl

theorem send_spares (lease : Lease) (command : Command) (x : SessionContext) :
    (send lease command x).Keeps (Spares lease.member) := by
  have told : ∀ e, (emit e).Keeps (Spares lease.member) := fun _ _ => spares_of_members rfl
  have exchanged : ∀ command session,
      (exchange lease command session).Keeps (Spares lease.member) :=
    fun _ _ => .bind (.lift (.modify fun _ => spares_of_members rfl)) fun _ => .bind .get fun _ =>
      .bind (.lift (.modify fun _ => spares_of_members rfl)) fun _ =>
        .bind (.lift (.happenAll happen_spares _)) fun _ =>
          .bind (.lift (.happenAll happen_spares _)) fun _ => .settle _
  refine .bind (.lift .currentClient) fun _ => .bind (.lift (told _)) fun _ =>
    .bind (.observe (exchanged _ _)) fun result => ?_
  cases result with
  | ok reply => exact .bind (.lift (told _)) fun _ => .pure _
  | error e =>
    unfold follow
    dsimp only
    split
    -- The connection is marked, and it is one of the member's own.
    · exact .bind (.lift (modifyMember_spares _)) fun _ =>
        .bind (.lift (modifyContext_spares x _)) fun _ => .bind (.lift (told _)) fun _ => .throw _
    · exact .bind (.lift (told _)) fun _ => .throw _

theorem Run.OnLease.spares {f : Run → Run} (h : OnLease id f) (r : Run) : Spares id r (f r) := by
  cases h with
  | retained source h =>
    subst h
    have leased : Spares source.selected.member r
        { r with client := r.client.lease source.selected.member } := modifyMember_spares _ r
    refine trans_of (Spares source.selected.member) leased ?_
    obtain ⟨_, _ | session, _⟩ := source <;> exact spares_of_members rfl
  | lent source h =>
    subst h
    exact checkOut_spares r
  | sent lease h command x =>
    subst h
    exact send_spares lease command x r
  | returned lease h =>
    subst h
    exact checkIn_spares lease r
  | released source h =>
    subst h
    have unleased : Spares source.selected.member r
        { r with client := r.client.unlease source.selected.member } := modifyMember_spares _ r
    refine trans_of (Spares source.selected.member) unleased ?_
    obtain ⟨_, _ | session, _⟩ := source
    · exact spares_of_members rfl
    · exact spares_of_members (Client.sameServers_dropSession _ session).members

end Spares

/-! ## §7. What is published. -/

/-- A member that no address leads to lives on, and what is done with it shows nowhere else. -/
structure Run.Apart (r : Run) (id : MemberId) : Prop where
  there : (r.client.members[id]?).isSome = true
  unknown : ∀ a, r.client.known.value? a ≠ some id
  elsewhere : ∀ f, OnLease id f → ∀ a m, r.client.memberAt? a = some m →
    ∃ id', r.client.known.value? a = some id' ∧ (f r).client.members[id']? = some m

/-- What a client that was started with these options knows of its servers after what was
    published. -/
structure Client.Published (o : Options) (log : List Happening) (c : Client) : Prop where
  /-- A server is described exactly if there is a member for it, and the member is one there. -/
  members : ∀ a, (c.memberAt? a).isSome = (c.cluster.server? a).isSome
  address : ∀ a m, c.memberAt? a = some m → m.address.same a = true
  described : ∀ a, c.cluster.server? a = lastTold o.hosts log a
  kind : ClusterKind.Of c.cluster.Has c.cluster.kind
  /-- The kind is the same in every history that leads to servers of the same known kinds. -/
  kind_unique : ∀ o' log' c', Client.Heard o' log' c' →
    (∀ kind, kind ≠ .unknown → (c'.cluster.Has kind ↔ c.cluster.Has kind)) →
    c'.cluster.kind = c.cluster.kind
  /-- Removing tells whether the address was known. -/
  removes : ∀ a r, r.client = c →
    (withdraw a).on r = ((c.cluster.server? a).isSome, { r with client := c.remove a })
  /-- An update leaves every member as it is. -/
  keeps : ∀ s a m, c.memberAt? a = some m → (c.update s).memberAt? a = some m
  /-- Where there is no member, an update makes one that nobody has used. -/
  makes : ∀ s a, s.address.same a = true → c.memberAt? a = none →
    ∃ id, c.members[id]? = none ∧ (c.update s).known.value? a = some id ∧
      (c.update s).members[id]? = some ⟨s.address, 0, .empty s.address o.effectiveMaxPoolSize⟩
  /-- No member is there after a removal, and the one that was there stays apart for ever. -/
  removed : ∀ a id, c.known.value? a = some id → (c.remove a).memberAt? a = none ∧
    ∀ r : Run, Relation.ReflTransGen (Client.Change anywhere) (c.remove a) r.client → r.Apart id

theorem Client.Lost.apart {r : Run} {id : MemberId} (h : r.client.Lost id) : r.Apart id where
  there := by
    rw [List.getElem?_eq_getElem h.there]
    rfl
  unknown := h.unknown
  elsewhere f hf a m ha := by
    obtain ⟨id', hid', hm⟩ := Client.memberAt?_eq_some ha
    have hne : id' ≠ id := fun heq => h.unknown a (heq ▸ hid')
    exact ⟨id', hid', hf.spares r id' m hne hm⟩

/-- Whatever was published in whatever order, from whatever seeds, the tables of a client are in
    step with it and with each other. -/
theorem Client.Heard.published {o : Options} {log : List Happening} {c : Client}
    (h : c.Heard o log) : c.Published o log where
  members := h.sound.isSome_memberAt?
  address a m ha := by
    obtain ⟨id, hid, hm⟩ := Client.memberAt?_eq_some ha
    obtain ⟨m', hm', hsame⟩ := h.sound.member a id hid
    rw [hm] at hm'
    cases hm'
    exact hsame
  described := h.server?_eq
  kind := by
    rw [h.sound.kind]
    exact ClusterKind.of_derive h.sound.distinct
  kind_unique o' log' c' h' same := by
    rw [h'.sound.kind, h.sound.kind]
    exact ClusterKind.Of.unique (ClusterKind.of_derive h.sound.distinct)
      (ClusterKind.of_derive h'.sound.distinct) same
  removes a r hr := by
    subst hr
    rw [← ClusterDescription.knows_eq]
    rfl
  keeps s a m ha := Client.memberAt?_update ha s
  makes s a hsame ha := by
    obtain ⟨hknown, hmembers⟩ := h.sound.update_makes hsame ha
    refine ⟨c.members.length, by simp, hknown, ?_⟩
    rw [hmembers, h.options]
    simp [Client.newMember]
  removed a id hid := by
    refine ⟨?_, fun r hr => ?_⟩
    · rw [Client.memberAt?, Client.known_remove, if_pos (Address.same_refl a)]
      rfl
    · exact ((h.sound.lost_remove hid).changes hr).apart

namespace Lone

/-- The address of the server, with the default port written out. -/
def spelled : Address := ⟨"a", some 27017⟩

/-- The server is given as a seed in both ways, and another one once. -/
def seeded : Options := ⟨[address, spelled, ⟨"b", none⟩], some 0, none, none, none, none⟩

/-- The server is described, withdrawn by its other name and described again. -/
def log : List Happening := [.described primary, .withdrawn spelled, .described primary]

/-- A client that knows only these seeds: one member for each server, at the address that was
    given first. -/
def pair : Client :=
  ⟨seeded, 0, ⟨.unknown, [.placeholder spelled, .placeholder ⟨"b", none⟩], 15000⟩, 0,
    [(address, 0), (⟨"b", none⟩, 1)],
    [Client.newMember seeded address, Client.newMember seeded ⟨"b", none⟩], [], 0, []⟩

theorem heard : (pair.hears log).Heard seeded log := by
  have hstarted : pair.Heard seeded [] := .started rfl
  exact ((hstarted.heard _).heard _).heard _

end Lone

/-- The address leads to a third member in the end, by both its names. -/
theorem published_lone :
    (Lone.pair.hears Lone.log).Published Lone.seeded Lone.log ∧
      (Lone.pair.hears Lone.log).cluster.kind = .replicaSetWithPrimary ∧
      (Lone.pair.hears Lone.log).known.value? Lone.address = some 2 ∧
      (Lone.pair.hears Lone.log).known.value? Lone.spelled = some 2 :=
  ⟨Lone.heard.published, by decide +kernel⟩

/-- A history goes on with every change. -/
theorem Client.Heard.change {o : Options} {log : List Happening} {c c' : Client}
    (h : c.Heard o log) (change : Client.Change anywhere c c') : ∃ log', c'.Heard o log' := by
  obtain ⟨n, rfl, -⟩ | ⟨-, quiet⟩ := change.published_or_quiet
  · exact ⟨_, h.heard n⟩
  · exact ⟨log, h.beside change quiet⟩

/-- All that can come about is such a history. -/
theorem Scenario.Reachable.heard {s : Scenario} (h : s.Reachable) :
    ∃ o log, s.run.client.Heard o log := by
  refine h.invariant (P := fun c => ∃ o log, c.Heard o log)
    (fun {o c} hstart => ⟨o, [], .started hstart⟩) ?_
  rintro c c' hchange ⟨o, log, hc⟩
  exact ⟨o, hc.change hchange⟩

end ClusterClient
