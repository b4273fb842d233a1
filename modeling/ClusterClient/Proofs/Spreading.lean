/-
  ClusterClient.Proofs.Spreading — operations are spread evenly.

  Each selection takes the server of the window with the fewest operations in flight, of several
  the one with the smallest address, and counts one operation more on it.  As long as nothing is
  published and nothing is given back, the window stays what it is, and the counts over it grow
  evenly: no two of them are more than one apart, and those that are ahead are the first in the
  order of addresses.  This is what one selection keeps (`Spread.next`).

  Beside it the leases that were taken are tallied by member, so that in whatever order they are
  given back, every count returns to what it was.

  Main statements: `Selections.next`, `operations_releaseAll` and `Client.Sound.spreads_evenly`.
-/
import ClusterClient.Proofs.Support
import Mathlib.Algebra.Ring.Nat

namespace ClusterClient

open Run

/-! ## §1. The window is a part of the snapshot. -/

namespace ClusterDescription

theorem firstMatching_sublist (servers : List ServerDescription) (tagSets : List TagSet) :
    (firstMatching servers tagSets).Sublist servers := by
  induction tagSets with
  | nil => exact List.nil_sublist servers
  | cons tags rest ih =>
    unfold firstMatching
    dsimp only
    split
    · exact ih
    · exact List.filter_sublist

theorem narrow_sublist (tagSets : Option (List TagSet)) (servers : List ServerDescription) :
    (narrow tagSets servers).Sublist servers := by
  unfold narrow
  split
  · exact .refl servers
  · exact .refl servers
  · exact firstMatching_sublist servers _

variable (c : ClusterDescription)

theorem ofKind_sublist (kind : ServerKind) : (c.ofKind kind).Sublist c.servers :=
  List.filter_sublist.trans List.filter_sublist

theorem suitableMembers_sublist (rp : ReadPreference) :
    (c.suitableMembers rp).Sublist c.servers := by
  have hprimaries := c.ofKind_sublist .primary
  have hsecondaries : (narrow rp.tagSets? (c.ofKind .secondary)).Sublist c.servers :=
    (narrow_sublist _ _).trans (c.ofKind_sublist .secondary)
  cases rp with
  | primary => exact hprimaries
  | flexible mode options =>
    cases mode with
    | secondary => exact hsecondaries
    | primaryPreferred =>
      unfold suitableMembers
      dsimp only
      cases hfirst : c.ofKind .primary with
      | nil => exact hsecondaries
      | cons first rest =>
        rw [hfirst] at hprimaries
        exact ((List.nil_sublist rest).cons_cons first).trans hprimaries
    | secondaryPreferred =>
      unfold suitableMembers
      dsimp only
      split
      · exact hprimaries
      · exact hsecondaries
    | nearest => exact (narrow_sublist _ _).trans (List.filter_sublist.trans List.filter_sublist)

theorem suitable_sublist (criteria : Criteria) : (c.suitable criteria).Sublist c.servers := by
  cases criteria with
  | predicate accepts => exact List.filter_sublist.trans List.filter_sublist
  | readPreference rp =>
    unfold suitable
    dsimp only
    split
    · exact List.nil_sublist c.servers
    · exact c.ofKind_sublist .standalone
    · exact c.ofKind_sublist .router
    · exact c.suitableMembers_sublist rp
    · exact c.suitableMembers_sublist rp

theorem withinWindow_sublist (threshold : Nat) (servers : List ServerDescription) :
    (withinWindow threshold servers).Sublist servers := by
  unfold withinWindow
  split
  · exact .refl servers
  · exact List.filter_sublist

/-- The window lists some servers of the snapshot, each as often as the snapshot does. -/
theorem inWindow_sublist (criteria : Criteria) : (c.inWindow criteria).Sublist c.servers :=
  (withinWindow_sublist c.localThreshold _).trans (c.suitable_sublist criteria)

end ClusterDescription

/-! ## §2. Even counts. -/

/-- In all, so many operations are counted over the window; no two counts are more than one apart,
    and the servers that are ahead of others come before them in the order of addresses. -/
structure Spread (window : List ServerDescription) (count : ServerDescription → Nat) (k : Nat) :
    Prop where
  total : (window.map count).sum = k
  level : ∀ s ∈ window, ∀ t ∈ window, count s ≤ count t + 1
  ahead : ∀ s ∈ window, ∀ t ∈ window, count t < count s → s.address.order t.address = .lt

namespace Spread

variable {window : List ServerDescription} {count count' : ServerDescription → Nat} {k : Nat}

/-- Nothing is counted yet. -/
theorem none (h : ∀ s ∈ window, count s = 0) : Spread window count 0 where
  total := by
    rw [List.map_congr_left h, List.map_const', List.sum_replicate_nat, Nat.mul_zero]
  level s hs t _ := by
    rw [h s hs]
    exact Nat.zero_le _
  ahead s hs t _ hlt := by
    rw [h s hs] at hlt
    exact absurd hlt (Nat.not_lt_zero _)

/-- One more operation on one server of the window is one more in all. -/
theorem sum_next (once : window.Nodup) {s : ServerDescription} (hs : s ∈ window)
    (more : count' s = count s + 1) (others : ∀ t ∈ window, t ≠ s → count' t = count t) :
    (window.map count').sum = (window.map count).sum + 1 := by
  obtain ⟨before, after, rfl⟩ := List.append_of_mem hs
  obtain ⟨-, hafter, hapart⟩ := List.nodup_append.mp once
  have hbefore : before.map count' = before.map count := by
    refine List.map_congr_left fun t ht => others t (List.mem_append_left _ ht) ?_
    exact hapart t ht s List.mem_cons_self
  have hrest : after.map count' = after.map count := by
    refine List.map_congr_left fun t ht => ?_
    refine others t (List.mem_append_right _ (List.mem_cons_of_mem s ht)) ?_
    intro heq
    exact (List.nodup_cons.mp hafter).1 (heq ▸ ht)
  simp only [List.map_append, List.map_cons, List.sum_append, List.sum_cons, hbefore, hrest, more]
  omega

/-- The counts stay even when the server with the fewest operations, of several the first, gets
    one more. -/
theorem next (h : Spread window count k) (once : window.Nodup) {s : ServerDescription}
    (hs : s ∈ window)
    (first : ∀ t ∈ window, t ≠ s →
      count s < count t ∨ count s = count t ∧ s.address.order t.address = .lt)
    (more : count' s = count s + 1) (others : ∀ t ∈ window, t ≠ s → count' t = count t) :
    Spread window count' (k + 1) where
  total := by rw [sum_next once hs more others, h.total]
  level a ha b hb := by
    have hab := h.level a ha b hb
    by_cases has : a = s
    · subst has
      by_cases hba : b = a
      · rw [hba]
        exact Nat.le_succ _
      -- The server that gets one more had no more than any other.
      · have hleast := first b hb hba
        rw [more, others b hb hba]
        omega
    · rw [others a ha has]
      by_cases hbs : b = s
      · rw [hbs] at hab ⊢
        omega
      · rw [others b hb hbs]
        exact hab
  ahead a ha b hb hlt := by
    by_cases has : a = s
    · subst has
      by_cases hba : b = a
      · rw [hba] at hlt
        exact absurd hlt (Nat.lt_irrefl _)
      -- It gets ahead only of servers that it had as many as.
      · rw [more, others b hb hba] at hlt
        rcases first b hb hba with hless | ⟨-, horder⟩
        · omega
        · exact horder
    · rw [others a ha has] at hlt
      by_cases hbs : b = s
      · have hlevel := h.level a ha s hs
        rw [hbs, more] at hlt
        omega
      · rw [others b hb hbs] at hlt
        exact h.ahead a ha b hb hlt

end Spread

/-! ## §3. One selection. -/

/-- Nothing is published of any server during the waits to come: the snapshot stays what it is. -/
def Run.Still (r : Run) : Prop :=
  ∀ wait ∈ r.deployment.meanwhile, ∀ n ∈ wait, ∀ a, n.concerns a = false

namespace Client

/-- Who hears of nothing that is published knows what he knew, at some later time. -/
theorem hears_of_unpublished {happenings : List Happening}
    (h : ∀ n ∈ happenings, ∀ a, n.concerns a = false) (c : Client) :
    ∃ now, c.hears happenings = { c with now := now } := by
  induction happenings generalizing c with
  | nil => exact ⟨c.now, rfl⟩
  | cons next later ih =>
    obtain ⟨now, hnow⟩ := c.hear_of_unpublished (h next List.mem_cons_self)
    obtain ⟨after, hafter⟩ :=
      ih (fun n hn => h n (List.mem_cons_of_mem next hn)) { c with now := now }
    refine ⟨after, ?_⟩
    rw [hears_cons, hnow, hafter]

/-- The load of an address is what is counted on the member that it leads to. -/
theorem Sound.load_eq {c : Client} (hc : c.Sound) (a : Address) :
    c.load a = (c.known.value? a).map c.operations := by
  unfold load memberAt?
  cases hid : c.known.value? a with
  | none => rfl
  | some id =>
    obtain ⟨m, hm, -⟩ := hc.member a id hid
    have hcount : c.operations id = m.operations := column_of_mem hm
    rw [Option.bind_some, hm, Option.map_some, Option.map_some, hcount]

/-- The load of the address that a lease was taken at goes up by one. -/
theorem Sound.load_lease_self {c : Client} (hc : c.Sound) {a : Address} {id : MemberId}
    (h : c.known.value? a = some id) : (c.lease id).load a = (c.load a).map (· + 1) := by
  obtain ⟨m, hm, -⟩ := hc.member a id h
  have hleased : (c.lease id).Sound := hc.modifyMember fun _ _ => rfl
  rw [hleased.load_eq, hc.load_eq, operations_lease hm]
  show (c.known.value? a).map _ = _
  rw [h, Option.map_some, Function.update_self]
  rfl

/-- Other addresses have the load that they had. -/
theorem Sound.load_lease_other {c : Client} (hc : c.Sound) {a b : Address} {id : MemberId}
    (h : c.known.value? a = some id) (hne : b.key ≠ a.key) : (c.lease id).load b = c.load b := by
  obtain ⟨m, hm, -⟩ := hc.member a id h
  have hleased : (c.lease id).Sound := hc.modifyMember fun _ _ => rfl
  rw [hleased.load_eq, hc.load_eq, operations_lease hm]
  show (c.known.value? b).map _ = _
  cases hb : c.known.value? b with
  | none => rfl
  | some other =>
    have hother : other ≠ id := by
      rintro rfl
      exact hne ((Address.same_iff b a).mp (hc.same_of_known hb h))
    rw [Option.map_some, Option.map_some, Function.update_of_ne hother]

end Client

/-- What happens meanwhile does not change what is to happen later. -/
theorem meanwhile_happenAll (happenings : List Happening) (r : Run) :
    ((happenAll happenings).on r).2.deployment.meanwhile = r.deployment.meanwhile := by
  induction happenings generalizing r with
  | nil => rfl
  | cons h rest ih =>
    rw [on_happenAll_cons, ih]
    cases h <;> rfl

theorem client_happenAll (happenings : List Happening) (r : Run) :
    ((happenAll happenings).on r).2.client = r.client.hears happenings := by
  induction happenings generalizing r with
  | nil => rfl
  | cons h rest ih => rw [on_happenAll_cons, ih, happen_client, Client.hears_cons]

/-- A server that can be chosen at once is leased at once; what was to happen during the wait
    happens afterwards. -/
theorem search_of_choice {criteria : Criteria} {r : Run} {s : ServerDescription}
    (h : r.client.cluster.choose? r.client.load criteria = some s) (instant told : Bool)
    (happenings : List Happening) :
    (search criteria instant told .examining happenings).on r =
      (((conclude criteria (.found s)).on r).1,
        ((happenAll happenings).on ((conclude criteria (.found s)).on r).2).2) := by
  have hstep : Search.step r.client criteria instant .examining = .found s := by
    simp only [Search.step, h]
  have hproceed : Search.proceed r.client criteria instant .examining = .found s := by
    rw [Search.proceed, hstep]
    rfl
  have hover : ¬∃ seen, Search.proceed r.client criteria instant .examining = .waiting seen := by
    rintro ⟨seen, hwaits⟩
    rw [hproceed] at hwaits
    cases hwaits
  rw [search_over happenings hover, hproceed]

/-- A selection from a snapshot that stays what it is: the server that is chosen is leased. -/
theorem Run.Still.select {r : Run} (hstill : r.Still) {criteria : Criteria}
    {s : ServerDescription} {id : MemberId}
    (hs : r.client.cluster.choose? r.client.load criteria = some s)
    (hid : r.client.known.value? s.address = some id) :
    ∃ r' now, (select criteria).on r = (.ok ⟨id, s⟩, r') ∧
      r'.client = { r.client.lease id with now := now } ∧ r'.Still := by
  have hwait : ∀ n ∈ r.deployment.nextWait.1, ∀ a, n.concerns a = false := by
    intro n hn
    unfold Deployment.nextWait at hn
    split at hn
    · cases hn
    · next first rest hmeanwhile =>
      exact hstill first (by rw [hmeanwhile]; exact List.mem_cons_self) n hn
  have hlater : ∀ wait ∈ r.deployment.nextWait.2.meanwhile, wait ∈ r.deployment.meanwhile := by
    intro wait hw
    unfold Deployment.nextWait at hw
    split at hw
    · exact hw
    · next first rest hmeanwhile =>
      rw [hmeanwhile]
      exact List.mem_cons_of_mem first hw
  generalize hr₁ : ((emit (.selectionStarted criteria)).on (beginWait.on r).2).2 = r₁
  have hclient : r₁.client = r.client := by rw [← hr₁]; rfl
  have hmeanwhile : r₁.deployment = r.deployment.nextWait.2 := by rw [← hr₁]; rfl
  have hconclude : (conclude criteria (.found s)).on r₁ = (.ok ⟨id, s⟩, { r₁ with
      client := r.client.lease id
      events := r₁.events ++ [.selectionSucceeded criteria
        ((r.client.members[id]?.map (·.address)).getD s.address)] }) := by
    simp only [conclude, Exec.on_bind, Exec.on_lift, on_currentClient, hclient, hid]
    rw [← hclient]
    rfl
  have hselect : (Run.select criteria).on r =
      (search criteria (r.client.options.effectiveSelectionTimeout == 0) false .examining
        r.deployment.nextWait.1).on r₁ := by
    rw [← hr₁]
    rfl
  rw [hselect, search_of_choice (by rw [hclient]; exact hs), hconclude]
  obtain ⟨now, hnow⟩ := (r.client.lease id).hears_of_unpublished hwait
  refine ⟨_, now, rfl, ?_, fun wait hw => ?_⟩
  · rw [client_happenAll]
    exact hnow
  · rw [meanwhile_happenAll] at hw
    refine hstill wait (hlater wait ?_)
    rw [← hmeanwhile]
    exact hw

/-! ## §4. A row of selections. -/

/-- Selects a server so many times, and keeps what was leased. -/
def selectTimes (criteria : Criteria) : Nat → Exec (List Selected)
  | 0 => pure []
  | k + 1 => do
    let leases ← selectTimes criteria k
    let selected ← select criteria
    return leases ++ [selected]

/-- What has come of a run when servers were selected one after the other and nothing was given
    back: the snapshot and its members are the same, the leases are servers of the window, they are
    counted on their members, and over the window they are spread evenly. -/
structure Selections (start : Run) (criteria : Criteria) (leases : List Selected) (r : Run) :
    Prop where
  sound : r.client.Sound
  still : r.Still
  cluster : r.client.cluster = start.client.cluster
  known : r.client.known = start.client.known
  within : ∀ selected ∈ leases, selected.description ∈ start.client.cluster.inWindow criteria
  tally : ∀ id, r.client.operations id =
    start.client.operations id + (leases.map (·.member)).count id
  spread : ∃ count, (∀ s ∈ start.client.cluster.inWindow criteria,
      r.client.load s.address = some (count s)) ∧
    Spread (start.client.cluster.inWindow criteria) count leases.length

namespace Selections

variable {start r : Run} {criteria : Criteria} {leases : List Selected}

theorem begun (hr : start.client.Sound) (hstill : start.Still)
    (hidle : ∀ s ∈ start.client.cluster.inWindow criteria, start.client.load s.address = some 0) :
    Selections start criteria [] start where
  sound := hr
  still := hstill
  cluster := rfl
  known := rfl
  within _ h := absurd h List.not_mem_nil
  tally id := by rw [List.map_nil, List.count_nil, Nat.add_zero]
  spread := ⟨fun _ => 0, hidle, .none fun _ _ => rfl⟩

theorem nodup_keys (h : Selections start criteria leases r) :
    ((start.client.cluster.inWindow criteria).map (·.address.key)).Nodup := by
  have hdistinct := h.sound.distinct
  rw [h.cluster] at hdistinct
  exact hdistinct.sublist ((start.client.cluster.inWindow_sublist criteria).map _)

variable {count : ServerDescription → Nat}

/-- Some server of the window is chosen, one with the fewest operations, and the first of these. -/
theorem chooses (h : Selections start criteria leases r)
    (hsome : start.client.cluster.inWindow criteria ≠ [])
    (hcount : ∀ s ∈ start.client.cluster.inWindow criteria,
      r.client.load s.address = some (count s)) :
    ∃ s ∈ start.client.cluster.inWindow criteria,
      r.client.cluster.choose? r.client.load criteria = some s ∧
      ∀ t ∈ start.client.cluster.inWindow criteria, t ≠ s →
        count s < count t ∨ count s = count t ∧ s.address.order t.address = .lt := by
  have hdistinct := h.sound.distinct
  rw [h.cluster] at hdistinct
  have hnear : ∀ s, s ∈ start.client.cluster.inWindow criteria ↔
      s ∈ start.client.cluster.nearby criteria := start.client.cluster.mem_inWindow criteria
  -- Every server of the window can be leased, so there is a choice.
  obtain ⟨s, hs⟩ : ∃ s, start.client.cluster.choose? r.client.load criteria = some s := by
    refine Option.ne_none_iff_exists'.mp fun hnone => ?_
    obtain ⟨t, ht⟩ := List.exists_mem_of_ne_nil _ hsome
    have hload := (ClusterDescription.choose?_eq_none_iff _ criteria).mp hnone t ((hnear t).mp ht)
    rw [hcount t ht] at hload
    cases hload
  obtain ⟨hwindow, n, hn, hfirst⟩ :=
    (ClusterDescription.choose?_eq_some_iff hdistinct _ criteria s).mp hs
  rw [← hnear] at hwindow
  have hsn : n = count s := by
    rw [hcount s hwindow] at hn
    exact (Option.some.inj hn).symm
  refine ⟨s, hwindow, by rw [h.cluster]; exact hs, fun t ht hne => ?_⟩
  rw [← hsn]
  exact hfirst t ((hnear t).mp ht) hne (count t) (hcount t ht)

/-- A lease of a server of the window adds to the load of this server and of no other. -/
theorem load_lease (h : Selections start criteria leases r)
    (hcount : ∀ s ∈ start.client.cluster.inWindow criteria,
      r.client.load s.address = some (count s))
    {s : ServerDescription} (hs : s ∈ start.client.cluster.inWindow criteria) {id : MemberId}
    (hid : r.client.known.value? s.address = some id) :
    (r.client.lease id).load s.address = some (count s + 1) ∧
      ∀ t ∈ start.client.cluster.inWindow criteria, t ≠ s →
        (r.client.lease id).load t.address = some (count t) := by
  constructor
  · rw [h.sound.load_lease_self hid, hcount s hs]
    rfl
  · intro t ht hne
    rw [h.sound.load_lease_other hid, hcount t ht]
    intro hkey
    exact hne (List.inj_on_of_nodup_map h.nodup_keys ht hs hkey)

/-- One more lease is tallied on its member. -/
theorem tally_lease (h : Selections start criteria leases r) {s : ServerDescription}
    {id : MemberId} (hid : r.client.known.value? s.address = some id) (other : MemberId) :
    (r.client.lease id).operations other = start.client.operations other +
      ((leases ++ [(⟨id, s⟩ : Selected)]).map (·.member)).count other := by
  obtain ⟨m, hm, -⟩ := h.sound.member s.address id hid
  rw [Client.operations_lease hm, List.map_append, List.count_append, ← Nat.add_assoc,
    ← h.tally other]
  by_cases heq : other = id
  · rw [heq, Function.update_self]
    simp
  · rw [Function.update_of_ne heq]
    simp [Ne.symm heq]

/-- One more selection succeeds, and the leases stay spread evenly. -/
theorem next (h : Selections start criteria leases r)
    (hsome : start.client.cluster.inWindow criteria ≠ []) :
    ∃ selected r', (select criteria).on r = (.ok selected, r') ∧
      Selections start criteria (leases ++ [selected]) r' := by
  obtain ⟨count, hcount, hspread⟩ := h.spread
  obtain ⟨s, hs, hchoice, hfirst⟩ := h.chooses hsome hcount
  have hload := h.sound.load_eq s.address
  rw [hcount s hs] at hload
  obtain ⟨id, hid, -⟩ := Option.map_eq_some_iff.mp hload.symm
  obtain ⟨r', now, hselect, hclient, hstill⟩ := h.still.select hchoice hid
  obtain ⟨hself, hrest⟩ := h.load_lease hcount hs hid
  have hloads : r'.client.load = (r.client.lease id).load := by rw [hclient]; rfl
  have hleased : r'.client.operations = (r.client.lease id).operations :=
    Client.column_of_members (by rw [hclient])
  have hsound : (r.client.lease id).Sound := h.sound.modifyMember fun _ _ => rfl
  -- After the selection the counts are read off the loads.
  let count' : ServerDescription → Nat := fun t => (r'.client.load t.address).getD 0
  have hself' : count' s = count s + 1 := by
    show (r'.client.load s.address).getD 0 = _
    rw [hloads, hself]
    rfl
  have hrest' : ∀ t ∈ start.client.cluster.inWindow criteria, t ≠ s → count' t = count t := by
    intro t ht hne
    show (r'.client.load t.address).getD 0 = _
    rw [hloads, hrest t ht hne]
    rfl
  refine ⟨⟨id, s⟩, r', hselect, ?_⟩
  exact
    { sound := hsound.of_sameServers (by rw [hclient]; exact ⟨rfl, rfl, rfl⟩)
      still := hstill
      cluster := by rw [hclient]; exact h.cluster
      known := by rw [hclient]; exact h.known
      within := by
        intro selected hselected
        rcases List.mem_append.mp hselected with hearlier | hnew
        · exact h.within selected hearlier
        · rw [List.mem_singleton.mp hnew]
          exact hs
      tally := by
        intro other
        rw [hleased]
        exact h.tally_lease hid other
      spread := by
        refine ⟨count', fun t ht => ?_, ?_⟩
        · by_cases heq : t = s
          · rw [heq, hself', hloads]
            exact hself
          · rw [hrest' t ht heq, hloads]
            exact hrest t ht heq
        · rw [List.length_append]
          exact hspread.next (.of_map _ h.nodup_keys) hs hfirst hself' hrest' }

/-- As many selections as one likes succeed. -/
theorem times (hr : start.client.Sound) (hstill : start.Still)
    (hsome : start.client.cluster.inWindow criteria ≠ [])
    (hidle : ∀ s ∈ start.client.cluster.inWindow criteria, start.client.load s.address = some 0)
    (k : Nat) : ∃ leases r', (selectTimes criteria k).on start = (.ok leases, r') ∧
      leases.length = k ∧ Selections start criteria leases r' := by
  induction k with
  | zero => exact ⟨[], start, rfl, rfl, .begun hr hstill hidle⟩
  | succ k ih =>
    obtain ⟨leases, r₁, hrow, hlength, hr₁⟩ := ih
    obtain ⟨selected, r', hselect, hr'⟩ := hr₁.next hsome
    refine ⟨leases ++ [selected], r', ?_, ?_, hr'⟩
    · rw [selectTimes, Exec.on_bind, hrow]
      dsimp only
      rw [Exec.on_bind_pure, hselect]
      rfl
    · rw [List.length_append, hlength]
      rfl

end Selections

/-! ## §5. Giving everything back. -/

/-- Gives back leases, one after the other. -/
def releaseAll (leases : List MemberId) : Act Unit := leases.forM release

theorem on_releaseAll_cons (id : MemberId) (rest : List MemberId) (r : Run) :
    (releaseAll (id :: rest)).on r = (releaseAll rest).on ((release id).on r).2 := rfl

/-- Giving back changes neither the snapshot nor which members there are. -/
theorem releaseAll_keeps (leases : List MemberId) {r : Run} (hr : r.client.Sound) :
    ((releaseAll leases).on r).2.client.Sound ∧
      ((releaseAll leases).on r).2.client.known = r.client.known := by
  induction leases generalizing r with
  | nil => exact ⟨hr, rfl⟩
  | cons id rest ih =>
    rw [on_releaseAll_cons]
    exact ih (r := ((release id).on r).2) (hr.modifyMember fun _ _ => rfl)

/-- When all that was leased is given back, in whatever order, the counts are what they were. -/
theorem operations_releaseAll {base : MemberId → Nat} (leases : List MemberId) :
    ∀ r : Run, (∀ id, r.client.operations id = base id + leases.count id) →
      ((releaseAll leases).on r).2.client.operations = base := by
  induction leases with
  | nil =>
    intro r h
    exact funext h
  | cons id rest ih =>
    intro r h
    rw [on_releaseAll_cons]
    refine ih _ fun other => ?_
    have hleased : r.client.operations id = base id + (rest.count id + 1) := by
      rw [h id, List.count_cons_self]
    rw [operations_release (by omega)]
    by_cases heq : other = id
    · rw [heq, Function.update_self]
      omega
    · rw [Function.update_of_ne heq, h other, List.count_cons_of_ne (Ne.symm heq)]

/-! ## §6. Spreading evenly. -/

/-- Selections spread evenly.  While the snapshot stays what it is and nothing is in flight in the
    window at first, any number of selections in a row succeeds with servers of the window; they
    count as many operations in all, no two counts are more than one apart, and the servers that
    are ahead are the first in the order of addresses.  When all the leases are given back, in
    whatever order, nothing is in flight in the window. -/
theorem Client.Sound.spreads_evenly {r : Run} (hr : r.client.Sound) (hstill : r.Still)
    {criteria : Criteria} (hsome : r.client.cluster.inWindow criteria ≠ [])
    (hidle : ∀ s ∈ r.client.cluster.inWindow criteria, r.client.load s.address = some 0)
    (k : Nat) :
    ∃ leases r', (selectTimes criteria k).on r = (.ok leases, r') ∧ leases.length = k ∧
      r'.client.cluster = r.client.cluster ∧
      (∀ selected ∈ leases, selected.description ∈ r.client.cluster.inWindow criteria) ∧
      (∃ count, (∀ s ∈ r.client.cluster.inWindow criteria,
          r'.client.load s.address = some (count s)) ∧
        Spread (r.client.cluster.inWindow criteria) count k) ∧
      ∀ order : List MemberId, order.Perm (leases.map (·.member)) →
        ∀ s ∈ r.client.cluster.inWindow criteria,
          ((releaseAll order).on r').2.client.load s.address = some 0 := by
  obtain ⟨leases, r', hrow, hlength, h⟩ := Selections.times hr hstill hsome hidle k
  refine ⟨leases, r', hrow, hlength, h.cluster, h.within, ?_, ?_⟩
  · rw [← hlength]
    exact h.spread
  · intro order horder s hs
    obtain ⟨hsound, hknown⟩ := releaseAll_keeps order h.sound
    have hback : ((releaseAll order).on r').2.client.operations = r.client.operations := by
      refine operations_releaseAll order r' fun id => ?_
      rw [h.tally id, horder.count_eq]
    rw [hsound.load_eq, hback, hknown, h.known, ← hr.load_eq]
    exact hidle s hs

/-- Of three selections among two servers that are alike, two take the server with the smaller
    address. -/
theorem spreads_pair :
    ∃ leases r', (selectTimes .writable 3).on Pair.described.run = (.ok leases, r') ∧
      r'.client.load Pair.left = some 2 ∧ r'.client.load Pair.right = some 1 ∧
      ∀ order : List MemberId, order.Perm (leases.map (·.member)) →
        ((releaseAll order).on r').2.client.load Pair.left = some 0 ∧
        ((releaseAll order).on r').2.client.load Pair.right = some 0 := by
  have hmeanwhile : Pair.described.run.deployment.meanwhile = [] := rfl
  have hstill : Pair.described.run.Still := by
    intro wait hwait
    rw [hmeanwhile] at hwait
    exact absurd hwait List.not_mem_nil
  have hwindow : Pair.described.run.client.cluster.inWindow .writable =
      [Pair.primary Pair.left, Pair.primary Pair.right] := rfl
  have hidle : ∀ s ∈ Pair.described.run.client.cluster.inWindow .writable,
      Pair.described.run.client.load s.address = some 0 := by
    rw [hwindow]
    intro s hs
    rcases List.mem_cons.mp hs with rfl | hs
    · rfl
    · rw [List.mem_singleton.mp hs]
      rfl
  have hsome : Pair.described.run.client.cluster.inWindow .writable ≠ [] := by
    rw [hwindow]
    exact List.cons_ne_nil _ _
  obtain ⟨leases, r', hrow, -, -, -, ⟨count, hcount, hspread⟩, hback⟩ :=
    Pair.reachable_described.sound.spreads_evenly hstill hsome hidle 3
  rw [hwindow] at hcount hspread hback
  have hl : Pair.primary Pair.left ∈ [Pair.primary Pair.left, Pair.primary Pair.right] :=
    List.mem_cons_self
  have hr : Pair.primary Pair.right ∈ [Pair.primary Pair.left, Pair.primary Pair.right] :=
    List.mem_cons_of_mem _ List.mem_cons_self
  -- Three in all and at most one apart leaves two ways, and the order of addresses leaves one.
  have htotal : count (Pair.primary Pair.left) + (count (Pair.primary Pair.right) + 0) = 3 :=
    hspread.total
  have hlevel := hspread.level _ hl _ hr
  have hlevel' := hspread.level _ hr _ hl
  have hahead : ¬count (Pair.primary Pair.left) < count (Pair.primary Pair.right) := by
    intro hlt
    exact absurd (hspread.ahead _ hr _ hl hlt) (by decide)
  have htwo : count (Pair.primary Pair.left) = 2 := by omega
  have hone : count (Pair.primary Pair.right) = 1 := by omega
  refine ⟨leases, r', hrow, ?_, ?_, fun order horder => ?_⟩
  · rw [← htwo]
    exact hcount _ hl
  · rw [← hone]
    exact hcount _ hr
  · exact ⟨hback order horder _ hl, hback order horder _ hr⟩

end ClusterClient
