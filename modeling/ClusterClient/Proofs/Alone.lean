/-
  ClusterClient.Proofs.Alone — a second attempt does not compete with the first one.

  The first attempt gives back its connection and its server before the second one selects.  So at
  that moment the servers show what they showed before the request, which is what all others have
  leased and nothing else.  The first attempt could get a connection beside those of the others;
  on the same server the second one finds room as well, however small the pool is.  A connection
  under which the network failed is closed when it comes back, and its number is never used again.

  Which connections a pool holds, and that their numbers are distinct, follows from no chain of
  changes, as changes may open connections with any number; `KeepsOrderly` is kept by all actions.

  Main statement: `Run.Attained.second_alone`.
-/
import ClusterClient.Proofs.Location
import ClusterClient.Proofs.Publication
import ClusterClient.Proofs.Course

namespace ClusterClient

open Run

variable {α : Type}

/-! ## §1. Pools in order. -/

/-- Either a borrower holds the connection with a number, or no such connection is lent. -/
theorem Pool.InOrder.held_or {capacity : Nat} {p : Pool} {live : List ConnectionDescription}
    {failed : List Nat} (h : p.InOrder capacity live failed) (id : Nat) :
    (∃ c ∈ live, c.id = id) ∨ ∀ c ∈ p.leased, c.description.id ≠ id := by
  by_cases hheld : ∃ c ∈ live, c.id = id
  · exact .inl hheld
  · exact .inr fun c hc hid =>
      hheld ⟨c.description, h.lent ▸ List.mem_map_of_mem hc, hid⟩

/-- Every connection of the pool is where it should be, whichever of them are lent and whichever
    have failed. -/
def Pool.Orderly (capacity : Nat) (p : Pool) : Prop :=
  ∃ live failed, p.InOrder capacity live failed

namespace Pool.Orderly

variable {capacity : Nat} {p : Pool}

theorem empty (a : Address) (capacity : Nat) : (Pool.empty a capacity).Orderly capacity :=
  ⟨[], [], .empty a capacity⟩

theorem balanced (h : p.Orderly capacity) : p.Balanced capacity := by
  obtain ⟨live, failed, horder⟩ := h
  exact horder.toBalanced

theorem checkOut (h : p.Orderly capacity) {establish : Establish}
    (honest : ∀ n c, establish n = .ok c → c.id = n) :
    (p.checkOut establish).pool.Orderly capacity := by
  obtain ⟨live, failed, horder⟩ := h
  cases hwent : (p.checkOut establish).result with
  | error e => exact ⟨live, failed, (horder.refused hwent).1⟩
  | ok c => exact ⟨c :: live, failed, (horder.lends honest hwent).1⟩

theorem markBroken (h : p.Orderly capacity) (id : Nat) : (p.markBroken id).Orderly capacity := by
  obtain ⟨live, failed, horder⟩ := h
  obtain ⟨c, hc, rfl⟩ | hother := horder.held_or id
  · exact ⟨live, c.id :: failed, horder.fails hc⟩
  · -- No connection with the number is lent, so none is marked.
    have hleased : p.leased.map (fun c =>
        if c.description.id = id then { c with broken := true } else c) = p.leased := by
      rw [List.map_congr_left fun c hc => if_neg (hother c hc), List.map_id']
    have hsame : p.markBroken id = p :=
      congrArg (fun leased => { p with leased := leased }) hleased
    rw [hsame]
    exact ⟨live, failed, horder⟩

theorem checkIn (h : p.Orderly capacity) (id : Nat) : (p.checkIn id).Orderly capacity := by
  obtain ⟨live, failed, horder⟩ := h
  obtain ⟨c, hc, rfl⟩ | hother := horder.held_or id
  · obtain ⟨before, after, rfl⟩ := List.append_of_mem hc
    exact ⟨before ++ after, failed, horder.comesBack.1⟩
  · have hnone : p.lent? id = none :=
      List.find?_eq_none.mpr fun c hc => by simpa using hother c hc
    have hsame : p.checkIn id = p := by
      unfold Pool.checkIn
      rw [hnone]
    rw [hsame]
    exact ⟨live, failed, horder⟩

end Pool.Orderly

/-- This is so of the pools of all members. -/
def Client.Orderly (c : Client) : Prop :=
  ∀ m ∈ c.members, m.pool.Orderly c.options.effectiveMaxPoolSize

namespace Client.Orderly

variable {c c' : Client}

theorem of_members (h : c.Orderly) (members : c'.members = c.members)
    (options : c'.options = c.options) : c'.Orderly := by
  unfold Client.Orderly
  rwa [members, options]

theorem modifyMember (h : c.Orderly) {id : MemberId} {f : Member → Member}
    (hf : ∀ m, c.members[id]? = some m → ∀ capacity, m.pool.Orderly capacity →
      (f m).pool.Orderly capacity) : (c.modifyMember id f).Orderly := by
  intro m hm
  obtain hm | ⟨m₀, hm₀, rfl⟩ := mem_modify (show m ∈ c.members.modify id f from hm)
  · exact h m hm
  · exact hf m₀ hm₀ _ (h m₀ (List.mem_of_getElem? hm₀))

theorem ensureMember (h : c.Orderly) (a : Address) : (c.ensureMember a).Orderly := by
  intro m hm
  rw [Client.options_ensureMember]
  obtain hm | rfl := Client.mem_ensureMember hm
  · exact h m hm
  · exact .empty a _

theorem start {o : Options} {c : Client} (h : Client.start o = .ok c) : c.Orderly := by
  refine Scenario.start_induction (P := Client.Orderly) h (fun c hm _ _ m hmem => ?_)
    fun c a hc => hc.ensureMember a
  rw [hm] at hmem
  cases hmem

/-- The pool of a member is in order. -/
theorem pool (h : c.Orderly) {id : MemberId} {p : Pool} (hp : c.pool? id = some p) :
    p.Orderly c.options.effectiveMaxPoolSize := by
  obtain ⟨m, hm, rfl⟩ := Option.map_eq_some_iff.mp hp
  exact h m (List.mem_of_getElem? hm)

end Client.Orderly

/-! ## §2. All actions keep them in order. -/

/-- If the pools were in order in the first run, they are in the second, and lend as much. -/
def KeepsOrderly (r r' : Run) : Prop :=
  r.client.Orderly → r'.client.Orderly ∧ r'.client.options = r.client.options

instance : IsPreorder Run KeepsOrderly where
  refl _ h := ⟨h, rfl⟩
  trans _ _ _ h h' hr := ⟨(h' (h hr).1).1, (h' (h hr).1).2.trans (h hr).2⟩

theorem keepsOrderly_of_members {r r' : Run} (members : r'.client.members = r.client.members)
    (options : r'.client.options = r.client.options) : KeepsOrderly r r' :=
  fun hr => ⟨hr.of_members members options, options⟩

theorem modifyMember_orderly {id : MemberId} {f : Member → Member}
    (hf : ∀ (m : Member) (capacity : Nat), m.pool.Orderly capacity →
      (f m).pool.Orderly capacity) : (onClient (·.modifyMember id f)).Keeps KeepsOrderly :=
  fun _ hr => ⟨hr.modifyMember fun m _ => hf m, rfl⟩

theorem lease_orderly (id : MemberId) : (onClient (·.lease id)).Keeps KeepsOrderly :=
  modifyMember_orderly fun _ _ hm => hm

theorem release_orderly (id : MemberId) : (release id).Keeps KeepsOrderly :=
  modifyMember_orderly fun _ _ hm => hm

theorem happen_orderly (h : Happening) : (happen h).Keeps KeepsOrderly := by
  intro r
  cases h with
  | described s =>
    intro hr
    have hupdated : Client.Orderly { r.client with
        cluster := r.client.cluster.update s, version := r.client.version + 1 } :=
      hr.of_members rfl rfl
    exact ⟨hupdated.ensureMember s.address, Client.options_ensureMember _ _⟩
  | withdrawn | unreachable | reachable | elapsed => exact keepsOrderly_of_members rfl rfl

theorem emit_orderly (e : Event) : (emit e).Keeps KeepsOrderly :=
  fun _ => keepsOrderly_of_members rfl rfl

theorem checkOut_orderly (id : MemberId) : (checkOut id).Keeps KeepsOrderly := by
  refine .checkOut emit_orderly (fun _ => keepsOrderly_of_members rfl rfl) happen_orderly
    fun r m hm hr => ⟨hr.modifyMember fun m' hm' capacity horderly => ?_, rfl⟩
  rw [hm] at hm'
  cases hm'
  -- The pool opens connections with the numbers that it gives them.
  exact horderly.checkOut fun n c opened => (Deployment.establish_ok opened).1

theorem checkIn_orderly (lease : Lease) : (checkIn lease).Keeps KeepsOrderly :=
  .checkIn emit_orderly (modifyMember_orderly fun _ _ hm => hm.checkIn lease.description.id)

theorem sustains_orderly :
    Sustains anywhere KeepsOrderly (fun _ => KeepsOrderly) fun _ => KeepsOrderly where
  elsewhere h := keepsOrderly_of_members (by rw [h]) (by rw [h])
  aside change h _ := keepsOrderly_of_members h.members change.options
  happen := happen_orderly
  broke _ connection := modifyMember_orderly fun _ _ hm => hm.markBroken connection
  leasing := .constant release_orderly
  lending := .constant checkIn_orderly
  conclude criteria s := .of_keeps (.conclude emit_orderly lease_orderly criteria s)
  checkOut id := .of_keeps (checkOut_orderly id)
  opened _ _ _ := keepsOrderly_of_members rfl rfl

/-- In all that can come about, the pools are in order. -/
theorem Scenario.Reachable.orderly {s : Scenario} (h : s.Reachable) : s.run.client.Orderly :=
  h.kept sustains_orderly lease_orderly Client.Orderly.start fun hr hc => (hr hc).1

/-- Where a request may begin: between the steps of a scenario, or after an operation was bound. -/
inductive Run.Attained : Run → Prop where
  | between {s : Scenario} (h : s.Reachable) : Attained s.run
  | bound {r r' : Run} {preference : ReadPreference} {session : Option SessionId} {b : Binding}
    (h : Attained r) (went : (Binding.bind preference session).on r = (.ok b, r')) : Attained r'

namespace Run.Attained

variable {r : Run}

theorem sound (h : r.Attained) : r.client.Sound := by
  induction h with
  | between h => exact h.sound
  | @bound _ _ preference session _ _ went ih =>
    have hsteady := sustains_operations.bind preference session _ ih
    rw [went] at hsteady
    exact hsteady.1

theorem orderly (h : r.Attained) : r.client.Orderly := by
  induction h with
  | between h => exact h.orderly
  | @bound _ _ preference session _ _ went ih =>
    have hkept := sustains_orderly.bind preference session _ ih
    rw [went] at hkept
    exact hkept.1

end Run.Attained

/-! ## §3. What an attempt holds. -/

/-- Nothing was taken from the servers that was not given back. -/
structure Untouched (r r' : Run) : Prop where
  operations : SameOperations r r'
  books : SameBooks r r'
  pools : KeepsOrderly r r'

instance : IsPreorder Run Untouched where
  refl r := ⟨refl_of SameOperations r, refl_of SameBooks r, refl_of KeepsOrderly r⟩
  trans _ _ _ h h' := ⟨trans_of SameOperations h.operations h'.operations,
    trans_of SameBooks h.books h'.books, trans_of KeepsOrderly h.pools h'.pools⟩

/-- A lease of the server and one of its connections were taken. -/
structure Holding (source : Source) (lease : Lease) (r r' : Run) : Prop where
  leased : Leased source.selected.member r r'
  lent : Lent lease r r'
  pools : KeepsOrderly r r'

section Attempts

variable {b : Binding} {intent : Intent} {r r₁ r₂ : Run} {source : Source} {lease : Lease}

theorem Holding.after (h : Holding source lease r r₁) (h' : Untouched r₁ r₂) :
    Holding source lease r r₂ where
  leased := lending_leased.after h.leased h'.operations
  lent := lending_lent.after h.lent h'.books
  pools := trans_of KeepsOrderly h.pools h'.pools

/-- What is held is given back. -/
theorem Holding.over (h : Holding source lease r r₁) :
    Untouched r ((giveBack source lease).on r₁).2 where
  operations := sustains_operations.release source
    (lending_leased.after h.leased (checkIn_operations lease r₁))
  books := sustains_books.release source (lending_lent.back h.lent)
  pools := sustains_orderly.release source
    (trans_of KeepsOrderly h.pools (checkIn_orderly lease r₁))

theorem source_leased (went : (b.source intent).on r = (.ok source, r₁)) :
    Leased source.selected.member r r₁ ∧ SameBooks r r₁ ∧ KeepsOrderly r r₁ := by
  have hleased := sustains_operations.source b intent r
  have hbooks := (sustains_books.source b intent).keeps r
  have hpools := (sustains_orderly.source b intent).keeps r
  rw [went] at hleased hbooks hpools
  exact ⟨hleased, hbooks, hpools⟩

/-- Reaching a connection takes a lease and the connection. -/
theorem Reached.holding (h : Reached b intent r source lease r₁) : Holding source lease r r₁ := by
  obtain ⟨r₀, hsource, hlease⟩ := h
  obtain ⟨hleased, hbooks, hpools⟩ := source_leased hsource
  have hoperations := checkOut_operations source.selected.member r₀
  have hlent := checkOut_lends source.selected.member r₀
  have horderly := checkOut_orderly source.selected.member r₀
  rw [Source.connection] at hlease
  rw [hlease] at hoperations hlent horderly
  exact ⟨lending_leased.after hleased hoperations, lending_lent.before hbooks hlent,
    trans_of KeepsOrderly hpools horderly⟩

theorem attempt_untouched (source : Source) (lease : Lease) (command : Command)
    (interpret : Interpretation α) : (attempt source lease command interpret).Keeps Untouched :=
  fun r => ⟨sustains_operations.attempt source lease command interpret r,
    sustains_books.attempt source lease command interpret r,
    sustains_orderly.attempt source lease command interpret r⟩

/-- A server that is leased has a pool. -/
theorem source_pool (hs : r.client.Sound) (went : (b.source intent).on r = (.ok source, r₁)) :
    ∃ p, r₁.client.pool? source.selected.member = some p := by
  have hcount : r₁.client.operations source.selected.member =
      r.client.operations source.selected.member + 1 := by
    rw [((source_leased went).1 hs).2, Function.update_self]
  have hpos : 0 < r₁.client.operations source.selected.member := hcount ▸ Nat.succ_pos _
  obtain ⟨m, hm, -⟩ := Client.exists_of_operations hpos
  exact ⟨m.pool, congrArg (Option.map Member.pool) hm⟩

/-- The connection is one of the server. -/
theorem Reached.member (hs : r.client.Sound) (h : Reached b intent r source lease r₁) :
    lease.member = source.selected.member := by
  obtain ⟨r₀, hsource, hlease⟩ := h
  obtain ⟨p, hp⟩ := source_pool hs hsource
  obtain ⟨d, hresult, -⟩ := checkOut_pool hp
  rw [Source.connection] at hlease
  rw [hlease] at hresult
  cases hlent : (p.checkOut (d.establish p.address)).result with
  | error e =>
    rw [hlent] at hresult
    cases hresult
  | ok c =>
    rw [hlent] at hresult
    cases hresult
    rfl

/-- A connection that is held is entered in the books of its pool. -/
theorem Holding.pool (hs : r.client.Sound) (h : Holding source lease r r₁) :
    ∃ p, r₁.client.pool? lease.member = some p ∧
      p.books = (r.client.books lease.member).enter lease.description.id := by
  have hentered : r₁.client.books lease.member =
      (r.client.books lease.member).enter lease.description.id := by
    rw [(h.lent hs).2, Function.update_self]
  obtain ⟨m, hm, hbooks⟩ := Client.exists_of_books hentered
  exact ⟨m.pool, congrArg (Option.map Member.pool) hm, hbooks⟩

end Attempts

/-! ## §4. Connections that are gone. -/

/-- The number was given to a connection that is no longer there. -/
structure Pool.Spent (number : Nat) (p : Pool) : Prop where
  given : number < p.nextId
  gone : number ∉ p.numbers

namespace Pool.Spent

variable {number : Nat} {p : Pool}

/-- Such a number is not given to another connection. -/
theorem checkOut (h : p.Spent number) {establish : Establish}
    (honest : ∀ n c, establish n = .ok c → c.id = n) :
    (p.checkOut establish).pool.Spent number ∧
      ∀ c, (p.checkOut establish).result = .ok c → c.id ≠ number := by
  obtain ⟨given, gone⟩ := h
  obtain ⟨e, next, hle, hwent⟩ | ⟨rest, c, waiting, -, hidle, hwent⟩ |
    ⟨rest, c, -, hidle, hopen, hwent⟩ := p.checkOut_cases establish
  · rw [hwent]
    exact ⟨⟨Nat.lt_of_lt_of_le given hle, gone⟩, nofun⟩
  · -- The connection is there, in the one list or the other.
    have hnumbers : p.numbers.Perm (c.description.id :: (p.leased ++ waiting).map
        (·.description.id)) := by
      rw [numbers, hidle]
      exact List.perm_middle.map _
    have hgone := fun hmem => gone (hnumbers.mem_iff.mpr hmem)
    rw [hwent]
    refine ⟨⟨given, hgone⟩, fun c' hc' => ?_⟩
    cases hc'
    exact fun hid => hgone (hid ▸ List.mem_cons_self)
  · have hid : c.id = p.nextId := honest _ _ hopen
    have hne : c.id ≠ number := by omega
    rw [hwent]
    refine ⟨⟨Nat.lt_succ_of_lt given, fun hmem => ?_⟩, fun c' hc' => ?_⟩
    · exact (List.mem_cons.mp hmem).elim (fun h => hne h.symm) gone
    · cases hc'
      exact hne

theorem markBroken (h : p.Spent number) (id : Nat) : (p.markBroken id).Spent number := by
  have hnumbers : (p.markBroken id).numbers = p.numbers := by
    unfold numbers
    rw [List.map_append, List.map_append]
    exact congrArg (· ++ p.idle.map _) (Books.mk.inj (p.books_markBroken id)).1
  exact ⟨h.given, hnumbers ▸ h.gone⟩

theorem checkIn (h : p.Spent number) (id : Nat) : (p.checkIn id).Spent number := by
  obtain hwent | ⟨before, back, after, hleased, hwent⟩ := p.checkIn_cases id
  · rwa [hwent]
  · rw [hwent]
    refine ⟨h.given, fun hmem => h.gone ?_⟩
    -- What is there afterwards was there before, lent or not.
    obtain ⟨c, hc, rfl⟩ := List.mem_map.mp hmem
    refine List.mem_map_of_mem ?_
    have hback : back ∈ p.leased ++ p.idle := by
      rw [hleased]
      exact List.mem_append_left _ (List.mem_append_right before List.mem_cons_self)
    obtain hc | hc := List.mem_append.mp hc
    · have hsub : before ++ after ⊆ p.leased := by
        rw [hleased]
        exact ((List.sublist_cons_self back after).append_left before).subset
      exact List.mem_append_left _ (hsub hc)
    · unfold Pool.returned at hc
      dsimp only at hc
      split at hc
      · exact List.mem_append_right _ hc
      · obtain hc | hc := List.mem_append.mp hc
        · exact List.mem_append_right _ hc
        · rwa [List.mem_singleton.mp hc]

end Pool.Spent

/-- A connection under which the network failed is gone when it comes back. -/
theorem Pool.InOrder.spent {capacity : Nat} {p : Pool} {live : List ConnectionDescription}
    {failed : List Nat} {c : ConnectionDescription} (h : p.InOrder capacity live failed)
    (held : c ∈ live) : ((p.markBroken c.id).checkIn c.id).Spent c.id := by
  obtain ⟨before, after, rfl⟩ := List.append_of_mem held
  have horder := (h.fails held).comesBack.1
  refine ⟨horder.known _ List.mem_cons_self, fun hmem => ?_⟩
  rw [horder.numbers_eq] at hmem
  obtain hmem | hmem := List.mem_append.mp hmem
  · -- No other connection that is lent has its number.
    have hdistinct := h.distinct
    rw [h.numbers_eq, List.nodup_append, List.map_append, List.map_cons] at hdistinct
    have hnot := (List.nodup_middle.mp hdistinct.1).notMem
    rw [← List.map_append] at hnot
    exact hnot hmem
  · obtain ⟨c', hc', hid⟩ := List.mem_map.mp hmem
    exact horder.whole c' hc' (hid ▸ List.mem_cons_self)

/-- The number was given to a connection of the member that is no longer there. -/
def Client.Spent (id : MemberId) (number : Nat) (c : Client) : Prop :=
  ∃ p, c.pool? id = some p ∧ p.Spent number

/-- What was gone in the first run is gone in the second. -/
def KeepsSpent (id : MemberId) (number : Nat) (r r' : Run) : Prop :=
  r.client.Spent id number → r'.client.Spent id number

instance (id : MemberId) (number : Nat) : IsPreorder Run (KeepsSpent id number) where
  refl _ h := h
  trans _ _ _ h h' hr := h' (h hr)

section Gone

variable {id : MemberId} {number : Nat}

theorem keepsSpent_of_samePool {r r' : Run} (h : SamePool id r r') : KeepsSpent id number r r' := by
  rintro ⟨p, hp, hspent⟩
  exact ⟨p, h p hp, hspent⟩

theorem keepsSpent_of_members {r r' : Run} (h : r'.client.members = r.client.members) :
    KeepsSpent id number r r' :=
  keepsSpent_of_samePool (samePool_of_members h)

/-- A change of one pool. -/
theorem keepsSpent_modifyMember {id' : MemberId} {f : Member → Member} {r : Run}
    (hf : ∀ m, r.client.members[id']? = some m → m.pool.Spent number → (f m).pool.Spent number) :
    KeepsSpent id number r { r with client := r.client.modifyMember id' f } := by
  rintro ⟨p, hp, hspent⟩
  obtain ⟨m, hm, rfl⟩ := Option.map_eq_some_iff.mp hp
  unfold Client.Spent Client.pool?
  show ∃ p, (r.client.members.modify id' f)[id]?.map (·.pool) = some p ∧ _
  rw [List.getElem?_modify, hm]
  by_cases hid : id' = id
  · subst hid
    exact ⟨(f m).pool, by simp, hf m hm hspent⟩
  · exact ⟨m.pool, by simp [hid], hspent⟩

theorem lease_spent (id' : MemberId) : (onClient (·.lease id')).Keeps (KeepsSpent id number) :=
  fun _ => keepsSpent_modifyMember fun _ _ h => h

theorem release_spent (id' : MemberId) : (release id').Keeps (KeepsSpent id number) :=
  fun _ => keepsSpent_modifyMember fun _ _ h => h

theorem emit_spent (e : Event) : (emit e).Keeps (KeepsSpent id number) :=
  fun _ => keepsSpent_of_members rfl

theorem happen_spent (h : Happening) : (happen h).Keeps (KeepsSpent id number) :=
  fun r => keepsSpent_of_samePool (happen_samePool h r)

theorem checkOut_spent (id' : MemberId) : (checkOut id').Keeps (KeepsSpent id number) := by
  refine .checkOut emit_spent (fun _ => keepsSpent_of_members rfl) happen_spent
    fun r m hm => keepsSpent_modifyMember fun m' hm' hspent => ?_
  rw [hm] at hm'
  cases hm'
  exact (hspent.checkOut fun n c opened => (Deployment.establish_ok opened).1).1

theorem checkIn_spent (lease : Lease) : (checkIn lease).Keeps (KeepsSpent id number) :=
  .checkIn emit_spent fun _ => keepsSpent_modifyMember fun _ _ hspent =>
    hspent.checkIn lease.description.id

/-- Whatever the client does, a connection that is gone does not come back. -/
theorem sustains_spent : Sustains anywhere (KeepsSpent id number) (fun _ => KeepsSpent id number)
    fun _ => KeepsSpent id number where
  elsewhere h := keepsSpent_of_members (by rw [h])
  aside _ h _ := keepsSpent_of_members h.members
  happen := happen_spent
  broke _ connection _ := keepsSpent_modifyMember fun _ _ hspent => hspent.markBroken connection
  leasing := .constant release_spent
  lending := .constant checkIn_spent
  conclude criteria s := .of_keeps (.conclude emit_spent lease_spent criteria s)
  checkOut id' := .of_keeps (checkOut_spent id')
  opened _ _ _ := keepsSpent_of_members rfl

/-- It is not what is lent next. -/
theorem checkOut_ne {r r' : Run} {lease : Lease} (h : r.client.Spent id number)
    (went : (checkOut id).on r = (.ok lease, r')) : lease.description.id ≠ number := by
  obtain ⟨p, hp, hspent⟩ := h
  obtain ⟨d, hresult, -⟩ := checkOut_pool hp
  obtain ⟨-, hother⟩ := hspent.checkOut fun n c opened => (Deployment.establish_ok opened).1
  rw [went] at hresult
  cases hopen : (p.checkOut (d.establish p.address)).result with
  | error e =>
    rw [hopen] at hresult
    cases hresult
  | ok c =>
    rw [hopen] at hresult
    cases hresult
    exact hother c hopen

/-- Nor is it reached in any other way. -/
theorem Reached.ne_of_spent {b : Binding} {intent : Intent} {r r' : Run} {source : Source}
    {lease : Lease} (h : Reached b intent r source lease r') (hs : r.client.Sound)
    (hspent : r.client.Spent id number) :
    ¬ (lease.member = id ∧ lease.description.id = number) := by
  rintro ⟨rfl, hid⟩
  have hmember := h.member hs
  obtain ⟨r₁, hsource, hlease⟩ := h
  have hkept : KeepsSpent lease.member number r ((b.source intent).on r).2 :=
    (sustains_spent.source b intent).keeps r
  rw [hsource] at hkept
  rw [Source.connection, ← hmember] at hlease
  exact checkOut_ne (hkept hspent) hlease hid

end Gone

/-! ## §5. Room for a connection. -/

section Room

variable {id : MemberId} {r r' : Run} {p : Pool} {e : Error}

/-- A check-out fails because all connections are lent, or because none can be opened. -/
theorem Pool.checkOut_error {establish : Establish}
    (h : (p.checkOut establish).result = .error e) :
    p.permits = 0 ∨ establish p.nextId = .error e := by
  unfold Pool.checkOut at h
  cases hpermits : p.permits with
  | zero => exact .inl rfl
  | succ rest =>
    rw [hpermits] at h
    cases hidle : p.idle with
    | cons c waiting =>
      rw [hidle] at h
      cases h
    | nil =>
      rw [hidle] at h
      cases hopen : establish p.nextId with
      | error e' =>
        rw [hopen] at h
        cases h
        exact .inr rfl
      | ok c =>
        rw [hopen] at h
        cases h

theorem Deployment.establish_error {d : Deployment} {a : Address} {n : Nat}
    (h : d.establish a n = .error e) : d.unreachable.value? a = some e := by
  unfold establish at h
  cases hreach : d.unreachable.value? a with
  | none =>
    rw [hreach] at h
    cases h
  | some e' =>
    rw [hreach] at h
    cases h
    rfl

/-- With a permit a check-out fails only if the server cannot be reached. -/
theorem checkOut_unreachable (hp : r.client.pool? id = some p)
    (went : (checkOut id).on r = (.error e, r')) :
    p.permits = 0 ∨ r'.deployment.unreachable.value? p.address = some e := by
  obtain ⟨d, hd, hresult, -⟩ := checkOut_on hp
  rw [went] at hd hresult
  rw [show r'.deployment = d from hd]
  cases hopen : (p.checkOut (d.establish p.address)).result with
  | error e' =>
    rw [hopen] at hresult
    cases hresult
    exact (Pool.checkOut_error hopen).imp_right Deployment.establish_error
  | ok c =>
    rw [hopen] at hresult
    cases hresult

/-- The permits of a pool are those that its books leave. -/
theorem Client.Orderly.permits_eq {c : Client} (h : c.Orderly) (hp : c.pool? id = some p) :
    p.permits + (c.books id).checkedOut = c.options.effectiveMaxPoolSize := by
  have hbalanced := (h.pool hp).balanced
  obtain ⟨m, hm, rfl⟩ := Option.map_eq_some_iff.mp hp
  have hbooks : c.books id = m.pool.books := Client.column_of_mem hm
  rw [hbooks]
  exact hbalanced.permits

end Room

/-! ## §6. The second attempt. -/

/-- Making the command takes nothing from the servers and gives nothing back, whatever is heard of
    them meanwhile and whatever becomes of the sessions. -/
def Request.Aside (request : Request α) : Prop :=
  ∀ server connection, (request.create server connection).Keeps Untouched

/-- What the walk through all actions covers is such a request. -/
theorem Request.aside_of {request : Request α}
    (h : ∀ {R : Run → Run → Prop} {S : MemberId → Run → Run → Prop}
      {T : Lease → Run → Run → Prop} [IsPreorder Run R], Upholds anywhere R S T →
        ∀ server connection, (request.create server connection).Keeps R) : request.Aside :=
  fun server connection r => ⟨h sustains_operations.toUpholds server connection r,
    h sustains_books.toUpholds server connection r,
    h sustains_orderly.toUpholds server connection r⟩

theorem Insert.request_aside (i : Insert) (x : SessionContext) : (i.request x).Aside :=
  Request.aside_of fun h server connection =>
    .bind (.lift (h.putSessionFields _ server connection x fun _ _ => trivial)) fun _ => .pure _

theorem endRequest_aside (name : String) (x : SessionContext) : (endRequest name x).Aside :=
  Request.aside_of fun _ _ _ =>
    .bind (.lift (.bind .currentClient fun _ => .pure _)) fun _ => .pure _

theorem Creation.request_aside (creation : Creation) (database : String) (body : Document)
    (interpret : Interpretation α) : (creation.request database body interpret).Aside := by
  refine Request.aside_of fun h server connection => ?_
  refine .bind (.lift (h.happenAll _)) fun _ => ?_
  cases creation.failure with
  | none => exact .pure _
  | some e => exact .throw e

/-- A request from `r` on, whose first attempt has the server and the connection in `r₁`: in `r'`,
    where the first attempt is over and the second one begins, the request holds nothing. -/
structure SecondAlone (b : Binding) (request : Request α) (r : Run) (source : Source)
    (lease : Lease) (command : Command) (e : Error) (r₁ r' : Run) : Prop where
  begins : (performRetryable b request).on r =
    if mayRetry command e then (secondAttempt b command e request.interpret).on r'
    else (.error e, r')
  /-- Beside what the others have, the first attempt held one lease and one connection. -/
  held : lease.member = source.selected.member ∧
    r₁.client.operations = Function.update r.client.operations lease.member
      (r.client.operations lease.member + 1) ∧
    r₁.client.books = Function.update r.client.books lease.member
      ((r.client.books lease.member).enter lease.description.id)
  /-- Now there is only what the others have. -/
  operations : r'.client.operations = r.client.operations
  books : r'.client.books = r.client.books
  permits : ∀ id p', r'.client.pool? id = some p' →
    p'.permits = ((r.client.pool? id).map (·.permits)).getD r.client.options.effectiveMaxPoolSize
  /-- On the same server there is room beside the others, and a connection is not to be had only
      if the server cannot be reached.  On any other server there is what the others leave. -/
  room : ∀ again r₃, (b.source .write).on r' = (.ok again, r₃) →
    ∃ p, r₃.client.pool? again.selected.member = some p ∧
      p.permits + (r.client.books again.selected.member).checkedOut =
        r.client.options.effectiveMaxPoolSize ∧
      (again.selected.member = lease.member → 0 < p.permits) ∧
      ∀ e' r₄, again.connection.on r₃ = (.error e', r₄) →
        p.permits = 0 ∨ r₄.deployment.unreachable.value? p.address = some e'
  /-- The connection under which the network failed is not the one that is lent next. -/
  fresh : (∃ e', ((send lease command source.context).on r₁).1 = .error e' ∧
      e'.isNetwork = true) →
    ∀ again lease' r₃, Reached b .write r' again lease' r₃ →
      ¬ (lease'.member = lease.member ∧ lease'.description.id = lease.description.id)

section Second

variable {b : Binding} {request : Request α} {r r' r₁ r₂ : Run} {source : Source} {lease : Lease}
variable {command : Command} {e : Error}

/-- The pool from which a connection is held lends up to its capacity, so that without this one
    there is room. -/
theorem Holding.room (hs : r.client.Sound) (ho : r.client.Orderly)
    (h : Holding source lease r r₁) :
    (r.client.books lease.member).checkedOut < r.client.options.effectiveMaxPoolSize := by
  obtain ⟨horderly, hoptions⟩ := h.pools ho
  obtain ⟨p, hp, hbooks⟩ := h.pool hs
  have hpermits := (horderly.pool hp).balanced.permits
  have hcount : p.checkedOut = (r.client.books lease.member).checkedOut + 1 :=
    (Books.mk.inj hbooks).2.1
  rw [hoptions] at hpermits
  omega

/-- A connection that is held and fails on the network is gone when it is given back. -/
theorem Holding.spent (hs : r.client.Sound) (ho : r.client.Orderly)
    (h : Holding source lease r r₁)
    (failed : ∃ e, ((send lease command source.context).on r₁).1 = .error e ∧
      e.isNetwork = true) :
    ((giveBack source lease).on ((send lease command source.context).on r₁).2).2.client.Spent
      lease.member lease.description.id := by
  obtain ⟨p, hp, hbooks⟩ := h.pool hs
  obtain ⟨live, failures, horder⟩ := (h.pools ho).1.pool hp
  -- The borrower of the connection is one of those that the pool knows.
  obtain ⟨c, hc, hid⟩ : ∃ c ∈ live, c.id = lease.description.id := by
    have hmem : lease.description.id ∈ p.leased.map (·.description.id) := by
      rw [show p.leased.map (·.description.id) = _ from (Books.mk.inj hbooks).1]
      exact List.mem_cons_self
    obtain ⟨c, hc, hid⟩ := List.mem_map.mp hmem
    exact ⟨c.description, horder.lent ▸ List.mem_map_of_mem hc, hid⟩
  obtain ⟨e, hsend, hnetwork⟩ := failed
  have hmarked := send_pool lease command source.context hp
  rw [hsend, Pool.marked, if_pos hnetwork] at hmarked
  have hback := checkIn_pool hmarked
  have hspent := horder.spent hc
  rw [hid] at hspent
  -- Giving back the server leaves the pool alone.
  exact sustains_spent.release source (refl_of (KeepsSpent _ _) _) ⟨_, hback, hspent⟩

/-- The permits are the same where the books are. -/
theorem Untouched.permits (hs : r.client.Sound) (ho : r.client.Orderly) (h : Untouched r r')
    {id : MemberId} {p' : Pool} (hp' : r'.client.pool? id = some p') :
    p'.permits =
      ((r.client.pool? id).map (·.permits)).getD r.client.options.effectiveMaxPoolSize := by
  obtain ⟨horderly, hoptions⟩ := h.pools ho
  have hbooks : r'.client.books = r.client.books := (h.books hs).2
  have hpermits' := horderly.permits_eq hp'
  rw [hoptions, hbooks] at hpermits'
  cases hp : r.client.pool? id with
  | some p =>
    have hpermits := ho.permits_eq hp
    show p'.permits = p.permits
    omega
  | none =>
    -- A pool that was made on the way has lent nothing.
    have hclear : r.client.books id = .clear := by
      have hm : r.client.members[id]? = none := Option.map_eq_none_iff.mp hp
      rw [Client.books, Client.column, hm]
      rfl
    rw [hclear] at hpermits'
    exact hpermits'

/-- Wherever a request begins and however its first attempt fails, the second one does not compete
    with it.  That making the command takes nothing is so for inserts, for the ends of transactions
    and for the requests of callers: `Insert.request_aside`, `endRequest_aside` and
    `Creation.request_aside`. -/
theorem Run.Attained.second_alone (h : r.Attained) (aside : request.Aside)
    (opened : Opened b request r source lease command r₁)
    (failed : (attempt source lease command request.interpret).on r₁ = (.error e, r₂)) :
    SecondAlone b request r source lease command e r₁ ((giveBack source lease).on r₂).2 := by
  obtain ⟨r₀, hreached, hmade⟩ := opened.made
  have hs := h.sound
  have ho := h.orderly
  -- From reaching the connection until the attempt has failed, nothing else is taken.
  have hholding₁ : Holding source lease r r₁ := by
    have hmaking := aside source.selected.description lease.description r₀
    rw [hmade] at hmaking
    exact hreached.holding.after hmaking
  have hattempt := attempt_untouched source lease command request.interpret r₁
  rw [failed] at hattempt
  have huntouched := (hholding₁.after hattempt).over
  have hmember := hreached.member hs
  generalize hr' : ((giveBack source lease).on r₂).2 = r' at huntouched
  exact {
    begins := performRetryable_of_failed ⟨source, lease, r₁, r₂, opened, failed, hr'.symm⟩
    held := by
      rw [hmember]
      exact ⟨rfl, (hholding₁.leased hs).2, hmember ▸ (hholding₁.lent hs).2⟩
    operations := (huntouched.operations hs).2
    books := (huntouched.books hs).2
    permits := fun id p' hp' => huntouched.permits hs ho hp'
    room := by
      intro again r₃ hagain
      have hs' := (huntouched.books hs).1
      obtain ⟨ho', hoptions'⟩ := huntouched.pools ho
      obtain ⟨p, hp⟩ := source_pool hs' hagain
      obtain ⟨-, hbooks, hpools⟩ := source_leased hagain
      have hpermits := (hpools ho').1.permits_eq hp
      have hcolumn : r₃.client.books = r.client.books :=
        (hbooks hs').2.trans (huntouched.books hs).2
      rw [(hpools ho').2, hoptions', hcolumn] at hpermits
      refine ⟨p, hp, hpermits, fun hsame => ?_, fun e' r₄ hwent => checkOut_unreachable hp hwent⟩
      have hroom := hholding₁.room hs ho
      rw [hsame] at hpermits
      omega
    fresh := by
      rintro hnetwork again lease' r₃ hagain ⟨hsame, hid⟩
      have hspent := hholding₁.spent hs ho hnetwork
      rw [attempt_on] at failed
      rw [(Prod.mk.inj failed).2, hr'] at hspent
      exact hagain.ne_of_spent (huntouched.books hs).1 hspent ⟨hsame, hid⟩ }

end Second

namespace Lone

/-- Pools lend one connection only. -/
def narrow : Options := ⟨[address], some 0, none, some 1, none, none⟩

/-- Another source of the primary is kept, and the network fails under the first command. -/
def crowded : Scenario :=
  .after { client with options := narrow, members := [Client.newMember narrow address] }
    [.update primary, .bind .primary none "b", .source "b" .write "s",
      .script address [⟨.error (Error.of (.network .brokenPipe none)), [], []⟩]]

theorem reachable_crowded : crowded.Reachable := .after (o := narrow) rfl _

/-- The binding that is kept beside the source. -/
def shared : Binding := ⟨.primary, ⟨some 0, true⟩, true⟩

def row : Insert := ⟨"db", "coll", [[]], true, List.cons_ne_nil [] []⟩

/-- The only connection that the pool lends. -/
def only : Lease := ⟨0, ⟨address, .primary, 17, some 1800000, 1⟩⟩

/-- A transaction is to be committed, and the network fails under the first commit. -/
def committing : Scenario :=
  .after { client with options := narrow, members := [Client.newMember narrow address] }
    [.update primary, .startSession "t", .startTransaction "t" (.ok none),
      .perform (.ok insert) .primary (some "t"),
      .script address [⟨.error (Error.of (.network .brokenPipe none)), [], []⟩]]

theorem reachable_committing : committing.Reachable := .after (o := narrow) rfl _

/-- The binding to the session of the transaction. -/
def attached : Binding := ⟨.primary, ⟨some 0, true⟩, false⟩

end Lone

/-- An insert and a commit whose first attempts fail on the network get a second one, on another
    connection of a pool that lends one only. -/
theorem second_alone_lone :
    (∃ command r₁ e r₂, Lone.crowded.run.client.operations 0 = 1 ∧
      Opened Lone.shared (Lone.row.request Lone.shared.context) Lone.crowded.run
        ⟨⟨0, Lone.primary⟩, Lone.shared.context⟩ Lone.only command r₁ ∧
      (attempt ⟨⟨0, Lone.primary⟩, Lone.shared.context⟩ Lone.only command
        (Lone.row.request Lone.shared.context).interpret).on r₁ = (.error e, r₂) ∧
      mayRetry command e = true ∧
      SecondAlone Lone.shared (Lone.row.request Lone.shared.context) Lone.crowded.run
        ⟨⟨0, Lone.primary⟩, Lone.shared.context⟩ Lone.only command e r₁
        ((giveBack ⟨⟨0, Lone.primary⟩, Lone.shared.context⟩ Lone.only).on r₂).2 ∧
      ((performRetryable Lone.shared (Lone.row.request Lone.shared.context)).on
        Lone.crowded.run).2.sent.map (·.connection) = [1, 2]) ∧
    ∃ command r₁ e r₂,
      Opened Lone.attached (endRequest "commitTransaction" Lone.attached.context)
        Lone.committing.run ⟨⟨0, Lone.primary⟩, Lone.attached.context⟩ Lone.only command r₁ ∧
      (attempt ⟨⟨0, Lone.primary⟩, Lone.attached.context⟩ Lone.only command
        (endRequest "commitTransaction" Lone.attached.context).interpret).on r₁ =
          (.error e, r₂) ∧
      mayRetry command e = true ∧
      SecondAlone Lone.attached (endRequest "commitTransaction" Lone.attached.context)
        Lone.committing.run ⟨⟨0, Lone.primary⟩, Lone.attached.context⟩ Lone.only command e r₁
        ((giveBack ⟨⟨0, Lone.primary⟩, Lone.attached.context⟩ Lone.only).on r₂).2 ∧
      ((performRetryable Lone.attached
        (endRequest "commitTransaction" Lone.attached.context)).on
          Lone.committing.run).2.sent.map (·.connection) = [1, 1, 2] := by
  have hopened : Opened Lone.shared (Lone.row.request Lone.shared.context) Lone.crowded.run
      ⟨⟨0, Lone.primary⟩, Lone.shared.context⟩ Lone.only _ _ := ⟨_, ⟨_, rfl, rfl⟩, rfl⟩
  have hjoined : Opened Lone.attached (endRequest "commitTransaction" Lone.attached.context)
      Lone.committing.run ⟨⟨0, Lone.primary⟩, Lone.attached.context⟩ Lone.only _ _ :=
    ⟨_, ⟨_, rfl, rfl⟩, rfl⟩
  exact ⟨⟨_, _, _, _, by decide +kernel, hopened, rfl, by decide +kernel,
      (Run.Attained.between Lone.reachable_crowded).second_alone
        (Lone.row.request_aside Lone.shared.context) hopened rfl, by decide +kernel⟩,
    _, _, _, _, hjoined, rfl, by decide +kernel,
      (Run.Attained.between Lone.reachable_committing).second_alone
        (endRequest_aside "commitTransaction" Lone.attached.context) hjoined rfl,
      by decide +kernel⟩

end ClusterClient
