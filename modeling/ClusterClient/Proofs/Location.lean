/-
  ClusterClient.Proofs.Location — connections lead where their member says.

  A member has an address, its pool has one, and so has each connection of the pool.  A pool keeps
  connections for later borrowers, so that the one which is lent may have been opened long ago.
  `Member.Located` says that all these addresses are the same.  It does not follow from changes
  alone, which say nothing of where a connection that is lent leads; it is kept by all actions, as
  each of them opens connections at the address of the pool.

  Main statements: `Scenario.Reachable.located` and `checkOut_address`.
-/
import ClusterClient.Proofs.Servers
import ClusterClient.Proofs.Traffic

namespace ClusterClient

open Run

/-! ## §1. Pools. -/

/-- The connections of the pool, those that wait and those that are lent, lead to its server. -/
def Pool.Local (p : Pool) : Prop :=
  ∀ c, c ∈ p.idle ∨ c ∈ p.leased → c.description.address = p.address

namespace Pool.Local

variable {p : Pool}

theorem empty (a : Address) (capacity : Nat) : (Pool.empty a capacity).Local :=
  fun _ hc => hc.elim nofun nofun

/-- A check-out lends a connection to the server of the pool, whether it was kept or is new. -/
theorem checkOut (h : p.Local) (d : Deployment) :
    (p.checkOut (d.establish p.address)).pool.Local ∧
      (p.checkOut (d.establish p.address)).pool.address = p.address ∧
      ∀ c, (p.checkOut (d.establish p.address)).result = .ok c → c.address = p.address := by
  obtain ⟨e, next, -, hwent⟩ | ⟨rest, kept, waiting, -, hidle, hwent⟩ |
    ⟨rest, new, -, hidle, hopen, hwent⟩ := p.checkOut_cases (d.establish p.address)
  · rw [hwent]
    exact ⟨h, rfl, nofun⟩
  · have hkept : kept.description.address = p.address :=
      h kept (.inl (hidle ▸ List.mem_cons_self))
    rw [hwent]
    refine ⟨?_, rfl, ?_⟩
    · rintro c (hc | hc)
      · exact h c (.inl (hidle ▸ List.mem_cons_of_mem kept hc))
      · rcases List.mem_cons.mp hc with rfl | hc
        · exact hkept
        · exact h c (.inr hc)
    · rintro c hc
      cases hc
      exact hkept
  · have hnew : new.address = p.address := (Deployment.establish_ok hopen).2
    rw [hwent]
    refine ⟨?_, rfl, ?_⟩
    · rintro c (hc | hc)
      · exact h c (.inl hc)
      · rcases List.mem_cons.mp hc with rfl | hc
        · exact hnew
        · exact h c (.inr hc)
    · rintro c hc
      cases hc
      exact hnew

theorem markBroken (h : p.Local) (id : Nat) : (p.markBroken id).Local := by
  rintro c (hc | hc)
  · exact h c (.inl hc)
  · obtain ⟨c₀, hc₀, rfl⟩ := List.mem_map.mp hc
    have hlocal := h c₀ (.inr hc₀)
    -- The mark is not part of where the connection leads.
    split <;> exact hlocal

theorem checkIn (h : p.Local) (id : Nat) :
    (p.checkIn id).Local ∧ (p.checkIn id).address = p.address := by
  obtain hwent | ⟨before, back, after, hleased, hwent⟩ := p.checkIn_cases id
  · rw [hwent]
    exact ⟨h, rfl⟩
  · rw [hwent]
    refine ⟨?_, rfl⟩
    have hback : back.description.address = p.address :=
      h back (.inr (hleased ▸ List.mem_append_right before List.mem_cons_self))
    rintro c (hc | hc)
    · -- What waits then has waited before or has just come back.
      have hidle : c ∈ p.idle ∨ c = back := by
        unfold Pool.returned at hc
        dsimp only at hc
        split at hc
        · exact .inl hc
        · exact (List.mem_append.mp hc).imp_right List.mem_singleton.mp
      rcases hidle with hc | rfl
      · exact h c (.inl hc)
      · exact hback
    · have hmem : c ∈ before ++ back :: after :=
        ((List.sublist_cons_self back after).append_left before).subset hc
      exact h c (.inr (hleased ▸ hmem))

end Pool.Local

/-! ## §2. Members. -/

/-- The pool of the member and all its connections lead to the server of the member. -/
structure Member.Located (m : Member) : Prop where
  pool : m.pool.address = m.address
  connections : m.pool.Local

/-- This is so of all members. -/
def Client.Located (c : Client) : Prop := ∀ m ∈ c.members, m.Located

namespace Client.Located

variable {c c' : Client}

theorem of_members (h : c.Located) (same : c'.members = c.members) : c'.Located := by
  unfold Client.Located
  rwa [same]

theorem modifyMember (h : c.Located) {id : MemberId} {f : Member → Member}
    (hf : ∀ m, c.members[id]? = some m → m.Located → (f m).Located) :
    (c.modifyMember id f).Located := by
  intro m hm
  obtain hm | ⟨m₀, hm₀, rfl⟩ := mem_modify (show m ∈ c.members.modify id f from hm)
  · exact h m hm
  · exact hf m₀ hm₀ (h m₀ (List.mem_of_getElem? hm₀))

theorem ensureMember (h : c.Located) (a : Address) : (c.ensureMember a).Located := by
  intro m hm
  obtain hm | rfl := Client.mem_ensureMember hm
  · exact h m hm
  · exact ⟨rfl, .empty a _⟩

theorem start {o : Options} {c : Client} (h : Client.start o = .ok c) : c.Located := by
  refine Scenario.start_induction (P := Client.Located) h (fun c hm _ _ m hmem => ?_)
    fun c a hc => hc.ensureMember a
  rw [hm] at hmem
  cases hmem

end Client.Located

/-! ## §3. All actions keep it. -/

/-- If it was so in the first run, it is so in the second. -/
def KeepsLocated (r r' : Run) : Prop := r.client.Located → r'.client.Located

instance : IsPreorder Run KeepsLocated where
  refl _ h := h
  trans _ _ _ h h' hr := h' (h hr)

theorem keepsLocated_of_members {r r' : Run} (h : r'.client.members = r.client.members) :
    KeepsLocated r r' :=
  fun hr => hr.of_members h

/-- A change of one member that leaves its pool alone. -/
theorem modifyMember_located {id : MemberId} {f : Member → Member}
    (hf : ∀ m : Member, m.Located → (f m).Located) :
    (onClient (·.modifyMember id f)).Keeps KeepsLocated :=
  fun _ hr => hr.modifyMember fun m _ => hf m

theorem lease_located (id : MemberId) : (onClient (·.lease id)).Keeps KeepsLocated :=
  modifyMember_located fun _ hm => ⟨hm.pool, hm.connections⟩

theorem release_located (id : MemberId) : (release id).Keeps KeepsLocated :=
  modifyMember_located fun _ hm => ⟨hm.pool, hm.connections⟩

theorem happen_located (h : Happening) : (happen h).Keeps KeepsLocated := by
  intro r
  cases h with
  | described s =>
    intro hr
    have hupdated : Client.Located { r.client with
        cluster := r.client.cluster.update s, version := r.client.version + 1 } :=
      hr.of_members rfl
    exact hupdated.ensureMember s.address
  | withdrawn | unreachable | reachable | elapsed => exact keepsLocated_of_members rfl

theorem emit_located (e : Event) : (emit e).Keeps KeepsLocated :=
  fun _ => keepsLocated_of_members rfl

theorem checkOut_located (id : MemberId) : (checkOut id).Keeps KeepsLocated := by
  refine .checkOut emit_located (fun _ => keepsLocated_of_members rfl) happen_located
    fun r m hm hr => hr.modifyMember fun m' hm' hlocated => ?_
  rw [hm] at hm'
  cases hm'
  -- The pool opens connections at its own address.
  obtain ⟨hlocal, haddress, -⟩ := hlocated.connections.checkOut r.deployment
  exact ⟨haddress.trans hlocated.pool, hlocal⟩

theorem checkIn_located (lease : Lease) : (checkIn lease).Keeps KeepsLocated := by
  refine .checkIn emit_located (modifyMember_located fun m hm => ?_)
  obtain ⟨hlocal, haddress⟩ := hm.connections.checkIn lease.description.id
  exact ⟨haddress.trans hm.pool, hlocal⟩

theorem sustains_located (may : SessionId → Prop) :
    Sustains may KeepsLocated (fun _ => KeepsLocated) fun _ => KeepsLocated where
  elsewhere h := keepsLocated_of_members (by rw [h])
  aside _ h _ := keepsLocated_of_members h.members
  happen := happen_located
  broke _ _ := modifyMember_located fun _ hm => ⟨hm.pool, hm.connections.markBroken _⟩
  leasing := .constant release_located
  lending := .constant checkIn_located
  conclude criteria s := .of_keeps (.conclude emit_located lease_located criteria s)
  checkOut id := .of_keeps (checkOut_located id)
  opened _ _ _ := keepsLocated_of_members rfl

/-- In all that can come about, connections lead where their member says. -/
theorem Scenario.Reachable.located {s : Scenario} (h : s.Reachable) : s.run.client.Located :=
  h.kept (sustains_located anywhere) lease_located Client.Located.start fun hr => hr

/-- A connection that a member lends leads to the server of the member. -/
theorem checkOut_address {id : MemberId} {m : Member} {r r' : Run} {lease : Lease}
    (hr : r.client.Located) (hm : r.client.members[id]? = some m)
    (went : (checkOut id).on r = (.ok lease, r')) : lease.description.address = m.address := by
  have hlocated : m.Located := hr m (List.mem_of_getElem? hm)
  have hpool : r.client.pool? id = some m.pool := congrArg (Option.map Member.pool) hm
  obtain ⟨d, hresult, -⟩ := checkOut_pool hpool
  rw [went] at hresult
  obtain ⟨-, -, hlent⟩ := hlocated.connections.checkOut d
  cases hopen : (m.pool.checkOut (d.establish m.pool.address)).result with
  | error e =>
    rw [hopen] at hresult
    cases hresult
  | ok c =>
    rw [hopen] at hresult
    cases hresult
    exact (hlent c hopen).trans hlocated.pool

end ClusterClient
