/-
  ClusterClient.Proofs.Traffic — what a client does with the pool of one server.

  `Traffic` is the history of one pool among runs: check-outs that lend a connection or fail,
  commands on connections that are held, and returns in any order, with anything in between that
  leaves the pool alone.  Beside the run it keeps the leases that are held and the numbers of the
  connections under which the network has ever failed, and the pool stays in order with both.

  Main statements: `Scenario.Reachable.balanced` and `Traffic.accounted`.
-/
import ClusterClient.Proofs.Balance
import ClusterClient.Proofs.Loans

namespace ClusterClient

open Run

/-! ## §1. The pool of a member. -/

/-- The connections to the server of a member. -/
def Client.pool? (c : Client) (id : MemberId) : Option Pool := c.members[id]?.map (·.pool)

/-- A pool that is there stays as it is. -/
def SamePool (id : MemberId) (r r' : Run) : Prop :=
  ∀ p, r.client.pool? id = some p → r'.client.pool? id = some p

instance (id : MemberId) : IsPreorder Run (SamePool id) where
  refl _ _ h := h
  trans _ _ _ h h' p hp := h' p (h p hp)

section Pools

variable {id : MemberId}

theorem samePool_of_members {r r' : Run} (h : r'.client.members = r.client.members) :
    SamePool id r r' := by
  intro p hp
  unfold Client.pool?
  rwa [h]

theorem Client.pool?_modifyMember {c : Client} {p : Pool} (h : c.pool? id = some p)
    (f : Pool → Pool) :
    (c.modifyMember id fun m => { m with pool := f m.pool }).pool? id = some (f p) := by
  obtain ⟨m, hm, rfl⟩ := Option.map_eq_some_iff.mp h
  show ((c.members.modify id _)[id]?).map _ = _
  rw [List.getElem?_modify, hm]
  simp

theorem happen_samePool (h : Happening) : (happen h).Keeps (SamePool id) := by
  intro r
  cases h with
  | described s =>
    -- A member that is made comes after all others.
    intro p hp
    obtain ⟨m, hm, rfl⟩ := Option.map_eq_some_iff.mp hp
    have hmembers : (r.client.update s).members[id]? = some m :=
      Client.getElem?_update hm s
    show (r.client.update s).members[id]?.map _ = _
    rw [hmembers, Option.map_some]
  | withdrawn | unreachable | reachable | elapsed => exact samePool_of_members rfl

theorem exchange_samePool (lease : Lease) (command : Command) (session : Option Session) :
    (exchange lease command session).Keeps (SamePool id) :=
  .bind (.lift (.modify fun _ => samePool_of_members rfl)) fun _ => .bind .get fun _ =>
    .bind (.lift (.modify fun _ => samePool_of_members rfl)) fun _ =>
      .bind (.lift (.happenAll happen_samePool _)) fun _ =>
        .bind (.lift (.happenAll happen_samePool _)) fun _ => .settle _

end Pools

/-! ## §2. Actions on a pool. -/

/-- The pool after a command with that outcome on the connection with a number. -/
def Pool.marked {α : Type} (number : Nat) (result : Except Error α) (p : Pool) : Pool :=
  match result with
  | .error e => if e.isNetwork then p.markBroken number else p
  | .ok _ => p

section Actions

variable {r : Run} {p : Pool}

/-- A connection that is opened has its number and is one to the server. -/
theorem Deployment.establish_ok {d : Deployment} {a : Address} {n : Nat}
    {c : ConnectionDescription} (h : d.establish a n = .ok c) : c.id = n ∧ c.address = a := by
  unfold establish at h
  cases hreach : d.unreachable.value? a with
  | none =>
    rw [hreach] at h
    cases h
    exact ⟨rfl, rfl⟩
  | some e =>
    rw [hreach] at h
    cases h

/-- A check-out of the client is one of the pool, by connections to the servers as they are when
    it is over. -/
theorem checkOut_on {id : MemberId} (hp : r.client.pool? id = some p) :
    ∃ d : Deployment, ((checkOut id).on r).2.deployment = d ∧
      ((checkOut id).on r).1 =
        (p.checkOut (d.establish p.address)).result.map (Lease.mk id) ∧
      ((checkOut id).on r).2.client.pool? id = some (p.checkOut (d.establish p.address)).pool := by
  -- What happens during the wait leaves the pool alone.
  have hwait : SamePool id r (beginWait.on r).2 := samePool_of_members rfl
  have hwaited : SamePool id r ((happenAll (beginWait.on r).1).on (beginWait.on r).2).2 :=
    trans_of (SamePool id) hwait (Act.Keeps.happenAll happen_samePool _ _)
  obtain ⟨m, hm, rfl⟩ := Option.map_eq_some_iff.mp (hwaited p hp)
  unfold checkOut
  rw [Exec.on_bind, Exec.on_lift]
  dsimp only
  rw [Exec.on_bind, Exec.on_lift]
  dsimp only
  generalize ((happenAll (beginWait.on r).1).on (beginWait.on r).2).2 = r₁ at hm ⊢
  rw [Exec.on_bind, Exec.on_get]
  dsimp only
  rw [hm]
  dsimp only
  refine ⟨r₁.deployment, ?_⟩
  generalize m.pool.checkOut (r₁.deployment.establish m.pool.address) = went
  have hpool : (r₁.client.modifyMember id fun m => { m with pool := went.pool }).pool? id =
      some went.pool := by
    have hbefore : r₁.client.pool? id = some m.pool := congrArg (Option.map Member.pool) hm
    exact Client.pool?_modifyMember hbefore fun _ => went.pool
  obtain ⟨result, opened, pool⟩ := went
  cases result with
  | error e => exact ⟨rfl, rfl, hpool⟩
  | ok c => cases opened <;> exact ⟨rfl, rfl, hpool⟩

theorem checkOut_pool {id : MemberId} (hp : r.client.pool? id = some p) :
    ∃ d : Deployment,
      ((checkOut id).on r).1 =
        (p.checkOut (d.establish p.address)).result.map (Lease.mk id) ∧
      ((checkOut id).on r).2.client.pool? id = some (p.checkOut (d.establish p.address)).pool := by
  obtain ⟨d, -, hwent⟩ := checkOut_on hp
  exact ⟨d, hwent⟩

/-- What is done about the outcome of a command marks the connection if the network failed. -/
theorem follow_pool (lease : Lease) (name : String) (x : SessionContext)
    (result : Except Error Document) (hp : r.client.pool? lease.member = some p) :
    ((follow lease name x result).on r).2.client.pool? lease.member =
      some (p.marked lease.description.id result) := by
  cases result with
  | ok reply => exact hp
  | error e =>
    by_cases h : e.isNetwork = true
    · have hbroken := Client.pool?_modifyMember hp (·.markBroken lease.description.id)
      simp only [follow, Pool.marked, if_pos h]
      -- The mark on the session is no matter of the servers.
      obtain ⟨_ | session, _⟩ := x
      · exact hbroken
      · exact hbroken
    · simp only [follow, Pool.marked, if_neg h]
      exact hp

/-- A command changes the pool only if the network fails. -/
theorem send_pool (lease : Lease) (command : Command) (x : SessionContext)
    (hp : r.client.pool? lease.member = some p) :
    ((send lease command x).on r).2.client.pool? lease.member =
      some (p.marked lease.description.id ((send lease command x).on r).1) := by
  simp only [send, Exec.on_bind, Exec.on_lift, on_currentClient, on_emit, on_observe]
  rw [(follow_on _ _ _ _ _).1]
  exact follow_pool _ _ _ _ (exchange_samePool lease _ _ _ p hp)

theorem checkIn_pool {lease : Lease} (hp : r.client.pool? lease.member = some p) :
    ((checkIn lease).on r).2.client.pool? lease.member =
      some (p.checkIn lease.description.id) := by
  obtain ⟨m, hm, rfl⟩ := Option.map_eq_some_iff.mp hp
  rw [checkIn_client hm]
  exact Client.pool?_modifyMember hp (·.checkIn lease.description.id)

end Actions

/-! ## §3. The history of a pool. -/

/-- The numbers of the connections under which the network has failed, after a command with that
    outcome on a connection. -/
def Run.Lease.failing (lease : Lease) (result : Except Error Document) (failed : List Nat) :
    List Nat :=
  match result with
  | .error e => if e.isNetwork then lease.description.id :: failed else failed
  | .ok _ => failed

/-- What was done with the pool of a member until a run: `live` are the leases that are held now,
    and `failed` the numbers of the connections under which the network has ever failed. -/
inductive Traffic (id : MemberId) (capacity : Nat) : Run → List Lease → List Nat → Prop where
  | made {r : Run} {a : Address} (new : r.client.pool? id = some (.empty a capacity)) :
    Traffic id capacity r [] []
  | lent {r r' : Run} {live : List Lease} {failed : List Nat} {lease : Lease}
    (h : Traffic id capacity r live failed) (went : (checkOut id).on r = (.ok lease, r')) :
    Traffic id capacity r' (lease :: live) failed
  | refused {r r' : Run} {live : List Lease} {failed : List Nat} {e : Error}
    (h : Traffic id capacity r live failed) (went : (checkOut id).on r = (.error e, r')) :
    Traffic id capacity r' live failed
  | sent {r r' : Run} {live : List Lease} {failed : List Nat} {lease : Lease} {command : Command}
    {x : SessionContext} {result : Except Error Document}
    (h : Traffic id capacity r live failed) (held : lease ∈ live)
    (went : (send lease command x).on r = (result, r')) :
    Traffic id capacity r' live (lease.failing result failed)
  | returned {r r' : Run} {before after : List Lease} {failed : List Nat} {lease : Lease}
    (h : Traffic id capacity r (before ++ lease :: after) failed)
    (went : (checkIn lease).on r = ((), r')) : Traffic id capacity r' (before ++ after) failed
  /-- Anything else may happen that leaves the pool alone. -/
  | beside {r r' : Run} {live : List Lease} {failed : List Nat}
    (h : Traffic id capacity r live failed) (same : SamePool id r r') :
    Traffic id capacity r' live failed

section CheckOuts

variable {id : MemberId} {capacity : Nat} {r r' : Run} {p : Pool} {failed : List Nat}
variable {live : List ConnectionDescription}

/-- A connection that is lent is its pool's, and the network has never failed under it. -/
theorem checkOut_lent {lease : Lease} (hp : r.client.pool? id = some p)
    (h : p.InOrder capacity live failed) (went : (checkOut id).on r = (.ok lease, r')) :
    lease.member = id ∧ lease.description.id ∉ failed ∧
      ∃ p', r'.client.pool? id = some p' ∧
        p'.InOrder capacity (lease.description :: live) failed := by
  obtain ⟨d, hresult, hpool⟩ := checkOut_pool hp
  rw [went] at hresult hpool
  cases hlent : (p.checkOut (d.establish p.address)).result with
  | error e =>
    rw [hlent] at hresult
    cases hresult
  | ok c =>
    rw [hlent] at hresult
    cases hresult
    obtain ⟨horder, hnew⟩ := h.lends (fun n c opened => (Deployment.establish_ok opened).1) hlent
    exact ⟨rfl, hnew, _, hpool, horder⟩

/-- A check-out that fails shows nowhere. -/
theorem checkOut_refused {e : Error} (hp : r.client.pool? id = some p)
    (h : p.InOrder capacity live failed) (went : (checkOut id).on r = (.error e, r')) :
    ∃ p', r'.client.pool? id = some p' ∧ p'.InOrder capacity live failed ∧
      p'.status = p.status ∧ p'.permits = p.permits ∧ p'.idle = p.idle := by
  obtain ⟨d, hresult, hpool⟩ := checkOut_pool hp
  rw [went] at hresult hpool
  cases hlent : (p.checkOut (d.establish p.address)).result with
  | error e => exact ⟨_, hpool, h.refused hlent⟩
  | ok c =>
    rw [hlent] at hresult
    cases hresult

end CheckOuts

namespace Traffic

variable {id : MemberId} {capacity : Nat} {r : Run} {live : List Lease} {failed : List Nat}

/-- The pool is in order with its history, and the leases that are held are its own. -/
theorem inOrder (h : Traffic id capacity r live failed) :
    ∃ p, r.client.pool? id = some p ∧ p.InOrder capacity (live.map (·.description)) failed ∧
      ∀ lease ∈ live, lease.member = id := by
  induction h with
  | made new => exact ⟨_, new, .empty _ capacity, nofun⟩
  | lent _ went ih =>
    obtain ⟨p, hp, horder, hown⟩ := ih
    obtain ⟨hmember, -, p', hp', horder'⟩ := checkOut_lent hp horder went
    exact ⟨p', hp', horder', List.forall_mem_cons.mpr ⟨hmember, hown⟩⟩
  | refused _ went ih =>
    obtain ⟨p, hp, horder, hown⟩ := ih
    obtain ⟨p', hp', horder', -⟩ := checkOut_refused hp horder went
    exact ⟨p', hp', horder', hown⟩
  | @sent r r' live failed lease command x result _ held went ih =>
    obtain ⟨p, hp, horder, hown⟩ := ih
    have hmember : lease.member = id := hown lease held
    subst hmember
    have hpool := send_pool lease command x hp
    rw [went] at hpool
    refine ⟨_, hpool, ?_, hown⟩
    -- Only a failure of the network makes a difference.
    cases result with
    | ok reply => exact horder
    | error e =>
      unfold Pool.marked Run.Lease.failing
      dsimp only
      split
      · exact horder.fails (List.mem_map_of_mem held)
      · exact horder
  | @returned r r' before after failed lease _ went ih =>
    obtain ⟨p, hp, horder, hown⟩ := ih
    have hmember : lease.member = id :=
      hown lease (List.mem_append_right _ List.mem_cons_self)
    subst hmember
    have hpool := checkIn_pool hp
    rw [went] at hpool
    rw [List.map_append, List.map_cons] at horder
    refine ⟨_, hpool, ?_, fun lease' hlease => hown lease' ?_⟩
    · rw [List.map_append]
      exact horder.comesBack.1
    · exact ((List.sublist_cons_self lease after).append_left before).subset hlease
  | beside _ same ih =>
    obtain ⟨p, hp, horder, hown⟩ := ih
    exact ⟨p, same p hp, horder, hown⟩

/-- What a pool that lends up to `capacity` connections tells of its history, and what comes of
    the next thing that is done with it. -/
structure Accounts (id : MemberId) (capacity : Nat) (r : Run) (live : List Lease)
    (failed : List Nat) (p : Pool) : Prop where
  checkedOut : p.checkedOut = live.length
  turnover : p.totalCheckOuts = p.totalCheckIns + p.checkedOut
  stock : p.established = p.idle.length + p.checkedOut + p.closed
  room : p.idle.length + p.checkedOut ≤ capacity
  permits : p.permits = capacity - p.checkedOut
  distinct : (live.map (·.description.id) ++ p.idle.map (·.description.id)).Nodup
  /-- In 32 bits too, as long as no more numbers than that were taken. -/
  distinct32 : p.nextId ≤ UInt32.size →
    ((live.map (·.description.id) ++ p.idle.map (·.description.id)).map UInt32.ofNat).Nodup
  /-- A connection that comes back is closed if the network has ever failed under it, whatever was
      sent on it since, and waits otherwise. -/
  returns : ∀ lease ∈ live, ∃ p', ((checkIn lease).on r).2.client.pool? id = some p' ∧
    (lease.description.id ∈ failed → p'.closed = p.closed + 1 ∧ p'.idle = p.idle) ∧
    (lease.description.id ∉ failed →
      p'.closed = p.closed ∧ p'.idle = p.idle ++ [⟨lease.description, false⟩])
  /-- What is lent next is held by nobody, and the network has never failed under it. -/
  lends : ∀ lease r', (checkOut id).on r = (.ok lease, r') → lease.member = id ∧
    lease.description.id ∉ live.map (·.description.id) ∧ lease.description.id ∉ failed
  /-- A check-out that fails shows nowhere. -/
  refuses : ∀ e r', (checkOut id).on r = (.error e, r') →
    ∃ p', r'.client.pool? id = some p' ∧ p'.status = p.status ∧ p'.permits = p.permits ∧
      p'.idle = p.idle

/-- Whatever was done with a pool, its counters account for it. -/
theorem accounted (h : Traffic id capacity r live failed) :
    ∃ p, r.client.pool? id = some p ∧ Accounts id capacity r live failed p := by
  obtain ⟨p, hp, horder, hown⟩ := h.inOrder
  have hnumbers : p.numbers = live.map (·.description.id) ++ p.idle.map (·.description.id) := by
    rw [horder.numbers_eq, List.map_map]
    rfl
  have hlent : p.checkedOut = live.length := by
    rw [horder.checkedOut_eq, List.length_map]
  refine ⟨p, hp, hlent, horder.turnover, horder.stock, horder.room, ?_, ?_, ?_, ?_, ?_, ?_⟩
  · have hpermits := horder.permits
    omega
  · rw [← hnumbers]
    exact horder.distinct
  · intro hsize
    rw [← hnumbers]
    exact horder.distinct_uint32 hsize
  · intro lease hlease
    have hmember : lease.member = id := hown lease hlease
    subst hmember
    obtain ⟨before, after, rfl⟩ := List.append_of_mem hlease
    rw [List.map_append, List.map_cons] at horder
    obtain ⟨-, hbroken, hwhole⟩ := horder.comesBack
    exact ⟨_, checkIn_pool hp, hbroken, hwhole⟩
  · intro lease r' went
    obtain ⟨hmember, hnew, p', -, horder'⟩ := checkOut_lent hp horder went
    refine ⟨hmember, ?_, hnew⟩
    -- From now on it is held beside the others, and their numbers are distinct.
    have hdistinct := horder'.distinct
    rw [horder'.numbers_eq, List.map_cons, List.map_map, List.cons_append,
      List.nodup_cons] at hdistinct
    exact fun hmem => hdistinct.1 (List.mem_append_left _ hmem)
  · intro e r' went
    obtain ⟨p', hp', -, hsame⟩ := checkOut_refused hp horder went
    exact ⟨p', hp', hsame⟩

end Traffic

namespace Lone

/-- The network fails under the first command that the primary gets. -/
def faulty : Run :=
  { begin client with
    deployment := ⟨[(address, [⟨.error (Error.of (.network .other none)), [], []⟩])], [], [], []⟩ }

def lease : Lease := ⟨0, ⟨address, .unknown, 0, none, 1⟩⟩

def ping : Command := .of "db" [("ping", .int32 1)]

/-- The connection is lent, a command fails on it, and another one succeeds. -/
def lent : Run := ((checkOut 0).on faulty).2

def troubled : Run := ((send lease ping .none).on lent).2

def recovered : Run := ((send lease ping .none).on troubled).2

theorem traffic : Traffic 0 10 recovered [lease] [1] := by
  have hmade : Traffic 0 10 faulty [] [] := .made rfl
  have hlent : Traffic 0 10 lent [lease] [] := hmade.lent rfl
  have hfailed : Traffic 0 10 troubled [lease] [1] := hlent.sent List.mem_cons_self rfl
  exact hfailed.sent List.mem_cons_self rfl

end Lone

/-- The second command has succeeded, but the connection is closed when it comes back. -/
theorem accounted_lone :
    (((send Lone.lease Lone.ping .none).on Lone.troubled).1.toOption).isSome = true ∧
      (∃ p, Lone.recovered.client.pool? 0 = some p ∧
        Traffic.Accounts 0 10 Lone.recovered [Lone.lease] [1] p) ∧
      (((checkIn Lone.lease).on Lone.recovered).2.client.pool? 0).map Pool.status =
        some ⟨0, 0, 1, 1, 1, 1⟩ :=
  ⟨rfl, Lone.traffic.accounted, rfl⟩

/-! ## §4. The pools of all servers. -/

/-- Every pool balances, for as many connections as the client is set up for. -/
def Client.Balanced (c : Client) : Prop :=
  ∀ m ∈ c.members, m.pool.Balanced c.options.effectiveMaxPoolSize

theorem Member.Change.balanced {capacity : Nat} {m m' : Member} (h : m.Change m')
    (hm : m.pool.Balanced capacity) : m'.pool.Balanced capacity := by
  cases h with
  | leased | unleased => exact hm
  | lent establish => exact hm.checkOut establish
  | broke id => exact hm.markBroken id
  | returned id => exact hm.checkIn id

theorem Client.options_endSession (c : Client) (id : SessionId) :
    (c.endSession id).options = c.options := by
  unfold endSession
  split
  · rfl
  · split <;> rfl

theorem Client.options_dropSession (c : Client) (id : SessionId) :
    (c.dropSession id).options = c.options := by
  unfold dropSession
  dsimp only
  split
  · split
    · exact Client.options_endSession _ id
    · rfl
  · rfl

namespace Client.Balanced

variable {c c' : Client}

theorem same (h : c.Balanced) (options : c'.options = c.options)
    (members : c'.members = c.members) :
    c'.Balanced := by
  unfold Client.Balanced
  rw [options, members]
  exact h

theorem ensureMember (h : c.Balanced) (a : Address) : (c.ensureMember a).Balanced := by
  intro m hm
  have hoptions : (c.ensureMember a).options = c.options := by
    unfold Client.ensureMember
    split <;> rfl
  rw [hoptions]
  obtain hm | rfl := Client.mem_ensureMember hm
  · exact h m hm
  · exact .empty a _

theorem change {may : SessionId → Prop} (hc : Client.Change may c c') (h : c.Balanced) :
    c'.Balanced := by
  cases hc with
  | described s =>
    refine ensureMember ?_ s.address
    exact h.same rfl rfl
  | withdrawn | elapsed | session | opened => exact h.same rfl rfl
  | @member id f hf =>
    intro m' hm'
    obtain hm' | ⟨m, hm, rfl⟩ := mem_modify (show m' ∈ c.members.modify id f from hm')
    · exact h m' hm'
    · exact (hf m hm).balanced (h m (List.mem_of_getElem? hm))
  | ended id => exact h.same (c.options_endSession id) (c.sameServers_endSession id).members
  | dropped id => exact h.same (c.options_dropSession id) (c.sameServers_dropSession id).members

theorem start {o : Options} (h : Client.start o = .ok c) : c.Balanced := by
  refine Scenario.start_induction (P := Client.Balanced) h (fun c hm _ _ m hmem => ?_)
    fun c a hc => hc.ensureMember a
  rw [hm] at hmem
  cases hmem

end Client.Balanced

/-- The pools of a client always balance, whatever became of its operations. -/
theorem Scenario.Reachable.balanced {s : Scenario} (h : s.Reachable) : s.run.client.Balanced :=
  h.invariant Client.Balanced.start Client.Balanced.change

end ClusterClient
