/-
  ClusterClient.Client — everything a client of a cluster keeps.

  The client knows the cluster as it was described last, and it has one member for each known
  address: the pool of connections and the number of operations in flight. Members and sessions
  are never taken out of their tables, so that whoever holds one keeps it when its server is
  removed; a removed member is only no longer found by its address.
-/
import ClusterClient.AddressMap
import ClusterClient.Options
import ClusterClient.Pool
import ClusterClient.Session

namespace ClusterClient

/-! ## §1. State -/

/-- Position of a member in its table. -/
abbrev MemberId := Nat

/-- Position of a session in its table. -/
abbrev SessionId := Nat

/-- A server that operations can be routed to. -/
structure Member where
  address : Address
  /-- Operations in flight: leases that were taken and not released. A counter of 32 bits has the
      same value as long as fewer than `2 ^ 32` are in flight at once, and none is released that was
      not taken. -/
  operations : Nat
  pool : Pool

/-- Everything a client keeps. -/
structure Client where
  options : Options
  /-- The time, in milliseconds. -/
  now : Nat
  cluster : ClusterDescription
  /-- How many snapshots of the cluster were published. -/
  version : Nat
  /-- The member for each known address. -/
  known : AddressMap MemberId
  members : List Member
  /-- Server sessions that wait to be used again. -/
  waiting : List ServerSession
  /-- The identifier of the next new server session. -/
  nextIdentifier : Nat
  sessions : List Session

namespace Client

/-! ## §2. Servers -/

/-- A member that nobody has used. -/
def newMember (o : Options) (a : Address) : Member :=
  ⟨a, 0, .empty a o.effectiveMaxPoolSize⟩

/-- Makes sure that there is a member for the address. -/
def ensureMember (c : Client) (a : Address) : Client :=
  match c.known.value? a with
  | some _ => c
  | none =>
    { c with
      known := c.known.put a c.members.length
      members := c.members ++ [newMember c.options a] }

/-- A client that knows only where to start. -/
def start (o : Options) : Except InvalidArgument Client :=
  match o.refusal? with
  | some reason => .error reason
  | none =>
    let cluster := ClusterDescription.ofSeeds o.hosts (1000 * o.effectiveLocalThreshold)
    let c : Client :=
      { options := o, now := 0, cluster := cluster, version := 0, known := [], members := [],
        waiting := [], nextIdentifier := 0, sessions := [] }
    .ok (o.hosts.foldl ensureMember c)

/-- Publishes a new description of a server. -/
def update (c : Client) (s : ServerDescription) : Client :=
  { c with cluster := c.cluster.update s, version := c.version + 1 }.ensureMember s.address

/-- Publishes that a server is gone. -/
def remove (c : Client) (a : Address) : Client :=
  { c with
    cluster := c.cluster.remove a
    version := c.version + 1
    known := c.known.drop a }

/-- The current member for an address. -/
def memberAt? (c : Client) (a : Address) : Option Member :=
  (c.known.value? a).bind fun id => c.members[id]?

/-- How many operations are in flight on the server at an address. -/
def load (c : Client) (a : Address) : Option Nat := (c.memberAt? a).map (·.operations)

/-- Changes a member. -/
def modifyMember (c : Client) (id : MemberId) (f : Member → Member) : Client :=
  { c with members := c.members.modify id f }

/-- Leases a member to one more operation. -/
def lease (c : Client) (id : MemberId) : Client :=
  c.modifyMember id fun m => { m with operations := m.operations + 1 }

/-- Takes back a lease of a member. -/
def unlease (c : Client) (id : MemberId) : Client :=
  c.modifyMember id fun m => { m with operations := m.operations - 1 }

/-! ## §3. Sessions -/

/-- Changes a session. -/
def modifySession (c : Client) (id : SessionId) (f : Session → Session) : Client :=
  { c with sessions := c.sessions.modify id f }

/-- Starts a session with a server session that waits, or with a new one. -/
def openSession (c : Client) (timeout : Nat) (implicit : Bool) : SessionId × Client :=
  let (found, waiting) := ServerSession.Waiting.checkOut timeout c.now c.waiting
  let (server, nextIdentifier) := match found with
    | some server => (server, c.nextIdentifier)
    | none => (.fresh c.nextIdentifier c.now, c.nextIdentifier + 1)
  (c.sessions.length,
    { c with
      waiting := waiting
      nextIdentifier := nextIdentifier
      sessions := c.sessions ++ [.start server timeout implicit] })

/-- Ends a session: its server session is given back. A session ends once. -/
def endSession (c : Client) (id : SessionId) : Client :=
  match c.sessions[id]? with
  | none => c
  | some session =>
    match session.server with
    | none => c
    | some server =>
      { c.modifySession id fun s => { s with server := none } with
        waiting := ServerSession.Waiting.checkIn server session.timeout c.now c.waiting }

/-- One more holder of a session. -/
def holdSession (c : Client) (id : SessionId) : Client :=
  c.modifySession id fun s => { s with holders := s.holders + 1 }

/-- A holder lets go of a session; when it was the last one, the session ends. -/
def dropSession (c : Client) (id : SessionId) : Client :=
  let c := c.modifySession id fun s => { s with holders := s.holders - 1 }
  match c.sessions[id]? with
  | some s => if s.holders = 0 then c.endSession id else c
  | none => c

end Client

/-! ## §4. Session contexts -/

/-- The session that an operation runs in, and whether its writes may be sent again. -/
structure SessionContext where
  session : Option SessionId
  retryWrites : Bool
  deriving Repr, DecidableEq

namespace SessionContext

/-- No session, nothing is sent again. -/
def none : SessionContext := ⟨Option.none, false⟩

/-- The session of the context. -/
def session? (x : SessionContext) (c : Client) : Option Session :=
  x.session.bind fun id => c.sessions[id]?

/-- The identifier that commands carry: that of a session that has not ended. -/
def id? (x : SessionContext) (c : Client) : Option Nat := (x.session? c).bind (·.id?)

/-- Whether there is a session that has not ended. -/
def hasSession (x : SessionContext) (c : Client) : Bool :=
  match x.session? c with
  | some s => !s.isEnded
  | Option.none => false

/-- The number of the last transaction or retryable write. -/
def txnNumber? (x : SessionContext) (c : Client) : Option Nat := (x.session? c).map (·.txnNumber)

/-- Whether commands run in a transaction. -/
def inTransaction (x : SessionContext) (c : Client) : Bool :=
  match x.session? c with
  | some s => s.inTransaction
  | Option.none => false

/-- The read preference of the active transaction. -/
def transactionReadPreference? (x : SessionContext) (c : Client) : Option ReadPreference :=
  (x.session? c).bind (·.transactionReadPreference?)

/-- Changes the session of the context. -/
def modify (x : SessionContext) (f : Session → Session) (c : Client) : Client :=
  match x.session with
  | some id => c.modifySession id f
  | Option.none => c

/-- One more holder of the session of the context. -/
def hold (x : SessionContext) (c : Client) : Client :=
  match x.session with
  | some id => c.holdSession id
  | Option.none => c

/-- A holder lets go of the session of the context. -/
def letGo (x : SessionContext) (c : Client) : Client :=
  match x.session with
  | some id => c.dropSession id
  | Option.none => c

/-- Takes the next number of the session, unless there is none or it has ended. -/
def advance (x : SessionContext) (c : Client) : Option Nat × Client :=
  match (x.session? c).bind (·.advance) with
  | some (n, s) => (some n, x.modify (fun _ => s) c)
  | Option.none => (Option.none, c)

end SessionContext

/-- Whether a write may be sent again to this server on this connection: all three of server,
    connection and session must support it. -/
def canRetryWrite (c : Client) (server : ServerDescription) (connection : ConnectionDescription)
    (x : SessionContext) : Bool :=
  x.hasSession c && x.retryWrites && server.supportsRetryableWrites
    && connection.supportsRetryableWrites

end ClusterClient
