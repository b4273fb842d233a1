/-
  ClusterClient.Cluster — what is known about all servers together.

  A cluster description holds one server description for each address, in the order in which the
  addresses became known, and the kind of deployment that follows from them. Every change derives
  the kind anew, so it depends on the current descriptions alone.
-/
import ClusterClient.Server

namespace ClusterClient

/-! ## §1. Kinds of deployment -/

/-- The kind of a deployment. -/
inductive ClusterKind where
  | single
  | replicaSetNoPrimary
  | replicaSetWithPrimary
  | sharded
  | unknown
  deriving Repr, DecidableEq

namespace ClusterKind

/-- The kind in messages. -/
def display : ClusterKind → String
  | .single => "Single"
  | .replicaSetNoPrimary => "ReplicaSetNoPrimary"
  | .replicaSetWithPrimary => "ReplicaSetWithPrimary"
  | .sharded => "Sharded"
  | .unknown => "Unknown"

/-- The kind from its name in configuration. -/
def ofName? : String → Option ClusterKind
  | "Single" => some .single
  | "ReplicaSetNoPrimary" => some .replicaSetNoPrimary
  | "ReplicaSetWithPrimary" => some .replicaSetWithPrimary
  | "Sharded" => some .sharded
  | "Unknown" => some .unknown
  | _ => none

/-- The kind of a deployment with these servers: one of them that is described well settles it.
    A standalone comes before a router, a router before a primary, a primary before the rest. -/
def derive (servers : List ServerDescription) : ClusterKind :=
  let described := servers.filter fun s => s.ok && s.isAvailable
  if described.any (·.kind == .standalone) then .single
  else if described.any (·.kind == .router) then .sharded
  else if described.any (·.kind == .primary) then .replicaSetWithPrimary
  else if described.isEmpty then .unknown
  else .replicaSetNoPrimary

end ClusterKind

/-! ## §2. Descriptions -/

/-- What is known about all servers. -/
structure ClusterDescription where
  kind : ClusterKind
  servers : List ServerDescription
  /-- How much slower than the fastest a suitable server may be, in microseconds. -/
  localThreshold : Nat

namespace ClusterDescription

/-- Replaces the description with the same address, or adds the description at the end. -/
def place (s : ServerDescription) : List ServerDescription → List ServerDescription
  | [] => [s]
  | t :: rest => if t.address.same s.address then s :: rest else t :: place s rest

/-- A cluster that knows only where to start. -/
def ofSeeds (seeds : List Address) (localThreshold : Nat) : ClusterDescription where
  kind := .unknown
  servers := seeds.foldl (fun known a => place (.placeholder a) known) []
  localThreshold := localThreshold

/-- Takes a new description of a server into account. -/
def update (c : ClusterDescription) (s : ServerDescription) : ClusterDescription :=
  let servers := place s c.servers
  { c with kind := .derive servers, servers := servers }

/-- Forgets a server. -/
def remove (c : ClusterDescription) (a : Address) : ClusterDescription :=
  let servers := c.servers.filter fun s => !s.address.same a
  { c with kind := .derive servers, servers := servers }

/-- The description of the server at an address. -/
def server? (c : ClusterDescription) (a : Address) : Option ServerDescription :=
  c.servers.find? (·.address.same a)

/-- Whether the address is known. -/
def knows (c : ClusterDescription) (a : Address) : Bool :=
  c.servers.any (·.address.same a)

/-- Whether operations can be routed to any server. -/
def hasSelectable (c : ClusterDescription) : Bool :=
  c.servers.any (·.isSelectable)

/-- The descriptions by address. -/
def sorted (c : ClusterDescription) : List ServerDescription :=
  c.servers.mergeSort fun s t => s.address.precedes t.address

/-- The cluster in messages. -/
def display (c : ClusterDescription) : String :=
  let shown (s : ServerDescription) : String :=
    "\x7b Address: " ++ s.address.display ++ ", Type: " ++ s.kind.display
      ++ ", State: " ++ s.state.display ++ ", Ok: " ++ (if s.ok then "true" else "false") ++ " \x7d, "
  "\x7b Type: " ++ c.kind.display ++ ", Servers: [ " ++ String.join (c.sorted.map shown) ++ "] \x7d"

end ClusterDescription

/-! ## §3. Sessions -/

/-- Whether a deployment keeps sessions. -/
inductive SessionSupport where
  /-- No server that could tell is known. -/
  | undetermined
  | unsupported
  /-- Unused sessions are kept for this many milliseconds. -/
  | supported (timeout : Nat)
  deriving Repr, DecidableEq

/-- The least timeout of servers that all keep sessions. -/
def SessionSupport.ofServers : List ServerDescription → SessionSupport
  | [] => .undetermined
  | s :: rest =>
    match s.sessionTimeout with
    | none => .unsupported
    | some timeout => go timeout rest
where
  go (least : Nat) : List ServerDescription → SessionSupport
    | [] => .supported least
    | s :: rest =>
      match s.sessionTimeout with
      | none => .unsupported
      | some timeout => go (min least timeout) rest

/-- Whether the deployment keeps sessions: all servers that hold data and can be selected must
    agree, and the least of their timeouts counts. -/
def ClusterDescription.sessionSupport (c : ClusterDescription) : SessionSupport :=
  .ofServers (c.servers.filter fun s => s.isSelectable && s.kind.isDataBearing)

end ClusterClient
