/-
  ClusterClient.Server — what is known about one server.

  A description is what the last look at a server told. Whether the server can be selected, holds
  data and supports retryable writes is read off it.
-/
import ClusterClient.Address
import ClusterClient.Datum

namespace ClusterClient

/-! ## §1. Kinds and states -/

/-- The role of a server in its deployment. -/
inductive ServerKind where
  | standalone
  /-- A router in front of a sharded deployment. -/
  | router
  | primary
  | secondary
  | arbiter
  /-- A member of a replica set in a passing state. -/
  | other
  /-- A member that is not in a set yet. -/
  | ghost
  | unknown
  deriving Repr, DecidableEq

/-- How far the connection to a server is. -/
inductive ConnectionState where
  | connected
  | connecting
  | unknown
  deriving Repr, DecidableEq

namespace ServerKind

/-- Servers that hold data or route to it. -/
def isDataBearing : ServerKind → Bool
  | .standalone | .router | .primary | .secondary => true
  | _ => false

/-- Servers that may answer a write that is sent again. -/
def isRetryCapable : ServerKind → Bool
  | .standalone | .unknown => false
  | _ => true

/-- The kind in messages. -/
def display : ServerKind → String
  | .standalone => "Standalone"
  | .router => "Mongos"
  | .primary => "RsPrimary"
  | .secondary => "RsSecondary"
  | .arbiter => "RsArbiter"
  | .other => "RsOther"
  | .ghost => "RsGhost"
  | .unknown => "Unknown"

/-- The kind from its name in configuration. -/
def ofName? : String → Option ServerKind
  | "Standalone" => some .standalone
  | "Mongos" => some .router
  | "RSPrimary" => some .primary
  | "RSSecondary" => some .secondary
  | "RSArbiter" => some .arbiter
  | "RSOther" => some .other
  | "RSGhost" => some .ghost
  | "Unknown" => some .unknown
  | _ => none

end ServerKind

namespace ConnectionState

/-- The state in messages. -/
def display : ConnectionState → String
  | .connected => "Connected"
  | .connecting => "Connecting"
  | .unknown => "Unknown"

/-- The state from its name in configuration. -/
def ofName? : String → Option ConnectionState
  | "Connected" => some .connected
  | "Connecting" => some .connecting
  | "Unknown" => some .unknown
  | _ => none

end ConnectionState

/-! ## §2. Descriptions -/

/-- What is known about one server. -/
structure ServerDescription where
  address : Address
  kind : ServerKind
  /-- Whether the last look at the server succeeded. -/
  ok : Bool
  state : ConnectionState
  hosts : List Address
  passives : List Address
  setName : Option String
  electionId : Option (List UInt8)
  setVersion : Option Int32
  maxWireVersion : Int32
  /-- In microseconds; none if it was never measured. -/
  roundTripTime : Option Nat
  /-- How long the server keeps an unused session, in milliseconds; none without sessions. -/
  sessionTimeout : Option Nat
  tags : TagSet
  deriving Repr

namespace ServerDescription

/-- The placeholder for a server nobody has looked at. -/
def placeholder (address : Address) : ServerDescription where
  address := address
  kind := .unknown
  ok := false
  state := .connecting
  hosts := []
  passives := []
  setName := none
  electionId := none
  setVersion := none
  maxWireVersion := 0
  roundTripTime := none
  sessionTimeout := none
  tags := []

/-- Whether the server's role is known. -/
def isAvailable (s : ServerDescription) : Bool := s.kind != .unknown

/-- Whether operations can be routed to the server. -/
def isSelectable (s : ServerDescription) : Bool :=
  s.ok && s.state == .connected && s.isAvailable

/-- Whether the server has all tags of the set, with these values. -/
def matchesTags (s : ServerDescription) (tags : TagSet) : Bool :=
  tags.all fun t => s.tags.value? t.1 == some t.2

/-- The oldest wire protocol in which a write can be sent again safely. -/
def retryableWritesWireVersion : Int32 := 6

/-- Whether a write to this server can be sent again safely. -/
def supportsRetryableWrites (s : ServerDescription) : Bool :=
  s.kind.isRetryCapable && s.sessionTimeout.isSome
    && decide (retryableWritesWireVersion ≤ s.maxWireVersion)

end ServerDescription

/-! ## §3. Connections -/

/-- What a server says about itself on one connection. It does not change afterwards. -/
structure ConnectionDescription where
  address : Address
  kind : ServerKind
  maxWireVersion : Int32
  /-- In milliseconds. -/
  sessionTimeout : Option Nat
  /-- The number that the pool gave to the connection. -/
  id : Nat
  deriving Repr

/-- Whether a write can be sent again safely on the connection. -/
def ConnectionDescription.supportsRetryableWrites (c : ConnectionDescription) : Bool :=
  c.kind.isRetryCapable
    && decide (ServerDescription.retryableWritesWireVersion ≤ c.maxWireVersion)

end ClusterClient
