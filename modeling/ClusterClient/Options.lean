/-
  ClusterClient.Options — how a client is set up.

  Every setting may be left out. Settings are kept as they were given; the value that counts is
  asked for by its own function.
-/
import ClusterClient.Error

namespace ClusterClient

/-- Settings of a client; times in milliseconds. -/
structure Options where
  /-- Where to start looking for servers. -/
  hosts : List Address
  /-- How long an operation waits for a server. -/
  selectionTimeout : Option Nat
  /-- How much slower than the fastest a suitable server may be. -/
  localThreshold : Option Nat
  /-- How many connections a pool lends at once. -/
  maxPoolSize : Option Nat
  /-- How long an operation waits for a connection; without limit if none. -/
  waitQueueTimeout : Option Nat
  /-- Whether writes are sent again after failures that allow it. -/
  retryWrites : Option Bool
  deriving Repr

namespace Options

/-! ## §1. What counts -/

/-- The settings of a client that was told nothing. -/
def default : Options := ⟨[Address.localhost], none, none, none, none, none⟩

def effectiveSelectionTimeout (o : Options) : Nat := o.selectionTimeout.getD 30000

def effectiveLocalThreshold (o : Options) : Nat := o.localThreshold.getD 15

def effectiveMaxPoolSize (o : Options) : Nat := o.maxPoolSize.getD 10

def effectiveRetryWrites (o : Options) : Bool := o.retryWrites.getD true

/-- Why a client cannot be set up so. -/
def refusal? (o : Options) : Option InvalidArgument :=
  if o.hosts.isEmpty then some .noHosts
  else if o.maxPoolSize = some 0 then some .emptyPool
  else none

/-- Whether the settings are the same, addresses being compared as addresses. -/
def same (a b : Options) : Bool :=
  a.hosts == b.hosts && a.selectionTimeout == b.selectionTimeout
    && a.localThreshold == b.localThreshold && a.maxPoolSize == b.maxPoolSize
    && a.waitQueueTimeout == b.waitQueueTimeout && a.retryWrites == b.retryWrites

/-! ## §2. Reading -/

/-- The keys of the settings in their order. -/
def keys : List String :=
  ["hosts", "serverSelectionTimeoutMS", "localThresholdMS", "maxPoolSize", "waitQueueTimeoutMS",
    "retryWrites"]

/-- An address from its text. -/
def readHost (d : Datum) : Except DecodeError Address := do
  let text ← Datum.string d
  match Address.parse? text with
  | some a => pure a
  | none => .error (.argument (.address text))

/-- The settings from configuration. Hosts may be missing, but they are not null. -/
def read : Datum → Except DecodeError Options := Datum.ofRecord keys fun fields => do
  let hosts ← match Datum.lookup fields "hosts" with
    | none => pure default.hosts
    | some d => Datum.listOf readHost d
  let selectionTimeout ← Datum.optional fields "serverSelectionTimeoutMS" Datum.millis64
  let localThreshold ← Datum.optional fields "localThresholdMS" Datum.millis64
  let maxPoolSize ← Datum.optional fields "maxPoolSize" Datum.count32
  let waitQueueTimeout ← Datum.optional fields "waitQueueTimeoutMS" Datum.millis64
  let retryWrites ← Datum.optional fields "retryWrites" Datum.flag
  pure ⟨hosts, selectionTimeout, localThreshold, maxPoolSize, waitQueueTimeout, retryWrites⟩

end Options

end ClusterClient
