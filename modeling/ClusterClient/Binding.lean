/-
  ClusterClient.Binding — operations meet servers.

  A binding carries the session and the read preference of an operation. It leases *sources*,
  each a selected server together with the session, and sources lend connections. What is leased
  inside `withSource` and `withConnection` is given back whatever happens inside.
-/
import ClusterClient.Run

namespace ClusterClient

/-! ## §1. Bindings and sources -/

/-- What an operation is bound to. -/
structure Binding where
  preference : ReadPreference
  context : SessionContext
  /-- Whether the session ends with the binding. -/
  ownsSession : Bool

/-- A leased server, with the session of the operation that leased it. -/
structure Source where
  selected : Run.Selected
  context : SessionContext

/-- What a source is leased for. -/
inductive Intent where
  | read
  | write
  deriving Repr, DecidableEq

namespace Binding

open Run

/-- Binds an operation. Without a session of the caller one is started for the operation, if the
    deployment keeps sessions. -/
def bind (preference : ReadPreference) (session : Option SessionId) : Exec Binding := do
  let retryWrites := (← currentClient).options.effectiveRetryWrites
  match session with
  | some id =>
    onClient (·.holdSession id)
    return ⟨preference, ⟨some id, retryWrites⟩, false⟩
  | none =>
    let id ← openSession? true
    return ⟨preference, ⟨id, retryWrites⟩, true⟩

/-- Lets go of the session, and ends it if the binding owns it. -/
def unbind (b : Binding) : Act Unit :=
  match b.context.session with
  | none => return
  | some id => do
    if b.ownsSession then onClient (·.endSession id)
    onClient (·.dropSession id)

/-- The preference that counts: in a transaction that of the transaction, and there the primary
    unless it says otherwise. -/
def effectivePreference (b : Binding) (c : Client) : ReadPreference :=
  if b.context.inTransaction c then (b.context.transactionReadPreference? c).getD .primary
  else b.preference

/-- Leases a server by criteria. -/
def leaseSource (b : Binding) (criteria : Criteria) : Exec Source := do
  let selected ← select criteria
  let now := (← currentClient).now
  onClient (b.context.modify (·.touch now))
  onClient b.context.hold
  return ⟨selected, b.context⟩

/-- Leases a server. Reads in a transaction go to the primary or nowhere. -/
def source (b : Binding) : Intent → Exec Source
  | .write => b.leaseSource .writable
  | .read => do
    let c ← currentClient
    let preference := b.effectivePreference c
    if b.context.inTransaction c && !preference.isPrimary then
      throw (Error.of (.notPrimaryInTransaction preference))
    b.leaseSource (.readPreference preference)

end Binding

namespace Source

open Run

/-- Gives back the lease and lets go of the session. -/
def release (s : Source) : Act Unit := do
  Run.release s.selected.member
  onClient s.context.letGo

/-- A second lease of the same server. -/
def retain (s : Source) : Act Source := do
  onClient (·.lease s.selected.member)
  onClient s.context.hold
  return s

/-- Lends a connection of the server. -/
def connection (s : Source) : Exec Lease := checkOut s.selected.member

end Source

/-! ## §2. Scopes -/

namespace Run

/-- Works with a source and gives it back. -/
def withSource {α : Type} (b : Binding) (intent : Intent) (work : Source → Exec α) : Exec α := do
  let source ← b.source intent
  ensuring (work source) source.release

/-- Works with a connection and gives it back. -/
def withConnection {α : Type} (source : Source) (work : Lease → Exec α) : Exec α := do
  let lease ← source.connection
  ensuring (work lease) (checkIn lease)

/-- Works with a binding and lets go of it. -/
def withBinding {α : Type} (preference : ReadPreference) (session : Option SessionId)
    (work : Binding → Exec α) : Exec α := do
  let b ← Binding.bind preference session
  ensuring (work b) b.unbind

end Run

end ClusterClient
