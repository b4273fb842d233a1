/-
  ClusterClient.Session — sessions as operations use them, and the transactions in them.

  A session holds a server session until it ends. Transactions are started on it one after the
  other; each takes the next number of the server session. A session is started by a caller, or
  implicitly for a single operation, and then it has no transactions.
-/
import ClusterClient.ReadPreference
import ClusterClient.ServerSession
import ClusterClient.Error

namespace ClusterClient

/-! ## §1. Transactions -/

/-- How far a transaction is. -/
inductive TransactionState where
  | none
  /-- Started, but no command was sent in it. -/
  | starting
  | inProgress
  | committed
  | aborted
  deriving Repr, DecidableEq

/-- The state in answers. -/
def TransactionState.display : TransactionState → String
  | .none => "None"
  | .starting => "Starting"
  | .inProgress => "InProgress"
  | .committed => "Committed"
  | .aborted => "Aborted"

/-- How a transaction is run. -/
structure TransactionOptions where
  readPreference : Option ReadPreference
  deriving Repr, DecidableEq

/-- The options from configuration. -/
def TransactionOptions.read : Datum → Except DecodeError TransactionOptions :=
  Datum.ofRecord ["readPreference"] fun fields => do
    let rp ← Datum.optional fields "readPreference" ReadPreference.read
    pure ⟨rp⟩

/-- The latest transaction of a session. -/
structure Transaction where
  state : TransactionState
  options : Option TransactionOptions
  deriving Repr, DecidableEq

namespace Transaction

/-- Before the first transaction. -/
def idle : Transaction := ⟨.none, none⟩

/-- Whether commands run in the transaction. -/
def isActive (t : Transaction) : Bool :=
  match t.state with
  | .starting | .inProgress => true
  | _ => false

/-- A first command is being sent. -/
def markInProgress (t : Transaction) : Transaction :=
  if t.state = .starting then { t with state := .inProgress } else t

end Transaction

/-! ## §2. Sessions -/

/-- A session for operations. -/
structure Session where
  /-- The session of the deployment, until this one ends. -/
  server : Option ServerSession
  transaction : Transaction
  /-- Whether it was started for one operation. -/
  implicit : Bool
  /-- How long the deployment keeps it unused, in milliseconds. -/
  timeout : Nat
  /-- How many holders it has; it ends when the last one lets go. -/
  holders : Nat
  deriving Repr, DecidableEq

namespace Session

/-- A session with one holder. -/
def start (server : ServerSession) (timeout : Nat) (implicit : Bool) : Session :=
  ⟨some server, .idle, implicit, timeout, 1⟩

/-- The identifier that commands carry. -/
def id? (s : Session) : Option Nat := s.server.map (·.id)

/-- The number of the last transaction or retryable write; zero once ended. -/
def txnNumber (s : Session) : Nat := (s.server.map (·.txnNumber)).getD 0

def isEnded (s : Session) : Bool := s.server.isNone

def inTransaction (s : Session) : Bool := s.transaction.isActive

/-- The read preference of the active transaction. -/
def transactionReadPreference? (s : Session) : Option ReadPreference :=
  if s.transaction.isActive then s.transaction.options.bind (·.readPreference) else none

/-- Takes the next number, unless the session has ended. -/
def advance (s : Session) : Option (Nat × Session) :=
  s.server.map fun server =>
    let n := server.txnNumber + 1
    (n, { s with server := some { server with txnNumber := n } })

/-- Starts a transaction. -/
def startTransaction (s : Session) (options : Option TransactionOptions) :
    Except TransactionMisuse Session :=
  if s.implicit then .error .implicitSession
  else if s.transaction.isActive then .error .alreadyInProgress
  else
    match s.advance with
    | none => .error .endedSession
    | some (_, s) => .ok { s with transaction := ⟨.starting, options⟩ }

/-- A first command is being sent in the transaction. -/
def markInProgress (s : Session) : Session :=
  { s with transaction := s.transaction.markInProgress }

/-- The transaction has reached a state. -/
def markAs (state : TransactionState) (s : Session) : Session :=
  { s with transaction := { s.transaction with state := state } }

/-- The network failed under the session. -/
def markDirty (s : Session) : Session :=
  { s with server := s.server.map fun server => { server with dirty := true } }

/-- The session is being used. -/
def touch (now : Nat) (s : Session) : Session :=
  { s with server := s.server.map fun server => { server with lastUse := now } }

end Session

end ClusterClient
