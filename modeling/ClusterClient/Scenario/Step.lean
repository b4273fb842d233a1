/-
  ClusterClient.Scenario.Step — what can be done in a scenario, and what it answers.

  A scenario works with a client by hand. Sessions, bindings, sources and connections that a step
  makes are kept under names for later steps. Steps are about the deployment, about the client,
  or about what was made.
-/
import ClusterClient.Operation
import ClusterClient.Scenario.Delivery

namespace ClusterClient

/-! ## §1. Steps -/

/-- What is done to a session and cannot fail. -/
inductive SessionCall where
  | look
  | finish
  | markInProgress
  | markAs (state : TransactionState)

/-- What a call does to a session. -/
def SessionCall.apply (id : SessionId) : SessionCall → Client → Client
  | .look => fun c => c
  | .finish => (·.endSession id)
  | .markInProgress => (·.modifySession id Session.markInProgress)
  | .markAs state => (·.modifySession id (Session.markAs state))

/-- Where a session context is taken from. -/
inductive ContextOrigin where
  /-- No session, and nothing is sent again. -/
  | nowhere
  | source (name : String)
  | binding (name : String)
  | session (name : Option String) (retryWrites : Bool)

/-- A step of a scenario. -/
inductive Step where
  /-- A step that could not be read. -/
  | refused (e : DecodeError)
  | update (s : ServerDescription)
  | remove (a : Address)
  | cluster
  | server (a : Address)
  | report (a : Address) (r : ConnectionReport)
  | script (a : Address) (replies : List ScriptedReply)
  | unreachable (a : Address) (e : Error)
  | reachable (a : Address)
  /-- Selects a server while descriptions arrive. -/
  | select (rp : ReadPreference) (arrivals : List ServerDescription)
  | startSession (name : String)
  | cloneSession (session name : String)
  | dropSession (session : String)
  | callSession (session : String) (call : SessionCall)
  /-- The options may have been refused when they were read. -/
  | startTransaction (session : String)
      (options : Except DecodeError (Option TransactionOptions))
  | context (origin : ContextOrigin) (advance : Bool)
  | canRetryWrite (server : ServerDescription) (connection : ConnectionDescription)
      (origin : ContextOrigin)
  | bind (rp : ReadPreference) (session : Option String) (name : String)
  | binding (binding : String)
  | dropBinding (binding : String)
  | source (binding : String) (intent : Intent) (name : String)
  /-- Leases a number of sources at the same time, one after the other. -/
  | rotate (binding : String) (times : Nat)
  | retain (source name : String)
  | release (source : String)
  | connection (source name : String)
  /-- Lends a connection; another one is given back when lending has to wait. -/
  | connectionAfter (source dropped name : String)
  | dropConnection (connection : String)
  | command (connection : String) (command : Command) (origin : ContextOrigin)
  | perform (operation : Except InvalidArgument Operation) (rp : ReadPreference)
      (session : Option String)
  | execute (binding : String) (operation : Except InvalidArgument Operation)
  | deliver (binding : String) (delivery : Delivery) (database : String) (body : Document)
      (decoder : ReplyDecoder) (transformer : ReplyTransformer)

/-! ## §2. Answers -/

/-- What a session context says of itself. -/
structure ContextReport where
  /-- Whether it has a session that has not ended. -/
  hasSession : Bool
  /-- Whether it has a session at all. -/
  session : Bool
  id : Option Nat
  txnNumber : Option Nat
  active : Bool
  retryWrites : Bool
  readPreference : Option ReadPreference

/-- What a binding says of itself. -/
structure BindingReport where
  ownsSession : Bool
  readPreference : ReadPreference
  context : ContextReport

/-- What a step answers. -/
inductive Answer where
  | nothing
  /-- The step names what does not exist. -/
  | missing
  | failed (e : Error)
  | refused (e : DecodeError)
  | flag (b : Bool)
  | reading (r : Reading)
  | outcome (o : Outcome)
  | address (a : Address)
  | addresses (l : List Address)
  | kind (k : ClusterKind)
  | removed (known : Bool) (k : ClusterKind)
  | cluster (c : ClusterDescription)
  | member (s : Option ServerDescription) (hasPool : Bool)
  | server (s : ServerDescription)
  | chosen (s : ServerDescription)
  | connection (c : ConnectionDescription)
  | session (s : Session)
  | called (failure : Option Error) (s : Session)
  | context (x : ContextReport)
  | advanced (number : Option Nat) (x : ContextReport)
  | binding (b : BindingReport)

/-- The report of a context. -/
def SessionContext.report (x : SessionContext) (c : Client) : ContextReport where
  hasSession := x.hasSession c
  session := (x.session? c).isSome
  id := x.id? c
  txnNumber := x.txnNumber? c
  active := x.inTransaction c
  retryWrites := x.retryWrites
  readPreference := x.transactionReadPreference? c

/-- The report of a binding. -/
def Binding.report (b : Binding) (c : Client) : BindingReport where
  ownsSession := b.ownsSession
  readPreference := b.effectivePreference c
  context := b.context.report c

end ClusterClient
