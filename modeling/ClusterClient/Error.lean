/-
  ClusterClient.Error — what can go wrong, and what follows from it.

  An error is a cause with a set of labels. Two questions are asked of it independently: which
  category it belongs to, and whether a command that failed with it may be sent again. Both look
  at the code that a server gave and, for servers that speak only the old way, at the message.
-/
import ClusterClient.Selection

namespace ClusterClient

/-! ## §1. Causes -/

/-- How the network failed. -/
inductive NetworkFault where
  | connectionReset
  | connectionRefused
  | connectionAborted
  | notConnected
  | brokenPipe
  | timedOut
  | unexpectedEnd
  | wouldBlock
  | notFound
  | other
  deriving Repr, DecidableEq

/-- What a server says of a command that failed. -/
structure CommandFailure where
  code : Int32
  codeName : String
  message : String
  deriving Repr, DecidableEq

/-- What a server says of a write that was done but not acknowledged as asked. -/
structure WriteConcernFailure where
  code : Int32
  codeName : String
  message : String
  details : Option Document
  labels : List String

/-- What a server says of a document that was not written. -/
structure WriteFailure where
  code : Int32
  codeName : Option String
  message : String
  deriving Repr, DecidableEq

/-- A use of sessions and transactions that makes no sense. -/
inductive TransactionMisuse where
  | implicitSession
  | alreadyInProgress
  | endedSession
  | noSessionToCommit
  | noSessionToAbort
  | notStarted
  | abortedTwice
  deriving Repr, DecidableEq

/-- Why an operation failed. -/
inductive Cause where
  | invalidArgument (reason : InvalidArgument)
  /-- A document could not be read as what was expected. -/
  | undecodable
  /-- A value could not be written as a document. -/
  | unencodable
  | command (failure : CommandFailure)
  | writeConcern (failure : WriteConcernFailure)
  | write (failure : WriteFailure)
  | internal (message : String)
  /-- The network failed, with a message of its own or that of the fault. -/
  | network (fault : NetworkFault) (message : Option String)
  /-- A reply reports a failure that cannot be read. -/
  | invalidReply
  | notPrimaryInTransaction (rp : ReadPreference)
  /-- No server was chosen in time; the cluster is as last looked at. -/
  | noServer (criteria : Criteria) (cluster : ClusterDescription)
  | sessionsNotSupported
  | transaction (misuse : TransactionMisuse)
  /-- No connection of the pool became free in time. -/
  | poolExhausted (address : Address)

/-- A failure with its labels. Labels are a set: none occurs twice. -/
structure Error where
  cause : Cause
  labels : List String

/-! ## §2. Labels -/

namespace Error

/-- A network failure or timeout left a transaction in progress: it can be run again. -/
def transientTransaction : String := "TransientTransactionError"

/-- It is not known whether a transaction was committed. -/
def unknownCommitResult : String := "UnknownTransactionCommitResult"

/-- Whether the error has the label. -/
def hasLabel (e : Error) (label : String) : Bool := e.labels.contains label

/-- The error with a label. -/
def addLabel (e : Error) (label : String) : Error :=
  if e.hasLabel label then e else { e with labels := e.labels ++ [label] }

/-- The error with all of the labels. -/
def addLabels (e : Error) (labels : List String) : Error := labels.foldl addLabel e

/-- An error with the labels of a reply. A write concern failure brings its own. -/
def labelled (cause : Cause) (labels : List String) : Error :=
  let e := addLabels ⟨cause, []⟩ labels
  match cause with
  | .writeConcern failure => e.addLabels failure.labels
  | _ => e

/-- An error without labels from outside. -/
def of (cause : Cause) : Error := labelled cause []

/-- The labels in order. -/
def sortedLabels (e : Error) : List String :=
  e.labels.mergeSort fun a b => decide (a ≤ b)

end Error

/-! ## §3. Categories -/

/-- What kind of answer an error calls for. -/
inductive Category where
  | network
  | notWritablePrimary
  | nodeIsRecovering
  | writeConcern
  | namespaceNotFound
  | application
  | selectionTimeout
  deriving Repr, DecidableEq

/-- The category in messages. -/
def Category.display : Category → String
  | .network => "Network"
  | .notWritablePrimary => "NotWritablePrimary"
  | .nodeIsRecovering => "NodeIsRecovering"
  | .writeConcern => "WriteConcern"
  | .namespaceNotFound => "NamespaceNotFound"
  | .application => "Application"
  | .selectionTimeout => "SelectionTimeout"

/-- Whether a text stands somewhere in another. -/
def mentions (text part : String) : Bool :=
  go text.toList
where
  go : List Char → Bool
    | [] => part.toList.isEmpty
    | c :: rest => part.toList.isPrefixOf (c :: rest) || go rest

/-- The server shuts down, starts up or changes its role. -/
def isRecovering (code : Int32) (message : String) : Bool :=
  [11600, 11602, 13436, 189, 91].contains code
    || mentions message "not master or secondary" || mentions message "node is recovering"

/-- The server no longer takes writes. -/
def isNotWritablePrimary (code : Int32) (message : String) : Bool :=
  [10107, 13435].contains code
    || (!isRecovering code message && mentions message "not master")

/-- The collection does not exist. -/
def isNamespaceNotFound (code : Int32) (message : String) : Bool :=
  code == 26 || mentions message "ns not found"

/-- Codes of errors after which a command may be sent again. -/
def retryableCodes : List Int32 := [6, 7, 89, 91, 189, 9001, 13436, 13435, 11602, 11600, 10107]

/-- Whether a command may be sent again after a failure that the server reported. -/
def isRetryableFailure (code : Int32) (message : String) : Bool :=
  mentions message "not master" || mentions message "node is recovering"
    || retryableCodes.contains code

namespace Error

/-- The category of the error. -/
def category (e : Error) : Category :=
  match e.cause with
  | .network _ _ => .network
  | .noServer _ _ | .poolExhausted _ => .selectionTimeout
  | .writeConcern f =>
    if isNotWritablePrimary f.code f.message then .notWritablePrimary
    else if isRecovering f.code f.message then .nodeIsRecovering
    else .writeConcern
  | .command f =>
    if isNotWritablePrimary f.code f.message then .notWritablePrimary
    else if isRecovering f.code f.message then .nodeIsRecovering
    else if isNamespaceNotFound f.code f.message then .namespaceNotFound
    else .application
  | _ => .application

/-- The network failed. -/
def isNetwork (e : Error) : Bool :=
  match e.cause with
  | .network _ _ => true
  | _ => false

/-- A wait with a limit ran out. -/
def isTimeout (e : Error) : Bool :=
  match e.cause with
  | .noServer _ _ | .poolExhausted _ => true
  | .network fault _ => fault == .timedOut
  | _ => false

/-- Whether a command that failed so may be sent to a freshly selected server. -/
def isRetryable (e : Error) : Bool :=
  match e.cause with
  | .network _ _ => true
  | .command f => isRetryableFailure f.code f.message
  | .writeConcern f => isRetryableFailure f.code f.message
  | _ => false

/-- A command failed because the collection does not exist. -/
def isNsNotFound (e : Error) : Bool :=
  match e.cause with
  | .command f => isNamespaceNotFound f.code f.message
  | _ => false

/-- A server reported the failure. -/
def isServerError (e : Error) : Bool :=
  match e.cause with
  | .command _ | .writeConcern _ | .write _ => true
  | _ => false

/-- The code that a server gave. -/
def code? (e : Error) : Option Int32 :=
  match e.cause with
  | .command f => some f.code
  | .writeConcern f => some f.code
  | .write f => some f.code
  | _ => none

end Error

/-! ## §4. Messages -/

/-- The message of a fault that came without one. -/
def NetworkFault.message : NetworkFault → String
  | .connectionReset => "connection reset"
  | .connectionRefused => "connection refused"
  | .connectionAborted => "connection aborted"
  | .notConnected => "not connected"
  | .brokenPipe => "broken pipe"
  | .timedOut => "timed out"
  | .unexpectedEnd => "unexpected end of file"
  | .wouldBlock => "operation would block"
  | .notFound => "entity not found"
  | .other => "other error"

/-- What is wrong with the use of a transaction. -/
def TransactionMisuse.message : TransactionMisuse → String
  | .implicitSession => "cannot start a transaction on an implicit session"
  | .alreadyInProgress => "transaction already in progress"
  | .endedSession => "cannot start a transaction on an ended session"
  | .noSessionToCommit => "no session to commit a transaction on"
  | .noSessionToAbort => "no session to abort a transaction on"
  | .notStarted => "no transaction started"
  | .abortedTwice => "cannot call abortTransaction twice"

/-- A write concern failure with the names of its parts. The details are only said to be there. -/
def WriteConcernFailure.shown (f : WriteConcernFailure) : String :=
  "WriteConcernError(WriteConcernError \x7b code: " ++ toString f.code.toInt
    ++ ", code_name: " ++ Text.quoted f.codeName ++ ", message: " ++ Text.quoted f.message
    ++ ", details: " ++ Text.optional (f.details.map fun _ => "Document")
    ++ ", labels: " ++ Text.bracketed (f.labels.map Text.quoted) ++ " \x7d)"

/-- A write failure with the names of its parts. -/
def WriteFailure.shown (f : WriteFailure) : String :=
  "WriteError(WriteError \x7b code: " ++ toString f.code.toInt
    ++ ", code_name: " ++ Text.optional (f.codeName.map Text.quoted)
    ++ ", message: " ++ Text.quoted f.message ++ " \x7d)"

/-- What happened. -/
def Cause.message : Cause → String
  | .invalidArgument reason => "An invalid argument was provided: " ++ reason.reason
  | .undecodable => "the document has another shape"
  | .unencodable => "the value has no document form"
  | .command f =>
    "Command failed: Error code " ++ toString f.code.toInt ++ " (" ++ f.codeName ++ "): "
      ++ f.message
  | .writeConcern f => "An error occurred when trying to execute a write operation: " ++ f.shown
  | .write f => "An error occurred when trying to execute a write operation: " ++ f.shown
  | .internal message => "Internal error: " ++ message
  | .network fault message => "I/O error: " ++ message.getD fault.message
  | .invalidReply =>
    "The server returned an invalid reply to a database operation: invalid server response"
  | .notPrimaryInTransaction rp =>
    "Read preference in a transaction must be primary, but was " ++ rp.display
  | .noServer criteria cluster => cluster.failureMessage criteria
  | .sessionsNotSupported =>
    "Attempted to start a session on a deployment that does not support sessions"
  | .transaction misuse => misuse.message
  | .poolExhausted address =>
    "Timed out while checking out a connection from connection pool with address "
      ++ address.display

/-- The error for a reader: what happened, and the labels. -/
def Error.display (e : Error) : String :=
  "Kind: " ++ e.cause.message ++ ", labels: " ++ Text.braced (e.sortedLabels.map Text.quoted)

/-- What is said of configuration that is refused; nothing where only the shape is wrong. -/
def DecodeError.message? : DecodeError → Option String
  | .shape => none
  | .argument reason => some (Error.of (.invalidArgument reason)).display
  | .unknownMode mode => some ("Unknown read preference mode: " ++ mode)
  | .primaryWithTags tagSets =>
    some ("cannot specify options for primary read preference, got "
      ++ (ReadOptions.mk (some tagSets)).shown)

end ClusterClient
