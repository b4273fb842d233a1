/-
  ClusterClient.Operation — the operations of a client.

  Each operation is a command, or several, and what the reply to it means. Inserts take part in
  transactions: the first one of a transaction says that it starts, all of them carry its number.
  Outside a transaction an insert takes a number of its own where it may be sent twice. Ending a
  transaction in which nothing was sent is settled without a server.
-/
import ClusterClient.Attempt

namespace ClusterClient

open Run

/-! ## §1. Operations -/

/-- Documents to be inserted. -/
structure Insert where
  database : String
  collection : String
  documents : List Document
  /-- Whether the first document that cannot be written ends the insert. -/
  ordered : Bool
  documents_ne_nil : documents ≠ []

/-- A command of the caller's own. -/
structure RunCommand where
  database : String
  body : Document
  body_ne_nil : body ≠ []

/-- What a client can do. -/
inductive Operation where
  | insert (i : Insert)
  | runCommand (r : RunCommand)
  | dropCollection (database collection : String)
  | dropUser (database user : String)
  | commit
  | abort

/-- What comes of an operation. -/
inductive Outcome where
  | inserted (count : Nat)
  | reply (d : Document)
  | done

namespace Operation

/-- An insert, of at least one document. -/
def ofInsert (database collection : String) (documents : List Document) (ordered : Bool) :
    Except InvalidArgument Operation :=
  match documents with
  | [] => .error .noDocuments
  | d :: rest => .ok (.insert ⟨database, collection, d :: rest, ordered, by simp⟩)

/-- A command of the caller's own, with a name. -/
def ofCommand (database : String) (body : Document) : Except InvalidArgument Operation :=
  match body with
  | [] => .error .emptyCommand
  | f :: rest => .ok (.runCommand ⟨database, f :: rest, by simp⟩)

end Operation

/-! ## §2. Transaction fields -/

/-- A number in a command. -/
def txnNumberValue (n : Nat) : Value := .int64 (Int64.ofNat n)

/-- What an insert carries of its session. In a transaction that is its number, that it is not
    committed at once, and for the first command that it starts. Outside it is a fresh number, if
    the insert may be sent twice. -/
def putSessionFields (body : Document) (server : ServerDescription)
    (connection : ConnectionDescription) (x : SessionContext) : Act Document := do
  let c ← currentClient
  if x.inTransaction c then
    let body := match x.txnNumber? c with
      | some n => body.put "txnNumber" (txnNumberValue n)
      | none => body
    let starting := (x.session? c).map (·.transaction.state) = some .starting
    let body := if starting then Document.put body "startTransaction" (.boolean true) else body
    onClient (x.modify Session.markInProgress)
    return Document.put body "autocommit" (.boolean false)
  else if canRetryWrite c server connection x then
    let (number, c) := x.advance c
    onClient fun _ => c
    return match number with
      | some n => body.put "txnNumber" (txnNumberValue n)
      | none => body
  else return body

/-- What the end of a transaction carries: its number. -/
def putTransactionFields (body : Document) (x : SessionContext) : Act Document := do
  let body := match x.txnNumber? (← currentClient) with
    | some n => body.put "txnNumber" (txnNumberValue n)
    | none => body
  return Document.put body "autocommit" (.boolean false)

theorem sent_putSessionFields (body : Document) (server : ServerDescription)
    (connection : ConnectionDescription) (x : SessionContext) (r : Run) :
    ((putSessionFields body server connection x).on r).2.sent = r.sent := by
  simp only [putSessionFields, Act.on_bind, Act.on_ite]
  split
  · rfl
  · split <;> rfl

/-! ## §3. Execution -/

/-- What every insert of the documents carries. -/
def Insert.body (i : Insert) : Document :=
  [("insert", .text i.collection), ("documents", .array (i.documents.map Value.document)),
    ("ordered", .boolean i.ordered)]

/-- The insert as a request. -/
def Insert.request (i : Insert) (x : SessionContext) : Request Nat where
  create server connection := do
    return .of i.database (← putSessionFields i.body server connection x)
  create_silent server connection r := sent_putSessionFields _ server connection x r
  interpret reply _ := Document.insertedCount reply

/-- The end of a transaction as a request. -/
def endRequest (name : String) (x : SessionContext) : Request Document where
  create _ _ := do
    return .of "admin" (← putTransactionFields [(name, .int32 1)] x)
  create_silent _ _ _ := rfl
  interpret reply _ := Document.checkWriteConcern reply

/-- A write that only has to be acknowledged. -/
def acknowledged (b : Binding) (database : String) (body : Document) : Exec Outcome := do
  let _ ← performWrite b database body fun reply _ => Document.checkWriteConcern reply
  return .done

/-- Commits the transaction of the session. One in which nothing was sent is committed at once; a
    committed one may be committed again. Until the commit succeeds nothing changes. -/
def commitTransaction (b : Binding) : Exec Outcome := do
  let x := b.context
  match x.session? (← currentClient) with
  | none => throw (Error.of (.transaction .noSessionToCommit))
  | some session =>
    match session.transaction.state with
    | .starting =>
      onClient (x.modify (Session.markAs .committed))
      return .done
    | .inProgress | .committed =>
      let _ ← performRetryable b (endRequest "commitTransaction" x)
      onClient (x.modify (Session.markAs .committed))
      return .done
    | .none | .aborted => throw (Error.of (.transaction .notStarted))

/-- Aborts the transaction of the session. One in which nothing was sent is aborted at once; any
    other is aborted for the session whatever the servers answer. -/
def abortTransaction (b : Binding) : Exec Outcome := do
  let x := b.context
  match x.session? (← currentClient) with
  | none => throw (Error.of (.transaction .noSessionToAbort))
  | some session =>
    match session.transaction.state with
    | .starting =>
      onClient (x.modify (Session.markAs .aborted))
      return .done
    | .inProgress =>
      let _ ← ensuring (performRetryable b (endRequest "abortTransaction" x))
        (onClient (x.modify (Session.markAs .aborted)))
      return .done
    | .aborted => throw (Error.of (.transaction .abortedTwice))
    | .none | .committed => throw (Error.of (.transaction .notStarted))

/-- Executes an operation on a binding. -/
def Operation.execute (b : Binding) : Operation → Exec Outcome
  | .insert i => return .inserted (← performRetryable b (i.request b.context))
  | .runCommand r =>
    return .reply (← performRead b r.database r.body fun reply _ => .ok reply)
  | .dropCollection database collection => do
    let result ← observe (acknowledged b database [("drop", .text collection)])
    settle (ignoreNsNotFound result .done)
  | .dropUser database user => acknowledged b database [("dropUser", .text user)]
  | .commit => commitTransaction b
  | .abort => abortTransaction b

/-! ## §4. The executor -/

/-- Labels an error with which an operation of an active transaction failed on the way to the
    servers: the whole transaction can be run again. -/
def labelTransient (e : Error) (x : SessionContext) (c : Client) : Error :=
  if x.inTransaction c && (e.isNetwork || e.isTimeout) && !e.hasLabel Error.unknownCommitResult then
    e.addLabel Error.transientTransaction
  else e

/-- Executes an operation on a binding, labelling its error. -/
def executeLabelled (operation : Operation) (b : Binding) : Exec Outcome := do
  match ← observe (operation.execute b) with
  | .ok result => return result
  | .error e => throw (labelTransient e b.context (← currentClient))

/-- Whether the caller's preference is looked at. -/
def Operation.reads : Operation → Bool
  | .runCommand _ => true
  | _ => false

/-- Executes an operation for a caller, in the caller's session or in one of its own. In a
    transaction a caller reads from the primary only. -/
def perform (operation : Operation) (preference : ReadPreference) (session : Option SessionId) :
    Exec Outcome := do
  if operation.reads then
    let inTransaction := SessionContext.inTransaction ⟨session, false⟩ (← currentClient)
    if inTransaction && !preference.isPrimary then
      throw (Error.of (.notPrimaryInTransaction preference))
    withBinding preference session (executeLabelled operation)
  else withBinding .primary session (executeLabelled operation)

end ClusterClient
