/-
  ClusterClient.Reply — what the server's replies say.

  A reply succeeds or reports that the command failed. A reply that succeeds may still report that
  documents were not written, or that the write was not acknowledged as asked. Readers here take a
  reply apart; one that they cannot read is an error of its own and never a success.
-/
import ClusterClient.Document.Wrapper
import ClusterClient.Error

namespace ClusterClient

/-! ## §1. Fields -/

/-- Fields by name, or by position when they come as an array. -/
inductive Fields where
  | named (d : Document)
  | positional (items : List Value)

namespace Fields

/-- The fields of a document or an array. -/
def ofValue? : Value → Option Fields
  | .document fields => some (.named fields)
  | .array items => some (.positional items)
  | _ => none

/-- The value of a field: under its name, or under the other one that it may go by, but not under
    both; or at its position. -/
def find (fs : Fields) (position : Nat) (names : List String) : Option (Option Value) :=
  match fs with
  | .positional items => some items[position]?
  | .named d =>
    match List.filter (fun f => names.contains f.1) d with
    | [] => some none
    | [f] => some (some f.2)
    | _ => none

/-- A field that must be there. -/
def required {α : Type} (fs : Fields) (position : Nat) (names : List String)
    (read : Value → Option α) : Option α :=
  match fs.find position names with
  | some (some v) => read v
  | _ => none

/-- A field that has a value when it is missing. If it is there it must be readable. -/
def defaulted {α : Type} (fs : Fields) (position : Nat) (names : List String) (fallback : α)
    (read : Value → Option α) : Option α :=
  match fs.find position names with
  | some (some v) => read v
  | some none => some fallback
  | none => none

/-- A field that may be missing or null. -/
def optional {α : Type} (fs : Fields) (position : Nat) (names : List String)
    (read : Value → Option α) : Option (Option α) :=
  match fs.find position names with
  | some (some .null) => some none
  | some (some v) => (read v).map some
  | some none => some none
  | none => none

/-- A field that may be null, and missing only when fields go by name. -/
def nullable {α : Type} (fs : Fields) (position : Nat) (names : List String)
    (read : Value → Option α) : Option (Option α) :=
  match fs, fs.find position names with
  | .positional _, some none => none
  | _, _ => fs.optional position names read

end Fields

/-! ## §2. Reported failures -/

/-- A failed command. -/
def CommandFailure.read? (fs : Fields) : Option CommandFailure := do
  let code ← fs.required 0 ["code"] Value.code?
  let codeName ← fs.defaulted 1 ["codeName"] "" Value.text?
  let message ← fs.defaulted 2 ["errmsg"] "" Value.text?
  pure ⟨code, codeName, message⟩

/-- A write that was not acknowledged as asked. -/
def WriteConcernFailure.read? (fs : Fields) : Option WriteConcernFailure := do
  let code ← fs.required 0 ["code"] Value.code?
  let codeName ← fs.defaulted 1 ["codeName"] "" Value.text?
  let message ← fs.defaulted 2 ["message", "errmsg"] "" Value.text?
  let details ← fs.nullable 3 ["errInfo"] Wrapper.document?
  let labels ← fs.defaulted 4 ["errorLabels"] [] Value.texts?
  pure ⟨code, codeName, message, details, labels⟩

/-- A document that was not written. -/
def WriteFailure.read? (fs : Fields) : Option WriteFailure := do
  let code ← fs.required 0 ["code"] Value.code?
  let codeName ← fs.optional 1 ["codeName"] Value.text?
  let message ← fs.defaulted 2 ["errmsg"] "" Value.text?
  pure ⟨code, codeName, message⟩

/-- A failure that stands in a field of its own. -/
def WriteConcernFailure.ofValue? (v : Value) : Option WriteConcernFailure :=
  (Fields.ofValue? v).bind read?

/-- A failure that stands in a list. -/
def WriteFailure.ofValue? (v : Value) : Option WriteFailure :=
  (Fields.ofValue? v).bind read?

/-- The labels of a reply; none when the field is missing or null. -/
def Document.errorLabels? (reply : Document) : Option (List String) :=
  ((Fields.named reply).optional 0 ["errorLabels"] Value.texts?).map (·.getD [])

/-! ## §3. Replies to commands -/

/-- The reply if it reports success, the reported failure otherwise. -/
def Document.validate (reply : Document) : Except Error Document :=
  if reply.isOk then .ok reply
  else
    match reply.errorLabels?, CommandFailure.read? (.named reply) with
    | some labels, some failure => .error (.labelled (.command failure) labels)
    | _, _ => .error (Error.of .invalidReply)

/-- The reply unless it reports a write concern failure. -/
def Document.checkWriteConcern (reply : Document) : Except Error Document :=
  let failure? := (Fields.named reply).optional 0 ["writeConcernError"] WriteConcernFailure.ofValue?
  match failure?, reply.errorLabels? with
  | some none, some _ => .ok reply
  | some (some failure), some labels => .error (.labelled (.writeConcern failure) labels)
  | _, _ => .error (Error.of .undecodable)

/-- What the reply to an insert reports. -/
structure InsertReport where
  inserted : Nat
  writeFailures : List WriteFailure
  writeConcern : Option WriteConcernFailure
  labels : List String

/-- The report in a reply. -/
def InsertReport.read? (reply : Document) : Option InsertReport := do
  let fs := Fields.named reply
  let inserted ← fs.defaulted 0 ["n"] 0 Value.natural?
  let writeFailures ← fs.optional 1 ["writeErrors"] (Value.listOf? WriteFailure.ofValue?)
  let writeConcern ← fs.optional 2 ["writeConcernError"] WriteConcernFailure.ofValue?
  let labels ← reply.errorLabels?
  pure ⟨inserted, writeFailures.getD [], writeConcern, labels⟩

/-- The number of documents inserted. Of several failures the first document that was not written
    counts, then the write concern. -/
def InsertReport.inserted? (report : InsertReport) : Except Error Nat :=
  match report.writeFailures, report.writeConcern with
  | failure :: _, _ => .error (.labelled (.write failure) report.labels)
  | [], some failure => .error (.labelled (.writeConcern failure) report.labels)
  | [], none => .ok report.inserted

/-- The number of documents that the reply to an insert reports. -/
def Document.insertedCount (reply : Document) : Except Error Nat :=
  match InsertReport.read? reply with
  | some report => report.inserted?
  | none => .error (Error.of .undecodable)

/-- A success in place of the error that the collection does not exist. -/
def ignoreNsNotFound {α : Type} (result : Except Error α) (fallback : α) : Except Error α :=
  match result with
  | .error e => if e.isNsNotFound then .ok fallback else .error e
  | .ok a => .ok a

end ClusterClient
