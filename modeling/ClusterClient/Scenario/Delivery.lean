/-
  ClusterClient.Scenario.Delivery — commands of the caller's own.

  Such a command is sent once, to read or to write, or as a retryable request. The caller says how
  the reply is read: a decoder takes it as a document or as one number, and a transformer makes
  something else of a document.
-/
import ClusterClient.Attempt

namespace ClusterClient

/-! ## §1. Readings -/

/-- How a reply is decoded. -/
inductive ReplyDecoder where
  | document
  /-- Only the 32-bit number under `value`. -/
  | value

/-- What is done to a document. -/
inductive ReplyTransformer where
  | identity
  /-- A write concern failure in it becomes an error. -/
  | writeConcern
  /-- It is replaced by the number of its fields and the server it came from. -/
  | count

/-- What was read. -/
inductive Reading where
  | document (d : Document)
  | number (n : Int32)
  | text (s : String)

/-- What a decoder and a transformer make of a reply. -/
def Reading.interpretation : ReplyDecoder → ReplyTransformer → Interpretation Reading
  | .document, .identity, reply, _ => .ok (.document reply)
  | .document, .writeConcern, reply, _ => (Document.checkWriteConcern reply).map .document
  | .document, .count, reply, a =>
    .ok (.text (toString (List.length reply) ++ "@" ++ a.display))
  | .value, _, reply, _ =>
    match (Fields.named reply).required 0 ["value"] Value.code? with
    | some n => .ok (.number n)
    | none => .error (Error.of .undecodable)

/-! ## §2. Deliveries -/

/-- How the command of a retryable request is made, apart from its body. -/
structure Creation where
  /-- Descriptions that arrive while it is made. -/
  arrivals : List ServerDescription
  /-- Why it is not made. -/
  failure : Option Error
  /-- Whether it says for which server and connection it was made. -/
  stamped : Bool

namespace Creation

/-- The body with a field that says for which server and connection the command was made. -/
def stamp (server : ServerDescription) (connection : ConnectionDescription) (body : Document) :
    Document :=
  body.put "stamp" (.text (server.address.display ++ " " ++ toString connection.id ++ " "
    ++ toString connection.maxWireVersion.toInt))

/-- Makes the command. -/
def make (creation : Creation) (database : String) (body : Document)
    (server : ServerDescription) (connection : ConnectionDescription) : Exec Command := do
  Run.happenAll (creation.arrivals.map .described)
  match creation.failure with
  | some e => throw e
  | none =>
    return .of database (if creation.stamped then stamp server connection body else body)

theorem sent_make (creation : Creation) (database : String) (body : Document)
    (server : ServerDescription) (connection : ConnectionDescription) (r : Run) :
    ((creation.make database body server connection).on r).2.sent = r.sent := by
  rw [← Run.sent_happenAll (creation.arrivals.map .described) r]
  simp only [make, Exec.on_bind, Exec.on_lift]
  cases creation.failure <;> rfl

/-- A retryable request whose command is made so. -/
def request {α : Type} (creation : Creation) (database : String) (body : Document)
    (interpret : Interpretation α) : Request α where
  create := creation.make database body
  create_silent := creation.sent_make database body
  interpret := interpret

end Creation

/-- How often a command is sent, and where. -/
inductive Delivery where
  | read
  | write
  | retryable (creation : Creation)

/-- Sends a command and reads the reply. -/
def Delivery.perform {α : Type} (b : Binding) (database : String) (body : Document)
    (interpret : Interpretation α) : Delivery → Exec α
  | .read => performRead b database body interpret
  | .write => performWrite b database body interpret
  | .retryable creation => performRetryable b (creation.request database body interpret)

end ClusterClient
