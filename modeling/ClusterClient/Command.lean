/-
  ClusterClient.Command — what is sent to a server.

  The first field of a command names it. Before a command goes out on a connection it gets the
  session's identifier, and a router is told the read preference; nothing else about it changes.
-/
import ClusterClient.ReadPreference
import ClusterClient.Server

namespace ClusterClient

/-- A command for a database. -/
structure Command where
  name : String
  database : String
  /-- The preference that the command was routed by, if it reads. -/
  readPreference : Option ReadPreference
  body : Document

namespace Command

/-! ## §1. Commands -/

/-- The command in a document, named by the first key. -/
def of (database : String) (body : Document) : Command :=
  ⟨body.firstKey?.getD "", database, none, body⟩

/-- A command that reads. -/
def ofRead (database : String) (body : Document) (rp : ReadPreference) : Command :=
  { of database body with readPreference := some rp }

/-- Whether the command carries a transaction number. -/
def hasTxnNumber (c : Command) : Bool := Document.has c.body "txnNumber"

/-- Whether the deployment recognises the command when it comes twice: it carries a number, or it
    ends a transaction. -/
def isRetryable (c : Command) : Bool :=
  c.hasTxnNumber || c.name == "commitTransaction" || c.name == "abortTransaction"

/-! ## §2. Making ready -/

/-- The document that stands for a session. -/
def sessionDocument (id : Nat) : Document := [("id", .uuid id)]

/-- The command under a session. -/
def withSession (c : Command) (id : Nat) : Command :=
  { c with body := Document.put c.body "lsid" (.document (sessionDocument id)) }

/-- The command with the read preference in its body, if it has one that a router must be told:
    a primary is what a router takes without being told. -/
def withReadPreference (c : Command) : Command :=
  match c.readPreference with
  | some (.flexible mode options) =>
    let told := (ReadPreference.flexible mode options).toDocument
    { c with body := Document.put c.body "$readPreference" (.document told) }
  | _ => c

/-- The command as it goes out on a connection to a server of the given kind, under the session
    if there is one. -/
def prepare (c : Command) (session : Option Nat) (kind : ServerKind) : Command :=
  let c := match session with
    | some id => c.withSession id
    | none => c
  if kind = .router then c.withReadPreference else c

end Command

end ClusterClient
