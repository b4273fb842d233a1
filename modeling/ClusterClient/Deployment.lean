/-
  ClusterClient.Deployment — the servers on the other side.

  A deployment is a script: for each address the replies that its server gives one after the
  other, whether it can be reached, and what it says of itself on new connections. A reply may
  come with changes of the deployment that the client hears of before it, and more may happen
  whenever the client waits for a server or for a connection.
-/
import ClusterClient.AddressMap
import ClusterClient.Error

namespace ClusterClient

/-- What a server answers to one command. -/
structure ScriptedReply where
  answer : Except Error Document
  /-- Descriptions published before the answer. -/
  updates : List ServerDescription
  /-- Servers that are gone before the answer. -/
  removals : List Address

namespace ScriptedReply

/-- The answer of a server without a script. -/
def success : ScriptedReply := ⟨.ok [("ok", .int32 1)], [], []⟩

end ScriptedReply

/-- What a server says of itself on a new connection. -/
structure ConnectionReport where
  kind : ServerKind
  maxWireVersion : Int32
  sessionTimeout : Option Nat
  deriving Repr

/-- A server that nobody has described. -/
def ConnectionReport.unknown : ConnectionReport := ⟨.unknown, 0, none⟩

/-- Something that happens while a client waits. -/
inductive Happening where
  | described (s : ServerDescription)
  | withdrawn (a : Address)
  | unreachable (a : Address) (e : Error)
  | reachable (a : Address)
  /-- Time goes by, in milliseconds. -/
  | elapsed (millis : Nat)

/-- The servers on the other side. -/
structure Deployment where
  replies : AddressMap (List ScriptedReply)
  /-- The error with which connecting fails. -/
  unreachable : AddressMap Error
  reports : AddressMap ConnectionReport
  /-- What happens during the waits to come, a list for each; after that nothing does. -/
  meanwhile : List (List Happening)

namespace Deployment

/-- Servers that answer everything with success. -/
def silent : Deployment := ⟨[], [], [], []⟩

/-- Opens a connection with a number. -/
def establish (d : Deployment) (a : Address) (id : Nat) : Except Error ConnectionDescription :=
  match d.unreachable.value? a with
  | some e => .error e
  | none =>
    let report := (d.reports.value? a).getD .unknown
    .ok ⟨a, report.kind, report.maxWireVersion, report.sessionTimeout, id⟩

/-- The next answer of a server. -/
def nextReply (d : Deployment) (a : Address) : ScriptedReply × Deployment :=
  match d.replies.value? a with
  | some (r :: rest) => (r, { d with replies := d.replies.put a rest })
  | _ => (.success, d)

/-- What happens during the next wait. -/
def nextWait (d : Deployment) : List Happening × Deployment :=
  match d.meanwhile with
  | [] => ([], d)
  | first :: rest => (first, { d with meanwhile := rest })

/-- A server says from now on what its description says. -/
def describe (d : Deployment) (s : ServerDescription) : Deployment :=
  { d with reports := d.reports.put s.address ⟨s.kind, s.maxWireVersion, s.sessionTimeout⟩ }

end Deployment

end ClusterClient
