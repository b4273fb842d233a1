/-
  ClusterClient.Event — what a client tells about its work.

  Every event has a target, a level, a message and named fields. Times are not among the fields,
  so the events of a run are determined by the run.
-/
import ClusterClient.Command
import ClusterClient.Error

namespace ClusterClient

/-- Something the client did. -/
inductive Event where
  | descriptionUpdated (s : ServerDescription)
  | selectionStarted (criteria : Criteria)
  | selectionSucceeded (criteria : Criteria) (server : Address)
  | selectionWaiting (criteria : Criteria)
  | selectionFailed (criteria : Criteria) (cluster : ClusterDescription) (failure : Error)
  | connectionOpened (server : Address) (id : Nat)
  | connectionCheckedOut (server : Address) (id : Nat)
  | connectionCheckedIn (server : Address) (id : Nat)
  | connectionClosed (server : Address) (id : Nat)
  | commandStarted (command : Command) (server : Address) (connection : Nat)
  | commandSucceeded (name : String) (server : Address) (connection : Nat)
  | commandFailed (name : String) (server : Address) (connection : Nat) (failure : Error)
  | retryUnavailable (name : String) (failure : Error)
  | retryAbandoned (name : String) (server : Address)
  | retrying (name : String) (server : Address) (failure : Error)
  | retryFailed (name : String) (failure : Error)

namespace Event

/-- The value of a field. -/
inductive Field where
  | text (s : String)
  | number (n : Nat)
  | flag (b : Bool)
  | document (d : Document)

/-- The part of the client that tells of the event. -/
def target : Event → String
  | .descriptionUpdated _ | .selectionStarted _ | .selectionSucceeded _ _ | .selectionWaiting _
  | .selectionFailed _ _ _ => "mongodb_executor::server_selection"
  | .connectionOpened _ _ | .connectionCheckedOut _ _ | .connectionCheckedIn _ _
  | .connectionClosed _ _ => "mongodb_executor::connection"
  | _ => "mongodb_executor::command"

/-- Waiting is worth telling anyone, all else only those who look closely. -/
def level : Event → String
  | .selectionWaiting _ => "INFO"
  | _ => "DEBUG"

/-- What happened. -/
def message : Event → String
  | .descriptionUpdated _ => "Server description updated"
  | .selectionStarted _ => "Server selection started"
  | .selectionSucceeded _ _ => "Server selection succeeded"
  | .selectionWaiting _ => "Waiting for suitable server to become available"
  | .selectionFailed _ _ _ => "Server selection failed"
  | .connectionOpened _ _ => "Connection created"
  | .connectionCheckedOut _ _ => "Connection checked out"
  | .connectionCheckedIn _ _ => "Connection checked in"
  | .connectionClosed _ _ => "Connection closed"
  | .commandStarted _ _ _ => "Command started"
  | .commandSucceeded _ _ _ => "Command succeeded"
  | .commandFailed _ _ _ _ => "Command failed"
  | .retryUnavailable _ _ =>
    "Could not acquire a connection for the retry; returning the error from the first attempt"
  | .retryAbandoned _ _ =>
    "Retry abandoned: the selected server does not support retryable writes"
  | .retrying _ _ _ => "Retrying command"
  | .retryFailed _ _ => "Retry failed; returning the error from the first attempt"

/-- The fields that say which server. -/
def serverFields (a : Address) : List (String × Field) :=
  [("serverHost", .text a.host), ("serverPort", .number a.effectivePort.toNat)]

/-- The fields that say which connection. -/
def connectionFields (a : Address) (id : Nat) : List (String × Field) :=
  serverFields a ++ [("driverConnectionId", .number id)]

/-- The field that says what is looked for. -/
def selectorField (criteria : Criteria) : String × Field :=
  ("selector", .text criteria.display)

/-- The field that says what went wrong. -/
def failureField (e : Error) : String × Field := ("failure", .text e.display)

/-- The fields of the event. -/
def fields : Event → List (String × Field)
  | .descriptionUpdated s =>
    [("address", .text s.address.display), ("server_type", .text s.kind.display), ("ok", .flag s.ok)]
  | .selectionStarted criteria | .selectionWaiting criteria => [selectorField criteria]
  | .selectionSucceeded criteria server => selectorField criteria :: serverFields server
  | .selectionFailed criteria cluster failure =>
    [selectorField criteria, ("topologyDescription", .text cluster.display), failureField failure]
  | .connectionOpened server id | .connectionCheckedOut server id
  | .connectionCheckedIn server id => connectionFields server id
  | .connectionClosed server id =>
    connectionFields server id
      ++ [("reason", .text "An error occurred while using the connection")]
  | .commandStarted command server id =>
    [("command", .document command.body), ("databaseName", .text command.database),
      ("commandName", .text command.name)] ++ connectionFields server id
  | .commandSucceeded name server id =>
    ("commandName", .text name) :: connectionFields server id
  | .commandFailed name server id failure =>
    ("commandName", .text name) :: connectionFields server id ++ [failureField failure]
  | .retryUnavailable name failure | .retryFailed name failure =>
    [("commandName", .text name), failureField failure]
  | .retryAbandoned name server => ("commandName", .text name) :: serverFields server
  | .retrying name server failure =>
    ("commandName", .text name) :: serverFields server ++ [failureField failure]

end Event

end ClusterClient
