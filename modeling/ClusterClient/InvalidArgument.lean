/-
  ClusterClient.InvalidArgument — arguments that are refused before anything is tried.
-/
import ClusterClient.Text.Quoted

namespace ClusterClient

/-- Why an argument is refused. -/
inductive InvalidArgument where
  /-- The text is no server address. -/
  | address (text : String)
  /-- A cluster needs a host to start from. -/
  | noHosts
  /-- A pool without connections serves nobody. -/
  | emptyPool
  /-- Primaries are not told apart by tags. -/
  | tagsOnPrimary
  | noDocuments
  | emptyCommand
  deriving Repr, DecidableEq

/-- What is wrong with the argument. -/
def InvalidArgument.reason : InvalidArgument → String
  | .address text => "invalid server address: " ++ Text.quoted text
  | .noHosts => "at least one host must be specified"
  | .emptyPool => "max_pool_size must be positive"
  | .tagsOnPrimary =>
    "read preference tags can only be specified when a non-primary mode is specified"
  | .noDocuments => "no documents provided to insert"
  | .emptyCommand => "an empty document cannot be passed to a run_command operation"

end ClusterClient
