/-
  ClusterClient.Search — looking for a server until there is one or time is up.

  A search goes through phases. It examines the newest snapshot of the cluster and remembers its
  version; without a server in it, it looks at the clock; if time is left it waits, until a
  version newer than the one it remembers is published or time is up, and examines again. So the
  last snapshot before a failure is always examined after the last wait.
-/
import ClusterClient.Client

namespace ClusterClient

/-- A search for a server. -/
inductive Search where
  /-- About to look at the newest snapshot. -/
  | examining
  /-- Nothing was found in the snapshot; about to look at the clock. -/
  | undecided (seen : Nat) (cluster : ClusterDescription)
  /-- Waiting for a version other than the one seen. -/
  | waiting (seen : Nat)
  | found (s : ServerDescription)
  /-- Time is up, and the snapshot has no server. -/
  | failed (cluster : ClusterDescription)

namespace Search

/-- One step of a search, in view of what the client knows now and of whether time is up. -/
def step (c : Client) (criteria : Criteria) (timeIsUp : Bool) : Search → Search
  | .examining =>
    match c.cluster.choose? c.load criteria with
    | some s => .found s
    | none => .undecided c.version c.cluster
  | .undecided seen cluster => if timeIsUp then .failed cluster else .waiting seen
  | .waiting seen => if c.version ≠ seen ∨ timeIsUp then .examining else .waiting seen
  | .found s => .found s
  | .failed cluster => .failed cluster

/-- Goes on until the search waits or is over. Three steps are enough: from a wait that has
    ended to the newest snapshot, to the clock, and to what follows. -/
def proceed (c : Client) (criteria : Criteria) (timeIsUp : Bool) (s : Search) : Search :=
  ((s.step c criteria timeIsUp).step c criteria timeIsUp).step c criteria timeIsUp

end Search

end ClusterClient
