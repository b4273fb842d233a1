/-
  ClusterClient.Selection — choosing the server for an operation.

  Selection goes through three sets. The *suitable* servers are those that the criteria and the
  kind of deployment admit. Those *in the window* are the suitable ones that answer about as fast
  as the fastest. Of these the one with the fewest operations in flight is *chosen*, the first by
  address if several have the fewest.
-/
import ClusterClient.Cluster
import ClusterClient.ReadPreference

namespace ClusterClient

/-! ## §1. Criteria -/

/-- Which servers an operation accepts. -/
inductive Criteria where
  | readPreference (rp : ReadPreference)
  | predicate (accepts : ServerDescription → Bool)

namespace Criteria

/-- Whoever may write. -/
def writable : Criteria := .readPreference .primary

/-- Any server that holds data. -/
def dataBearing : Criteria := .predicate (·.kind.isDataBearing)

/-- The server at an address. -/
def atAddress (a : Address) : Criteria := .predicate (·.address.same a)

/-- The verdict of a predicate on a server; a read preference has no verdict on one alone. -/
def accepts? : Criteria → ServerDescription → Option Bool
  | .readPreference _, _ => none
  | .predicate accepts, s => some (accepts s)

/-- Criteria are known to be the same when they are the same preference. -/
def same : Criteria → Criteria → Bool
  | .readPreference a, .readPreference b => decide (a = b)
  | _, _ => false

/-- The criteria for a reader. -/
def display : Criteria → String
  | .readPreference rp => "ReadPreference " ++ rp.display
  | .predicate _ => "Custom predicate"

/-- The criteria with the names of their parts. -/
def shown : Criteria → String
  | .readPreference rp => "ReadPreference(" ++ rp.shown ++ ")"
  | .predicate _ => "Predicate"

end Criteria

namespace ClusterDescription

/-! ## §2. Suitable servers -/

/-- The servers that operations can be routed to. -/
def selectable (c : ClusterDescription) : List ServerDescription :=
  c.servers.filter (·.isSelectable)

/-- Those of one kind. -/
def ofKind (c : ClusterDescription) (kind : ServerKind) : List ServerDescription :=
  c.selectable.filter (·.kind == kind)

/-- The servers that match the first tag set that any of them matches; none if none does. -/
def firstMatching (servers : List ServerDescription) : List TagSet → List ServerDescription
  | [] => []
  | tags :: rest =>
    let hits := servers.filter (·.matchesTags tags)
    if hits.isEmpty then firstMatching servers rest else hits

/-- The servers narrowed by tag sets. Without tag sets nothing is narrowed. -/
def narrow (tagSets : Option (List TagSet)) (servers : List ServerDescription) :
    List ServerDescription :=
  match tagSets with
  | none | some [] => servers
  | some tagSets => firstMatching servers tagSets

/-- Those members of a replica set that a read preference admits. When primaries are preferred,
    one is enough. -/
def suitableMembers (c : ClusterDescription) (rp : ReadPreference) : List ServerDescription :=
  let primaries := c.ofKind .primary
  let secondaries := narrow rp.tagSets? (c.ofKind .secondary)
  match rp with
  | .primary => primaries
  | .flexible .secondary _ => secondaries
  | .flexible .primaryPreferred _ =>
    match primaries with
    | first :: _ => [first]
    | [] => secondaries
  | .flexible .secondaryPreferred _ => if secondaries.isEmpty then primaries else secondaries
  | .flexible .nearest _ =>
    narrow rp.tagSets?
      (c.selectable.filter fun s => s.kind == .primary || s.kind == .secondary)

/-- The servers that the criteria admit. A read preference tells members of a replica set apart
    and nothing else; a predicate is asked about servers that hold data, and about any server of
    a deployment that has only one. -/
def suitable (c : ClusterDescription) : Criteria → List ServerDescription
  | .readPreference rp =>
    match c.kind with
    | .unknown => []
    | .single => c.ofKind .standalone
    | .sharded => c.ofKind .router
    | .replicaSetWithPrimary | .replicaSetNoPrimary => c.suitableMembers rp
  | .predicate accepts =>
    c.selectable.filter fun s => (c.kind == .single || s.kind.isDataBearing) && accepts s

/-! ## §3. The latency window -/

/-- The least measured round trip time. -/
def fastest? (servers : List ServerDescription) : Option Nat :=
  (servers.filterMap (·.roundTripTime)).min?

/-- The servers that are at most `threshold` slower than the fastest. When any is measured, those
    that are not are left out. -/
def withinWindow (threshold : Nat) (servers : List ServerDescription) : List ServerDescription :=
  match fastest? servers with
  | none => servers
  | some fastest => servers.filter fun s =>
      match s.roundTripTime with
      | some time => decide (time ≤ fastest + threshold)
      | none => false

/-- The suitable servers that answer about as fast as the fastest of them. -/
def inWindow (c : ClusterDescription) (criteria : Criteria) : List ServerDescription :=
  withinWindow c.localThreshold (c.suitable criteria)

/-! ## §4. The choice -/

/-- Whether the first candidate goes before the second: it has fewer operations in flight, or as
    many and the smaller address. -/
def goesBefore (a b : Nat × ServerDescription) : Bool :=
  decide (a.1 < b.1) || (a.1 == b.1 && a.2.address.order b.2.address == .lt)

/-- The candidate that goes before all others; of equals the first. -/
def leastLoaded? : List (Nat × ServerDescription) → Option (Nat × ServerDescription)
  | [] => none
  | a :: rest => some (rest.foldl (fun best b => if goesBefore b best then b else best) a)

/-- The server for an operation; `load` tells how many operations are in flight on a server that
    can be leased. -/
def choose? (c : ClusterDescription) (load : Address → Option Nat) (criteria : Criteria) :
    Option ServerDescription :=
  let candidates := (c.inWindow criteria).filterMap fun s => (load s.address).map fun n => (n, s)
  (leastLoaded? candidates).map (·.2)

/-- Why no server could be chosen. -/
def failureMessage (c : ClusterDescription) (criteria : Criteria) : String :=
  if c.hasSelectable then
    "Server selection timeout: None of the available servers suitable for criteria "
      ++ criteria.shown ++ ". Cluster: " ++ c.display
  else "Server selection timeout: No available servers. Cluster: " ++ c.display

end ClusterDescription

end ClusterClient
