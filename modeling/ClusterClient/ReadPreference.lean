/-
  ClusterClient.ReadPreference — which members of a replica set may serve a read.

  A preference is the primary, or one of four modes that admit secondaries and may be narrowed
  by tag sets. It is written to documents under `mode` and `tags` and read from configuration,
  where the mode may be in any case and the tag sets go under one of three keys.
-/
import ClusterClient.Datum
import ClusterClient.Document.Wrapper

namespace ClusterClient

/-! ## §1. Preferences -/

/-- Modes under which a secondary may serve. -/
inductive ReadMode where
  | secondary
  | primaryPreferred
  | secondaryPreferred
  | nearest
  deriving Repr, DecidableEq

/-- What narrows a mode further. -/
structure ReadOptions where
  /-- Tag sets in order of preference. -/
  tagSets : Option (List TagSet)
  deriving Repr, DecidableEq

/-- Who may serve a read. -/
inductive ReadPreference where
  | primary
  | flexible (mode : ReadMode) (options : Option ReadOptions)
  deriving Repr, DecidableEq

namespace ReadPreference

/-- The tag sets that narrow the choice. -/
def tagSets? : ReadPreference → Option (List TagSet)
  | .primary => none
  | .flexible _ options => options.bind (·.tagSets)

/-- Whether only the primary may serve. -/
def isPrimary : ReadPreference → Bool
  | .primary => true
  | .flexible _ _ => false

/-- The preference narrowed to these tag sets, which replace earlier ones. -/
def withTags (tagSets : List TagSet) : ReadPreference → Except InvalidArgument ReadPreference
  | .primary => .error .tagsOnPrimary
  | .flexible mode _ => .ok (.flexible mode (some ⟨some tagSets⟩))

/-! ## §2. Written forms -/

end ReadPreference

/-- The mode in documents. -/
def ReadMode.name : ReadMode → String
  | .secondary => "secondary"
  | .primaryPreferred => "primaryPreferred"
  | .secondaryPreferred => "secondaryPreferred"
  | .nearest => "nearest"

/-- The mode in messages. -/
def ReadMode.title : ReadMode → String
  | .secondary => "Secondary"
  | .primaryPreferred => "PrimaryPreferred"
  | .secondaryPreferred => "SecondaryPreferred"
  | .nearest => "Nearest"

/-- Tag sets in brackets. -/
def TagSet.shownAll (tagSets : List TagSet) : String :=
  Text.bracketed (tagSets.map TagSet.shown)

/-- A tag set as a document. A single tag that wraps a value of another kind is that value. -/
def TagSet.toValue (set : TagSet) : Value :=
  let plain := Value.document (set.map fun t => (t.1, .text t.2))
  match set with
  | [(key, text)] => (Wrapper.ofText? key text).getD plain
  | _ => plain

/-- The options with the names of their parts. -/
def ReadOptions.shown (options : ReadOptions) : String :=
  "ReadPreferenceOptions \x7b tag_sets: " ++ Text.optional (options.tagSets.map TagSet.shownAll)
    ++ " \x7d"

namespace ReadPreference

/-- The mode in documents. -/
def modeName : ReadPreference → String
  | .primary => "primary"
  | .flexible mode _ => mode.name

/-- The mode in messages. -/
def title : ReadPreference → String
  | .primary => "Primary"
  | .flexible mode _ => mode.title

/-- Mode and tag sets for a reader. -/
def display (rp : ReadPreference) : String :=
  let tags := match rp.tagSets? with
    | none => ""
    | some tagSets => ", Tag Sets: " ++ TagSet.shownAll tagSets
  "\x7b Mode: " ++ rp.title ++ tags ++ " \x7d"

/-- The preference with the names of all its parts. -/
def shown : ReadPreference → String
  | .primary => "Primary"
  | .flexible mode options =>
    mode.title ++ " \x7b options: " ++ Text.optional (options.map ReadOptions.shown) ++ " \x7d"

/-- The preference as a document. -/
def toDocument (rp : ReadPreference) : Document :=
  ("mode", .text rp.modeName) ::
    match rp.tagSets? with
    | none => []
    | some tagSets => [("tags", .array (tagSets.map TagSet.toValue))]

/-! ## §3. Reading -/

/-- The keys under which tag sets are found. -/
def tagKeys : List String := ["tagSets", "tag_sets", "tags"]

/-- The tag sets of a record: under one of their keys, and not under two. -/
def readTagSets (fields : List (String × Datum)) : Except DecodeError (Option (List TagSet)) :=
  match fields.filter fun f => tagKeys.contains f.1 with
  | [] => .ok none
  | [(_, .null)] => .ok none
  | [(_, d)] => (Datum.listOf TagSet.read d).map some
  | _ => .error .shape

/-- Whether tag sets say nothing: there are none, or the only one is empty. -/
def saysNothing : Option (List TagSet) → Bool
  | none => true
  | some [] => true
  | some [[]] => true
  | some _ => false

/-- A preference from a record. The mode is looked at only when all of the record has the right
    shape. -/
def read : Datum → Except DecodeError ReadPreference
  | .record fields => do
    let mode ← match Datum.lookup fields "mode" with
      | some d => Datum.string d
      | none => .error .shape
    let tagSets ← readTagSets fields
    let flexible (m : ReadMode) : Except DecodeError ReadPreference :=
      .ok (.flexible m (some ⟨tagSets⟩))
    match mode.toLower with
    | "primary" =>
      if saysNothing tagSets then .ok .primary
      else .error (.primaryWithTags (tagSets.getD []))
    | "secondary" => flexible .secondary
    | "primarypreferred" => flexible .primaryPreferred
    | "secondarypreferred" => flexible .secondaryPreferred
    | "nearest" => flexible .nearest
    | other => .error (.unknownMode other)
  | _ => .error .shape

/-- A preference from the exact name of its mode, without options. -/
def ofName? : String → Option ReadPreference
  | "primary" => some .primary
  | "secondary" => some (.flexible .secondary none)
  | "primaryPreferred" => some (.flexible .primaryPreferred none)
  | "secondaryPreferred" => some (.flexible .secondaryPreferred none)
  | "nearest" => some (.flexible .nearest none)
  | _ => none

end ReadPreference

end ClusterClient
