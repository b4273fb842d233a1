/-
  ClusterClient.Datum — configuration as it is read, whatever it was written in.

  A datum keeps what readers ask about: its shape, and for numbers whether they are whole. How
  wide a number was stored is forgotten. Readers of whole numbers, texts, lists and records are
  collected here; a reader of an optional setting takes a missing and a null setting alike.
-/
import ClusterClient.Document
import ClusterClient.Document.Moment
import ClusterClient.InvalidArgument
import ClusterClient.Text.Quoted

namespace ClusterClient

/-- A piece of configuration. -/
inductive Datum where
  | null
  | boolean (b : Bool)
  | integer (n : Int)
  /-- A number written with a fraction or an exponent. -/
  | real
  | text (s : String)
  | list (items : List Datum)
  | record (fields : List (String × Datum))
  /-- What no reader takes. -/
  | other
  deriving Inhabited

/-- A set of tags: texts under texts, by key in ascending order. -/
abbrev TagSet := List (String × String)

/-- Why configuration is refused. -/
inductive DecodeError where
  /-- A value has the wrong shape, is out of range, or is missing. -/
  | shape
  | argument (reason : InvalidArgument)
  | unknownMode (mode : String)
  /-- The primary was asked for, but with tag sets. -/
  | primaryWithTags (tagSets : List TagSet)
  deriving Repr, DecidableEq

namespace Datum

/-! ## §1. Documents as configuration -/

mutual

/-- A stored value as a datum. Identifiers and moments are records with one dollar key; bytes are
    taken for the text that they are the UTF-8 form of. -/
def ofValue : Value → Datum
  | .null => .null
  | .boolean b => .boolean b
  | .int32 n => .integer n.toInt
  | .int64 n => .integer n.toInt
  | .double _ => .real
  | .text s => .text s
  | .document fields => .record (ofFields fields)
  | .array items => .list (ofItems items)
  | .objectId bytes => .record [("$oid", .text (Text.hexBytes bytes))]
  | .dateTime millis =>
    .record [("$date", match Moment.text? millis.toInt with
      | some s => .text s
      | none => .record [("$numberLong", .text (toString millis.toInt))])]
  | .binary bytes =>
    match Text.ofUtf8? bytes with
    | some s => .text s
    | none => .other
  | .uuid _ => .other

/-- The fields of a document. -/
def ofFields : List (String × Value) → List (String × Datum)
  | [] => []
  | f :: rest => ofField f :: ofFields rest

/-- One field. -/
def ofField : String × Value → String × Datum
  | (key, v) => (key, ofValue v)

/-- The items of an array. -/
def ofItems : List Value → List Datum
  | [] => []
  | v :: rest => ofValue v :: ofItems rest

end

/-! ## §2. Readers -/

/-- A whole number below a bound. -/
def natural (bound : Nat) : Datum → Except DecodeError Nat
  | .integer n => if 0 ≤ n ∧ n < bound then .ok n.toNat else .error .shape
  | _ => .error .shape

/-- A 32-bit count. -/
def count32 : Datum → Except DecodeError Nat := natural UInt32.size

/-- A 64-bit number of milliseconds. -/
def millis64 : Datum → Except DecodeError Nat := natural UInt64.size

/-- Yes or no. -/
def flag : Datum → Except DecodeError Bool
  | .boolean b => .ok b
  | _ => .error .shape

/-- A text. -/
def string : Datum → Except DecodeError String
  | .text s => .ok s
  | _ => .error .shape

/-- A list whose items are read in order. -/
def listOf {α : Type} (item : Datum → Except DecodeError α) : Datum → Except DecodeError (List α)
  | .list items => items.mapM item
  | _ => .error .shape

/-- The first value under a key. -/
def lookup (fields : List (String × Datum)) (key : String) : Option Datum :=
  (fields.find? (·.1 = key)).map (·.2)

/-- A setting that may be missing or null. -/
def optional {α : Type} (fields : List (String × Datum)) (key : String)
    (read : Datum → Except DecodeError α) : Except DecodeError (Option α) :=
  match lookup fields key with
  | none => .ok none
  | some .null => .ok none
  | some d => (read d).map some

/-- What is read from the fields of a record. A list stands for a record when it has exactly one
    item for each of the keys, in their order; what is wrong with an item counts before the
    length. -/
def ofRecord {α : Type} (keys : List String)
    (read : List (String × Datum) → Except DecodeError α) : Datum → Except DecodeError α
  | .record fields => read fields
  | .list items => do
    let a ← read (keys.zip items)
    if items.length = keys.length then .ok a else .error .shape
  | _ => .error .shape

/-- The name of an alternative without data: a text, or a record with this one key and null. -/
def alternative? : Datum → Option String
  | .text s => some s
  | .record [(key, .null)] => some key
  | _ => none

end Datum

/-! ## §3. Tag sets -/

namespace TagSet

/-- Puts a tag into its place in the order of keys; an old value of the key is replaced. -/
def insert (tag : String × String) : TagSet → TagSet
  | [] => [tag]
  | t :: rest =>
    if tag.1 = t.1 then tag :: rest
    else if tag.1 < t.1 then tag :: t :: rest
    else t :: insert tag rest

/-- The set of the given tags. -/
def ofList (tags : List (String × String)) : TagSet :=
  tags.foldl (fun set tag => insert tag set) []

/-- The value of a tag. -/
def value? (set : TagSet) (key : String) : Option String :=
  (List.find? (fun t => t.1 = key) set).map (·.2)

/-- A set of tags from a record of texts. -/
def read : Datum → Except DecodeError TagSet
  | .record fields => do
    let tags ← fields.mapM fun f => do
      let v ← Datum.string f.2
      pure (f.1, v)
    pure (ofList tags)
  | _ => .error .shape

/-- The tags in braces, key and value quoted. -/
def shown (set : TagSet) : String :=
  Text.braced (set.map fun t => Text.quoted t.1 ++ ": " ++ Text.quoted t.2)

end TagSet

end ClusterClient
