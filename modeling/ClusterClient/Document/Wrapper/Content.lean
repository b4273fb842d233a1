/-
  ClusterClient.Document.Wrapper.Content — what type wrappers hold.

  Each wrapper key has a reader for what stands under it. Some kinds of values are written as a
  text, others as a document of fixed keys, for which an array of the fields in their order will
  do as well. Kinds that have no place in `Value`, such as symbols and timestamps, are only looked
  at and stay in their wrappers.
-/
import ClusterClient.Document
import ClusterClient.Document.Moment
import ClusterClient.Document.Wrapper.Decimal
import ClusterClient.Double.Decimal

namespace ClusterClient.Wrapper

/-! ## §1. Kinds of values -/

/-- The values of a document that has exactly these keys, or as many items from the front of an
    array. -/
def parts? (keys : List String) : Value → Option (List Value)
  | .document fields =>
    if fields.length = keys.length then keys.mapM (Document.value? fields) else none
  | .array items => if keys.length ≤ items.length then some (items.take keys.length) else none
  | _ => none

/-- The twelve bytes of an identifier in hexadecimal. -/
def hexIdentifier? (v : Value) : Option (List UInt8) := do
  let bytes ← Text.bytesOfHex? (← v.text?)
  if bytes.length = 12 then some bytes else none

/-- The twelve bytes of an identifier, in hexadecimal or as they are. -/
def identifier? : Value → Option (List UInt8)
  | .binary bytes => if bytes.length = 12 then some bytes else none
  | v => hexIdentifier? v

/-- The bytes of a binary value: in base 64, beside a kind of one byte in hexadecimal. -/
def bytes? (v : Value) : Option (List UInt8) :=
  match parts? ["base64", "subType"] v with
  | some [content, kind] => do
    let bytes ← Text.bytesOfBase64? (← content.text?)
    let kind ← Text.bytesOfHex? (← kind.text?)
    if kind.length = 1 then some bytes else none
  | _ => none

/-- The bytes of a unique identifier: 32 hexadecimal digits, or groups of 8, 4, 4, 4 and 12 with
    hyphens between them, alone, in braces or behind their scheme in any case. -/
def uuid? (v : Value) : Option (List UInt8) := do
  let cs := (← v.text?).toList
  let urn := "urn:uuid:".toList
  let grouped :=
    if urn.isPrefixOf (cs.map Char.toLower) then cs.drop urn.length
    else if cs.head? = some '\x7b' ∧ cs.getLast? = some '\x7d' then (cs.drop 1).dropLast
    else cs
  let groups := [grouped.take 8, (grouped.drop 9).take 4, (grouped.drop 14).take 4,
    (grouped.drop 19).take 4, grouped.drop 24]
  let bytes ← Text.bytesOfHex? (String.ofList
    (if grouped = ['-'].intercalate groups then groups.flatten else cs))
  if bytes.length = 16 then some bytes else none

/-- The milliseconds of a moment: a number under `$numberLong`, which alone in an array will do,
    a date and time, or a number. -/
def moment? : Value → Option Int64
  | .document [("$numberLong", n)] => n.text?.bind Text.int64?
  | .array [n] => n.text?.bind Text.int64?
  | v =>
    match v.text? with
    | some s => (Moment.ofText? s).map Int64.ofInt
    | none => v.integer?

/-- Two whole numbers of 32 bits without sign. -/
def isTimestamp (v : Value) : Bool :=
  match parts? ["t", "i"] v with
  | some parts => parts.all fun part => part.natural?.any (· < UInt32.size)
  | none => false

/-- An identifier in its wrapper, or as it is stored. -/
def isIdentifier : Value → Bool
  | .objectId _ => true
  | v =>
    match parts? ["$oid"] v with
    | some [id] => (hexIdentifier? id).isSome
    | _ => false

/-- A collection and an identifier. -/
def isPointer (v : Value) : Bool :=
  match parts? ["$ref", "$id"] v with
  | some [collection, id] => collection.text?.isSome && isIdentifier id
  | _ => false

/-- A pattern and its options. -/
def isPattern (v : Value) : Bool :=
  match parts? ["pattern", "options"] v with
  | some parts => parts.all (·.text?.isSome)
  | none => false

/-- Sixteen bytes, as such, as numbers, or as the UTF-8 form of a text. -/
def isDecimalBytes : Value → Bool
  | .binary bytes => bytes.length = 16
  | .text s => s.utf8ByteSize = 16
  | .array items => items.length = 16 && items.all fun item => item.natural?.any (· < 256)
  | _ => false

/-! ## §2. Wrapper keys -/

/-- A reader for a kind of value that stays in its wrapper. -/
def kept (key : String) (holds : Value → Bool) : String × (Value → Option Value) :=
  (key, fun v => if holds v then some (.document [(key, v)]) else none)

/-- A key that the stored form of documents keeps for itself: nothing may stand under it. -/
def reserved (key : String) : String × (Value → Option Value) :=
  (key, fun _ => none)

/-- The wrapper keys that stand alone, and how what they hold is read. -/
def readers : List (String × (Value → Option Value)) :=
  [("$oid", fun v => (identifier? v).map .objectId),
    ("$numberInt", fun v => (v.text?.bind Text.int32?).map .int32),
    ("$numberLong", fun v => (v.text?.bind Text.int64?).map .int64),
    ("$numberDouble", fun v => (v.text?.bind Double.ofText?).map .double),
    ("$date", fun v => (moment? v).map .dateTime),
    ("$binary", fun v => (bytes? v).map .binary),
    ("$uuid", fun v => (uuid? v).map .binary),
    kept "$symbol" (·.text?.isSome),
    kept "$numberDecimal" (·.text?.any isDecimal),
    kept "$numberDecimalBytes" isDecimalBytes,
    kept "$timestamp" isTimestamp,
    kept "$regularExpression" isPattern,
    kept "$dbPointer" isPointer,
    kept "$minKey" (·.natural? == some 1),
    kept "$maxKey" (·.natural? == some 1),
    kept "$undefined" fun v => match v with
      | .boolean b => b
      | _ => false,
    reserved "$__private__bson_RawDocument",
    reserved "$__private__bson_RawArray"]

end ClusterClient.Wrapper
