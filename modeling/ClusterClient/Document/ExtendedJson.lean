/-
  ClusterClient.Document.ExtendedJson — documents as one line of relaxed extended JSON.

  Numbers, texts, booleans and null are plain JSON; what JSON has no form for is an object with
  one key that starts with a dollar sign. No spaces are written. Unique identifiers are written
  by the names that the caller gives them.
-/
import ClusterClient.Document
import ClusterClient.Document.Moment
import ClusterClient.Text.Json

namespace ClusterClient.ExtendedJson

/-- An object from written members. -/
def object (members : List String) : String :=
  "\x7b" ++ ",".intercalate members ++ "\x7d"

/-- One member of an object from its written value. -/
def member (key value : String) : String :=
  Text.jsonText key ++ ":" ++ value

/-- A double: a number when it is finite. -/
def double (bits : UInt64) : String :=
  match Double.meaning bits with
  | .finite negative m q => Double.render negative m q
  | .infinite negative =>
    object [member "$numberDouble" (Text.jsonText (if negative then "-Infinity" else "Infinity"))]
  | .notANumber negative =>
    object [member "$numberDouble" (Text.jsonText (if negative then "-NaN" else "NaN"))]

/-- A moment: a date and time from 1970 to 9999, its milliseconds otherwise. -/
def dateTime (millis : Int64) : String :=
  object [member "$date" (match Moment.text? millis.toInt with
    | some s => Text.jsonText s
    | none => object [member "$numberLong" (Text.jsonText (toString millis.toInt))])]

mutual

/-- The text of a value; `name` names identifiers. -/
def render (name : Nat → String) : Value → String
  | .null => "null"
  | .boolean b => if b then "true" else "false"
  | .int32 n => toString n.toInt
  | .int64 n => toString n.toInt
  | .double bits => double bits
  | .text s => Text.jsonText s
  | .document fields => object (renderFields name fields)
  | .array items => "[" ++ ",".intercalate (renderItems name items) ++ "]"
  | .objectId bytes => object [member "$oid" (Text.jsonText (Text.hexBytes bytes))]
  | .dateTime millis => dateTime millis
  | .binary bytes =>
    object [member "$binary" (object
      [member "base64" (Text.jsonText (Text.base64 bytes)), member "subType" (Text.jsonText "00")])]
  | .uuid n => Text.jsonText (name n)

/-- The members of a document. -/
def renderFields (name : Nat → String) : List (String × Value) → List String
  | [] => []
  | f :: rest => renderField name f :: renderFields name rest

/-- One field. -/
def renderField (name : Nat → String) : String × Value → String
  | (key, v) => member key (render name v)

/-- The items of an array. -/
def renderItems (name : Nat → String) : List Value → List String
  | [] => []
  | v :: rest => render name v :: renderItems name rest

end

end ClusterClient.ExtendedJson
