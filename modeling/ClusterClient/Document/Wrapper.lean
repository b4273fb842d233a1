/-
  ClusterClient.Document.Wrapper — values in type wrappers.

  Extended JSON gives a value that JSON has no form for as an object with a key of its own that
  starts with a dollar sign, its wrapper. Documents are taken for extended JSON at two places. A
  document that is read as a whole is searched for wrappers at every depth: the first wrapper key
  among the fields decides, the fields beside it are passed over, and a wrapper that holds
  something else than it should makes the document unreadable. A single text under a wrapper key
  is the value if the text denotes one, and stays a document otherwise.

  A value whose kind has no place in `Value` stays in its wrapper, without the fields beside it.
-/
import ClusterClient.Document.Wrapper.Content

namespace ClusterClient.Wrapper

/-! ## §1. Single texts -/

/-- The value that a text under a wrapper key denotes. Unique identifiers are left as texts. -/
def ofText? (key text : String) : Option Value :=
  if key = "$uuid" then none else (readers.lookup key).bind fun read => read (.text text)

/-! ## §2. Documents -/

/-- What a value stands for: a document proper, or another value, which may have been wrapped. -/
inductive Meaning where
  | document (fields : Document)
  | value (v : Value)

/-- The value itself. -/
def Meaning.toValue : Meaning → Value
  | .document fields => .document fields
  | .value v => v

/-- A field with what its value stands for, if that can be read. -/
structure Part where
  key : String
  value : Value
  meaning : Option Meaning

/-- Program code, which may come with its scope. -/
def code? (code : Value) (scope : Option (Option Meaning)) : Option Meaning :=
  match code.text?, scope with
  | some _, none => some (.value (.document [("$code", code)]))
  | some _, some (some (.document fields)) =>
    some (.value (.document [("$code", code), ("$scope", .document fields)]))
  | _, _ => none

/-- What a document of these fields stands for. -/
def assemble? : List Part → Option Meaning
  | [] => some (.document [])
  | part :: rest =>
    if part.key = "$code" then
      match rest with
      | [] => code? part.value none
      | next :: _ => if next.key = "$scope" then code? part.value (some next.meaning) else none
    else if part.key = "$scope" then
      match rest with
      | [] => none
      | next :: _ => if next.key = "$code" then code? next.value (some part.meaning) else none
    else
      match readers.lookup part.key with
      | some read => (read part.value).map .value
      | none =>
        match part.meaning, assemble? rest with
        | some meaning, some (.document fields) =>
          some (.document ((part.key, meaning.toValue) :: fields))
        | some _, some (.value v) => some (.value v)
        | _, _ => none

mutual

/-- What a value stands for; none if a wrapper in it cannot be read. -/
def meaning? : Value → Option Meaning
  | .document fields => assemble? (partsOf fields)
  | .array items => (itemsOf? items).map fun items => .value (.array items)
  | v => some (.value v)

/-- The fields of a document. -/
def partsOf : List (String × Value) → List Part
  | [] => []
  | f :: rest => partOf f :: partsOf rest

/-- One field. -/
def partOf : String × Value → Part
  | (key, v) => ⟨key, v, meaning? v⟩

/-- The items of an array. -/
def itemsOf? : List Value → Option (List Value)
  | [] => some []
  | v :: rest =>
    match meaning? v, itemsOf? rest with
    | some meaning, some items => some (meaning.toValue :: items)
    | _, _ => none

end

/-- The document proper that a value stands for, its wrapped values taken out. -/
def document? (v : Value) : Option Document :=
  match meaning? v with
  | some (.document fields) => some fields
  | _ => none

end ClusterClient.Wrapper
