/-
  ClusterClient.Document — ordered documents, the data of commands and replies.

  A document is a list of fields. Setting a field replaces it where it stands or appends it, so
  the fields of a command keep their order and the first field keeps naming the command.

  Main statements: `value?_put` and `value?_put_of_ne` (what a set field changes), `keys_put` (what
  it does to the order).
-/
import ClusterClient.Double
import ClusterClient.Text.Bytes

namespace ClusterClient

/-- The value of a field. -/
inductive Value where
  | null
  | boolean (b : Bool)
  | int32 (n : Int32)
  | int64 (n : Int64)
  /-- A 64-bit floating-point number by its bits. -/
  | double (bits : UInt64)
  | text (s : String)
  | document (fields : List (String × Value))
  | array (items : List Value)
  | objectId (bytes : List UInt8)
  /-- A moment, in milliseconds since 1970. -/
  | dateTime (millis : Int64)
  | binary (bytes : List UInt8)
  /-- A universally unique identifier. Only its identity matters, so it is a number. -/
  | uuid (n : Nat)
  deriving Inhabited

/-- Fields in order. -/
abbrev Document := List (String × Value)

namespace Document

/-! ## §1. Fields -/

/-- The value under a key. -/
def value? (d : Document) (key : String) : Option Value :=
  (List.find? (fun f => f.1 = key) d).map (·.2)

/-- Whether a field has the key. -/
def has (d : Document) (key : String) : Bool :=
  List.any d fun f => f.1 = key

/-- The keys in order. -/
def keys (d : Document) : List String := d.map (·.1)

/-- The first key. -/
def firstKey? (d : Document) : Option String := d.head?.map (·.1)

/-- Sets a field: in its place if the key is there, at the end otherwise. -/
def put (d : Document) (key : String) (v : Value) : Document :=
  match d with
  | [] => [(key, v)]
  | f :: rest => if f.1 = key then (key, v) :: rest else f :: put rest key v

@[simp] theorem value?_put (d : Document) (key : String) (v : Value) :
    value? (put d key v) key = some v := by
  induction d with
  | nil => simp [put, value?]
  | cons f rest ih =>
    by_cases h : f.1 = key
    · simp [put, value?, h]
    · simp only [put, h, if_false]
      simpa [value?, h] using ih

theorem value?_put_of_ne (d : Document) {key other : String} (v : Value) (h : other ≠ key) :
    value? (put d key v) other = value? d other := by
  induction d with
  | nil => simp [put, value?, h.symm]
  | cons f rest ih =>
    by_cases hf : f.1 = key
    · have hne : ¬ f.1 = other := fun e => h (e.symm.trans hf)
      simp [put, value?, hf, h.symm]
    · by_cases ho : f.1 = other
      · simp only [put, hf, if_false]
        simp [value?, ho]
      · simp only [put, hf, if_false]
        simpa [value?, ho] using ih

/-- A set key keeps its place, a new one comes last. -/
theorem keys_put (d : Document) (key : String) (v : Value) :
    keys (put d key v) = if key ∈ keys d then keys d else keys d ++ [key] := by
  induction d with
  | nil => simp [put, keys]
  | cons f rest ih =>
    by_cases hf : f.1 = key
    · simp [put, keys, hf]
    · have hne : key ≠ f.1 := fun e => hf e.symm
      simp only [put, hf, if_false]
      simp only [keys, List.map_cons] at ih ⊢
      rw [ih]
      by_cases hm : key ∈ rest.map (·.1)
      · simp [hm]
      · simp [hm, hne]

end Document

/-! ## §2. Readers -/

namespace Value

/-- The whole number a value stands for, whatever its width; a double may be off by the rounding
    unit of one. -/
def wholeNumber? : Value → Option Int64
  | .int32 n => some n.toInt64
  | .int64 n => some n
  | .double bits => Double.wholeNumber? bits
  | _ => none

/-- A whole number in 32 bits, however wide it was stored. Doubles are no whole numbers here. -/
def code? : Value → Option Int32
  | .int32 n => some n
  | .int64 n =>
    if Int32.minValue.toInt ≤ n.toInt ∧ n.toInt ≤ Int32.maxValue.toInt then some n.toInt32 else none
  | _ => none

/-- A whole number in 64 bits, however wide it was stored. -/
def integer? : Value → Option Int64
  | .int32 n => some n.toInt64
  | .int64 n => some n
  | _ => none

/-- A whole number that is not negative. -/
def natural? (v : Value) : Option Nat :=
  v.integer?.bind fun n => if 0 ≤ n.toInt then some n.toInt.toNat else none

/-- A text. Bytes are taken for the text that they are the UTF-8 form of. -/
def text? : Value → Option String
  | .text s => some s
  | .binary bytes => Text.ofUtf8? bytes
  | _ => none

/-- The items of an array, all of them read. -/
def listOf? {α : Type} (item : Value → Option α) : Value → Option (List α)
  | .array items => items.mapM item
  | _ => none

/-- A list of texts. -/
def texts? : Value → Option (List String) := listOf? text?

end Value

/-- Whether a reply reports success: its field `ok` is true or the number one. -/
def Document.isOk (reply : Document) : Bool :=
  match reply.value? "ok" with
  | some (.boolean b) => b
  | some v => v.wholeNumber? == some 1
  | none => false

end ClusterClient
