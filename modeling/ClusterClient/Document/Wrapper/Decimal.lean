/-
  ClusterClient.Document.Wrapper.Decimal — texts of decimals with 34 digits.

  A decimal is stored as a number of at most 34 digits and a power of ten from -6176 to 6111. A
  text denotes one if it can be stored without rounding.
-/
import ClusterClient.Text.Numeral

namespace ClusterClient.Wrapper

/-- Leaves out that many digits at the end, which have to be zeros. -/
def withoutZeros (count : Nat) (digits : List Char) : Option (List Char) :=
  if count ≤ digits.length ∧ (digits.drop (digits.length - count)).all (· = '0') then
    some (digits.take (digits.length - count))
  else none

/-- The digits that a decimal is stored by. There are 34 at most, and the exponent is from -6176 to
    6111: zeros at the end are left out and put there to bring both into their range. -/
def storedDigits? (digits : List Char) (exponent : Int) : Option (List Char) := do
  let excess := digits.length - 34
  let digits ← withoutZeros excess digits
  let exponent := exponent + excess
  let digits ← withoutZeros (-6176 - exponent).toNat digits
  let missing := (exponent - 6111).toNat
  guard (exponent < 32768 ∧ (missing = 0 ∨ digits.length + missing ≤ 34))
  some (digits ++ List.replicate missing '0')

/-- Whether a text without sign denotes a finite decimal: digits with a point and an exponent of 16
    bits, both optional. No digits at all stand for zero, and a plus sign may stand before the first
    digit that is not zero. -/
def isFiniteDecimal (cs : List Char) : Bool :=
  let number := cs.takeWhile (· ≠ 'e')
  let power? := match cs.dropWhile (· ≠ 'e') with
    | [] => some 0
    | _ :: more => Text.signed? more
  let fraction := (number.dropWhile (· ≠ '.')).drop 1
  let digits := (number.takeWhile (· ≠ '.') ++ fraction).dropWhile (· = '0')
  match power? with
  | none => false
  | some power =>
    let exponent := power - fraction.length
    let inRange := power < 32768 && fraction.length < 32768 && -32768 ≤ exponent
    let isStored : Bool := match storedDigits? digits exponent with
      | some ('+' :: stored) => (Text.decimalDigits? stored).isSome
      | some stored => (Text.decimalDigits? stored).isSome
      | none => false
    inRange && (digits.isEmpty || isStored)

/-- Whether a text denotes a decimal: a finite one or one of the three that are not, in any case,
    after an optional sign. -/
def isDecimal (s : String) : Bool :=
  let unsigned := match s.toList.map Char.toLower with
    | '-' :: rest => rest
    | '+' :: rest => rest
    | cs => cs
  ["nan", "snan", "inf", "infinity"].contains (String.ofList unsigned) || isFiniteDecimal unsigned

end ClusterClient.Wrapper
