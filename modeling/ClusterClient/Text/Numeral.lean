/-
  ClusterClient.Text.Numeral — whole numbers as texts.

  Decimal digits are the ten of ASCII. A signed number may carry one plus or minus sign; nothing
  else stands beside the digits, and there is at least one of them.
-/

namespace ClusterClient.Text

/-- Hexadecimal digits of a number in lower case, without leading zeros. -/
def hexadecimal (n : Nat) : String :=
  String.ofList (Nat.toDigits 16 n)

/-- Pads a text with zeros on the left. -/
def zeroPadded (width : Nat) (s : String) : String :=
  String.ofList (List.replicate (width - s.length) '0') ++ s

/-- The value of a text of decimal digits, all of them ASCII; none for the empty text. -/
def decimalDigits? : List Char → Option Nat
  | [] => none
  | cs => if cs.all Char.isDigit then some (cs.foldl (fun n c => 10 * n + (c.toNat - '0'.toNat)) 0)
          else none

/-- The value of decimal digits after an optional sign. -/
def signed? : List Char → Option Int
  | '-' :: digits => (decimalDigits? digits).map fun n => -(n : Int)
  | '+' :: digits => (decimalDigits? digits).map fun n => (n : Int)
  | digits => (decimalDigits? digits).map fun n => (n : Int)

/-- A number in 32 bits. -/
def int32? (s : String) : Option Int32 :=
  (signed? s.toList).bind fun n =>
    if Int32.minValue.toInt ≤ n ∧ n ≤ Int32.maxValue.toInt then some (Int32.ofInt n) else none

/-- A number in 64 bits. -/
def int64? (s : String) : Option Int64 :=
  (signed? s.toList).bind fun n =>
    if Int64.minValue.toInt ≤ n ∧ n ≤ Int64.maxValue.toInt then some (Int64.ofInt n) else none

end ClusterClient.Text
