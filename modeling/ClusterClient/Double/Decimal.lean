/-
  ClusterClient.Double.Decimal — the double that a decimal is read as.

  A decimal is read as the nearest double, the even one if two are as near. The quotient of two
  natural numbers is rounded on the grid of its own size: with `2 ^ 52 ≤ m < 2 ^ 53` the grid has
  steps of `2 ^ q`, and below the smallest normal number steps of `2 ^ -1074`. The bits of doubles
  without sign are in the order of their sizes, so rounding up past a power of two, and past the
  last finite number to infinity, is a carry.
-/
import ClusterClient.Double
import ClusterClient.Text.Numeral

namespace ClusterClient.Double

/-! ## §1. Rounding -/

/-- The bits of infinity. -/
def infinityBits : Nat := 0x7FF * twoPow 52

/-- The bits of what is not a number. -/
def notANumberBits : Nat := infinityBits + twoPow 51

/-- The multiple of the divisor's unit next to a quotient, the even one if two are as near. -/
def roundedQuotient (n d : Nat) : Nat :=
  let m := n / d
  let rest := n % d
  if d < 2 * rest ∨ (2 * rest = d ∧ m % 2 = 1) then m + 1 else m

/-- The bits of the double nearest to `n / d`, both not zero. -/
def nearestQuotient (n d : Nat) : Nat :=
  let above (q : Int) : Nat := n * twoPow (-q)
  let below (q : Int) : Nat := d * twoPow q
  let guess : Int := (Nat.log2 n : Int) - Nat.log2 d - 52
  let normal := if above guess / below guess < twoPow 52 then guess - 1 else guess
  let q := max (-1074) normal
  let m := roundedQuotient (above q) (below q)
  if m < twoPow 52 then m else min infinityBits ((q + 1075).toNat * twoPow 52 + (m - twoPow 52))

/-- The bits of the double nearest to `d · 10 ^ i`. Sizes out of all range are decided by the
    number of digits. -/
def nearest (d : Nat) (i : Int) : Nat :=
  let size : Int := (Nat.toDigits 10 d).length + i
  if d = 0 ∨ size < -330 then 0
  else if 310 < size then infinityBits
  else nearestQuotient (d * tenPow i) (tenPow (-i))

/-! ## §2. Texts -/

/-- The bits of a number without sign: the name of one that is not finite, in any case, or digits
    with a point and an exponent, both optional. At least one digit stands beside the point. -/
def unsigned? (cs : List Char) : Option Nat :=
  let name := String.ofList (cs.map Char.toLower)
  if name = "inf" ∨ name = "infinity" then some infinityBits
  else if name = "nan" then some notANumberBits
  else
    let whole := cs.takeWhile Char.isDigit
    let (fraction, rest) := match cs.dropWhile Char.isDigit with
      | '.' :: more => (more.takeWhile Char.isDigit, more.dropWhile Char.isDigit)
      | rest => ([], rest)
    let power? := match rest with
      | [] => some 0
      | c :: more => if c = 'e' ∨ c = 'E' then Text.signed? more else none
    match Text.decimalDigits? (whole ++ fraction), power? with
    | some d, some power => some (nearest d (power - fraction.length))
    | _, _ => none

/-- The bits of the number that a text is read as; the sign comes first. -/
def ofText? (s : String) : Option UInt64 :=
  match s.toList with
  | '-' :: rest => (unsigned? rest).map fun bits => UInt64.ofNat (twoPow 63 + bits)
  | '+' :: rest => (unsigned? rest).map UInt64.ofNat
  | rest => (unsigned? rest).map UInt64.ofNat

end ClusterClient.Double
