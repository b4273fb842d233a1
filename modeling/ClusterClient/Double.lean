/-
  ClusterClient.Double — 64-bit floating-point numbers, read from their bits.

  A finite number is `± m · 2 ^ q`. All questions about it are answered by exact arithmetic on
  `m` and `q`: whether it is a whole number up to the rounding unit of one, and which decimal of
  fewest digits denotes it.
-/

namespace ClusterClient.Double

/-! ## §1. What the bits say -/

/-- What 64 bits denote. -/
inductive Meaning where
  /-- The number `m · 2 ^ q`, negated if `negative`; there are two zeros. -/
  | finite (negative : Bool) (m : Nat) (q : Int)
  | infinite (negative : Bool)
  | notANumber (negative : Bool)
  deriving Repr, DecidableEq

/-- Two to an exponent, which counts as zero below zero. -/
def twoPow (q : Int) : Nat := Nat.pow 2 q.toNat

/-- Ten to an exponent, which counts as zero below zero. -/
def tenPow (i : Int) : Nat := Nat.pow 10 i.toNat

/-- Sign, exponent and fraction of the binary format. -/
def meaning (bits : UInt64) : Meaning :=
  let negative := bits >>> 63 == 1
  let exponent := ((bits >>> 52) &&& 0x7FF).toNat
  let fraction := (bits &&& 0xFFFFFFFFFFFFF).toNat
  if exponent = 0x7FF then
    if fraction = 0 then .infinite negative else .notANumber negative
  else if exponent = 0 then .finite negative fraction (-1074)
  else .finite negative (twoPow 52 + fraction) (exponent - 1075)

/-! ## §2. Whole numbers -/

/-- The whole number a double stands for: toward zero, and only when at most `2 ^ -52` is cut
    off. Numbers beyond the 64-bit range stand for none, the one past the largest excepted. -/
def wholeNumber? (bits : UInt64) : Option Int64 :=
  match meaning bits with
  | .finite negative m q =>
    let scale := twoPow (-q)
    let whole := m * twoPow q / scale
    let rest := m * twoPow q % scale
    if twoPow 52 * rest ≤ scale then
      if whole < twoPow 63 then
        some (Int64.ofInt (if negative then -(whole : Int) else whole))
      else if whole = twoPow 63 then some (if negative then Int64.minValue else Int64.maxValue)
      else none
    else none
  | _ => none

/-! ## §3. The decimal of fewest digits -/

/-- Compares `a · 10 ^ i` with `n · 2 ^ j`. -/
def compareScaled (a : Nat) (i : Int) (n : Nat) (j : Int) : Ordering :=
  compare (a * tenPow i * twoPow (-j)) (n * twoPow j * tenPow (-i))

/-- Whether `d · 10 ^ i` is read as `m · 2 ^ q`: it lies between the points halfway to the
    neighbours, which belong to the number when `m` is even. Below a power of two the neighbour
    is half as far away. -/
def readsBack (m : Nat) (q : Int) (d : Nat) (i : Int) : Bool :=
  let low := if m = twoPow 52 ∧ -1074 < q then 4 * m - 1 else 4 * m - 2
  let atLow := compareScaled d i low (q - 2)
  let atHigh := compareScaled d i (4 * m + 2) (q - 2)
  let endsIncluded := m % 2 == 0
  (atLow == .gt || (endsIncluded && atLow == .eq))
    && (atHigh == .lt || (endsIncluded && atHigh == .eq))

/-- The least `k` with `m · 2 ^ q < 10 ^ k`, for `m` that is not zero. -/
def decimalScale (m : Nat) (q : Int) : Int :=
  let guess : Int := (Int.fdiv ((Nat.log2 m + q) * 30103) 100000) - 1
  match (List.range 5).find? fun n : Nat => compareScaled 1 (guess + (n : Int)) m q == .gt with
  | some n => guess + (n : Int)
  | none => guess

/-- The neighbours of `m · 2 ^ q` on the multiples of `10 ^ i`, the nearer one preferred, the
    even one if both are as near, and only those that read back. -/
def onGrid? (m : Nat) (q i : Int) : Option Nat :=
  let below := m * twoPow q * tenPow (-i) / (tenPow i * twoPow (-q))
  let lowFits := readsBack m q below i
  let highFits := readsBack m q (below + 1) i
  if lowFits && highFits then
    match compareScaled (2 * below + 1) i (2 * m) q with
    | .gt => some below
    | .lt => some (below + 1)
    | .eq => some (if below % 2 = 0 then below else below + 1)
  else if lowFits then some below
  else if highFits then some (below + 1)
  else none

/-- Moves the zeros at the end of the digits into the exponent; `fuel` bounds their number. -/
def stripZeros : Nat → Nat → Int → Nat × Int
  | 0, d, i => (d, i)
  | fuel + 1, d, i => if d ≠ 0 ∧ d % 10 = 0 then stripZeros fuel (d / 10) (i + 1) else (d, i)

/-- The decimal `d · 10 ^ i` of fewest digits that is read as `m · 2 ^ q`; of several the
    nearest. Seventeen digits always suffice. -/
def shortest (m : Nat) (q : Int) : Nat × Int :=
  let k := decimalScale m q
  let found := (List.range 17).findSome? fun n : Nat =>
    let i := k - ((n : Int) + 1)
    (onGrid? m q i).map fun d => stripZeros 20 d i
  found.getD (m * twoPow q * Nat.pow 5 (-q).toNat, -(-q).toNat)

/-! ## §4. Layout -/

/-- An exponent with its sign. -/
def exponent (n : Int) : String :=
  if n < 0 then toString n else "+" ++ toString n

/-- Decimal point and exponent: plain digits with a point from `10 ^ -5` up to below `10 ^ 16`,
    one digit before the point and an exponent with its sign otherwise. Whole numbers keep
    `.0`. -/
def layout (d : Nat) (i : Int) : String :=
  let digits := Nat.toDigits 10 d
  let n : Int := digits.length
  let point := n + i
  let zeros (count : Int) : List Char := List.replicate count.toNat '0'
  let chars : List Char :=
    if 0 ≤ i ∧ point ≤ 16 then digits ++ zeros i ++ ['.', '0']
    else if 0 < point ∧ point ≤ 16 then
      digits.take point.toNat ++ '.' :: digits.drop point.toNat
    else if -5 < point ∧ point ≤ 0 then '0' :: '.' :: zeros (-point) ++ digits
    else
      let mantissa := if n = 1 then digits else digits.take 1 ++ '.' :: digits.drop 1
      mantissa ++ 'e' :: (exponent (point - 1)).toList
  String.ofList chars

/-- The text of a finite number. -/
def render (negative : Bool) (m : Nat) (q : Int) : String :=
  let size := if m = 0 then "0.0" else layout (shortest m q).1 (shortest m q).2
  if negative then "-" ++ size else size

end ClusterClient.Double
