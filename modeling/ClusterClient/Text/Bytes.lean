/-
  ClusterClient.Text.Bytes — bytes as texts: in hexadecimal, in base 64, and as UTF-8.

  Hexadecimal is written in lower case and read in either. Base 64 has one reading for each
  sequence of bytes: groups of four digits, the last one filled up with equals signs, and no bit
  set that stands for no byte.
-/
import ClusterClient.Text.Numeral

namespace ClusterClient.Text

/-! ## §1. Hexadecimal -/

/-- Two hexadecimal digits for each byte. -/
def hexBytes (bytes : List UInt8) : String :=
  String.join (bytes.map fun b => zeroPadded 2 (hexadecimal b.toNat))

/-- The value of a hexadecimal digit. -/
def hexDigit? (c : Char) : Option Nat :=
  if c.isDigit then some (c.toNat - '0'.toNat)
  else if 'a' ≤ c ∧ c ≤ 'f' then some (c.toNat - 'a'.toNat + 10)
  else if 'A' ≤ c ∧ c ≤ 'F' then some (c.toNat - 'A'.toNat + 10)
  else none

/-- The bytes of a text of hexadecimal digits, two for each. -/
def bytesOfHex? (s : String) : Option (List UInt8) :=
  go s.toList
where
  go : List Char → Option (List UInt8)
    | [] => some []
    | high :: low :: rest =>
      match hexDigit? high, hexDigit? low, go rest with
      | some h, some l, some bytes => some (UInt8.ofNat (16 * h + l) :: bytes)
      | _, _, _ => none
    | [_] => none

/-! ## §2. Base 64 -/

/-- The 64 digits of base 64. -/
def base64Digit (n : Nat) : Char :=
  if n < 26 then Char.ofNat ('A'.toNat + n)
  else if n < 52 then Char.ofNat ('a'.toNat + (n - 26))
  else if n < 62 then Char.ofNat ('0'.toNat + (n - 52))
  else if n = 62 then '+'
  else '/'

/-- Bytes in base 64: four digits for three bytes, filled up with equals signs. -/
def base64 (bytes : List UInt8) : String :=
  String.ofList (go bytes)
where
  go : List UInt8 → List Char
    | [] => []
    | [a] =>
      let n := a.toNat * 16
      [base64Digit (n / 64), base64Digit (n % 64), '=', '=']
    | [a, b] =>
      let n := (a.toNat * 256 + b.toNat) * 4
      [base64Digit (n / 4096), base64Digit (n / 64 % 64), base64Digit (n % 64), '=']
    | a :: b :: c :: rest =>
      let n := (a.toNat * 256 + b.toNat) * 256 + c.toNat
      [base64Digit (n / 262144), base64Digit (n / 4096 % 64), base64Digit (n / 64 % 64),
        base64Digit (n % 64)] ++ go rest

/-- The value of a digit of base 64. -/
def base64Value? (c : Char) : Option Nat :=
  if c.isUpper then some (c.toNat - 'A'.toNat)
  else if c.isLower then some (c.toNat - 'a'.toNat + 26)
  else if c.isDigit then some (c.toNat - '0'.toNat + 52)
  else if c = '+' then some 62
  else if c = '/' then some 63
  else none

/-- The bytes that base 64 stands for. -/
def bytesOfBase64? (s : String) : Option (List UInt8) :=
  go s.toList
where
  go : List Char → Option (List UInt8)
    | [] => some []
    | [a, b, '=', '='] =>
      match base64Value? a, base64Value? b with
      | some x, some y =>
        if y % 16 = 0 then some [UInt8.ofNat (x * 4 + y / 16)] else none
      | _, _ => none
    | [a, b, c, '='] =>
      match base64Value? a, base64Value? b, base64Value? c with
      | some x, some y, some z =>
        if z % 4 = 0 then
          some [UInt8.ofNat (x * 4 + y / 16), UInt8.ofNat (y % 16 * 16 + z / 4)]
        else none
      | _, _, _ => none
    | a :: b :: c :: d :: rest =>
      match base64Value? a, base64Value? b, base64Value? c, base64Value? d, go rest with
      | some x, some y, some z, some w, some bytes =>
        some (UInt8.ofNat (x * 4 + y / 16) :: UInt8.ofNat (y % 16 * 16 + z / 4)
          :: UInt8.ofNat (z % 4 * 64 + w) :: bytes)
      | _, _, _, _, _ => none
    | _ => none

/-! ## §3. UTF-8 -/

/-- The text that the bytes are the UTF-8 form of. -/
def ofUtf8? (bytes : List UInt8) : Option String :=
  String.fromUTF8? (ByteArray.mk bytes.toArray)

end ClusterClient.Text
