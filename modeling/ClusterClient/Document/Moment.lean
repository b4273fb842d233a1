/-
  ClusterClient.Document.Moment — moments in the calendar.

  A moment is written as date and time in universal time, and read at any offset from it. Days
  are counted from 1970-01-01 on; `civil` and `dayNumber` convert between their numbers and the
  calendar.
-/
import ClusterClient.Text.Numeral

namespace ClusterClient.Moment

/-! ## §1. Days -/

/-- Year, month and day of a number of days since 1970-01-01. Years are counted from March, so
    that the leap day comes last; 400 years have 146097 days. -/
def civil (days : Int) : Int × Nat × Nat :=
  let shifted := days + 719468
  let era := shifted / 146097
  let dayOfEra := (shifted % 146097).toNat
  let yearOfEra := (dayOfEra - dayOfEra / 1460 + dayOfEra / 36524 - dayOfEra / 146096) / 365
  let dayOfYear := dayOfEra - (365 * yearOfEra + yearOfEra / 4 - yearOfEra / 100)
  let monthFromMarch := (5 * dayOfYear + 2) / 153
  let day := dayOfYear - (153 * monthFromMarch + 2) / 5 + 1
  let month := if monthFromMarch < 10 then monthFromMarch + 3 else monthFromMarch - 9
  (yearOfEra + era * 400 + (if month ≤ 2 then 1 else 0), month, day)

/-- The number of days from 1970-01-01 to a day of the calendar. -/
def dayNumber (year : Int) (month day : Nat) : Int :=
  let fromMarch := if month ≤ 2 then year - 1 else year
  let monthFromMarch := if month ≤ 2 then month + 9 else month - 3
  365 * fromMarch + fromMarch / 4 - fromMarch / 100 + fromMarch / 400
    + (153 * monthFromMarch + 2) / 5 + day - 719469

/-- Whether the calendar has the day. -/
def isDay (year : Int) (month day : Nat) : Bool :=
  civil (dayNumber year month day) == (year, month, day)

/-! ## §2. Writing -/

/-- The last millisecond of the year 9999. -/
def lastMillis : Nat := 253402300799999

/-- The fraction of a second without zeros at its end, with its point; nothing for a whole
    second. -/
def fraction (millis : Nat) : String :=
  if millis = 0 then ""
  else if millis % 100 = 0 then "." ++ toString (millis / 100)
  else if millis % 10 = 0 then "." ++ Text.zeroPadded 2 (toString (millis / 10))
  else "." ++ Text.zeroPadded 3 (toString millis)

/-- Date and time in universal time, for moments from 1970 to 9999. -/
def render (millis : Nat) : String :=
  let seconds := millis / 1000
  let (year, month, day) := civil (seconds / 86400 : Nat)
  let two (n : Nat) : String := Text.zeroPadded 2 (toString n)
  Text.zeroPadded 4 (toString year) ++ "-" ++ two month ++ "-" ++ two day ++ "T"
    ++ two (seconds / 3600 % 24) ++ ":" ++ two (seconds / 60 % 60) ++ ":" ++ two (seconds % 60)
    ++ fraction (millis % 1000) ++ "Z"

/-- The text of a moment that has one: those from 1970 to 9999. -/
def text? (millis : Int) : Option String :=
  if 0 ≤ millis ∧ millis ≤ lastMillis then some (render millis.toNat) else none

/-! ## §3. Reading -/

/-- Takes what it reads from the front of a text. -/
abbrev Front := StateT (List Char) Option

/-- One character. -/
def next : Front Char := fun cs =>
  match cs with
  | [] => none
  | c :: rest => some (c, rest)

/-- A character that must be there. -/
def expect (c : Char) : Front Unit := do
  guard ((← next) = c)

/-- A number of exactly so many digits. -/
def digits (count : Nat) : Front Nat := fun cs =>
  if cs.length < count then none
  else (Text.decimalDigits? (cs.take count)).map fun n => (n, cs.drop count)

/-- The nanoseconds after the point; there are none if there is no point. Digits after the ninth
    are passed over. -/
def nanoseconds : Front Nat := fun cs =>
  match cs with
  | '.' :: more =>
    let kept := (more.takeWhile Char.isDigit).take 9
    (Text.decimalDigits? kept).map fun n =>
      (n * Nat.pow 10 (9 - kept.length), more.dropWhile Char.isDigit)
  | _ => some (0, cs)

/-- Minutes that the clock is ahead of universal time. -/
def offset : Front Int := do
  let sign ← next
  if sign = 'Z' ∨ sign = 'z' then return 0
  guard (sign = '+' ∨ sign = '-')
  let hours ← digits 2
  expect ':'
  let minutes ← digits 2
  guard (hours < 24 ∧ minutes < 60)
  let ahead : Int := hours * 60 + minutes
  return if sign = '-' then -ahead else ahead

/-- The nanoseconds from 1970 to a moment. Any ASCII character may stand between date and time.
    A second 60 is the last nanosecond before the end of a month in universal time. -/
def nanosecondsSince1970 : Front Int := do
  let year ← digits 4
  expect '-'
  let month ← digits 2
  expect '-'
  let day ← digits 2
  guard ((← next).toNat < 0x80 ∧ isDay year month day)
  let hour ← digits 2
  expect ':'
  let minute ← digits 2
  expect ':'
  let second ← digits 2
  guard (hour < 24 ∧ minute < 60 ∧ second ≤ 60)
  let nanos ← nanoseconds
  let ahead ← offset
  let seconds := dayNumber year month day * 86400 + hour * 3600 + minute * 60 + second - ahead * 60
  if second = 60 then
    guard (seconds % 86400 = 0 ∧ (civil (seconds / 86400)).2.2 = 1)
    return seconds * 1000000000 - 1
  else return seconds * 1000000000 + nanos

/-- The milliseconds from 1970 to the moment of a text, cut off toward 1970. -/
def ofText? (s : String) : Option Int :=
  match nanosecondsSince1970 s.toList with
  | some (nanos, []) => some (nanos.tdiv 1000000)
  | _ => none

end ClusterClient.Moment
