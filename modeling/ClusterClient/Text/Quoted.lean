/-
  ClusterClient.Text.Quoted — the quoted form of a text inside messages.

  A quoted text stands between double quotes. Inside, a quote and a backslash are escaped, line
  feed, carriage return, tab and the zero character have letters, every other character that
  cannot be shown raw is written as its code point in braces. An apostrophe stays as it is.
-/
import ClusterClient.Text.Numeral
import ClusterClient.Text.Unprintable

namespace ClusterClient.Text

/-- One character of a quoted text. -/
def escape (c : Char) : String :=
  if c = '"' then "\\\""
  else if c = '\\' then "\\\\"
  else if c = '\n' then "\\n"
  else if c = '\r' then "\\r"
  else if c = '\t' then "\\t"
  else if c = '\x00' then "\\0"
  else if isPrintable c then c.toString
  else "\\u\x7b" ++ hexadecimal c.toNat ++ "\x7d"

/-- The quoted form of a text. -/
def quoted (s : String) : String :=
  "\"" ++ String.join (s.toList.map escape) ++ "\""

/-- Items between brackets, separated by a comma and a space. -/
def bracketed (items : List String) : String :=
  "[" ++ ", ".intercalate items ++ "]"

/-- Items between braces, separated by a comma and a space. -/
def braced (items : List String) : String :=
  "\x7b" ++ ", ".intercalate items ++ "\x7d"

/-- A value that may be absent: `None`, or `Some` with the value in parentheses. -/
def optional (shown : Option String) : String :=
  match shown with
  | none => "None"
  | some s => "Some(" ++ s ++ ")"

end ClusterClient.Text
