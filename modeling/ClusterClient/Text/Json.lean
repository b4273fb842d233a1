/-
  ClusterClient.Text.Json — texts inside JSON.
-/
import ClusterClient.Text.Numeral

namespace ClusterClient.Text

/-- One character of a JSON text. Only quotes, backslashes and control characters below the
    space are escaped. -/
def jsonEscape (c : Char) : String :=
  if c = '"' then "\\\""
  else if c = '\\' then "\\\\"
  else if c = '\x08' then "\\b"
  else if c = '\x0c' then "\\f"
  else if c = '\n' then "\\n"
  else if c = '\r' then "\\r"
  else if c = '\t' then "\\t"
  else if c.toNat < 0x20 then "\\u" ++ zeroPadded 4 (hexadecimal c.toNat)
  else c.toString

/-- A JSON text with its quotes. -/
def jsonText (s : String) : String :=
  "\"" ++ String.join (s.toList.map jsonEscape) ++ "\""

end ClusterClient.Text
