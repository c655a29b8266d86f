import LineShell.Text.Escaped

/-!
# Strings of a data text
-/

namespace LineShell.Text

/-- One character of a string: the quote, the backslash and the control characters are escaped. -/
def jsonChar (c : Char) : String :=
  if c = '\x22' then "\\\""
  else if c = '\\' then "\\\\"
  else if c.toNat = 0x08 then "\\b"
  else if c.toNat = 0x0C then "\\f"
  else if c = '\n' then "\\n"
  else if c = '\r' then "\\r"
  else if c = '\t' then "\\t"
  else if c.toNat < 0x20 then
    "\\u00" ++ (if c.toNat < 0x10 then "0" else "") ++ hexText c.toNat
  else c.toString

/-- A string of a data text, with its quotes. -/
def jsonString (text : String) : String :=
  "\"" ++ String.join (text.toList.map jsonChar) ++ "\""

end LineShell.Text
