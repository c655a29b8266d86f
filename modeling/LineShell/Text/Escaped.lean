import LineShell.Text.Alphanumeric

/-!
# Text written between double quotes

`quoted` writes a text so that every character of it is visible: tabs, line ends, the zero
character, the double quote and the backslash have escapes of their own, and a character that has no
glyph of its own, or that would combine with the one before it, is written by its code point.
-/

namespace LineShell.Text

/-- Letters that are shown as nothing: the fillers of Hangul. -/
def fillers : CodePointSet := .ofCodes [0x115F, 0x1160, 0x3164, 0xFFA0]

/-- Controls, format characters, unassigned and private code points, every kind of separator, and
what extends the character before it. -/
def invisibleTable : CodePointSet :=
  .unions [Edition.latest.inCategories ["Cc", "Cf", "Cs", "Co", "Cn", "Zl", "Zp", "Zs"],
    Edition.latest.extending, fillers]

/-- A character that is shown as itself and stands alone. -/
def isVisible (c : Char) : Bool :=
  c == ' ' || !invisibleTable.contains c

/-- The digits of a number to base sixteen, in lower case. -/
def hexText (n : Nat) : String :=
  String.ofList (Nat.toDigits 16 n)

/-- One character of a quoted text. -/
def escapeChar (c : Char) : String :=
  if c = '\x00' then "\\0"
  else if c = '\t' then "\\t"
  else if c = '\r' then "\\r"
  else if c = '\n' then "\\n"
  else if c = '\x22' then "\\\""
  else if c = '\\' then "\\\\"
  else if isVisible c then c.toString
  else "\\u\x7b" ++ hexText c.toNat ++ "\x7d"

/-- A text between double quotes, with all that is invisible escaped. -/
def quoted (text : String) : String :=
  "\"" ++ String.join (text.toList.map escapeChar) ++ "\""

end LineShell.Text
