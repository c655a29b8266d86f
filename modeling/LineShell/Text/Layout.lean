/-!
# Columns and separated lists
-/

namespace LineShell.Text

/-- The text with blanks after it, up to `width` characters. -/
def padRight (width : Nat) (text : String) : String :=
  text ++ String.ofList (List.replicate (width - text.length) ' ')

/-- The texts with single blanks between them. -/
def unwords (texts : List String) : String :=
  " ".intercalate texts

/-- A number in decimal digits. -/
def decimal (n : Nat) : String :=
  String.ofList (Nat.toDigits 10 n)

/-- An integer in decimal digits, with a minus sign before those of a negative one. -/
def signedDecimal (i : Int) : String :=
  if i < 0 then "-" ++ decimal i.natAbs else decimal i.natAbs

/-- Decimal digits read as a number; nothing when there is none or another character stands among
them. -/
def readDecimal? (cs : List Char) : Option Nat :=
  if cs.isEmpty || cs.any (!Char.isDigit ·) then none
  else some (cs.foldl (fun n c => n * 10 + (c.toNat - '0'.toNat)) 0)

end LineShell.Text
