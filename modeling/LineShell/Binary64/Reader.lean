import LineShell.Binary64.Basic

/-!
# Reading floating-point numbers

A number is written as an optional sign followed by decimal digits with an optional point among or
beside them and an optional exponent, or by one of the names `inf`, `infinity` and `nan` in any
case.  Its value is the nearest number of the format; too large a number is infinite and too small a
one is zero.
-/

namespace LineShell.Binary64

/-- Decimal digits as a number. -/
def digitsValue (digits : List Char) : Nat :=
  digits.foldl (fun n c => n * 10 + (c.toNat - '0'.toNat)) 0

/-- The number `digits · 10 ^ exponent`, rounded.  A number whose first digit lies more than four
hundred places from the point is out of range whatever its digits are, so that no power of ten
beyond that is formed. -/
def ofDecimal (negative : Bool) (digits : List Char) (exponent : Int) : Binary64 :=
  let digits := digits.dropWhile (· == '0')
  let places : Int := digits.length + exponent
  if digits.isEmpty then zero negative
  else if 400 < places then .infinite negative
  else if places < -400 then zero negative
  else if 0 ≤ exponent then ofRatio negative (digitsValue digits * powerOfTen exponent.toNat) 1
  else ofRatio negative (digitsValue digits) (powerOfTen (-exponent).toNat)

/-- A sign, if there is one, and what follows it. -/
def takeSign : List Char → Bool × List Char
  | '-' :: rest => (true, rest)
  | '+' :: rest => (false, rest)
  | cs => (false, cs)

/-- The exponent part that ends a number: nothing, or `e`, an optional sign and digits. -/
def readExponent? : List Char → Option Int
  | [] => some 0
  | c :: rest =>
    if c = 'e' ∨ c = 'E' then
      let (negative, digits) := takeSign rest
      if digits.isEmpty || digits.any (!Char.isDigit ·) then none
      else some (if negative then -(digitsValue digits : Int) else digitsValue digits)
    else none

/-- The digits before the point, those after it, and what follows the number's last digit. -/
def splitDigits (cs : List Char) : List Char × List Char × List Char :=
  let whole := cs.takeWhile Char.isDigit
  match cs.dropWhile Char.isDigit with
  | '.' :: rest => (whole, rest.takeWhile Char.isDigit, rest.dropWhile Char.isDigit)
  | rest => (whole, [], rest)

/-- A number written in digits, without its sign. -/
def readUnsigned? (negative : Bool) (cs : List Char) : Option Binary64 :=
  let (whole, fraction, rest) := splitDigits cs
  if whole.isEmpty && fraction.isEmpty then none
  else (readExponent? rest).map fun e =>
    ofDecimal negative (whole ++ fraction) (e - fraction.length)

/-- Reads a number; nothing when the characters do not write one. -/
def readChars? (cs : List Char) : Option Binary64 :=
  let (negative, rest) := takeSign cs
  let name := String.ofList (rest.map Char.toLower)
  if name = "inf" ∨ name = "infinity" then some (.infinite negative)
  else if name = "nan" then some .nan
  else readUnsigned? negative rest

/-- Reads a number; nothing when the text does not write one. -/
def read? (text : String) : Option Binary64 :=
  readChars? text.toList

end LineShell.Binary64
