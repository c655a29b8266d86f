import LineShell.Binary64.Shortest

/-!
# Writing floating-point numbers

Both layouts write the fewest digits that read back.  `display` never uses an exponent and writes an
integral number without a point; `jsonText` marks integral numbers by `.0`, moves to an exponent for
very large and very small numbers, and has no text for infinities and for what is not a number.
-/

namespace LineShell.Binary64

/-- The digits of a decimal without the zeros at their end, and the exponent of the first digit. -/
def significand (d : Decimal) : List Char × Int :=
  let digits := Nat.toDigits 10 d.digits
  ((digits.reverse.dropWhile (· == '0')).reverse, digits.length - 1 + d.exponent)

/-- A number of zeros. -/
def zeros (n : Nat) : List Char := List.replicate n '0'

/-- The digits written around a point, where the first of them has the weight `10 ^ e`; `whole` is
what follows the digits of an integral number. -/
def positional (digits : List Char) (e : Int) (whole : List Char) : List Char :=
  if e < 0 then ['0', '.'] ++ zeros (-e - 1).toNat ++ digits
  else
    let places := e.toNat + 1
    if digits.length ≤ places then digits ++ zeros (places - digits.length) ++ whole
    else digits.take places ++ ['.'] ++ digits.drop places

/-- The digits written as a number below ten and a power of ten. -/
def scientific (digits : List Char) (e : Int) : List Char :=
  let mantissa := match digits with
    | first :: second :: rest => first :: '.' :: second :: rest
    | short => short
  mantissa ++ ['e', if e < 0 then '-' else '+'] ++ Nat.toDigits 10 e.natAbs

/-- A minus sign for a negative number. -/
def signText (negative : Bool) : String :=
  if negative then "-" else ""

/-- The plain text of a number: digits around a point, never an exponent. -/
def display : Binary64 → String
  | .nan => "NaN"
  | .infinite negative => signText negative ++ "inf"
  | .finite negative 0 _ => signText negative ++ "0"
  | .finite negative m e =>
    let (digits, first) := significand (shortest .up m e)
    signText negative ++ String.ofList (positional digits first [])

/-- The number in a data text.  An exponent is used when the first digit's weight is below `10 ^ -5`
or at least `10 ^ 16`. -/
def jsonText : Binary64 → String
  | .nan => "null"
  | .infinite _ => "null"
  | .finite negative 0 _ => signText negative ++ "0.0"
  | .finite negative m e =>
    let (digits, first) := significand (shortest .toEven m e)
    signText negative ++ String.ofList
      (if first < -5 ∨ 16 ≤ first then scientific digits first
       else positional digits first ['.', '0'])

end LineShell.Binary64
