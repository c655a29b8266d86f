/-!
# Floating-point numbers of 64 bits

A number is kept by its sign, a mantissa below `2 ^ 53` and a binary exponent, so that every
comparison and every conversion below is exact arithmetic on natural numbers.  `Binary64.ofRatio`
is the only place where rounding happens: it takes a quotient to the nearest number of the format,
and a quotient halfway between two of them to the one with the even mantissa.
-/

namespace LineShell

/-- A number of the 64-bit binary format.  A finite one is `± mantissa · 2 ^ exponent`, with the
exponent as small as the mantissa allows and never below `-1074`. -/
inductive Binary64
  | nan
  | infinite (negative : Bool)
  | finite (negative : Bool) (mantissa : Nat) (exponent : Int)
  deriving DecidableEq, Repr, Inhabited

namespace Binary64

/-- The least exponent of the format. -/
def minExponent : Int := -1074

/-- The greatest exponent of the format. -/
def maxExponent : Int := 971

/-- Zero with a sign. -/
def zero (negative : Bool) : Binary64 := .finite negative 0 minExponent

/-- The quotient `num / den` of natural numbers rounded to an integer, a half to the even one. -/
def roundQuotient (num den : Nat) : Nat :=
  let q := num / den
  let r := num % den
  if den < 2 * r ∨ (2 * r = den ∧ q % 2 = 1) then q + 1 else q

/-- The least mantissa of 53 bits. -/
def leastMantissa : Nat := 1 <<< 52

/-- A power of ten. -/
def powerOfTen (k : Nat) : Nat := Nat.pow 10 k

/-- Numerator and denominator of `(num / den) · 2 ^ (-e)`. -/
def scaleDown (num den : Nat) (e : Int) : Nat × Nat :=
  if 0 ≤ e then (num, den <<< e.toNat) else (num <<< (-e).toNat, den)

/-- The exponent at which `num / den` has a mantissa of 53 bits, or the least exponent if that is
greater. -/
def exponentOf (num den : Nat) : Int :=
  let e : Int := num.log2 - den.log2 - 52
  let (n, d) := scaleDown num den e
  max minExponent (if n / d < leastMantissa then e - 1 else e)

/-- The number nearest to the quotient of two natural numbers, with a sign.  The divisor must not be
zero. -/
def ofRatio (negative : Bool) (num den : Nat) : Binary64 :=
  if num = 0 then zero negative
  else
    let e := exponentOf num den
    let (n, d) := scaleDown num den e
    let m := roundQuotient n d
    let (m, e) := if m = 2 * leastMantissa then (leastMantissa, e + 1) else (m, e)
    if maxExponent < e then .infinite negative else .finite negative m e

/-- The number nearest to an integer. -/
def ofInt (i : Int) : Binary64 :=
  ofRatio (decide (i < 0)) i.natAbs 1

/-- Equality of numbers: not a number differs from everything, and the two zeros are equal. -/
def equal : Binary64 → Binary64 → Bool
  | .infinite a, .infinite b => a == b
  | .finite a m e, .finite b n f => (m == 0 && n == 0) || (a == b && m == n && e == f)
  | _, _ => false

end Binary64

end LineShell
