import LineShell.Binary64.Basic

/-!
# The fewest digits that read back

Every finite number is the rounding of all real numbers in an interval around it, whose ends belong
to it exactly when its mantissa is even.  For one digit, two digits and so on the two neighbours of
the number on that decimal grid are tested for membership; the first grid with a hit gives the
digits, and of two hits the nearer one does.
-/

namespace LineShell.Binary64

/-- A positive decimal number `digits · 10 ^ exponent`. -/
structure Decimal where
  digits : Nat
  exponent : Int
  deriving DecidableEq, Repr

/-- Which of two equally near neighbours is taken. -/
inductive Tie
  | up
  | toEven
  deriving DecidableEq, Repr

/-- The interval of reals that round to a number, and the number itself, all over one denominator.
-/
structure RoundingInterval where
  low : Nat
  value : Nat
  high : Nat
  den : Nat
  closed : Bool

/-- The interval around `mantissa · 2 ^ exponent`.  Below a power of two the next number is half as
far away as above it. -/
def roundingInterval (mantissa : Nat) (exponent : Int) : RoundingInterval :=
  let narrow := mantissa = leastMantissa ∧ minExponent < exponent
  let e := exponent - 2
  let up := 1 <<< e.toNat
  { low := (4 * mantissa - if narrow then 1 else 2) * up
    value := 4 * mantissa * up
    high := (4 * mantissa + 2) * up
    den := 1 <<< (-e).toNat
    closed := mantissa % 2 = 0 }

/-- Numerator and denominator of `(num / den) / 10 ^ k`. -/
def scaleTen (num den : Nat) (k : Int) : Nat × Nat :=
  (num * powerOfTen (-k).toNat, den * powerOfTen k.toNat)

/-- Whether the decimal lies in the interval. -/
def RoundingInterval.contains (i : RoundingInterval) (d : Decimal) : Bool :=
  let n := d.digits * powerOfTen d.exponent.toNat * i.den
  let scale := powerOfTen (-d.exponent).toNat
  if i.closed then i.low * scale ≤ n && n ≤ i.high * scale
  else i.low * scale < n && n < i.high * scale

/-- The greatest `k` with `10 ^ k ≤ num / den`.  The binary logarithm gives it up to one. -/
def decimalExponent (num den : Nat) : Int :=
  let guess := (((num.log2 : Int) - den.log2) * 30103).fdiv 100000
  let reaches (k : Int) : Bool :=
    let (n, d) := scaleTen num den k
    d ≤ n
  if reaches (guess + 1) then guess + 1
  else if reaches guess then guess
  else guess - 1

/-- The neighbour of the value on the grid `10 ^ k` that lies in the interval, if one does. -/
def RoundingInterval.onGrid? (i : RoundingInterval) (tie : Tie) (k : Int) : Option Decimal :=
  let (n, d) := scaleTen i.value i.den k
  let below := n / d
  let lower : Decimal := ⟨below, k⟩
  let upper : Decimal := ⟨below + 1, k⟩
  let r := n % d
  let preferUpper :=
    d < 2 * r ∨ (2 * r = d ∧ (tie = .up ∨ below % 2 = 1))
  match i.contains lower, i.contains upper with
  | true, true => some (if preferUpper then upper else lower)
  | true, false => some lower
  | false, true => some upper
  | false, false => none

/-- Tries grids from `k` downwards; on the last one the lower neighbour is taken in any case. -/
def RoundingInterval.search (i : RoundingInterval) (tie : Tie) : Nat → Int → Decimal
  | 0, k =>
    let (n, d) := scaleTen i.value i.den k
    ⟨n / d, k⟩
  | fuel + 1, k => (i.onGrid? tie k).getD (i.search tie fuel (k - 1))

/-- The shortest decimal that rounds to `mantissa · 2 ^ exponent`, for a mantissa that is not zero.
Seventeen digits always suffice. -/
def shortest (tie : Tie) (mantissa : Nat) (exponent : Int) : Decimal :=
  let i := roundingInterval mantissa exponent
  i.search tie 17 (decimalExponent i.value i.den)

end LineShell.Binary64
