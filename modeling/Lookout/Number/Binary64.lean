/-! # Double-precision numbers
Finite double-precision numbers as a sign, a significand and an exponent, with the three operations
the JSON reader needs: rounding a ratio of natural numbers, multiplication and division. All of them
round to the nearest double and send a tie to the even significand; a result beyond the largest
double is `none`. -/

namespace Lookout

/-- A finite double: `± significand · 2 ^ exponent`, with `significand < 2 ^ 53` and
`-1074 ≤ exponent`; the significand is below `2 ^ 52` only where the exponent is `-1074`. -/
structure Binary64 where
  /-- The sign, which zero has too. -/
  negative : Bool
  /-- The significand, an integer of at most 53 bits. -/
  significand : Nat
  /-- The power of two it is scaled by. -/
  exponent : Int
  deriving DecidableEq, Repr, Inhabited

namespace Binary64

/-- The number of significands, two to the power of 53. -/
def significands : Nat := 9007199254740992

/-- The least significand that needs all 53 bits. -/
def leastNormal : Nat := 4503599627370496

/-- Zero, without a sign. -/
def zero : Binary64 := ⟨false, 0, -1074⟩

/-- Whether the number is a zero of either sign. -/
def isZero (x : Binary64) : Bool := x.significand == 0

/-- The number with the given sign. -/
def withSign (x : Binary64) (negative : Bool) : Binary64 := { x with negative }

/-- The quotient of two natural numbers rounded to the nearest integer, a tie to the even one. -/
def roundHalfEven (num den : Nat) : Nat :=
  let q := num / den
  let r := num % den
  if 2 * r < den then q
  else if den < 2 * r then q + 1
  else if q % 2 = 0 then q else q + 1

/-- `num / den` scaled by `2 ^ (-exponent)`, as a ratio. -/
def scaled (num den : Nat) (exponent : Int) : Nat × Nat :=
  if 0 ≤ exponent then (num, den * Nat.pow 2 exponent.toNat)
  else (num * Nat.pow 2 (-exponent).toNat, den)

/-- The least exponent with which `num / den` has a significand below `2 ^ 53`. -/
def exponentFor (num den : Nat) : Int :=
  let estimate : Int := max (-1074) ((num.log2 : Int) - den.log2 - 53)
  let (n, d) := scaled num den estimate
  if n / d < significands then estimate else estimate + 1

/-- The double nearest to `num / den`; `none` if that is beyond the largest double. -/
def ofRatio? (num den : Nat) : Option Binary64 :=
  let e := exponentFor num den
  let (n, d) := scaled num den e
  let m := roundHalfEven n d
  let (m, e) := if m = significands then (leastNormal, e + 1) else (m, e)
  if num = 0 then some zero
  else if 971 < e then none
  else some ⟨false, m, e⟩

/-- The ratio of natural numbers that a double stands for, its sign apart. -/
def toRatio (x : Binary64) : Nat × Nat :=
  if 0 ≤ x.exponent then (x.significand * Nat.pow 2 x.exponent.toNat, 1)
  else (x.significand, Nat.pow 2 (-x.exponent).toNat)

/-- The product of two doubles without their signs. -/
def mul? (x y : Binary64) : Option Binary64 :=
  let (a, b) := x.toRatio
  let (c, d) := y.toRatio
  ofRatio? (a * c) (b * d)

/-- The quotient of two doubles without their signs, for a divisor that is not zero. -/
def div? (x y : Binary64) : Option Binary64 :=
  let (a, b) := x.toRatio
  let (c, d) := y.toRatio
  ofRatio? (a * d) (b * c)

/-- The double nearest to a power of ten. -/
def tenPow (n : Nat) : Binary64 := (ofRatio? (Nat.pow 10 n) 1).getD zero

example : (ofRatio? 1 10) = some ⟨false, 7205759403792794, -56⟩ := by decide +kernel
example : (ofRatio? (Nat.pow 2 1024) 1) = none := by decide +kernel
example : (ofRatio? 1 (Nat.pow 2 1075)) = some ⟨false, 0, -1074⟩ := by decide +kernel

end Binary64

end Lookout
