import Lookout.Number.Binary64

/-! # Shortest decimals
The **shortest decimal** of a double is the decimal with the fewest digits among those that round to
it, and of several the one nearest to it. A decimal is a coefficient and a power of ten. -/

namespace Lookout

/-- A decimal number `coefficient · 10 ^ exponent`. -/
structure Decimal where
  /-- The digits, read as a number. -/
  coefficient : Nat
  /-- The power of ten of the last digit. -/
  exponent : Int
  deriving DecidableEq, Repr

namespace Decimal

/-- The ratio of natural numbers a decimal stands for. -/
def toRatio (d : Decimal) : Nat × Nat :=
  if 0 ≤ d.exponent then (d.coefficient * Nat.pow 10 d.exponent.toNat, 1)
  else (d.coefficient, Nat.pow 10 (-d.exponent).toNat)

/-- The same number without zeros at the end of the coefficient; `fuel` bounds their number. -/
def trim (d : Decimal) : Nat → Decimal
  | 0 => d
  | fuel + 1 =>
    if d.coefficient ≠ 0 ∧ d.coefficient % 10 = 0 then
      trim ⟨d.coefficient / 10, d.exponent + 1⟩ fuel
    else d

end Decimal

/-- `a / b < c / d` for positive `b` and `d`. -/
def ratioLt (x y : Nat × Nat) : Bool := x.1 * y.2 < y.1 * x.2

namespace Binary64

/-- The reals that round to a positive double lie between two ratios; the ends round to it as well
exactly if its significand is even. -/
def roundingInterval (x : Binary64) : (Nat × Nat) × (Nat × Nat) :=
  let m := x.significand
  let quarter := fun (n : Nat) =>
    let e := x.exponent - 2
    if 0 ≤ e then (n * Nat.pow 2 e.toNat, 1) else (n, Nat.pow 2 (-e).toNat)
  let low := if m = leastNormal ∧ -1074 < x.exponent then 4 * m - 1 else 4 * m - 2
  (quarter low, quarter (4 * m + 2))

/-- Whether a decimal rounds to a positive double. -/
def readsBack (x : Binary64) (d : Decimal) : Bool :=
  let (low, high) := x.roundingInterval
  let r := d.toRatio
  if x.significand % 2 = 0 then !ratioLt r low && !ratioLt high r
  else ratioLt low r && ratioLt r high

/-- The number of decimal digits of a natural number. -/
def digitCount (n : Nat) : Nat := (Nat.toDigits 10 n).length

/-- The power of ten of the first digit of a positive ratio. -/
def leadingPower (num den : Nat) : Int :=
  if den ≤ num then (digitCount (num / den) : Int) - 1
  else
    let t := digitCount (den / num)
    if num * Nat.pow 10 (t - 1) = den then -((t : Int) - 1) else -(t : Int)

/-- The two decimals next to a positive ratio, at or below it and above it, on the grid of the given
power of ten. -/
def neighbours (num den : Nat) (power : Int) : Decimal × Decimal :=
  let q :=
    if 0 ≤ power then num / (den * Nat.pow 10 power.toNat)
    else num * Nat.pow 10 (-power).toNat / den
  (⟨q, power⟩, ⟨q + 1, power⟩)

/-- Of the two neighbours of a double on a grid the one that reads back, the nearer one if both do,
and on a tie the one with the even coefficient. -/
def pick (x : Binary64) (power : Int) : Option Decimal :=
  let (num, den) := x.toRatio
  let (below, above) := neighbours num den power
  match x.readsBack below, x.readsBack above with
  | false, false => none
  | true, false => some below
  | false, true => some above
  | true, true =>
    let (a, b) := below.toRatio
    let (c, d) := above.toRatio
    -- below + above compared with twice the double
    let mid := (a * d + c * b, b * d)
    let twice := (2 * num, den)
    if ratioLt twice mid then some below
    else if ratioLt mid twice then some above
    else some (if below.coefficient % 2 = 0 then below else above)

/-- The first grid, from one digit to seventeen, that holds a decimal which reads back. -/
def shortestFrom (x : Binary64) (first : Int) : List Nat → Decimal
  | [] => ⟨0, 0⟩
  | n :: ns => match x.pick (first - n) with
    | some d => d
    | none => shortestFrom x first ns

/-- The **shortest decimal** that reads back as the given double, its sign apart. -/
def shortest (x : Binary64) : Decimal :=
  if x.isZero then ⟨0, 0⟩
  else
    let (num, den) := x.toRatio
    (shortestFrom x (leadingPower num den) (List.range 17)).trim 17

example : (⟨false, 7205759403792794, -56⟩ : Binary64).shortest = ⟨1, -1⟩ := by decide +kernel
example : (⟨false, 1, -1074⟩ : Binary64).shortest = ⟨5, -324⟩ := by decide +kernel

end Binary64

end Lookout
