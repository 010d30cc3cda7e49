import Lookout.Number.Shortest

/-! # JSON numerals
A **numeral** is a number as JSON text spells it: a sign, whole digits, and possibly a fraction and
an exponent. An integer is read from a numeral that has neither; any other numeral stands for a
double. The double is computed from at most the leading digits that fit into 64 bits and one scaling
by a power of ten, so it can differ from the nearest double in its last bits. -/

namespace Lookout.Json

/-- A decimal digit. -/
abbrev Digit := Fin 10

/-- A **numeral**: the parts of a number as written. -/
structure Numeral where
  /-- Whether a minus sign stands in front. -/
  negative : Bool
  /-- The digits before the point. -/
  whole : List Digit
  /-- The digits after the point, if there is one. -/
  fraction : Option (List Digit)
  /-- The exponent, if there is one. -/
  exponent : Option Int
  deriving DecidableEq, Repr

namespace Numeral

/-- The number that digits spell. -/
def natOf (ds : List Digit) : Nat := ds.foldl (fun n d => 10 * n + d.val) 0

/-- The digits of a number. -/
def digitsOf (n : Nat) : List Digit :=
  (Nat.toDigits 10 n).map fun c => ⟨(c.toNat - 48) % 10, Nat.mod_lt _ (by decide)⟩

/-- The numeral of a natural number. -/
def ofNat (n : Nat) : Numeral := ⟨false, digitsOf n, none, none⟩

/-- The numeral of an integer. -/
def ofInt (i : Int) : Numeral := ⟨i < 0, digitsOf i.natAbs, none, none⟩

/-- The integer a numeral spells. Only digits, with or without a minus sign, spell an integer, and a
minus sign in front of zero spells none. -/
def toInt? (n : Numeral) : Option Int :=
  match n.fraction, n.exponent with
  | none, none =>
    let v := natOf n.whole
    if n.negative then (if v = 0 then none else some (-(v : Int))) else some v
  | _, _ => none

/-- The natural number below `bound` a numeral spells. -/
def toNat? (bound : Nat) (n : Numeral) : Option Nat :=
  match n.toInt? with
  | some (.ofNat v) => if v < bound then some v else none
  | _ => none

/-! ## Doubles -/

/-- Leading digits as a number below `2 ^ 64`, scaled by a power of ten. -/
structure Scan where
  /-- The number read so far. -/
  significand : Nat
  /-- The power of ten it is scaled by. -/
  exponent : Int
  /-- Whether a digit had to be left out. -/
  full : Bool

/-- Take one more digit unless the number would leave 64 bits; `taken` and `dropped` say what a
digit that is taken or left out adds to the exponent. -/
def Scan.push (taken dropped : Int) (s : Scan) (d : Digit) : Scan :=
  if s.full ∨ UInt64.size ≤ 10 * s.significand + d.val then
    ⟨s.significand, s.exponent + dropped, true⟩
  else ⟨10 * s.significand + d.val, s.exponent + taken, false⟩

/-- The digits of a numeral, its written exponent apart. A whole digit that is left out multiplies
the number by ten; a digit of the fraction divides it by ten if it is taken. -/
def scan (n : Numeral) : Scan :=
  let w := n.whole.foldl (Scan.push 0 1) ⟨0, 0, false⟩
  (n.fraction.getD []).foldl (Scan.push (-1) 0) { w with full := false }

/-- The greatest power of ten that is a double is the 308th. -/
def greatestPower : Nat := 308

/-- A double divided by a power of ten. Powers beyond the greatest are taken in steps, which end early
at zero. -/
def shrink (x : Binary64) (n : Nat) : Option Binary64 :=
  if greatestPower < n then
    if x.isZero then some x
    else (x.div? (.tenPow greatestPower)).bind fun y => shrink y (n - greatestPower)
  else x.div? (.tenPow n)
  termination_by n
  decreasing_by exact Nat.sub_lt_self (by decide) (Nat.le_of_lt ‹_›)

/-- A double times a power of ten; `none` is a number that is too large. -/
def scale (x : Binary64) (e : Int) : Option Binary64 :=
  if e < 0 then shrink x e.natAbs
  else if e.natAbs ≤ greatestPower then x.mul? (.tenPow e.natAbs)
  else if x.isZero then some x
  else none

/-- The double a numeral stands for; `none` if it is too large. An exponent beyond 32 bits makes zero
or a number that is too large. -/
def toDouble? (n : Numeral) : Option Binary64 :=
  let s := n.scan
  let e := n.exponent.getD 0
  if 2147483648 ≤ e.natAbs then
    if 0 ≤ e ∧ s.significand ≠ 0 then none else some (Binary64.zero.withSign n.negative)
  else
    ((Binary64.ofRatio? s.significand 1).bind fun x => scale x (s.exponent + e)).map
      fun x => x.withSign n.negative

/-- How a double is written: positional where the power of ten of the first digit is from `-5` to
`15`, always with a digit after the point, and with an exponent otherwise. -/
def ofDouble (x : Binary64) : Numeral :=
  let d := x.shortest
  let ds := digitsOf d.coefficient
  let point : Int := ds.length + d.exponent
  let zeros := fun (k : Nat) => List.replicate k (0 : Digit)
  if x.isZero then ⟨x.negative, [0], some [0], none⟩
  else if 0 ≤ d.exponent ∧ point ≤ 16 then
    ⟨x.negative, ds ++ zeros d.exponent.toNat, some [0], none⟩
  else if 0 < point ∧ point ≤ 16 then
    ⟨x.negative, ds.take point.toNat, some (ds.drop point.toNat), none⟩
  else if -5 < point ∧ point ≤ 0 then
    ⟨x.negative, [0], some (zeros (-point).toNat ++ ds), none⟩
  else
    let rest := ds.drop 1
    ⟨x.negative, ds.take 1, if rest.isEmpty then none else some rest, some (point - 1)⟩

end Numeral

end Lookout.Json
