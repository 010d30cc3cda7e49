import Lookout.Number.Binary64
import Lookout.Toml.Value

/-! # TOML literals
Numbers, booleans and dates. Each is a **word**, a run of characters none of which can follow a value,
so a word is a literal as a whole or not at all. `literal?` reads a word. -/

namespace Lookout.Toml

/-- Whether a character is a decimal digit. -/
def isDigit (c : Char) : Bool := '0' ≤ c && c ≤ '9'

/-- The value of a digit, of whatever base up to sixteen. -/
def digitValue (c : Char) : Nat :=
  let n := c.toNat
  if n ≤ 57 then n - 48 else if n ≤ 70 then n - 55 else n - 87

/-- Whether a character is a hexadecimal digit. -/
def isHexDigit (c : Char) : Bool := isDigit c || ('a' ≤ c && c ≤ 'f') || ('A' ≤ c && c ≤ 'F')

/-- The number that digits stand for in a base. -/
def valueOf (base : Nat) (ds : List Char) : Nat :=
  ds.foldl (fun n d => base * n + digitValue d) 0

/-- The digits of a word of digits in which single underscores may stand between two digits. -/
def digits? (isDigit : Char → Bool) : List Char → Option (List Char)
  | [] => none
  | [d] => if isDigit d then some [d] else none
  | d :: '_' :: r => if isDigit d then (digits? isDigit r).map (d :: ·) else none
  | d :: r => if isDigit d then (digits? isDigit r).map (d :: ·) else none

/-- The digits of a word for a decimal number, which has no zero in front of another digit. -/
def decimal? (cs : List Char) : Option (List Char) :=
  match digits? isDigit cs with
  | some ('0' :: _ :: _) => none
  | other => other

/-- Whether a word has a minus sign, and the word without its sign. -/
def unsign : List Char → Bool × List Char
  | '-' :: r => (true, r)
  | '+' :: r => (false, r)
  | r => (false, r)

/-! ## Numbers -/

/-- The integer with a sign, if it has at most 64 bits. -/
def signed? (negative : Bool) (n : Nat) : Option Int :=
  let i : Int := if negative then -n else n
  if -9223372036854775808 ≤ i ∧ i < 9223372036854775808 then some i else none

/-- The integer a word stands for. -/
def integer? (cs : List Char) : Option Int :=
  match cs with
  | '0' :: 'x' :: r => (digits? isHexDigit r).bind fun ds => signed? false (valueOf 16 ds)
  | '0' :: 'o' :: r => (digits? (fun c => '0' ≤ c && c ≤ '7') r).bind fun ds =>
    signed? false (valueOf 8 ds)
  | '0' :: 'b' :: r => (digits? (fun c => c == '0' || c == '1') r).bind fun ds =>
    signed? false (valueOf 2 ds)
  | _ =>
    let (negative, r) := unsign cs
    (decimal? r).bind fun ds => signed? negative (valueOf 10 ds)

/-- The part of a word before a mark, and the part after it, if the mark is there. -/
def cutAt (isMark : Char → Bool) (cs : List Char) : List Char × Option (List Char) :=
  match cs.dropWhile (fun c => !isMark c) with
  | [] => (cs, none)
  | _ :: r => (cs.takeWhile (fun c => !isMark c), some r)

/-- The exponent that an optional part of a word stands for. -/
def exponent? : Option (List Char) → Option Int
  | none => some 0
  | some cs =>
    let (negative, r) := unsign cs
    (digits? isDigit r).map fun ds => if negative then -(valueOf 10 ds : Int) else valueOf 10 ds

/-- Whether digits scaled by a power of ten are beyond the largest double. -/
def isHuge (ds : List Char) (scale : Int) : Bool :=
  let ds := ds.dropWhile (· == '0')
  let magnitude := (ds.length : Int) + scale
  if ds.isEmpty || magnitude < 300 then false
  else if 310 < magnitude then true
  else
    let n := valueOf 10 ds
    let rounded := if 0 ≤ scale then Binary64.ofRatio? (n * Nat.pow 10 scale.toNat) 1
      else Binary64.ofRatio? n (Nat.pow 10 (-scale).toNat)
    rounded.isNone

/-- Whether a word is a floating-point number. One that is too large is none, unless it is negative. -/
def isFloat (cs : List Char) : Bool :=
  let (negative, r) := unsign cs
  if r = ['i', 'n', 'f'] || r = ['n', 'a', 'n'] then true
  else
    let (mantissa, exponent) := cutAt (fun c => c == 'e' || c == 'E') r
    let (whole, fraction) := cutAt (· == '.') mantissa
    let fractionDigits := match fraction with
      | none => some []
      | some ds => digits? isDigit ds
    match decimal? whole, fractionDigits, exponent? exponent with
    | some ws, some fs, some e =>
      (fraction.isSome || exponent.isSome) && (negative || !isHuge (ws ++ fs) (e - fs.length))
    | _, _, _ => false

/-! ## Dates -/

/-- The number that two digits stand for, if it lies in a range. -/
def twoDigits? (low high : Nat) (a b : Char) : Option Nat :=
  if isDigit a && isDigit b then
    let n := valueOf 10 [a, b]
    if low ≤ n ∧ n ≤ high then some n else none
  else none

/-- The number of days of a month. -/
def monthLength (year month : Nat) : Nat :=
  if month = 2 then
    (if year % 4 = 0 ∧ (year % 100 ≠ 0 ∨ year % 400 = 0) then 29 else 28)
  else if month = 4 ∨ month = 6 ∨ month = 9 ∨ month = 11 then 30
  else 31

/-- What follows a date at the start of a word. -/
def afterDate? : List Char → Option (List Char)
  | a :: b :: c :: d :: '-' :: e :: f :: '-' :: g :: h :: r =>
    if [a, b, c, d].all isDigit then
      match twoDigits? 1 12 e f, twoDigits? 1 31 g h with
      | some month, some day =>
        if day ≤ monthLength (valueOf 10 [a, b, c, d]) month then some r else none
      | _, _ => none
    else none
  | _ => none

/-- What follows hours and minutes at the start of a word. -/
def afterMinutes? : List Char → Option (List Char)
  | a :: b :: ':' :: c :: d :: r =>
    if (twoDigits? 0 23 a b).isSome && (twoDigits? 0 59 c d).isSome then some r else none
  | _ => none

/-- What follows a time at the start of a word. -/
def afterTime? (cs : List Char) : Option (List Char) :=
  match afterMinutes? cs with
  | some (':' :: a :: b :: r) =>
    if (twoDigits? 0 60 a b).isSome then
      match r with
      | '.' :: c :: r => if isDigit c then some (r.dropWhile isDigit) else none
      | r => some r
    else none
  | _ => none

/-- Whether a word is a time on its own. -/
def isTime (cs : List Char) : Bool := afterTime? cs = some []

/-- Whether a word is a time, with or without an offset from universal time. -/
def isTimeWithOffset (cs : List Char) : Bool :=
  match afterTime? cs with
  | some [] | some ['Z'] | some ['z'] => true
  | some ('+' :: r) | some ('-' :: r) => afterMinutes? r = some []
  | _ => false

/-- Whether a word is a date on its own. -/
def isDate (cs : List Char) : Bool := afterDate? cs = some []

/-- Whether a word is a date, a time or both. -/
def isDateTime (cs : List Char) : Bool :=
  isTime cs ||
    match afterDate? cs with
    | some [] => true
    | some ('T' :: r) | some ('t' :: r) => isTimeWithOffset r
    | _ => false

/-! ## Words -/

/-- Whether a character can be part of a word. -/
def isWordChar (c : Char) : Bool :=
  isDigit c || ('a' ≤ c && c ≤ 'z') || ('A' ≤ c && c ≤ 'Z')
    || c == '+' || c == '-' || c == '.' || c == '_' || c == ':'

/-- The value a word stands for. -/
def literal? (cs : List Char) : Option Value :=
  if cs = ['t', 'r', 'u', 'e'] then some (.boolean true)
  else if cs = ['f', 'a', 'l', 's', 'e'] then some (.boolean false)
  else if isDateTime cs then some (.dateTime (String.ofList cs))
  else if isFloat cs then some (.float (String.ofList cs))
  else (integer? cs).map .integer

example : integer? "-0".toList = some 0 := by decide +kernel
example : integer? "0x7fff_ffff_ffff_ffff".toList = some 9223372036854775807 := by decide +kernel
example : integer? "007".toList = none := by decide +kernel
example : isFloat "1e308".toList = true ∧ isFloat "1e309".toList = false := by decide +kernel
example : isDateTime "2024-02-29T23:59:60.5+01:30".toList = true := by decide +kernel

end Lookout.Toml
