import Lookout.Text.Blank
import Lookout.Time.Timestamp

/-! # Reading timestamps
A relaxed RFC 3339: a date, a `T` or a space, a time and an offset from Coordinated Universal Time.
Blank characters may surround the numbers, a number may have fewer digits than usual, a year may have
a sign and then any number of digits, and digits of a fraction after the ninth are dropped. The
offset is required; `Z` and `UTC` in any case are zero. -/

namespace Lookout.Timestamp

/-- The value of a decimal digit. -/
def decimalDigit? (c : Char) : Option Nat :=
  let n := c.toNat
  if 48 ≤ n ∧ n < 58 then some (n - 48) else none

/-- Up to `width` digits as a number, with their count and what follows them. -/
def takeDigits : (width value count : Nat) → List Char → Nat × Nat × List Char
  | width + 1, value, count, c :: cs => match decimalDigit? c with
    | some d => takeDigits width (10 * value + d) (count + 1) cs
    | none => (value, count, c :: cs)
  | _, value, count, cs => (value, count, cs)

/-- Blank characters and then a number of one to `width` digits. -/
def readNumber (width : Nat) (cs : List Char) : Option (Nat × List Char) :=
  match takeDigits width 0 0 (Text.trimStart cs) with
  | (_, 0, _) => none
  | (v, _, rest) => some (v, rest)

/-- Blank characters and then a year: one to four digits, or a sign and any number of digits. -/
def readYear (cs : List Char) : Option (Int × List Char) :=
  match Text.trimStart cs with
  | '-' :: cs => (signed cs).map fun (v, rest) => (-(v : Int), rest)
  | '+' :: cs => (signed cs).map fun (v, rest) => ((v : Int), rest)
  | cs => (readNumber 4 cs).map fun (v, rest) => ((v : Int), rest)
where
  /-- Digits directly after a sign. -/
  signed (cs : List Char) : Option (Nat × List Char) :=
    match takeDigits cs.length 0 0 cs with
    | (_, 0, _) => none
    | (v, _, rest) => some (v, rest)

/-- Blank characters and then the given character. -/
def readMark (mark : Char) (cs : List Char) : Option (List Char) :=
  match Text.trimStart cs with
  | c :: cs => if c = mark then some cs else none
  | [] => none

/-- The character between date and time. -/
def readSeparator : List Char → Option (List Char)
  | c :: cs => if c = 'T' ∨ c = 't' ∨ c = ' ' then some cs else none
  | [] => none

/-- A fraction of a second in nanoseconds, zero if there is no point. -/
def readFraction : List Char → Option (Nat × List Char)
  | '.' :: cs => match takeDigits 9 0 0 cs with
    | (_, 0, _) => none
    | (v, n, rest) =>
      some (v * Nat.pow 10 (9 - n), rest.dropWhile fun c => (decimalDigit? c).isSome)
  | cs => some (0, cs)

/-- Two digits. -/
def readTwo : List Char → Option (Nat × List Char)
  | a :: b :: cs => match decimalDigit? a, decimalDigit? b with
    | some a, some b => some (10 * a + b, cs)
    | _, _ => none
  | _ => none

/-- The hours and minutes of an offset in minutes. Colons and blank characters between them do not
count; hours are below 24 and minutes below 60. -/
def readHoursMinutes (cs : List Char) : Option (Nat × List Char) := do
  let (hours, cs) ← readTwo cs
  let (minutes, cs) ← readTwo (cs.dropWhile fun c => c = ':' || Text.isBlank c)
  if hours < 24 ∧ minutes < 60 then some (hours * 60 + minutes, cs) else none

/-- An offset from Coordinated Universal Time in minutes. -/
def readOffset : List Char → Option (Int × List Char)
  | '+' :: cs => (readHoursMinutes cs).map fun (m, rest) => ((m : Int), rest)
  | '-' :: cs => (readHoursMinutes cs).map fun (m, rest) => (-(m : Int), rest)
  | '−' :: cs => (readHoursMinutes cs).map fun (m, rest) => (-(m : Int), rest)
  | 'Z' :: cs => some (0, cs)
  | 'z' :: cs => some (0, cs)
  | u :: t :: c :: cs =>
    if u.toUpper = 'U' ∧ t.toUpper = 'T' ∧ c.toUpper = 'C' then some (0, cs) else none
  | _ => none

/-- A number as an element of a finite type, if it is one. -/
def finOf? (n v : Nat) : Option (Fin n) := if h : v < n then some ⟨v, h⟩ else none

/-- Read a timestamp. -/
def ofText? (s : String) : Option Timestamp := do
  let (year, cs) ← readYear s.toList
  let (month, cs) ← (readMark '-' cs).bind (readNumber 2)
  let (day, cs) ← (readMark '-' cs).bind (readNumber 2)
  let cs ← readSeparator cs
  let (hour, cs) ← readNumber 2 cs
  let (minute, cs) ← (readMark ':' cs).bind (readNumber 2)
  let (second, cs) ← (readMark ':' cs).bind (readNumber 2)
  let (nanosecond, cs) ← readFraction cs
  let (offset, cs) ← readOffset (Text.trimStart cs)
  let date ← Date.ofParts? year month day
  let t ← ofLocal? date (← finOf? _ hour) (← finOf? _ minute) (← finOf? _ second)
    (← finOf? _ nanosecond) offset
  if (Text.trimStart cs).isEmpty then some t else none

example : (ofText? "2024-05-01T00:30:00.5+02:00").map toText = some "2024-04-30T22:30:00.500Z" := by
  decide +kernel
example : (ofText? "0000-01-01T00:00:00+01:00").map display = some "-0001-12-31T23:00:00+00:00" := by
  decide +kernel

end Lookout.Timestamp
