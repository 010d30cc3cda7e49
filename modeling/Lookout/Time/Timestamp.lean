/-! # Timestamps
A **date** of the proleptic Gregorian calendar and a **timestamp**, a moment of Coordinated Universal
Time to the nanosecond. A second may be the sixtieth of its minute, which is where leap seconds go.
Timestamps are written as in RFC 3339, with no fraction or with 3, 6 or 9 digits of it, whichever
suffices, and with a signed year outside `0` to `9999`. -/

namespace Lookout

/-- Whether a year has a 29th of February. -/
def isLeapYear (year : Int) : Bool := year % 4 = 0 && (year % 100 ≠ 0 || year % 400 = 0)

/-- The number of days of a month. -/
def daysInMonth (year : Int) (month : Nat) : Nat :=
  if month = 2 then (if isLeapYear year then 29 else 28)
  else if month = 4 ∨ month = 6 ∨ month = 9 ∨ month = 11 then 30
  else 31

/-- Whether year, month and day make a date of the supported range. -/
def IsDate (year : Int) (month day : Nat) : Prop :=
  -262143 ≤ year ∧ year ≤ 262142 ∧ 1 ≤ month ∧ month ≤ 12 ∧ 1 ≤ day ∧ day ≤ daysInMonth year month

instance (year : Int) (month day : Nat) : Decidable (IsDate year month day) :=
  inferInstanceAs (Decidable (_ ∧ _))

/-- A **date** of the Gregorian calendar. -/
structure Date where
  /-- The year; the year before year one is year zero. -/
  year : Int
  /-- The month, from one to twelve. -/
  month : Nat
  /-- The day of the month, from one. -/
  day : Nat
  /-- The parts make a date. -/
  valid : IsDate year month day
  deriving DecidableEq, Repr

namespace Date

/-- The date with the given parts, if they make one. -/
def ofParts? (year : Int) (month day : Nat) : Option Date :=
  if h : IsDate year month day then some ⟨year, month, day, h⟩ else none

/-- The day after, within the supported range. -/
def next? (d : Date) : Option Date :=
  if d.day < daysInMonth d.year d.month then ofParts? d.year d.month (d.day + 1)
  else if d.month < 12 then ofParts? d.year (d.month + 1) 1
  else ofParts? (d.year + 1) 1 1

/-- The day before, within the supported range. -/
def previous? (d : Date) : Option Date :=
  if 1 < d.day then ofParts? d.year d.month (d.day - 1)
  else if 1 < d.month then
    ofParts? d.year (d.month - 1) (daysInMonth d.year (d.month - 1))
  else ofParts? (d.year - 1) 12 31

end Date

/-- A **timestamp**: a moment of Coordinated Universal Time. -/
structure Timestamp where
  /-- The date. -/
  date : Date
  /-- The hour of the day. -/
  hour : Fin 24
  /-- The minute of the hour. -/
  minute : Fin 60
  /-- The second of the minute; sixty in a leap second. -/
  second : Fin 61
  /-- The nanosecond of the second. -/
  nanosecond : Fin 1000000000
  deriving DecidableEq, Repr

namespace Timestamp

/-- A number with zeros in front up to a width. -/
def padded (width n : Nat) : String :=
  let ds := Nat.toDigits 10 n
  String.ofList (List.replicate (width - ds.length) '0' ++ ds)

/-- A year: four digits, or a sign and at least four digits. -/
def renderYear (y : Int) : String :=
  if 0 ≤ y ∧ y ≤ 9999 then padded 4 y.toNat
  else if y < 0 then "-" ++ padded 4 y.natAbs
  else "+" ++ padded 4 y.natAbs

/-- A fraction of a second with as many groups of three digits as it takes. -/
def renderFraction (n : Nat) : String :=
  if n = 0 then ""
  else if n % 1000000 = 0 then "." ++ padded 3 (n / 1000000)
  else if n % 1000 = 0 then "." ++ padded 6 (n / 1000)
  else "." ++ padded 9 n

/-- A timestamp with the given name of the zone. -/
def render (zone : String) (t : Timestamp) : String :=
  renderYear t.date.year ++ "-" ++ padded 2 t.date.month ++ "-" ++ padded 2 t.date.day ++ "T"
    ++ padded 2 t.hour.val ++ ":" ++ padded 2 t.minute.val ++ ":" ++ padded 2 t.second.val
    ++ renderFraction t.nanosecond.val ++ zone

/-- A timestamp as documents spell it. -/
def toText (t : Timestamp) : String := t.render "Z"

/-- A timestamp as people are shown it. -/
def display (t : Timestamp) : String := t.render "+00:00"

/-- The moment at which clocks `offset` minutes ahead of Coordinated Universal Time show the given
time; the offset is less than a day. -/
def ofLocal? (date : Date) (hour : Fin 24) (minute : Fin 60) (second : Fin 61)
    (nanosecond : Fin 1000000000) (offset : Int) : Option Timestamp :=
  let minutes : Int := hour.val * 60 + minute.val - offset
  let date? :=
    if minutes < 0 then date.previous? else if 1440 ≤ minutes then date.next? else some date
  let m := (minutes % 1440).toNat
  date?.map fun date =>
    ⟨date, ⟨m / 60 % 24, Nat.mod_lt _ (by decide)⟩, ⟨m % 60, Nat.mod_lt _ (by decide)⟩, second,
      nanosecond⟩

end Timestamp

end Lookout
