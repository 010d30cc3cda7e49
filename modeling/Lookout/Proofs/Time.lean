import Mathlib.Algebra.Group.Nat.Defs
import Lookout.Time.Reader

/-! # Timestamps that are written
The reader of timestamps takes much that is never written: missing zeros, blank characters, other
offsets. This file shows that it takes what is written for what it is: **every timestamp is read back
from its text**, in any year of the supported range, in a leap second, and to the nanosecond.

* `takeDigits_append`: digits are taken up to a character that is none, or up to the width.
* `readNumber_padded`, `readYear_renderYear`, `readFraction_renderFraction`: the parts of a text.
* `ofText?_toText`: the whole text. -/

namespace Lookout.Timestamp

/-! ## Digits -/

/-- A character is a **decimal digit** if it has a value. -/
def IsDecimal (c : Char) : Prop := decimalDigit? c = some (c.toNat - '0'.toNat)

/-- The decimal digits are the characters from zero to nine. -/
theorem isDecimal_iff {c : Char} : IsDecimal c ↔ 48 ≤ c.toNat ∧ c.toNat < 58 := by
  rw [IsDecimal, decimalDigit?]
  split
  · next h => exact iff_of_true rfl h
  · next h => exact iff_of_false nofun h

/-- What the core library calls a digit is a decimal digit. -/
theorem isDecimal_of_isDigit {c : Char} (h : c.isDigit = true) : IsDecimal c := by
  have hbounds : 48 ≤ c.toNat ∧ c.toNat ≤ 57 := by
    simpa [Char.isDigit, UInt32.le_iff_toNat_le] using h
  exact isDecimal_iff.mpr (by omega)

/-- A decimal digit is not blank. -/
theorem IsDecimal.isBlank_eq {c : Char} (h : IsDecimal c) : Text.isBlank c = false := by
  have hbounds := isDecimal_iff.mp h
  simp only [Text.isBlank, Bool.or_eq_false_iff, Bool.and_eq_false_iff, decide_eq_false_iff_not]
  omega

/-- **Digits are taken** up to a character that is none, or up to the width. -/
theorem takeDigits_append {cs rest : List Char} (hcs : ∀ c ∈ cs, IsDecimal c) {width : Nat}
    (hle : cs.length ≤ width)
    (hend : cs.length = width ∨ ∀ c ∈ rest.head?, decimalDigit? c = none) (value count : Nat) :
    takeDigits width value count (cs ++ rest) =
      (Nat.ofDigitChars 10 cs value, count + cs.length, rest) := by
  induction cs generalizing width value count with
  | nil =>
      show takeDigits width value count rest = (value, count, rest)
      rcases hend with rfl | hend
      · cases rest <;> rfl
      · cases rest with
        | nil => cases width <;> rfl
        | cons c cs =>
            cases width with
            | zero => rfl
            | succ width => rw [takeDigits, hend c rfl]
  | cons c cs ih =>
      obtain ⟨width, rfl⟩ := Nat.exists_eq_add_of_le' (Nat.lt_of_lt_of_le (Nat.succ_pos _) hle)
      have hdigit : decimalDigit? c = some (c.toNat - '0'.toNat) := hcs c List.mem_cons_self
      rw [List.cons_append, takeDigits, hdigit]
      simp only
      rw [ih (fun d hd => hcs d (List.mem_cons_of_mem c hd)) (Nat.le_of_succ_le_succ hle)
        (hend.imp_left Nat.succ.inj), Nat.ofDigitChars_cons, List.length_cons]
      congr 2
      omega

/-- No digit follows where the first character is none. -/
theorem decimalDigit?_head {c : Char} (h : decimalDigit? c = none) (cs : List Char) :
    ∀ d ∈ (c :: cs).head?, decimalDigit? d = none := by
  intro d hd
  obtain rfl := Option.some.inj hd
  exact h

/-- The characters of a number with zeros in front. -/
theorem toList_padded (width n : Nat) : (padded width n).toList =
    List.replicate (width - (Nat.toDigits 10 n).length) '0' ++ Nat.toDigits 10 n :=
  String.toList_ofList

/-- They are digits. -/
theorem isDecimal_of_mem_padded {width n : Nat} {c : Char} (h : c ∈ (padded width n).toList) :
    IsDecimal c := by
  rw [toList_padded] at h
  rcases List.mem_append.mp h with hzero | hdigit
  · rw [List.eq_of_mem_replicate hzero]
    rfl
  · exact isDecimal_of_isDigit (Nat.isDigit_of_mem_toDigits (by decide) (by decide) hdigit)

/-- They spell the number. -/
theorem ofDigitChars_padded (width n : Nat) :
    Nat.ofDigitChars 10 (padded width n).toList 0 = n := by
  rw [toList_padded, Nat.ofDigitChars_append, Nat.ofDigitChars_replicate_zero, Nat.mul_zero,
    Nat.ofDigitChars_toDigits (by decide) (by decide)]

/-- There are at least as many as asked for. -/
theorem le_length_padded (width n : Nat) : width ≤ (padded width n).toList.length := by
  rw [toList_padded, List.length_append, List.length_replicate]
  omega

/-- There are just as many if the number has no more. -/
theorem length_padded {width n : Nat} (hpos : 0 < width) (h : n < 10 ^ width) :
    (padded width n).toList.length = width := by
  have hlength := (Nat.length_toDigits_le_iff (by decide) hpos).mpr h
  rw [toList_padded, List.length_append, List.length_replicate]
  omega

/-- A number with zeros in front is taken if its width allows for it. -/
theorem takeDigits_padded {width n : Nat} {rest : List Char} (hpos : 0 < width)
    (h : n < 10 ^ width) :
    takeDigits width 0 0 ((padded width n).toList ++ rest) = (n, width, rest) := by
  have hlength := length_padded hpos h
  rw [takeDigits_append (fun c hc => isDecimal_of_mem_padded hc) (Nat.le_of_eq hlength)
    (.inl hlength), ofDigitChars_padded, hlength, Nat.zero_add]

/-- It is taken whatever its width is if no digit follows. -/
theorem takeDigits_padded_of_end {limit width n : Nat} {rest : List Char}
    (hle : (padded width n).toList.length ≤ limit)
    (hend : ∀ c ∈ rest.head?, decimalDigit? c = none) :
    takeDigits limit 0 0 ((padded width n).toList ++ rest) =
      (n, (padded width n).toList.length, rest) := by
  rw [takeDigits_append (fun c hc => isDecimal_of_mem_padded hc) hle (.inr hend),
    ofDigitChars_padded, Nat.zero_add]

/-! ## The parts of a text -/

/-- No blank is passed over in front of a character that is none. -/
theorem trimStart_cons {c : Char} (h : Text.isBlank c = false) (cs : List Char) :
    Text.trimStart (c :: cs) = c :: cs :=
  List.dropWhile_cons_of_neg (by rw [h]; exact Bool.false_ne_true)

/-- A number with zeros in front starts with a digit. -/
theorem exists_cons_padded {width : Nat} (hpos : 0 < width) (n : Nat) :
    ∃ c cs, (padded width n).toList = c :: cs ∧ IsDecimal c := by
  have hlength := le_length_padded width n
  cases hchars : (padded width n).toList with
  | nil =>
      rw [hchars] at hlength
      exact absurd hpos (Nat.not_lt_of_le hlength)
  | cons c cs => exact ⟨c, cs, rfl, isDecimal_of_mem_padded (hchars ▸ List.mem_cons_self)⟩

/-- No blank is passed over in front of a number. -/
theorem trimStart_padded {width : Nat} (hpos : 0 < width) (n : Nat) (rest : List Char) :
    Text.trimStart ((padded width n).toList ++ rest) = (padded width n).toList ++ rest := by
  obtain ⟨c, cs, hchars, hc⟩ := exists_cons_padded hpos n
  rw [hchars, List.cons_append, trimStart_cons hc.isBlank_eq]

/-- A number is read back. -/
theorem readNumber_padded {width n : Nat} (hpos : 0 < width) (h : n < 10 ^ width)
    (rest : List Char) :
    readNumber width ((padded width n).toList ++ rest) = some (n, rest) := by
  obtain ⟨k, rfl⟩ := Nat.exists_eq_add_of_le' hpos
  rw [readNumber, trimStart_padded hpos, takeDigits_padded hpos h]
  rfl

/-- A mark is passed over. -/
theorem readMark_cons {mark : Char} (h : Text.isBlank mark = false) (cs : List Char) :
    readMark mark (mark :: cs) = some cs := by
  rw [readMark, trimStart_cons h]
  exact if_pos rfl

/-- The digits of a year after its sign are read back. -/
theorem signed_padded (n : Nat) (rest : List Char) :
    readYear.signed ((padded 4 n).toList ++ '-' :: rest) = some (n, '-' :: rest) := by
  have hdash := decimalDigit?_head (c := '-') (by decide) rest
  obtain ⟨k, hk⟩ := Nat.exists_eq_add_of_le' (le_length_padded 4 n)
  rw [readYear.signed, takeDigits_padded_of_end (by simp) hdash, hk]
  rfl

/-- **A year is read back.** -/
theorem readYear_renderYear (y : Int) (rest : List Char) :
    readYear ((renderYear y).toList ++ '-' :: rest) = some (y, '-' :: rest) := by
  rw [renderYear]
  split
  · next hfour =>
      obtain ⟨c, cs, hchars, hc⟩ := exists_cons_padded (show 0 < 4 by decide) y.toNat
      have hbounds := isDecimal_iff.mp hc
      have hnumber := readNumber_padded (show 0 < 4 by decide) (show y.toNat < 10 ^ 4 by omega)
        ('-' :: rest)
      rw [readYear, trimStart_padded (by decide)]
      -- The first character is a digit, and so it is no sign.
      split
      · next heq =>
          rw [hchars] at heq
          obtain rfl := (List.cons.inj heq).1
          exact absurd hbounds (by decide)
      · next heq =>
          rw [hchars] at heq
          obtain rfl := (List.cons.inj heq).1
          exact absurd hbounds (by decide)
      · rw [hnumber]
        simp
        omega
  · split
    · next hneg =>
        rw [String.toList_append]
        show readYear ('-' :: ((padded 4 y.natAbs).toList ++ '-' :: rest)) = _
        rw [readYear, trimStart_cons (by decide)]
        simp only [signed_padded, Option.map_some]
        congr 2
        omega
    · next hpos =>
        rw [String.toList_append]
        show readYear ('+' :: ((padded 4 y.natAbs).toList ++ '-' :: rest)) = _
        rw [readYear, trimStart_cons (by decide)]
        simp only [signed_padded, Option.map_some]
        congr 2
        omega

/-- Some digits of a fraction are read back in nanoseconds. -/
theorem readFraction_padded {width v : Nat} (hpos : 0 < width) (hle : width ≤ 9)
    (h : v < 10 ^ width) :
    readFraction (("." ++ padded width v).toList ++ ['Z']) = some (v * 10 ^ (9 - width), ['Z']) := by
  have hlength := length_padded hpos h
  have hzone := decimalDigit?_head (c := 'Z') (by decide) []
  obtain ⟨k, hk⟩ := Nat.exists_eq_add_of_le' hpos
  rw [String.toList_append]
  show readFraction ('.' :: ((padded width v).toList ++ ['Z'])) = _
  rw [readFraction, takeDigits_padded_of_end (by omega) hzone, hlength, hk]
  rfl

/-- **A fraction is read back.** -/
theorem readFraction_renderFraction {n : Nat} (h : n < 1000000000) :
    readFraction ((renderFraction n).toList ++ ['Z']) = some (n, ['Z']) := by
  rw [renderFraction]
  split
  · next hzero =>
      rw [hzero]
      rfl
  split
  · next hmillis =>
      rw [readFraction_padded (by decide) (by decide) (by omega)]
      exact congrArg (fun v => some (v, ['Z'])) (by omega)
  split
  · next hmicros =>
      rw [readFraction_padded (by decide) (by decide) (by omega)]
      exact congrArg (fun v => some (v, ['Z'])) (by omega)
  · rw [readFraction_padded (by decide) (by decide) (by omega)]
    exact congrArg (fun v => some (v, ['Z'])) (by omega)

/-! ## Whole texts -/

/-- A part of a time is a part of a time. -/
theorem finOf?_val {n : Nat} (v : Fin n) : finOf? n v.val = some v :=
  dif_pos v.isLt

/-- A date is made of its parts. -/
theorem ofParts?_parts (d : Date) : Date.ofParts? d.year d.month d.day = some d :=
  dif_pos d.valid

/-- Clocks that are not ahead of Coordinated Universal Time show it. -/
theorem ofLocal?_zero (t : Timestamp) :
    ofLocal? t.date t.hour t.minute t.second t.nanosecond 0 = some t := by
  obtain ⟨date, ⟨hour, hhour⟩, ⟨minute, hminute⟩, second, nanosecond⟩ := t
  simp only [ofLocal?]
  rw [if_neg (by omega), if_neg (by omega), Option.map_some]
  congr 3
  · omega
  · omega

/-- A month has no hundred days. -/
theorem daysInMonth_lt (year : Int) (month : Nat) : daysInMonth year month < 100 := by
  unfold daysInMonth
  split
  · split <;> decide
  · split <;> decide

/-- The characters of a timestamp. -/
theorem toList_toText (t : Timestamp) : t.toText.toList = (renderYear t.date.year).toList ++ '-' ::
    ((padded 2 t.date.month).toList ++ '-' :: ((padded 2 t.date.day).toList ++ 'T' ::
      ((padded 2 t.hour.val).toList ++ ':' :: ((padded 2 t.minute.val).toList ++ ':' ::
        ((padded 2 t.second.val).toList ++ ((renderFraction t.nanosecond.val).toList ++
          ['Z'])))))) := by
  simp only [toText, render, String.toList_append, List.append_assoc]
  rfl

/-- A mark and a number of two digits are read back. -/
theorem readMarked_padded {mark : Char} (hmark : Text.isBlank mark = false) {n : Nat} (h : n < 100)
    (rest : List Char) :
    (readMark mark (mark :: ((padded 2 n).toList ++ rest))).bind (readNumber 2) = some (n, rest) := by
  rw [readMark_cons hmark, Option.bind_some, readNumber_padded (by decide) h]

/-- **A timestamp is read back from its text.** -/
theorem ofText?_toText (t : Timestamp) : ofText? t.toText = some t := by
  obtain ⟨-, -, -, hmonth, -, hday⟩ := t.date.valid
  have hday := Nat.lt_of_le_of_lt hday (daysInMonth_lt _ _)
  rw [ofText?, toList_toText]
  refine Option.bind_eq_some_iff.mpr ⟨_, readYear_renderYear _ _, ?_⟩
  refine Option.bind_eq_some_iff.mpr ⟨_, readMarked_padded (by decide) (by omega) _, ?_⟩
  refine Option.bind_eq_some_iff.mpr ⟨_, readMarked_padded (by decide) hday _, ?_⟩
  refine Option.bind_eq_some_iff.mpr ⟨_, rfl, ?_⟩
  refine Option.bind_eq_some_iff.mpr ⟨_, readNumber_padded (by decide) (by omega) _, ?_⟩
  refine Option.bind_eq_some_iff.mpr ⟨_, readMarked_padded (by decide) (by omega) _, ?_⟩
  refine Option.bind_eq_some_iff.mpr ⟨_, readMarked_padded (by decide) (by omega) _, ?_⟩
  refine Option.bind_eq_some_iff.mpr ⟨_, readFraction_renderFraction t.nanosecond.isLt, ?_⟩
  refine Option.bind_eq_some_iff.mpr ⟨(0, []), rfl, ?_⟩
  -- All parts are back; the offset is zero, and nothing is left of the text.
  refine Option.bind_eq_some_iff.mpr ⟨_, ofParts?_parts t.date, ?_⟩
  refine Option.bind_eq_some_iff.mpr ⟨_, finOf?_val t.hour, ?_⟩
  refine Option.bind_eq_some_iff.mpr ⟨_, finOf?_val t.minute, ?_⟩
  refine Option.bind_eq_some_iff.mpr ⟨_, finOf?_val t.second, ?_⟩
  refine Option.bind_eq_some_iff.mpr ⟨_, finOf?_val t.nanosecond, ?_⟩
  exact Option.bind_eq_some_iff.mpr ⟨_, ofLocal?_zero t, rfl⟩

end Lookout.Timestamp
