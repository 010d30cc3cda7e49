import Lookout.Json.Tree

/-! # JSON tokens
The lexer: characters to **tokens**. White space is a space, a tab, a line feed or a carriage return
and nothing else. A string literal may hold any character except a quote, a backslash and the control
characters below the space, and escapes; an escape that names half of a surrogate pair is kept as a
literal without a text. -/

namespace Lookout.Json

/-- A **token** of JSON text. -/
inductive Token
  | openArray
  | closeArray
  | openObject
  | closeObject
  | comma
  | colon
  | null
  | bool (b : Bool)
  | number (n : Numeral)
  | string (t : Text)
  deriving DecidableEq, Repr

/-- The characters that separate tokens. -/
def isSpace (c : Char) : Bool := c = ' ' || c = '\t' || c = '\n' || c = '\r'

/-- The value of a decimal digit. -/
def digit? (c : Char) : Option Digit :=
  if h : 48 ≤ c.toNat ∧ c.toNat < 58 then some ⟨c.toNat - 48, by omega⟩ else none

/-- The value of a hexadecimal digit of either case. -/
def hexDigit? (c : Char) : Option Nat :=
  let n := c.toNat
  if 48 ≤ n ∧ n < 58 then some (n - 48)
  else if 97 ≤ n ∧ n < 103 then some (n - 87)
  else if 65 ≤ n ∧ n < 71 then some (n - 55)
  else none

/-- The number of four hexadecimal digits. -/
def hex4? (a b c d : Char) : Option Nat :=
  match hexDigit? a, hexDigit? b, hexDigit? c, hexDigit? d with
  | some a, some b, some c, some d => some (((a * 16 + b) * 16 + c) * 16 + d)
  | _, _, _, _ => none

/-- The character a one-letter escape stands for. -/
def simpleEscape? : Char → Option Char
  | '"' => some '"'
  | '\\' => some '\\'
  | '/' => some '/'
  | 'b' => some '\x08'
  | 'f' => some '\x0c'
  | 'n' => some '\n'
  | 'r' => some '\r'
  | 't' => some '\t'
  | _ => none

/-! ## String literals -/

/-- The rest of a string literal: `acc` holds its characters so far, last first, and `whole` says
whether it still has a text. The result is the literal's text and what follows the closing quote. -/
def scanString (acc : List Char) (whole : Bool) : List Char → Option (Text × List Char)
  | [] => none
  | '"' :: rest => some (if whole then some (String.ofList acc.reverse) else none, rest)
  | '\\' :: 'u' :: a :: b :: c :: d :: rest =>
    match hex4? a b c d with
    | none => none
    | some n =>
      if n < 0xD800 ∨ 0xDFFF < n then scanString (Char.ofNat n :: acc) whole rest
      else if 0xDBFF < n then scanString acc false rest
      else match rest with
        | '\\' :: 'u' :: e :: f :: g :: h :: rest' =>
          match hex4? e f g h with
          | none => none
          | some m =>
            if 0xDC00 ≤ m ∧ m ≤ 0xDFFF then
              scanString (Char.ofNat (0x10000 + (n - 0xD800) * 0x400 + (m - 0xDC00)) :: acc) whole
                rest'
            else scanString acc false ('\\' :: 'u' :: e :: f :: g :: h :: rest')
        | rest' => scanString acc false rest'
  | '\\' :: c :: rest =>
    match simpleEscape? c with
    | none => none
    | some e => scanString (e :: acc) whole rest
  | c :: rest => if c = '\\' ∨ c.toNat < 0x20 then none else scanString (c :: acc) whole rest
  termination_by cs => cs.length

theorem length_lt_of_scanString {acc : List Char} {whole : Bool} {cs rest : List Char} {t : Text}
    (h : scanString acc whole cs = some (t, rest)) : rest.length < cs.length := by
  fun_induction scanString acc whole cs generalizing t rest <;> simp_all <;> grind

/-! ## Numerals -/

/-- Split off the digits a list of characters starts with. -/
def scanDigits : List Char → List Digit × List Char
  | [] => ([], [])
  | c :: cs => match digit? c with
    | none => ([], c :: cs)
    | some d => let (ds, rest) := scanDigits cs; (d :: ds, rest)

theorem length_scanDigits_add : ∀ cs : List Char,
    (scanDigits cs).1.length + (scanDigits cs).2.length = cs.length
  | [] => rfl
  | c :: cs => by
    have ih := length_scanDigits_add cs
    simp only [scanDigits]
    split
    · exact Nat.zero_add _
    · simp only [List.length_cons]
      omega

/-- The digits after a point, of which there is at least one; without a point there are none. -/
def scanFraction : List Char → Option (Option (List Digit) × List Char)
  | '.' :: cs =>
    let (ds, rest) := scanDigits cs
    if ds.isEmpty then none else some (some ds, rest)
  | cs => some (none, cs)

theorem length_le_of_scanFraction {cs rest : List Char} {ds : Option (List Digit)}
    (h : scanFraction cs = some (ds, rest)) : rest.length ≤ cs.length := by
  unfold scanFraction at h
  split at h
  · next cs =>
    have := length_scanDigits_add cs
    simp only at h
    split at h
    · simp at h
    · simp only [Option.some.injEq, Prod.mk.injEq] at h
      obtain ⟨_, rfl⟩ := h
      simp only [List.length_cons]
      omega
  · simp_all

/-- The sign that may precede the digits of an exponent. -/
def scanSign : List Char → Bool × List Char
  | '+' :: cs => (false, cs)
  | '-' :: cs => (true, cs)
  | cs => (false, cs)

theorem length_scanSign_le (cs : List Char) : (scanSign cs).2.length ≤ cs.length := by
  unfold scanSign; split <;> simp

/-- The exponent after an `e` of either case, with at least one digit; without an `e` there is
none. -/
def scanExponent : List Char → Option (Option Int × List Char)
  | [] => some (none, [])
  | c :: cs =>
    if c = 'e' ∨ c = 'E' then
      let (negative, cs) := scanSign cs
      let (ds, rest) := scanDigits cs
      if ds.isEmpty then none
      else
        let v : Int := Numeral.natOf ds
        some (some (if negative then -v else v), rest)
    else some (none, c :: cs)

theorem length_le_of_scanExponent {cs rest : List Char} {e : Option Int}
    (h : scanExponent cs = some (e, rest)) : rest.length ≤ cs.length := by
  unfold scanExponent at h
  split at h
  · simp_all
  · next c cs =>
    split at h
    · have h1 := length_scanDigits_add (scanSign cs).2
      have h2 := length_scanSign_le cs
      simp only at h
      split at h
      · simp at h
      · simp only [Option.some.injEq, Prod.mk.injEq] at h
        obtain ⟨_, rfl⟩ := h
        simp only [List.length_cons]
        omega
    · simp_all

/-- The rest of a numeral after its sign. A zero in front is the only whole digit. -/
def scanUnsigned (negative : Bool) (cs : List Char) : Option (Numeral × List Char) :=
  match scanDigits cs with
  | ([], _) => none
  | (d :: ds, rest) =>
    if d.val = 0 && !ds.isEmpty then none
    else match scanFraction rest with
      | none => none
      | some (fraction, rest) =>
        match scanExponent rest with
        | none => none
        | some (exponent, rest) => some (⟨negative, d :: ds, fraction, exponent⟩, rest)

theorem length_lt_of_scanUnsigned {negative : Bool} {cs rest : List Char} {n : Numeral}
    (h : scanUnsigned negative cs = some (n, rest)) : rest.length < cs.length := by
  unfold scanUnsigned at h
  have hd := length_scanDigits_add cs
  split at h
  · simp at h
  · next d ds rest₁ heq =>
    rw [heq] at hd
    split at h
    · simp at h
    · split at h
      · simp at h
      · next hf =>
        split at h
        · simp at h
        · next he =>
          have h1 := length_le_of_scanFraction hf
          have h2 := length_le_of_scanExponent he
          simp only [Option.some.injEq, Prod.mk.injEq] at h
          obtain ⟨_, rfl⟩ := h
          simp only [List.length_cons] at hd
          omega

/-! ## The lexer -/

/-- One token that is neither white space nor a string, with what follows it. -/
def scanToken : List Char → Option (Token × List Char)
  | '[' :: cs => some (.openArray, cs)
  | ']' :: cs => some (.closeArray, cs)
  | '{' :: cs => some (.openObject, cs)
  | '}' :: cs => some (.closeObject, cs)
  | ',' :: cs => some (.comma, cs)
  | ':' :: cs => some (.colon, cs)
  | '"' :: cs => (scanString [] true cs).map fun (t, rest) => (.string t, rest)
  | 'n' :: 'u' :: 'l' :: 'l' :: cs => some (.null, cs)
  | 't' :: 'r' :: 'u' :: 'e' :: cs => some (.bool true, cs)
  | 'f' :: 'a' :: 'l' :: 's' :: 'e' :: cs => some (.bool false, cs)
  | '-' :: cs => (scanUnsigned true cs).map fun (n, rest) => (.number n, rest)
  | cs => (scanUnsigned false cs).map fun (n, rest) => (.number n, rest)

theorem length_lt_of_scanToken {cs rest : List Char} {t : Token}
    (h : scanToken cs = some (t, rest)) : rest.length < cs.length := by
  unfold scanToken at h
  split at h
  case h_7 =>
    simp only [Option.map_eq_some_iff, Prod.exists, Prod.mk.injEq] at h
    obtain ⟨_, _, h, _, rfl⟩ := h
    have := length_lt_of_scanString h
    simp only [List.length_cons]
    omega
  case h_11 =>
    simp only [Option.map_eq_some_iff, Prod.exists, Prod.mk.injEq] at h
    obtain ⟨_, _, h, _, rfl⟩ := h
    have := length_lt_of_scanUnsigned h
    simp only [List.length_cons]
    omega
  case h_12 =>
    simp only [Option.map_eq_some_iff, Prod.exists, Prod.mk.injEq] at h
    obtain ⟨_, _, h, _, rfl⟩ := h
    exact length_lt_of_scanUnsigned h
  all_goals
    simp only [Option.some.injEq, Prod.mk.injEq] at h
    obtain ⟨_, rfl⟩ := h
    simp only [List.length_cons]
    omega

/-- The tokens of a text after those in `acc`, which are held last first. -/
def lexFrom (acc : List Token) : List Char → Option (List Token)
  | [] => some acc.reverse
  | c :: cs =>
    if isSpace c then lexFrom acc cs
    else match h : scanToken (c :: cs) with
      | none => none
      | some (t, rest) =>
        have := length_lt_of_scanToken h
        lexFrom (t :: acc) rest
  termination_by cs => cs.length
  decreasing_by
  · exact Nat.lt_succ_self _
  · assumption

/-- The **tokens** of a text, or `none` if some part of it is no token. -/
def lex (cs : List Char) : Option (List Token) := lexFrom [] cs

end Lookout.Json
