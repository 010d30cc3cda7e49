import Lookout.Json.Printer
import Lookout.Json.Token
import Lookout.Proofs.Json.Numerals

/-! # What printed text is cut into
The lexer cuts a text into tokens without knowing who wrote it. This file shows that it cuts what the
printer wrote where the printer put it together: **every literal is one token again**, whatever
follows it. A numeral has to be followed by something that does not go on with it.

* `scanToken_printText`: string literals, with all their escapes.
* `scanToken_print`: numerals, if they are well-formed.
* `Spells`: some characters are cut into some tokens, whatever comes before and after them. -/

namespace Lookout.Json

/-! ## String literals -/

/-- Hexadecimal digits are read back. -/
theorem hexDigit?_hexChar {n : Nat} (h : n < 16) : hexDigit? (hexChar n) = some n := by
  have hall : ∀ n : Fin 16, hexDigit? (hexChar n.val) = some n.val := by decide
  exact hall ⟨n, h⟩

/-- A control character is read back from its number. -/
theorem hex4?_control {c : Char} (h : c.toNat < 32) :
    hex4? '0' '0' (hexChar (c.toNat / 16)) (hexChar (c.toNat % 16)) = some c.toNat := by
  have hzero : hexDigit? '0' = some 0 := by decide
  rw [hex4?, hzero, hexDigit?_hexChar (by omega), hexDigit?_hexChar (by omega)]
  exact congrArg some (by omega)

section Strings

variable {acc rest : List Char} {whole : Bool}

/-- An escape of one letter. -/
theorem scanString_letter {c e : Char} (h : simpleEscape? c = some e) :
    scanString acc whole ('\\' :: c :: rest) = scanString (e :: acc) whole rest := by
  have hu : c ≠ 'u' := by
    rintro rfl
    cases h
  rw [scanString]
  · rw [h]
  · exact fun _ _ _ _ _ heq _ => hu heq

/-- An escape of four digits that does not name half of a surrogate pair. -/
theorem scanString_digits {a b c d : Char} {n : Nat} (h : hex4? a b c d = some n)
    (hn : n < 0xD800) :
    scanString acc whole ('\\' :: 'u' :: a :: b :: c :: d :: rest) =
      scanString (Char.ofNat n :: acc) whole rest := by
  rw [scanString, h]
  exact if_pos (.inl hn)

/-- A character that stands for itself. -/
theorem scanString_plain {c : Char} (hquote : c ≠ '"') (hslash : c ≠ '\\')
    (hcontrol : ¬c.toNat < 0x20) :
    scanString acc whole (c :: rest) = scanString (c :: acc) whole rest := by
  rw [scanString]
  · exact if_neg (not_or.mpr ⟨hslash, hcontrol⟩)
  · exact hquote
  · rintro _ _ _ _ _ rfl
    exact absurd rfl hslash
  · rintro _ _ rfl
    exact absurd rfl hslash

/-- A character of a literal is read back from however it is written. -/
theorem scanString_escapeChar (c : Char) :
    scanString acc whole (escapeChar c ++ rest) = scanString (c :: acc) whole rest := by
  unfold escapeChar
  -- Seven characters have an escape of one letter.
  iterate 7
    split
    · next h =>
        subst h
        exact scanString_letter rfl
  split
  · next h =>
      -- Below 32 two digits are zeros, and no number names half of a surrogate pair.
      have hread := @scanString_digits acc rest whole _ _ _ _ _ (hex4?_control h) (by omega)
      rw [Char.ofNat_toNat] at hread
      exact hread
  · next hquote hslash _ _ _ _ _ hcontrol => exact scanString_plain hquote hslash hcontrol

/-- The characters of a literal are read back up to the closing quote. -/
theorem scanString_flatMap_escapeChar (cs : List Char) :
    scanString acc whole (cs.flatMap escapeChar ++ '"' :: rest) =
      some (if whole then some (String.ofList (acc.reverse ++ cs)) else none, rest) := by
  induction cs generalizing acc with
  | nil => rw [List.flatMap_nil, List.nil_append, scanString, List.append_nil]
  | cons c cs ih =>
      rw [List.flatMap_cons, List.append_assoc, scanString_escapeChar, ih, List.reverse_cons,
        List.append_assoc, List.singleton_append]

end Strings

/-- **A string literal is one token again.** -/
theorem scanToken_printText (t : Text) (rest : List Char) :
    scanToken ((printText t).toList ++ rest) = some (.string t, rest) := by
  cases t with
  | some s =>
      rw [printText, String.toList_ofList, List.append_assoc, List.cons_append]
      show (scanString [] true (s.toList.flatMap escapeChar ++ '"' :: rest)).map _ = _
      rw [scanString_flatMap_escapeChar]
      simp
  | none =>
      show (scanString [] true ('\\' :: 'u' :: 'd' :: '8' :: '0' :: '0' :: '"' :: rest)).map _ = _
      have hhalf : hex4? 'd' '8' '0' '0' = some 0xD800 := by decide
      rw [scanString, hhalf]
      simp [scanString]

/-! ## Numerals -/

/-- A digit is read back from its character. -/
theorem digit?_toChar (d : Digit) : digit? d.toChar = some d := by
  revert d
  decide

/-- A digit is no white space. -/
theorem isSpace_toChar (d : Digit) : isSpace d.toChar = false := by
  revert d
  decide

/-- The characters of a number are those of its digits. -/
theorem map_toChar_digitsOf (n : Nat) :
    (Numeral.digitsOf n).map Digit.toChar = Nat.toDigits 10 n := by
  rw [Numeral.digitsOf, List.map_map]
  refine (List.map_congr_left fun c hc => ?_).trans (List.map_id _)
  have hdigit := Nat.isDigit_of_mem_toDigits (by decide) (by decide) hc
  have hbounds : 48 ≤ c.toNat ∧ c.toNat ≤ 57 := by
    simpa [Char.isDigit, UInt32.le_iff_toNat_le] using hdigit
  have hvalue : (c.toNat - 48) % 10 + 48 = c.toNat := by omega
  show Char.ofNat ((c.toNat - 48) % 10 + 48) = c
  rw [hvalue, Char.ofNat_toNat]

/-- What holds of the first character of a text. -/
theorem forall_mem_head?_cons {P : Char → Prop} {c : Char} (h : P c) (cs : List Char) :
    ∀ d ∈ (c :: cs).head?, P d := by
  rintro d hd
  obtain rfl := Option.some.inj hd
  exact h

/-- What can follow a numeral without going on with it. -/
def Stops (rest : List Char) : Prop :=
  ∀ c ∈ rest.head?, digit? c = none ∧ c ≠ '.' ∧ c ≠ 'e' ∧ c ≠ 'E'

/-- Digits are read back up to a character that is none. -/
theorem scanDigits_toChar (ds : List Digit) {rest : List Char}
    (h : ∀ c ∈ rest.head?, digit? c = none) :
    scanDigits (ds.map Digit.toChar ++ rest) = (ds, rest) := by
  induction ds with
  | nil =>
      cases rest with
      | nil => rfl
      | cons c cs =>
          rw [List.map_nil, List.nil_append, scanDigits, h c rfl]
  | cons d ds ih =>
      rw [List.map_cons, List.cons_append, scanDigits, digit?_toChar, ih]

/-- The characters of a fraction, with its point. -/
def fractionChars : Option (List Digit) → List Char
  | none => []
  | some ds => '.' :: ds.map Digit.toChar

/-- The characters of an exponent, with its letter and its sign. -/
def exponentChars : Option Int → List Char
  | none => []
  | some e => 'e' :: (if e < 0 then '-' else '+') :: (Numeral.digitsOf e.natAbs).map Digit.toChar

/-- The characters of a numeral without its sign. -/
def unsignedChars (n : Numeral) : List Char :=
  n.whole.map Digit.toChar ++ (fractionChars n.fraction ++ exponentChars n.exponent)

/-- The characters of a numeral. -/
theorem toList_print (n : Numeral) :
    n.print.toList = (if n.negative then ['-'] else []) ++ unsignedChars n := by
  have hdigits : ∀ ds, (printDigits ds).toList = ds.map Digit.toChar := fun ds =>
    String.toList_ofList
  have hexponent : ∀ e : Int, ((if e < 0 then "e-" else "e+") ++ toString e.natAbs).toList =
      exponentChars (some e) := by
    intro e
    rw [String.toList_append, exponentChars, map_toChar_digitsOf, Nat.toString_eq_repr,
      Nat.toList_repr]
    split <;> rfl
  obtain ⟨negative, whole, fraction, exponent⟩ := n
  rw [unsignedChars]
  cases negative <;> cases fraction <;> cases exponent <;>
    simp only [Numeral.print, String.toList_append, hdigits, hexponent, fractionChars,
      List.append_assoc] <;> rfl

/-- An exponent is read back. -/
theorem scanExponent_chars (e : Option Int) {rest : List Char} (h : Stops rest) :
    scanExponent (exponentChars e ++ rest) = some (e, rest) := by
  cases e with
  | none =>
      cases rest with
      | nil => rfl
      | cons c cs =>
          obtain ⟨-, -, hlower, hupper⟩ := h c rfl
          exact if_neg (not_or.mpr ⟨hlower, hupper⟩)
  | some e =>
      have hsign : ∀ cs, scanSign ((if e < 0 then '-' else '+') :: cs) = (decide (e < 0), cs) := by
        intro cs
        split
        · next hneg => rw [decide_eq_true hneg]; rfl
        · next hneg => rw [decide_eq_false hneg]; rfl
      have hdigits := scanDigits_toChar (Numeral.digitsOf e.natAbs) fun c hc => (h c hc).1
      have hsome : (Numeral.digitsOf e.natAbs).isEmpty = false := by
        rw [List.isEmpty_eq_false_iff]
        exact Numeral.digitsOf_ne_nil _
      have hvalue : (if decide (e < 0) = true then -(e.natAbs : Int) else e.natAbs) = e := by
        simp only [decide_eq_true_eq]
        split <;> omega
      simp only [exponentChars, List.cons_append, scanExponent, true_or, if_true, hsign, hdigits,
        hsome, Bool.false_eq_true, if_false, Numeral.natOf_digitsOf, hvalue]

/-- A fraction is read back. -/
theorem scanFraction_chars {f : Option (List Digit)} (hf : f ≠ some []) {rest : List Char}
    (h : ∀ c ∈ rest.head?, digit? c = none ∧ c ≠ '.') :
    scanFraction (fractionChars f ++ rest) = some (f, rest) := by
  cases f with
  | none =>
      rw [fractionChars, List.nil_append, scanFraction]
      rintro cs rfl
      exact (h '.' rfl).2 rfl
  | some ds =>
      have hdigits := scanDigits_toChar ds fun c hc => (h c hc).1
      have hsome : ds.isEmpty = false := by
        rw [List.isEmpty_eq_false_iff]
        rintro rfl
        exact hf rfl
      simp only [fractionChars, List.cons_append, scanFraction, hdigits, hsome,
        Bool.false_eq_true, if_false]

/-- An exponent, too, starts with what cannot go on with digits or a fraction. -/
theorem head?_exponentChars (e : Option Int) {rest : List Char} (h : Stops rest) :
    ∀ c ∈ (exponentChars e ++ rest).head?, digit? c = none ∧ c ≠ '.' := by
  cases e with
  | none => exact fun c hc => ⟨(h c hc).1, (h c hc).2.1⟩
  | some e => exact forall_mem_head?_cons (by decide) _

/-- A fraction, too, starts with what cannot go on with digits. -/
theorem head?_fractionChars (f : Option (List Digit)) {rest : List Char}
    (h : ∀ c ∈ rest.head?, digit? c = none ∧ c ≠ '.') :
    ∀ c ∈ (fractionChars f ++ rest).head?, digit? c = none := by
  cases f with
  | none => exact fun c hc => (h c hc).1
  | some ds => exact forall_mem_head?_cons (by decide) _

/-- A well-formed numeral is read back from what follows its sign. -/
theorem scanUnsigned_chars {n : Numeral} (hn : n.IsWellFormed) {rest : List Char}
    (h : Stops rest) :
    scanUnsigned n.negative (unsignedChars n ++ rest) = some (n, rest) := by
  obtain ⟨negative, whole, fraction, exponent⟩ := n
  obtain ⟨hwhole, hzero, hfraction⟩ := hn
  obtain ⟨d, ds, rfl⟩ := List.exists_cons_of_ne_nil hwhole
  have hexponent := head?_exponentChars exponent h
  have hdigits := scanDigits_toChar (d :: ds) (head?_fractionChars fraction hexponent)
  have hfirst : (d.val = 0 && !ds.isEmpty) = false := by
    by_cases hd : d = 0
    · subst hd
      rw [(List.cons.inj (hzero rfl)).2]
      rfl
    · simp [Fin.val_eq_zero_iff, hd]
  simp only [unsignedChars, List.append_assoc, scanUnsigned, hdigits, hfirst, Bool.false_eq_true,
    if_false, scanFraction_chars hfraction hexponent, scanExponent_chars exponent h]

/-- A digit starts a numeral and no other token. -/
theorem scanToken_toChar (d : Digit) (cs : List Char) :
    scanToken (d.toChar :: cs) =
      (scanUnsigned false (d.toChar :: cs)).map fun (n, rest) => (.number n, rest) :=
  match d with
  | 0 | 1 | 2 | 3 | 4 | 5 | 6 | 7 | 8 | 9 => rfl

/-- **A well-formed numeral is one token again.** -/
theorem scanToken_print {n : Numeral} (hn : n.IsWellFormed) {rest : List Char} (h : Stops rest) :
    scanToken (n.print.toList ++ rest) = some (.number n, rest) := by
  have hread := scanUnsigned_chars hn h
  rw [toList_print, List.append_assoc]
  cases hneg : n.negative with
  | true =>
      rw [hneg] at hread
      show (scanUnsigned true (unsignedChars n ++ rest)).map _ = _
      rw [hread]
      rfl
  | false =>
      obtain ⟨d, ds, hds⟩ := List.exists_cons_of_ne_nil hn.whole_ne_nil
      rw [hneg] at hread
      have hchars : unsignedChars n ++ rest = d.toChar :: (ds.map Digit.toChar ++
          (fractionChars n.fraction ++ exponentChars n.exponent) ++ rest) := by
        rw [unsignedChars, hds]
        rfl
      show scanToken (unsignedChars n ++ rest) = _
      rw [hchars] at hread ⊢
      rw [scanToken_toChar, hread]
      rfl

/-! ## Whole texts -/

/-- A token that is not white space is the next one. -/
theorem lexFrom_of_scanToken {acc : List Token} {cs rest : List Char} {t : Token}
    (hspace : ∀ c ∈ cs.head?, isSpace c = false) (h : scanToken cs = some (t, rest)) :
    lexFrom acc cs = lexFrom (t :: acc) rest := by
  cases cs with
  | nil => cases h
  | cons c cs =>
      rw [lexFrom, hspace c rfl, if_neg Bool.false_ne_true]
      split
      · next hnone =>
          rw [h] at hnone
          cases hnone
      · next hsome =>
          rw [h] at hsome
          obtain ⟨rfl, rfl⟩ := Prod.mk.inj (Option.some.inj hsome)
          rfl

/-- White space is passed over. -/
theorem lexFrom_spaces {space : List Char} (h : ∀ c ∈ space, isSpace c = true) (acc : List Token)
    (rest : List Char) : lexFrom acc (space ++ rest) = lexFrom acc rest := by
  induction space with
  | nil => rfl
  | cons c cs ih =>
      rw [List.cons_append, lexFrom, if_pos (h c (List.mem_cons_self)),
        ih fun d hd => h d (List.mem_cons_of_mem c hd)]

/-- Some characters **spell** some tokens: the lexer cuts them into just these, whatever came before
them and whatever that does not go on with a numeral comes after them. -/
def Spells (cs : List Char) (ts : List Token) : Prop :=
  ∀ acc rest, Stops rest → lexFrom acc (cs ++ rest) = lexFrom (ts.reverse ++ acc) rest

/-- A character that can stand in no numeral, or only at its start. -/
theorem stops_cons {c : Char} (h : digit? c = none ∧ c ≠ '.' ∧ c ≠ 'e' ∧ c ≠ 'E')
    (cs : List Char) : Stops (c :: cs) :=
  forall_mem_head?_cons h cs

/-- A **mark** is a character that is a token by itself. -/
structure IsMark (c : Char) (t : Token) : Prop where
  /-- It is no white space. -/
  isSpace_eq : isSpace c = false
  /-- It is the token whatever follows it. -/
  scanToken_eq : ∀ cs, scanToken (c :: cs) = some (t, cs)
  /-- It goes on with no numeral. -/
  stops : ∀ cs, Stops (c :: cs)

/-- The end of a text goes on with nothing. -/
theorem stops_nil : Stops [] := nofun

namespace Spells

variable {cs cs' space : List Char} {ts ts' : List Token}

/-- Nothing spells nothing. -/
theorem nil : Spells [] [] := fun _ _ _ => rfl

/-- One text after the other spells the tokens of the one after those of the other. -/
theorem append (h : Spells cs ts) (h' : Spells cs' ts')
    (hstops : ∀ rest, Stops rest → Stops (cs' ++ rest)) : Spells (cs ++ cs') (ts ++ ts') := by
  intro acc rest hrest
  -- To the first text, the second one is part of what comes after it.
  rw [List.append_assoc, h _ _ (hstops rest hrest), h' _ _ hrest, List.reverse_append,
    List.append_assoc]

/-- White space in front changes nothing. -/
theorem spaces (hspace : ∀ c ∈ space, isSpace c = true) (h : Spells cs ts) :
    Spells (space ++ cs) ts := by
  intro acc rest hrest
  rw [List.append_assoc, lexFrom_spaces hspace, h _ _ hrest]

/-- A mark in front is its token in front. -/
theorem mark {c : Char} {t : Token} (hmark : IsMark c t) (h : Spells cs ts) :
    Spells (c :: cs) (t :: ts) := by
  intro acc rest hrest
  have hfirst : ∀ d ∈ (c :: (cs ++ rest)).head?, isSpace d = false :=
    forall_mem_head?_cons hmark.isSpace_eq _
  rw [List.cons_append, lexFrom_of_scanToken hfirst (hmark.scanToken_eq _), h _ _ hrest,
    List.reverse_cons, List.append_assoc, List.singleton_append]

/-- What is read as one token whatever follows it spells that token. -/
theorem single {t : Token} (hspace : ∀ rest, ∀ c ∈ (cs ++ rest).head?, isSpace c = false)
    (h : ∀ rest, Stops rest → scanToken (cs ++ rest) = some (t, rest)) : Spells cs [t] :=
  fun _ rest hrest => lexFrom_of_scanToken (hspace rest) (h rest hrest)

/-- A string literal spells its token. -/
theorem text (t : Text) : Spells (printText t).toList [.string t] := by
  refine single (fun rest => ?_) fun rest _ => scanToken_printText t rest
  cases t with
  | some s =>
      rw [printText, String.toList_ofList]
      exact forall_mem_head?_cons (by rfl) _
  | none => exact forall_mem_head?_cons (by rfl) _

/-- A well-formed numeral spells its token. -/
theorem numeral {n : Numeral} (hn : n.IsWellFormed) : Spells n.print.toList [.number n] := by
  refine single (fun rest => ?_) fun rest hrest => scanToken_print hn hrest
  obtain ⟨d, ds, hds⟩ := List.exists_cons_of_ne_nil hn.whole_ne_nil
  rw [toList_print, unsignedChars, hds]
  cases n.negative with
  | true => exact forall_mem_head?_cons (by rfl) _
  | false => exact forall_mem_head?_cons (isSpace_toChar d) _

end Spells

/-- **A text is cut into the tokens it spells.** -/
theorem lex_of_spells {cs : List Char} {ts : List Token} (h : Spells cs ts) : lex cs = some ts := by
  have hlex := h [] [] stops_nil
  rw [List.append_nil, List.append_nil] at hlex
  rw [lex, hlex, lexFrom, List.reverse_reverse]

end Lookout.Json
