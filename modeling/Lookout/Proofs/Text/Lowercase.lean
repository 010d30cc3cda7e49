import Lookout.Text.Blank
import Lookout.Text.Lowercase

/-! # The lower case of a part of a text
The lower case of a text is found character by character, with one exception: a capital sigma looks
around for the end of its word. So the lower case of a part need not occur in the lower case of the
whole, since a word can end where the part does and go on in the whole. This file says when it does:
**a part keeps its lower case exactly if each of its capital sigmas ends a word in the whole iff it
ends one in the part alone**.

* `lowerPart`: the lower case of a part at its place.
* `KeepsSigmas`, `lowerPart_eq_lowercase_iff`: what keeps its lower case at one place.
* `SelfContained`, `selfContained_iff`: what keeps its lower case wherever it occurs. -/

namespace Lookout.Text

variable {b b' a a' p s q t : List Char}

/-! ## The end of a word -/

/-- A character that is looked through makes no difference; any other one decides. -/
theorem startsCased_cons (c : Char) (cs : List Char) :
    startsCased (c :: cs) = if isCaseIgnorable c = true then startsCased cs else isCased c := by
  rw [startsCased, List.dropWhile_cons]
  by_cases hc : isCaseIgnorable c = true
  · rw [if_pos hc, if_pos hc, startsCased]
  · rw [if_neg hc, if_neg hc]

/-- A text that is looked through has no case. -/
theorem startsCased_of_all (h : s.all isCaseIgnorable = true) : startsCased s = false := by
  induction s with
  | nil => rfl
  | cons c cs ih =>
      obtain ⟨hc, hcs⟩ := Bool.and_eq_true_iff.mp (List.all_cons.symm.trans h)
      rw [startsCased_cons, if_pos hc]
      exact ih hcs

/-- A text that is looked through leaves the decision to what follows. -/
theorem startsCased_append_of_all (h : s.all isCaseIgnorable = true) (q : List Char) :
    startsCased (s ++ q) = startsCased q := by
  induction s with
  | nil => rfl
  | cons c cs ih =>
      obtain ⟨hc, hcs⟩ := Bool.and_eq_true_iff.mp (List.all_cons.symm.trans h)
      rw [List.cons_append, startsCased_cons, if_pos hc]
      exact ih hcs

/-- Any other text decides on its own. -/
theorem startsCased_append_of_not_all (h : s.all isCaseIgnorable = false) (q : List Char) :
    startsCased (s ++ q) = startsCased s := by
  induction s with
  | nil => cases h
  | cons c cs ih =>
      rw [List.cons_append, startsCased_cons, startsCased_cons]
      by_cases hc : isCaseIgnorable c = true
      · rw [List.all_cons, hc, Bool.true_and] at h
        rw [if_pos hc, if_pos hc, ih h]
      · rw [if_neg hc, if_neg hc]

/-- Whether a capital sigma **ends a word** between the characters before it, nearest first, and
those after it. -/
def endsWord (before after : List Char) : Bool := startsCased before && !startsCased after

/-- Only a capital sigma looks around, and only for the end of its word. -/
theorem lowerAt_eq_iff {c : Char} :
    lowerAt b c a = lowerAt b' c a' ↔ c = 'Σ' → endsWord b a = endsWord b' a' := by
  by_cases hc : c = 'Σ'
  · subst hc
    have hsigma : ∀ x y, lowerAt x 'Σ' y = if endsWord x y = true then ['ς'] else ['σ'] :=
      fun _ _ => rfl
    rw [hsigma, hsigma, forall_prop_of_true rfl]
    cases endsWord b a <;> cases endsWord b' a' <;> decide
  · simp [lowerAt, hc]

/-- A character has as many characters in its lower case wherever it stands. -/
theorem length_lowerAt (c : Char) (b a b' a' : List Char) :
    (lowerAt b c a).length = (lowerAt b' c a').length := by
  have hlength : ∀ x y,
      (lowerAt x c y).length = if c = 'Σ' then 1 else if c = 'İ' then 2 else 1 := by
    intro x y
    unfold lowerAt
    split
    · split <;> rfl
    · split <;> rfl
  rw [hlength, hlength]

/-- Every character has a lower case. -/
theorem lowerAt_ne_nil (b : List Char) (c : Char) (a : List Char) : lowerAt b c a ≠ [] := by
  unfold lowerAt
  split
  · split <;> exact List.cons_ne_nil _ _
  · split <;> exact List.cons_ne_nil _ _

/-! ## Parts -/

/-- The **lower case of a part** of a text, between the characters before it, nearest first, and
those after it. -/
def lowerPart (before part after : List Char) : List Char :=
  match part with
  | [] => []
  | c :: cs => lowerAt before c (cs ++ after) ++ lowerPart (c :: before) cs after

/-- The lower case of a text begins with that of a part it begins with. -/
theorem lowerFrom_append (b s q : List Char) :
    lowerFrom b (s ++ q) = lowerPart b s q ++ lowerFrom (s.reverse ++ b) q := by
  induction s generalizing b with
  | nil => rfl
  | cons c cs ih =>
      rw [List.cons_append, lowerFrom, ih, lowerPart, List.append_assoc, List.reverse_cons,
        List.append_assoc, List.singleton_append]

/-- A text is the part of itself with nothing around it. -/
theorem lowercase_eq_lowerPart (s : List Char) : lowercase s = lowerPart [] s [] := by
  have h := lowerFrom_append [] s []
  rwa [List.append_nil, lowerFrom, List.append_nil] at h

/-- **The lower case of a text has that of its part in it**, as it is at its place. -/
theorem lowercase_append_append (p s q : List Char) :
    lowercase (p ++ s ++ q) =
      lowerPart [] p (s ++ q) ++ lowerPart p.reverse s q ++
        lowerFrom (s.reverse ++ p.reverse) q := by
  rw [lowercase, List.append_assoc, lowerFrom_append, lowerFrom_append, List.append_nil,
    List.append_assoc]

/-- The places of a capital sigma in a text with one more character in front. -/
theorem cons_eq_append_sigma_iff {c : Char} {cs x y : List Char} :
    c :: cs = x ++ 'Σ' :: y ↔
      (x = [] ∧ c = 'Σ' ∧ cs = y) ∨ ∃ x', x = c :: x' ∧ cs = x' ++ 'Σ' :: y := by
  rw [List.cons_eq_append_iff, List.cons.injEq, eq_comm (a := 'Σ'), eq_comm (a := y)]

/-- **A part has the same lower case at two places iff all its capital sigmas end a word at both or
at neither.** -/
theorem lowerPart_eq_iff :
    lowerPart b s a = lowerPart b' s a' ↔ ∀ x y, s = x ++ 'Σ' :: y →
      endsWord (x.reverse ++ b) (y ++ a) = endsWord (x.reverse ++ b') (y ++ a') := by
  -- By induction on the part; each step moves its first character to those before it.
  induction s generalizing b b' with
  | nil => simp [lowerPart]
  | cons c cs ih =>
      have hsplit : lowerPart b (c :: cs) a = lowerPart b' (c :: cs) a' ↔
          lowerAt b c (cs ++ a) = lowerAt b' c (cs ++ a') ∧
            lowerPart (c :: b) cs a = lowerPart (c :: b') cs a' := by
        rw [lowerPart, lowerPart]
        constructor
        -- The two heads are of one length, so the texts are the same head by head.
        · exact fun h => List.append_inj h (length_lowerAt ..)
        · rintro ⟨hhead, htail⟩
          rw [hhead, htail]
      rw [hsplit, lowerAt_eq_iff, ih]
      constructor
      · rintro ⟨hhead, htail⟩ x y hxy
        rcases cons_eq_append_sigma_iff.mp hxy with ⟨rfl, hc, rfl⟩ | ⟨x', rfl, hcs⟩
        · exact hhead hc
        · simpa using htail x' y hcs
      · intro h
        refine ⟨fun hc => ?_, fun x y hcs => ?_⟩
        · exact h [] cs (cons_eq_append_sigma_iff.mpr (.inl ⟨rfl, hc, rfl⟩))
        · simpa using h (c :: x) y (cons_eq_append_sigma_iff.mpr (.inr ⟨x, rfl, hcs⟩))

/-- A part has as many characters in its lower case at all places. -/
theorem length_lowerPart (s b a b' a' : List Char) :
    (lowerPart b s a).length = (lowerPart b' s a').length := by
  induction s generalizing b b' with
  | nil => rfl
  | cons c cs ih =>
      rw [lowerPart, lowerPart, List.length_append, List.length_append,
        length_lowerAt c b (cs ++ a) b' (cs ++ a'), ih (c :: b) (c :: b')]

/-- Only the text without characters has none in its lower case. -/
theorem lowercase_eq_nil_iff : lowercase s = [] ↔ s = [] := by
  cases s with
  | nil => exact iff_of_true rfl rfl
  | cons c cs =>
      refine iff_of_false (fun h => ?_) (List.cons_ne_nil _ _)
      rw [lowercase, lowerFrom, List.append_eq_nil_iff] at h
      exact lowerAt_ne_nil _ _ _ h.1

/-! ## What keeps its lower case -/

/-- A part **keeps its sigmas** between two others: each of its capital sigmas ends a word there iff
it ends one in the part alone. -/
def KeepsSigmas (p s q : List Char) : Prop :=
  ∀ x y, s = x ++ 'Σ' :: y → endsWord (x.reverse ++ p.reverse) (y ++ q) = endsWord x.reverse y

/-- **A part keeps its lower case iff it keeps its sigmas.** -/
theorem lowerPart_eq_lowercase_iff : lowerPart p.reverse s q = lowercase s ↔ KeepsSigmas p s q := by
  rw [lowercase_eq_lowerPart, lowerPart_eq_iff]
  simp only [List.append_nil, KeepsSigmas]

/-- A part that keeps its sigmas has its lower case in that of the whole. -/
theorem KeepsSigmas.isInfix (h : KeepsSigmas p s q) : lowercase s <:+: lowercase (p ++ s ++ q) := by
  rw [lowercase_append_append, lowerPart_eq_lowercase_iff.mpr h]
  exact ⟨_, _, rfl⟩

/-- A text is **self-contained** if what its capital sigmas look for is in it: before each of them a
character that is not looked through, unless the next one after it has a case, and after each of them
such a character, unless the nearest one before it has no case. -/
def SelfContained (s : List Char) : Prop :=
  ∀ x y, s = x ++ 'Σ' :: y →
    (x.all isCaseIgnorable = true → startsCased y = true) ∧
      (y.all isCaseIgnorable = true → startsCased x.reverse = false)

/-- A self-contained text keeps its sigmas between any others. -/
theorem SelfContained.keepsSigmas (h : SelfContained s) (p q : List Char) : KeepsSigmas p s q := by
  intro x y hxy
  obtain ⟨hbefore, hafter⟩ := h x y hxy
  unfold endsWord
  cases hy : y.all isCaseIgnorable with
  | true =>
      -- Nothing after the sigma decides, so what is before it must: its word has no letter there.
      have hx := hafter hy
      have hxall : x.reverse.all isCaseIgnorable = false := by
        rw [List.all_reverse, Bool.eq_false_iff]
        intro hall
        rw [startsCased_of_all hy] at hbefore
        exact Bool.false_ne_true (hbefore hall)
      rw [startsCased_append_of_not_all hxall, hx, Bool.false_and, Bool.false_and]
  | false =>
      rw [startsCased_append_of_not_all hy]
      cases hx : x.all isCaseIgnorable with
      -- Nothing before the sigma decides, so there is a letter after it, and no word ends.
      | true => rw [hbefore hx, Bool.not_true, Bool.and_false, Bool.and_false]
      | false => rw [startsCased_append_of_not_all (by rw [List.all_reverse, hx])]

/-! ## What loses its lower case -/

/-- A **plain letter** has a case, is not looked through and is its own lower case. -/
structure IsPlain (l : Char) : Prop where
  /-- A capital sigma looks no further. -/
  isCaseIgnorable_eq : isCaseIgnorable l = false
  /-- A capital sigma finds a letter. -/
  isCased_eq : isCased l = true
  /-- The letter stays as it is. -/
  lowerAt_eq : ∀ b a, lowerAt b l a = [l]

/-- There is a plain letter that differs from any character given. -/
theorem exists_isPlain_ne (o : Option Char) : ∃ l, IsPlain l ∧ o ≠ some l := by
  have ha : IsPlain 'a' := ⟨by decide +kernel, by decide +kernel, fun _ _ => rfl⟩
  have hb : IsPlain 'b' := ⟨by decide +kernel, by decide +kernel, fun _ _ => rfl⟩
  by_cases ho : o = some 'a'
  · refine ⟨'b', hb, ?_⟩
    rw [ho]
    decide
  · exact ⟨'a', ha, ho⟩

namespace IsPlain

variable {l : Char}

/-- A plain letter is found behind all that is looked through. -/
theorem startsCased_append (hl : IsPlain l) (hs : s.all isCaseIgnorable = true) :
    startsCased (s ++ [l]) = true := by
  rw [startsCased_append_of_all hs, startsCased_cons, hl.isCaseIgnorable_eq, hl.isCased_eq]
  rfl

/-- A plain letter in front takes nothing away from the text behind it, and adds itself. -/
theorem lowercase_before (hl : IsPlain l) (s : List Char) :
    lowercase ([l] ++ s ++ []) = l :: lowerPart [l] s [] := by
  rw [lowercase_append_append, lowerPart, hl.lowerAt_eq, lowerPart, lowerFrom]
  simp

/-- A plain letter behind takes nothing away from the text in front of it, and adds itself. -/
theorem lowercase_after (hl : IsPlain l) (s : List Char) :
    lowercase ([] ++ s ++ [l]) = lowerPart [] s [l] ++ [l] := by
  rw [lowercase_append_append, lowerPart, lowerFrom, lowerFrom, hl.lowerAt_eq]
  simp

/-- A text that does not keep its sigmas behind a plain letter is lost there, unless its lower case
begins with that letter. -/
theorem not_infix_before (hl : IsPlain l) (hhead : (lowercase s).head? ≠ some l)
    (hs : ¬ KeepsSigmas [l] s []) : ¬ lowercase s <:+: lowercase ([l] ++ s ++ []) := by
  rw [hl.lowercase_before, List.infix_cons_iff, List.prefix_cons_iff]
  rintro ((hnil | ⟨u, hu, -⟩) | hpart)
  · rw [lowercase_eq_nil_iff] at hnil
    subst hnil
    exact hs fun x y hxy => by simp at hxy
  · rw [hu] at hhead
    exact hhead rfl
  · -- The rest is as long as the lower case looked for, so it would have to be the same.
    rw [lowercase_eq_lowerPart] at hpart
    have heq := hpart.eq_of_length (length_lowerPart s [] [] [l] [])
    exact hs (lowerPart_eq_lowercase_iff.mp (heq.symm.trans (lowercase_eq_lowerPart s).symm))

/-- A text that does not keep its sigmas in front of a plain letter is lost there, unless its lower
case ends with that letter. -/
theorem not_infix_after (hl : IsPlain l) (hlast : (lowercase s).getLast? ≠ some l)
    (hs : ¬ KeepsSigmas [] s [l]) : ¬ lowercase s <:+: lowercase ([] ++ s ++ [l]) := by
  rw [hl.lowercase_after, List.infix_concat_iff, List.suffix_concat_iff]
  rintro ((hnil | ⟨u, hu, -⟩) | hpart)
  · rw [lowercase_eq_nil_iff] at hnil
    subst hnil
    exact hs fun x y hxy => by simp at hxy
  · rw [hu, List.getLast?_concat] at hlast
    exact hlast rfl
  · rw [lowercase_eq_lowerPart] at hpart
    have heq := hpart.eq_of_length (length_lowerPart s [] [] [] [l])
    exact hs (lowerPart_eq_lowercase_iff.mp (heq.symm.trans (lowercase_eq_lowerPart s).symm))

end IsPlain

/-- **A text is self-contained iff every text that contains it has its lower case as well.** -/
theorem selfContained_iff : SelfContained s ↔ ∀ p q, lowercase s <:+: lowercase (p ++ s ++ q) := by
  refine ⟨fun h p q => (h.keepsSigmas p q).isInfix, fun h x y hxy => ⟨fun hx => ?_, fun hy => ?_⟩⟩
  · -- A letter in front would make the sigma the end of its word.
    obtain ⟨l, hl, hhead⟩ := exists_isPlain_ne (lowercase s).head?
    cases hy : startsCased y with
    | true => rfl
    | false =>
        refine absurd (h [l] []) (hl.not_infix_before hhead fun hkeeps => ?_)
        have hends := hkeeps x y hxy
        rw [← List.all_reverse] at hx
        rw [List.append_nil, endsWord, endsWord, hy, List.reverse_singleton,
          hl.startsCased_append hx, startsCased_of_all hx] at hends
        cases hends
  · -- A letter behind would take the end of its word away from the sigma.
    obtain ⟨l, hl, hlast⟩ := exists_isPlain_ne (lowercase s).getLast?
    cases hx : startsCased x.reverse with
    | false => rfl
    | true =>
        refine absurd (h [] [l]) (hl.not_infix_after hlast fun hkeeps => ?_)
        have hends := hkeeps x y hxy
        rw [List.reverse_nil, List.append_nil, endsWord, endsWord, hx, hl.startsCased_append hy,
          startsCased_of_all hy] at hends
        cases hends

/-! ## The beginning of a text -/

/-- Whether a text **ends in a capital sigma**, but for characters that are looked through. -/
def endsInSigma (s : List Char) : Bool := (s.reverse.dropWhile isCaseIgnorable).head? == some 'Σ'

/-- A capital sigma followed only by what is looked through is one at the end. -/
theorem endsInSigma_of_all {x y : List Char} (hy : y.all isCaseIgnorable = true) :
    endsInSigma (x ++ 'Σ' :: y) = true := by
  have hy' : ∀ c ∈ y.reverse, isCaseIgnorable c = true := by
    intro c hc
    exact List.all_eq_true.mp hy c (List.mem_reverse.mp hc)
  have hsigma : isCaseIgnorable 'Σ' = false := by decide +kernel
  rw [endsInSigma, List.reverse_append, List.reverse_cons, List.append_assoc,
    List.dropWhile_append_of_pos hy', List.singleton_append, List.dropWhile_cons, hsigma]
  rfl

/-- A number is in one of some ranges iff it lies between the ends of one. -/
theorem inRanges_iff {rs : List (Nat × Nat)} {n : Nat} :
    inRanges rs n = true ↔ ∃ r ∈ rs, r.1 ≤ n ∧ n ≤ r.2 := by
  simp [inRanges]

/-- Whether no range of one list meets one of another. -/
def areApart (rs rs' : List (Nat × Nat)) : Bool :=
  rs.all fun r => rs'.all fun r' => decide (r.2 < r'.1) || decide (r'.2 < r.1)

/-- What is in ranges is not in others that are apart from them. -/
theorem not_inRanges_of_areApart {rs rs' : List (Nat × Nat)} (h : areApart rs rs' = true) {n : Nat}
    (hn : inRanges rs n = true) : inRanges rs' n = false := by
  obtain ⟨r, hr, hlo, hhi⟩ := inRanges_iff.mp hn
  rw [Bool.eq_false_iff]
  intro hn'
  obtain ⟨r', hr', hlo', hhi'⟩ := inRanges_iff.mp hn'
  have hends := List.all_eq_true.mp (List.all_eq_true.mp h r hr) r' hr'
  rw [Bool.or_eq_true, decide_eq_true_iff, decide_eq_true_iff] at hends
  omega

/-- The blank characters. -/
def blankRanges : List (Nat × Nat) :=
  [(0x9, 0xD), (0x20, 0x20), (0x85, 0x85), (0xA0, 0xA0), (0x1680, 0x1680), (0x2000, 0x200A),
   (0x2028, 0x2029), (0x202F, 0x202F), (0x205F, 0x205F), (0x3000, 0x3000)]

theorem inRanges_of_isBlank {c : Char} (h : isBlank c = true) :
    inRanges blankRanges c.toNat = true := by
  simp only [isBlank, Bool.or_eq_true, Bool.and_eq_true, decide_eq_true_eq] at h
  simp only [inRanges, blankRanges, List.any_cons, List.any_nil, Bool.or_eq_true, Bool.and_eq_true,
    decide_eq_true_eq]
  omega

/-- A capital sigma looks no further than a blank character, and finds no letter there. -/
theorem startsCased_cons_of_isBlank {c : Char} (h : isBlank c = true) (cs : List Char) :
    startsCased (c :: cs) = false := by
  have hignorable : areApart blankRanges caseIgnorableRanges = true := by decide +kernel
  have hcased : areApart blankRanges casedRanges = true := by decide +kernel
  have hc := inRanges_of_isBlank h
  rw [startsCased_cons, isCaseIgnorable, isCased, not_inRanges_of_areApart hignorable hc,
    not_inRanges_of_areApart hcased hc]
  rfl

/-- **Behind blanks a text keeps its sigmas, whatever follows, unless it ends in one.** -/
theorem keepsSigmas_of_blanks (hp : p.all isBlank = true) (hs : endsInSigma s = false)
    (q : List Char) : KeepsSigmas p s q := by
  intro x y hxy
  have hy : y.all isCaseIgnorable = false := by
    rw [Bool.eq_false_iff]
    intro hall
    rw [hxy, endsInSigma_of_all hall] at hs
    cases hs
  have hbefore : startsCased (x.reverse ++ p.reverse) = startsCased x.reverse := by
    cases hx : x.reverse.all isCaseIgnorable with
    | false => exact startsCased_append_of_not_all hx _
    | true =>
        -- The sigma looks back over the part and meets the blanks.
        rw [startsCased_append_of_all hx, startsCased_of_all hx]
        cases hr : p.reverse with
        | nil => rfl
        | cons c cs =>
            have hc : c ∈ p := List.mem_reverse.mp (hr ▸ List.mem_cons_self)
            exact startsCased_cons_of_isBlank (List.all_eq_true.mp hp c hc) cs
  rw [endsWord, endsWord, hbefore, startsCased_append_of_not_all hy]

/-- What is trimmed off a text is blank. -/
theorem exists_blanks_around_trim (s : List Char) :
    ∃ p q, s = p ++ trim s ++ q ∧ p.all isBlank = true := by
  refine ⟨s.takeWhile isBlank, ((trimStart s).reverse.takeWhile isBlank).reverse, ?_,
    List.all_takeWhile⟩
  have hend : trim s ++ ((trimStart s).reverse.takeWhile isBlank).reverse = trimStart s := by
    rw [trim, trimEnd, ← List.reverse_append, List.takeWhile_append_dropWhile, List.reverse_reverse]
  rw [List.append_assoc, hend, trimStart, List.takeWhile_append_dropWhile]

end Lookout.Text
