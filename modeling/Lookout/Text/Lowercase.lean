import Lookout.Text.Lowercase.Table

/-! # Lower case
The full lower case of a text, which does not depend on a language. Every character is replaced on
its own, except that a capital sigma at the end of a word becomes the final form of the small sigma.
The lower case of a text can be longer than the text: the dotted capital I becomes two characters. -/

namespace Lookout.Text

/-- Whether a character is looked through by case rules. -/
def isCaseIgnorable (c : Char) : Bool := inRanges caseIgnorableRanges c.toNat

/-- Whether a character that is not looked through has a case. -/
def isCased (c : Char) : Bool := inRanges casedRanges c.toNat

/-- The lower case of a character that has one in the table; other characters stay. -/
def lowerChar (c : Char) : Char :=
  let n := c.toNat
  if n < 0x80 then c.toLower
  else
    match lowercaseRuns.find? fun r => decide (r.first ≤ n) && decide (n ≤ r.last)
        && (n - r.first) % r.step == 0 with
    | some r => Char.ofNat (n + r.shift).toNat
    | none => c

/-- Whether the first character that is not looked through has a case. -/
def startsCased (cs : List Char) : Bool :=
  match cs.dropWhile isCaseIgnorable with
  | c :: _ => isCased c
  | [] => false

/-- The lower case of a character between the characters before it, nearest first, and after it. -/
def lowerAt (before : List Char) (c : Char) (after : List Char) : List Char :=
  if c = 'Σ' then
    if startsCased before && !startsCased after then ['ς'] else ['σ']
  else if c = 'İ' then ['i', '\u0307']
  else [lowerChar c]

/-- The lower case of the characters after those in `before`, which stand nearest first. -/
def lowerFrom (before : List Char) : List Char → List Char
  | [] => []
  | c :: cs => lowerAt before c cs ++ lowerFrom (c :: before) cs

/-- The **lower case** of a text. -/
def lowercase (cs : List Char) : List Char := lowerFrom [] cs

@[simp] theorem lowercase_nil : lowercase [] = [] := rfl

example : lowercase "ÀΣ ΣΑΣ.".toList = "àς σας.".toList := by decide +kernel
example : lowercase "İ".toList = ['i', '\u0307'] := by decide +kernel

/-- Whether a text occurs in another one without a gap. -/
def occursIn (pattern : List Char) : List Char → Bool
  | [] => pattern.isEmpty
  | c :: cs => pattern.isPrefixOf (c :: cs) || occursIn pattern cs

/-- A text occurs in another one exactly if it is a contiguous part of it. -/
theorem occursIn_iff {pattern : List Char} :
    ∀ {cs : List Char}, occursIn pattern cs = true ↔ pattern <:+: cs
  | [] => by simp [occursIn, List.isEmpty_iff]
  | c :: cs => by
    rw [occursIn, Bool.or_eq_true, List.isPrefixOf_iff_prefix, @occursIn_iff pattern cs,
      List.infix_cons_iff]

end Lookout.Text
