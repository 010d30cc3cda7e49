import Lookout.Json.Numeral

/-! # JSON trees
A **tree** is a JSON document as its text gives it: members in the order written, repeated keys
included, numbers as numerals. What a tree means for a record is decided by the decoders, which see
everything the text said. -/

namespace Lookout.Json

/-- The **text** of a string literal; `none` if an escape in it names half of a surrogate pair, which
no text contains. -/
abbrev Text := Option String

/-- A **tree**: a JSON document as written. -/
inductive Tree
  | null
  | bool (b : Bool)
  | number (n : Numeral)
  | string (t : Text)
  | array (items : List Tree)
  | object (members : List (Text × Tree))
  deriving Inhabited, Repr

mutual

/-- Equality of trees is decidable. -/
def Tree.decEq : (a b : Tree) → Decidable (a = b)
  | .null, .null => isTrue rfl
  | .bool a, .bool b => decidable_of_iff (a = b) (by simp)
  | .number a, .number b => decidable_of_iff (a = b) (by simp)
  | .string a, .string b => decidable_of_iff (a = b) (by simp)
  | .array xs, .array ys =>
    @decidable_of_iff _ (xs = ys) (by simp) (Tree.decEqItems xs ys)
  | .object xs, .object ys =>
    @decidable_of_iff _ (xs = ys) (by simp) (Tree.decEqMembers xs ys)
  | .null, .bool _ | .null, .number _ | .null, .string _ | .null, .array _
  | .null, .object _ => isFalse nofun
  | .bool _, .null | .bool _, .number _ | .bool _, .string _ | .bool _, .array _
  | .bool _, .object _ => isFalse nofun
  | .number _, .null | .number _, .bool _ | .number _, .string _ | .number _, .array _
  | .number _, .object _ => isFalse nofun
  | .string _, .null | .string _, .bool _ | .string _, .number _ | .string _, .array _
  | .string _, .object _ => isFalse nofun
  | .array _, .null | .array _, .bool _ | .array _, .number _ | .array _, .string _
  | .array _, .object _ => isFalse nofun
  | .object _, .null | .object _, .bool _ | .object _, .number _ | .object _, .string _
  | .object _, .array _ => isFalse nofun

/-- Equality of lists of trees is decidable. -/
def Tree.decEqItems : (a b : List Tree) → Decidable (a = b)
  | [], [] => isTrue rfl
  | [], _ :: _ | _ :: _, [] => isFalse nofun
  | x :: xs, y :: ys => match Tree.decEq x y, Tree.decEqItems xs ys with
    | isTrue h, isTrue hs => isTrue (by rw [h, hs])
    | isFalse h, _ => isFalse fun e => h (List.cons.inj e).1
    | _, isFalse hs => isFalse fun e => hs (List.cons.inj e).2

/-- Equality of members is decidable. -/
def Tree.decEqMembers : (a b : List (Text × Tree)) → Decidable (a = b)
  | [], [] => isTrue rfl
  | [], _ :: _ | _ :: _, [] => isFalse nofun
  | (j, x) :: xs, (k, y) :: ys =>
    match (inferInstance : Decidable (j = k)), Tree.decEq x y, Tree.decEqMembers xs ys with
    | isTrue hk, isTrue h, isTrue hs => isTrue (by rw [hk, h, hs])
    | isFalse hk, _, _ => isFalse fun e => hk (Prod.mk.inj (List.cons.inj e).1).1
    | _, isFalse h, _ => isFalse fun e => h (Prod.mk.inj (List.cons.inj e).1).2
    | _, _, isFalse hs => isFalse fun e => hs (List.cons.inj e).2

end

instance : DecidableEq Tree := Tree.decEq

namespace Tree

/-- A string. -/
def text (s : String) : Tree := .string (some s)

/-- A natural number. -/
def nat (n : Nat) : Tree := .number (.ofNat n)

/-- An integer. -/
def int (i : Int) : Tree := .number (.ofInt i)

/-- A list of trees made from a list of anything. -/
def list {α : Type} (f : α → Tree) (xs : List α) : Tree := .array (xs.map f)

/-- An object with the given members. -/
def record (members : List (String × Tree)) : Tree :=
  .object (members.map fun (k, t) => (some k, t))

/-- A value that may be absent, written as `null` then. -/
def optional {α : Type} (f : α → Tree) : Option α → Tree
  | none => .null
  | some a => f a

end Tree

end Lookout.Json
