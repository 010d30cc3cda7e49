import Lookout.Json.Tree

/-! # JSON values
A **value** is what free-form JSON means: integers and doubles instead of numerals, and objects with
each key once, in ascending order. A later member of an object replaces an earlier one with the same
key. `Value.decode` reads a value from a tree, `Value.toTree` writes it. -/

namespace Lookout.Json

/-- A **value**: free-form JSON. -/
inductive Value
  | null
  | bool (b : Bool)
  | integer (i : Int)
  | double (x : Binary64)
  | string (s : String)
  | array (items : List Value)
  | object (members : List (String × Value))
  deriving Inhabited, Repr

mutual

/-- Equality of values is decidable. -/
def Value.decEq : (a b : Value) → Decidable (a = b)
  | .null, .null => isTrue rfl
  | .bool a, .bool b => decidable_of_iff (a = b) (by simp)
  | .integer a, .integer b => decidable_of_iff (a = b) (by simp)
  | .double a, .double b => decidable_of_iff (a = b) (by simp)
  | .string a, .string b => decidable_of_iff (a = b) (by simp)
  | .array xs, .array ys =>
    @decidable_of_iff _ (xs = ys) (by simp) (Value.decEqItems xs ys)
  | .object xs, .object ys =>
    @decidable_of_iff _ (xs = ys) (by simp) (Value.decEqMembers xs ys)
  | .null, .bool _ | .null, .integer _ | .null, .double _ | .null, .string _
  | .null, .array _ | .null, .object _ => isFalse nofun
  | .bool _, .null | .bool _, .integer _ | .bool _, .double _ | .bool _, .string _
  | .bool _, .array _ | .bool _, .object _ => isFalse nofun
  | .integer _, .null | .integer _, .bool _ | .integer _, .double _ | .integer _, .string _
  | .integer _, .array _ | .integer _, .object _ => isFalse nofun
  | .double _, .null | .double _, .bool _ | .double _, .integer _ | .double _, .string _
  | .double _, .array _ | .double _, .object _ => isFalse nofun
  | .string _, .null | .string _, .bool _ | .string _, .integer _ | .string _, .double _
  | .string _, .array _ | .string _, .object _ => isFalse nofun
  | .array _, .null | .array _, .bool _ | .array _, .integer _ | .array _, .double _
  | .array _, .string _ | .array _, .object _ => isFalse nofun
  | .object _, .null | .object _, .bool _ | .object _, .integer _ | .object _, .double _
  | .object _, .string _ | .object _, .array _ => isFalse nofun

/-- Equality of lists of values is decidable. -/
def Value.decEqItems : (a b : List Value) → Decidable (a = b)
  | [], [] => isTrue rfl
  | [], _ :: _ | _ :: _, [] => isFalse nofun
  | x :: xs, y :: ys => match Value.decEq x y, Value.decEqItems xs ys with
    | isTrue h, isTrue hs => isTrue (by rw [h, hs])
    | isFalse h, _ => isFalse fun e => h (List.cons.inj e).1
    | _, isFalse hs => isFalse fun e => hs (List.cons.inj e).2

/-- Equality of members is decidable. -/
def Value.decEqMembers : (a b : List (String × Value)) → Decidable (a = b)
  | [], [] => isTrue rfl
  | [], _ :: _ | _ :: _, [] => isFalse nofun
  | (j, x) :: xs, (k, y) :: ys =>
    match (inferInstance : Decidable (j = k)), Value.decEq x y, Value.decEqMembers xs ys with
    | isTrue hk, isTrue h, isTrue hs => isTrue (by rw [hk, h, hs])
    | isFalse hk, _, _ => isFalse fun e => hk (Prod.mk.inj (List.cons.inj e).1).1
    | _, isFalse h, _ => isFalse fun e => h (Prod.mk.inj (List.cons.inj e).1).2
    | _, _, isFalse hs => isFalse fun e => hs (List.cons.inj e).2

end

instance : DecidableEq Value := Value.decEq

/-- Put a member into an ascending list of members, in place of one with the same key. -/
def putMember {α : Type} (k : String) (v : α) : List (String × α) → List (String × α)
  | [] => [(k, v)]
  | (j, w) :: ms =>
    if k < j then (k, v) :: (j, w) :: ms
    else if k = j then (k, v) :: ms
    else (j, w) :: putMember k v ms

/-- The ascending list of members in which the last one with a key stands for all with that key. -/
def sortMembers {α : Type} (ms : List (String × α)) : List (String × α) :=
  ms.foldl (fun acc (k, v) => putMember k v acc) []

namespace Value

/-- The value of a numeral: an integer of at most 64 bits, signed if negative, or a double. -/
def ofNumeral? (n : Numeral) : Option Value :=
  match n.toInt? with
  | some i =>
    if -9223372036854775808 ≤ i ∧ i < UInt64.size then some (.integer i) else n.toDouble?.map .double
  | none => n.toDouble?.map .double

mutual

/-- Read a value in which at most `depth` containers are nested. -/
def decode (depth : Nat) : Tree → Option Value
  | .null => some .null
  | .bool b => some (.bool b)
  | .number n => ofNumeral? n
  | .string none => none
  | .string (some s) => some (.string s)
  | .array items => match depth with
    | 0 => none
    | depth + 1 => (decodeItems depth items).map .array
  | .object members => match depth with
    | 0 => none
    | depth + 1 => (decodeMembers depth members).map fun ms => .object (sortMembers ms)

/-- Read the items of an array. -/
def decodeItems (depth : Nat) : List Tree → Option (List Value)
  | [] => some []
  | t :: ts => match decode depth t with
    | none => none
    | some v => (decodeItems depth ts).map (v :: ·)

/-- Read the members of an object in the order written. -/
def decodeMembers (depth : Nat) : List (Text × Tree) → Option (List (String × Value))
  | [] => some []
  | (none, _) :: _ => none
  | (some k, t) :: ms => match decode depth t with
    | none => none
    | some v => (decodeMembers depth ms).map ((k, v) :: ·)

end

mutual

/-- Write a value. -/
def toTree : Value → Tree
  | .null => .null
  | .bool b => .bool b
  | .integer i => .int i
  | .double x => .number (.ofDouble x)
  | .string s => .text s
  | .array items => .array (itemsToTrees items)
  | .object members => .object (membersToTrees members)

/-- Write the items of an array. -/
def itemsToTrees : List Value → List Tree
  | [] => []
  | v :: vs => toTree v :: itemsToTrees vs

/-- Write the members of an object. -/
def membersToTrees : List (String × Value) → List (Text × Tree)
  | [] => []
  | (k, v) :: ms => (some k, toTree v) :: membersToTrees ms

end

end Value

end Lookout.Json
