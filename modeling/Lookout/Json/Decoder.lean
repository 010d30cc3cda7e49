import Lookout.Json.Reader

/-! # Decoders
A **decoder** reads a value of a domain type from a tree. Its first argument is how many containers
may still be nested; a part of the document that no decoder looks at has no such limit.

A **record** is an object with named fields, or an array of the fields in their order. Of an object
the unknown members are ignored; a known key may not be repeated. An array may leave out fields at
its end and has no further items. `members?` turns both forms into what was given for which field. -/

namespace Lookout.Json

/-- A **decoder**: how a value is read from a tree in which so many containers may be nested. -/
abbrev Decoder (α : Type) := Nat → Tree → Option α

/-- How many arrays and objects may be nested in a document. -/
def nestingLimit : Nat := 127

/-- Read a document with a decoder. -/
def decodeDocument? {α : Type} (d : Decoder α) (s : String) : Option α :=
  (Tree.parse? s).bind (d nestingLimit)

namespace Decoder

variable {α : Type}

/-- A string. -/
def text : Decoder String
  | _, .string t => t
  | _, _ => none

/-- A boolean. -/
def bool : Decoder Bool
  | _, .bool b => some b
  | _, _ => none

/-- A natural number below a bound. -/
def natBelow (bound : Nat) : Decoder Nat
  | _, .number n => n.toNat? bound
  | _, _ => none

/-- An unsigned 32-bit number. -/
def uint32 : Decoder UInt32 := fun depth t => (natBelow UInt32.size depth t).map UInt32.ofNat

/-- An unsigned 64-bit number. -/
def uint64 : Decoder UInt64 := fun depth t => (natBelow UInt64.size depth t).map UInt64.ofNat

/-- A list, written as an array. -/
def list (d : Decoder α) : Decoder (List α)
  | depth + 1, .array items => items.mapM (d depth)
  | _, _ => none

/-- `null` for a default, or else a value. -/
def nullOr (default : α) (d : Decoder α) : Decoder α
  | _, .null => some default
  | depth, t => d depth t

/-- `null` for absence, or else a value. -/
def nullable (d : Decoder α) : Decoder (Option α)
  | _, .null => some none
  | depth, t => (d depth t).map some

/-- A constant by its name: the name as a string, or an object with the name as its one key and
`null` as its value. -/
def constant (names : List (String × α)) : Decoder α
  | _, .string (some s) => names.lookup s
  | _ + 1, .object [(some s, .null)] => names.lookup s
  | _, _ => none

end Decoder

/-- What the members of an object give for known fields: `none` if a key has no text or a known one
is repeated. -/
def knownMembers? (fields : List String) :
    List (Text × Tree) → Option (List (String × Tree))
  | [] => some []
  | (none, _) :: _ => none
  | (some k, t) :: ms => match knownMembers? fields ms with
    | none => none
    | some known =>
      if k ∈ fields then
        if k ∈ known.map Prod.fst then none else some ((k, t) :: known)
      else some known

/-- What a tree gives for each field of a record. -/
def members? (fields : List String) : Tree → Option (List (String × Tree))
  | .object ms => knownMembers? fields ms
  | .array items => if items.length ≤ fields.length then some (fields.zip items) else none
  | _ => none

namespace Decoder

variable {α : Type}

/-- A record with the given fields, built from what is given for each of them. -/
def record (fields : List String) (build : Nat → List (String × Tree) → Option α) : Decoder α
  | depth + 1, t => (members? fields t).bind (build depth)
  | 0, _ => none

/-- A field that must be given. -/
def required (d : Decoder α) (name : String) (depth : Nat) (given : List (String × Tree)) :
    Option α :=
  (given.lookup name).bind (d depth)

/-- A field with a default for its absence. -/
def optional (default : α) (d : Decoder α) (name : String) (depth : Nat)
    (given : List (String × Tree)) : Option α :=
  match given.lookup name with
  | none => some default
  | some t => d depth t

end Decoder

end Lookout.Json
