import Lookout.Json.Token

/-! # Reading JSON trees
Tokens to a tree, one token at a time with the unfinished arrays and objects on a stack, so that no
nesting is too deep to read. `Tree.parse?` reads a whole document: one value and nothing after it. -/

namespace Lookout.Json

/-- A container whose end has not been read yet. -/
inductive Unfinished
  /-- An array with its items so far, last first. -/
  | array (items : List Tree)
  /-- An object with its members so far, last first. -/
  | object (members : List (Text × Tree))
  /-- An object that has read a key and waits for its value. -/
  | member (members : List (Text × Tree)) (key : Text)

/-- What the reader expects of the next token. -/
inductive Expect
  /-- A value; if `mayClose`, also the end of the array that was just opened. -/
  | value (mayClose : Bool)
  /-- A key; if `mayClose`, also the end of the object that was just opened. -/
  | key (mayClose : Bool)
  /-- The colon after a key. -/
  | colon
  /-- A comma or the end of the innermost container. -/
  | separator
  /-- Nothing more: the document is complete. -/
  | nothing (t : Tree)

/-- The reader between two tokens. -/
structure ReadState where
  /-- The containers that are open, the innermost first. -/
  stack : List Unfinished
  /-- What may come next. -/
  expect : Expect

namespace ReadState

/-- The reader before the first token. -/
def start : ReadState := ⟨[], .value false⟩

/-- A value is complete: it goes into the innermost container, or it is the document. -/
def complete (t : Tree) : List Unfinished → Option ReadState
  | [] => some ⟨[], .nothing t⟩
  | .array items :: st => some ⟨.array (t :: items) :: st, .separator⟩
  | .member ms k :: st => some ⟨.object ((k, t) :: ms) :: st, .separator⟩
  | .object _ :: _ => none

/-- A token where a value is expected. -/
def readValue (st : List Unfinished) : Token → Option ReadState
  | .openArray => some ⟨.array [] :: st, .value true⟩
  | .openObject => some ⟨.object [] :: st, .key true⟩
  | .null => complete .null st
  | .bool b => complete (.bool b) st
  | .number n => complete (.number n) st
  | .string t => complete (.string t) st
  | _ => none

/-- The end of the innermost container, if it is one that the token closes. -/
def close : List Unfinished → Token → Option ReadState
  | .array items :: st, .closeArray => complete (.array items.reverse) st
  | .object ms :: st, .closeObject => complete (.object ms.reverse) st
  | _, _ => none

/-- Read one token. -/
def step (s : ReadState) (t : Token) : Option ReadState :=
  match s.expect, s.stack, t with
  | .value true, st, .closeArray => close st .closeArray
  | .value _, st, t => readValue st t
  | .key true, st, .closeObject => close st .closeObject
  | .key _, .object ms :: st, .string k => some ⟨.member ms k :: st, .colon⟩
  | .colon, st, .colon => some ⟨st, .value false⟩
  | .separator, .array items :: st, .comma => some ⟨.array items :: st, .value false⟩
  | .separator, .object ms :: st, .comma => some ⟨.object ms :: st, .key false⟩
  | .separator, st, t => close st t
  | _, _, _ => none

/-- Read tokens to the end. -/
def run (s : ReadState) : List Token → Option ReadState
  | [] => some s
  | t :: ts => match s.step t with
    | none => none
    | some s => run s ts

end ReadState

namespace Tree

/-- The tree that tokens spell, if they spell exactly one. -/
def ofTokens? (ts : List Token) : Option Tree :=
  match ReadState.start.run ts with
  | some ⟨_, .nothing t⟩ => some t
  | _ => none

/-- Read a JSON document. -/
def parse? (s : String) : Option Tree := (lex s.toList).bind ofTokens?

example : parse? "[1, \x7b\"a\": null\x7d]" =
    some (.array [.nat 1, .object [(some "a", .null)]]) := by decide +kernel
example : parse? "[1 2]" = none := by decide +kernel
example : parse? "\"\\ud83d\\ude00\"" = some (.text "😀") := by decide +kernel
example : parse? "\"\\ud83d\"" = some (.string none) := by decide +kernel

end Tree

end Lookout.Json
