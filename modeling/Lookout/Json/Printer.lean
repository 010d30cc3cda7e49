import Lookout.Json.Tree

/-! # Printing JSON trees
Two layouts: `Tree.compact` has no white space, `Tree.pretty` puts every item and member on a line of
its own, indented by two spaces a level. In strings only the quote, the backslash and the control
characters are escaped, those without a letter of their own with four lower-case digits. -/

namespace Lookout.Json

/-- A hexadecimal digit in lower case. -/
def hexChar (n : Nat) : Char := Char.ofNat (if n < 10 then n + 48 else n + 87)

/-- One character of a string literal. -/
def escapeChar (c : Char) : List Char :=
  if c = '"' then ['\\', '"']
  else if c = '\\' then ['\\', '\\']
  else if c = '\n' then ['\\', 'n']
  else if c = '\r' then ['\\', 'r']
  else if c = '\t' then ['\\', 't']
  else if c = '\x08' then ['\\', 'b']
  else if c = '\x0c' then ['\\', 'f']
  else if c.toNat < 0x20 then ['\\', 'u', '0', '0', hexChar (c.toNat / 16), hexChar (c.toNat % 16)]
  else [c]

/-- A string literal. A literal without a text is written as the first half of a surrogate pair. -/
def printText : Text → String
  | some s => String.ofList ('"' :: s.toList.flatMap escapeChar ++ ['"'])
  | none => "\"\\ud800\""

/-- The character of a digit. -/
def Digit.toChar (d : Digit) : Char := Char.ofNat (d.val + 48)

/-- The characters of digits. -/
def printDigits (ds : List Digit) : String := String.ofList (ds.map Digit.toChar)

/-- A numeral; an exponent has its sign and no zeros in front. -/
def Numeral.print (n : Numeral) : String :=
  let sign := if n.negative then "-" else ""
  let fraction := match n.fraction with
    | none => ""
    | some ds => "." ++ printDigits ds
  let exponent := match n.exponent with
    | none => ""
    | some e => (if e < 0 then "e-" else "e+") ++ toString e.natAbs
  sign ++ printDigits n.whole ++ fraction ++ exponent

example : (Numeral.ofDouble ⟨false, 5000000000000000, 1⟩).print = "1e+16" := by decide +kernel
example : (Numeral.ofDouble ⟨true, 1, -1074⟩).print = "-5e-324" := by decide +kernel

namespace Tree

mutual

/-- A tree without white space. -/
def compact : Tree → String
  | .null => "null"
  | .bool b => if b then "true" else "false"
  | .number n => n.print
  | .string t => printText t
  | .array items => "[" ++ String.intercalate "," (compactItems items) ++ "]"
  | .object members => "\x7b" ++ String.intercalate "," (compactMembers members) ++ "\x7d"

/-- The items of an array without white space. -/
def compactItems : List Tree → List String
  | [] => []
  | t :: ts => compact t :: compactItems ts

/-- The members of an object without white space. -/
def compactMembers : List (Text × Tree) → List String
  | [] => []
  | (k, t) :: ms => (printText k ++ ":" ++ compact t) :: compactMembers ms

end

/-- A line break and the indentation of a level. -/
def newline (level : Nat) : String := "\n" ++ String.ofList (List.replicate (2 * level) ' ')

/-- The parts of a container between its brackets, each on a line of its own. -/
def enclose (level : Nat) (opening closing : String) (parts : List String) : String :=
  if parts.isEmpty then opening ++ closing
  else
    opening ++ newline (level + 1) ++ String.intercalate ("," ++ newline (level + 1)) parts
      ++ newline level ++ closing

mutual

/-- A tree with indentation, standing at a level. -/
def prettyAt (level : Nat) : Tree → String
  | .null => "null"
  | .bool b => if b then "true" else "false"
  | .number n => n.print
  | .string t => printText t
  | .array items => enclose level "[" "]" (prettyItems (level + 1) items)
  | .object members => enclose level "\x7b" "\x7d" (prettyMembers (level + 1) members)

/-- The items of an array with indentation. -/
def prettyItems (level : Nat) : List Tree → List String
  | [] => []
  | t :: ts => prettyAt level t :: prettyItems level ts

/-- The members of an object with indentation. -/
def prettyMembers (level : Nat) : List (Text × Tree) → List String
  | [] => []
  | (k, t) :: ms => (printText k ++ ": " ++ prettyAt level t) :: prettyMembers level ms

end

/-- A tree with indentation. -/
def pretty (t : Tree) : String := prettyAt 0 t

end Tree

end Lookout.Json
