import Lookout.Toml.Text
import Lookout.Toml.Document

/-! # Reading TOML
`Toml.parse?` reads a document of TOML 1.0. Values are read by recursion on how deep they may still be
nested; lists of items, pairs and statements by recursion on a bound on the characters left, since
each of their elements takes up at least one. -/

namespace Lookout.Toml

/-- What follows a comment, if there is one. -/
def skipComment (cs : List Char) : List Char :=
  match cs with
  | '#' :: r => r.dropWhile isPlain
  | r => r

/-- What follows blanks, comments and ends of lines, at most so many of them. -/
def skipLines : Nat → List Char → Option (List Char)
  | 0, cs => some cs
  | n + 1, cs =>
    match skipBlanks cs with
    | '#' :: r => (afterNewline? (r.dropWhile isPlain)).bind (skipLines n)
    | '\n' :: r => skipLines n r
    | '\r' :: '\n' :: r => skipLines n r
    | '\r' :: _ => none
    | r => some r

/-- What follows blanks, comments and ends of lines between the items of an array. -/
def skipFiller (cs : List Char) : Option (List Char) := skipLines cs.length cs

/-- What follows blanks, a comment and the end of the line or of the document. -/
def endLine? (cs : List Char) : Option (List Char) :=
  match skipComment (skipBlanks cs) with
  | [] => some []
  | r => afterNewline? r

/-- The items of an array up to its closing bracket, each read by `value`. -/
def items? (value : List Char → Option (Value × List Char)) :
    Nat → List Char → Option (List Value × List Char)
  | 0, _ => none
  | n + 1, cs =>
    match skipFiller cs with
    | some (']' :: r) => some ([], r)
    | some r =>
      match value r with
      | none => none
      | some (v, r) =>
        match skipFiller r with
        | some (',' :: r) => (items? value n r).map fun (vs, r) => (v :: vs, r)
        | some (']' :: r) => some ([v], r)
        | _ => none
    | none => none

/-- An assignment, its value read by `value`. -/
def assignment? (value : List Char → Option (Value × List Char)) (cs : List Char) :
    Option ((List String × Value) × List Char) :=
  match key? cs with
  | some (key, '=' :: r) => (value (skipBlanks r)).map fun (v, r) => ((key, v), r)
  | _ => none

/-- The assignments within braces after the opening one, each value read by `value`. -/
def pairs? (value : List Char → Option (Value × List Char)) :
    Nat → List Char → Option (List (List String × Value) × List Char)
  | 0, _ => none
  | n + 1, cs =>
    match assignment? value cs with
    | none => none
    | some (a, r) =>
      match skipBlanks r with
      | ',' :: r => (pairs? value n r).map fun (as, r) => (a :: as, r)
      | '}' :: r => some ([a], r)
      | _ => none

/-- The rest of a date with a time that is set off by a blank. -/
def timeAfterBlank (date : List Char) (r : List Char) : Option (Value × List Char) :=
  match r with
  | ' ' :: c :: r' =>
    if isDigit c then
      let time := (c :: r').takeWhile isWordChar
      if isTimeWithOffset time then
        some (.dateTime (String.ofList (date ++ ' ' :: time)), (c :: r').dropWhile isWordChar)
      else none
    else some (.dateTime (String.ofList date), r)
  | _ => some (.dateTime (String.ofList date), r)

/-- A number, a boolean or a date. -/
def word? (cs : List Char) : Option (Value × List Char) :=
  let word := cs.takeWhile isWordChar
  let r := cs.dropWhile isWordChar
  if isDate word then timeAfterBlank word r else (literal? word).map fun v => (v, r)

/-- A value in which so many arrays and tables may be nested. -/
def value? : Nat → List Char → Option (Value × List Char)
  | _, '"' :: r => (text? ('"' :: r)).map fun (s, r) => (.text (String.ofList s), r)
  | _, '\'' :: r => (text? ('\'' :: r)).map fun (s, r) => (.text (String.ofList s), r)
  | 0, '[' :: _ => none
  | 0, '{' :: _ => none
  | depth + 1, '[' :: r => (items? (value? depth) (r.length + 1) r).map fun (vs, r) => (.array vs, r)
  | depth + 1, '{' :: r =>
    match skipBlanks r with
    | '}' :: r => some (.table [], r)
    | r => (pairs? (value? depth) (r.length + 1) r).bind fun (as, r) =>
      (inlineTable? as).map fun t => (.table t, r)
  | _, cs => word? cs

/-- The path of a header up to its closing brackets, and what follows the line. -/
def headerPath? (closing : List Char) (cs : List Char) : Option (List String × List Char) :=
  match key? cs with
  | none => none
  | some (path, r) =>
    if closing.isPrefixOf r then (endLine? (r.drop closing.length)).map fun r => (path, r) else none

/-- A statement and what follows its line. -/
def statement? (cs : List Char) : Option (Statement × List Char) :=
  match cs with
  | '[' :: '[' :: r => (headerPath? [']', ']'] r).map fun (p, r) => (.element p, r)
  | '[' :: r => (headerPath? [']'] r).map fun (p, r) => (.header p, r)
  | _ =>
    match assignment? (value? depthLimit) cs with
    | none => none
    | some ((key, v), r) => (endLine? r).map fun r => (.assign key v, r)

/-- The statements of a document of at most so many lines. -/
def statements? : Nat → List Char → Option (List Statement)
  | 0, cs => if (skipBlanks cs).isEmpty then some [] else none
  | n + 1, cs =>
    match skipBlanks cs with
    | [] => some []
    | '#' :: r => (endLine? ('#' :: r)).bind (statements? n)
    | '\n' :: r => statements? n r
    | '\r' :: '\n' :: r => statements? n r
    | cs =>
      match statement? cs with
      | none => none
      | some (s, r) => (statements? n r).map (s :: ·)

/-- The characters of a document without the mark that may stand before them. -/
def skipMark : List Char → List Char
  | '\ufeff' :: r => r
  | r => r

/-- **Read** a document. -/
def parse? (s : String) : Option Table :=
  let cs := skipMark s.toList
  (statements? (cs.length + 1) cs).bind tableOf?

end Lookout.Toml
