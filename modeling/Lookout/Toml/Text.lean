import Lookout.Toml.Literal

/-! # TOML texts and keys
Strings in their four forms, and the keys made of them. The readers get the characters after the
opening quotes and return the text with what follows the closing quotes. -/

namespace Lookout.Toml

/-- Whether a character may stand in a comment, and in a text if it means nothing special there. -/
def isPlain (c : Char) : Bool := c == '\t' || (0x20 ≤ c.toNat && c.toNat ≠ 0x7f)

/-- Whether a character is a blank within a line. -/
def isBlank (c : Char) : Bool := c == ' ' || c == '\t'

/-- What follows the blanks of a line. -/
def skipBlanks (cs : List Char) : List Char := cs.dropWhile isBlank

/-- What follows the end of a line. -/
def afterNewline? : List Char → Option (List Char)
  | '\n' :: r => some r
  | '\r' :: '\n' :: r => some r
  | _ => none

/-- The character that hexadecimal digits stand for. -/
def scalar? (ds : List Char) : Option Char :=
  let n := valueOf 16 ds
  if ds.all isHexDigit && n.isValidChar then some (Char.ofNat n) else none

/-- The character that a letter stands for after a backslash. -/
def escaped? : Char → Option Char
  | 'b' => some '\x08'
  | 't' => some '\t'
  | 'n' => some '\n'
  | 'f' => some '\x0c'
  | 'r' => some '\r'
  | '"' => some '"'
  | '\\' => some '\\'
  | _ => none

/-- A character in front of a text that was read, if both are there. -/
def prepend (c : Option Char) (t : Option (List Char × List Char)) :
    Option (List Char × List Char) :=
  match c, t with
  | some c, some (text, r) => some (c :: text, r)
  | _, _ => none

/-- The text of a basic string. -/
def basicText? : List Char → Option (List Char × List Char)
  | [] => none
  | '"' :: r => some ([], r)
  | '\\' :: 'u' :: a :: b :: c :: d :: r => prepend (scalar? [a, b, c, d]) (basicText? r)
  | '\\' :: 'U' :: a :: b :: c :: d :: e :: f :: g :: h :: r =>
    prepend (scalar? [a, b, c, d, e, f, g, h]) (basicText? r)
  | '\\' :: c :: r => prepend (escaped? c) (basicText? r)
  | c :: r => if isPlain c && c ≠ '\\' then prepend (some c) (basicText? r) else none

/-- The text of a literal string. -/
def literalText? : List Char → Option (List Char × List Char)
  | [] => none
  | '\'' :: r => some ([], r)
  | c :: r => if isPlain c then prepend (some c) (literalText? r) else none

/-- Whether a line ends after its blanks. -/
def endsLine (cs : List Char) : Bool := (afterNewline? (skipBlanks cs)).isSome

/-- The text of a basic string of several lines. Up to two quotes may stand before the closing ones.
While `skipping`, blanks and ends of lines do not count; a backslash at the end of a line starts
that. -/
def basicLines? (skipping : Bool) : List Char → Option (List Char × List Char)
  | [] => none
  | '"' :: '"' :: '"' :: '"' :: '"' :: r => some (['"', '"'], r)
  | '"' :: '"' :: '"' :: '"' :: r => some (['"'], r)
  | '"' :: '"' :: '"' :: r => some ([], r)
  | '\n' :: r => if skipping then basicLines? true r else prepend (some '\n') (basicLines? false r)
  | '\r' :: '\n' :: r =>
    if skipping then basicLines? true r else prepend (some '\n') (basicLines? false r)
  | '\\' :: 'u' :: a :: b :: c :: d :: r =>
    prepend (scalar? [a, b, c, d]) (basicLines? false r)
  | '\\' :: 'U' :: a :: b :: c :: d :: e :: f :: g :: h :: r =>
    prepend (scalar? [a, b, c, d, e, f, g, h]) (basicLines? false r)
  | '\\' :: c :: r =>
    if endsLine (c :: r) then basicLines? true (c :: r)
    else prepend (escaped? c) (basicLines? false r)
  | c :: r =>
    if skipping && isBlank c then basicLines? true r
    else if isPlain c && c ≠ '\\' then prepend (some c) (basicLines? false r)
    else none

/-- The text of a literal string of several lines. -/
def literalLines? : List Char → Option (List Char × List Char)
  | [] => none
  | '\'' :: '\'' :: '\'' :: '\'' :: '\'' :: r => some (['\'', '\''], r)
  | '\'' :: '\'' :: '\'' :: '\'' :: r => some (['\''], r)
  | '\'' :: '\'' :: '\'' :: r => some ([], r)
  | '\n' :: r => prepend (some '\n') (literalLines? r)
  | '\r' :: '\n' :: r => prepend (some '\n') (literalLines? r)
  | c :: r => if isPlain c then prepend (some c) (literalLines? r) else none

/-- A string of one line. -/
def line? : List Char → Option (List Char × List Char)
  | '"' :: r => basicText? r
  | '\'' :: r => literalText? r
  | _ => none

/-- A string in any of its forms. A line that ends right after the opening quotes does not count. -/
def text? (cs : List Char) : Option (List Char × List Char) :=
  match cs with
  | '"' :: '"' :: '"' :: r => basicLines? false ((afterNewline? r).getD r)
  | '\'' :: '\'' :: '\'' :: r => literalLines? ((afterNewline? r).getD r)
  | _ => line? cs

/-! ## Keys -/

/-- Whether a character may stand in a key without quotes. -/
def isKeyChar (c : Char) : Bool :=
  isDigit c || ('a' ≤ c && c ≤ 'z') || ('A' ≤ c && c ≤ 'Z') || c == '_' || c == '-'

/-- One part of a key. -/
def keyPart? (cs : List Char) : Option (String × List Char) :=
  match line? cs with
  | some (text, r) => some (String.ofList text, r)
  | none =>
    match cs.takeWhile isKeyChar with
    | [] => none
    | word => some (String.ofList word, cs.dropWhile isKeyChar)

/-- How many parts a key may have, how deep values may be nested. -/
def depthLimit : Nat := 79

/-- A key of at most so many parts, with dots between them and blanks around them. -/
def keyOf? : Nat → List Char → Option (List String × List Char)
  | 0, _ => none
  | n + 1, cs =>
    match keyPart? (skipBlanks cs) with
    | none => none
    | some (part, r) =>
      match skipBlanks r with
      | '.' :: r => (keyOf? n r).map fun (parts, r) => (part :: parts, r)
      | r => some ([part], r)

/-- A key. -/
def key? (cs : List Char) : Option (List String × List Char) := keyOf? depthLimit cs

end Lookout.Toml
