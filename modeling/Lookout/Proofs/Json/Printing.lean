import Mathlib.Data.List.Forall2
import Lookout.Json.Reader
import Lookout.Proofs.Json.Lexing

/-! # Trees that are printed
A tree is printed without white space or with indentation. This file shows that **either text is read
as the tree it was printed from**, if the numerals in the tree are well-formed.

* `Tree.tokens`: the tokens of a tree, which both layouts spell.
* `ReadState.run_tokens`: the reader makes the tree of its tokens, wherever it stands.
* `Tree.Proper`: the numerals in a tree are well-formed.
* `Tree.parse?_compact`, `Tree.parse?_pretty`: the two layouts. -/

namespace Lookout.Json

/-! ## The tokens of a tree -/

namespace Tree

mutual

/-- The tokens of a tree. -/
def tokens : Tree → List Token
  | .null => [.null]
  | .bool b => [.bool b]
  | .number n => [.number n]
  | .string t => [.string t]
  | .array items => .openArray :: ([.comma].intercalate (itemTokens items) ++ [.closeArray])
  | .object members => .openObject :: ([.comma].intercalate (memberTokens members) ++ [.closeObject])

/-- The tokens of each item of an array. -/
def itemTokens : List Tree → List (List Token)
  | [] => []
  | t :: ts => tokens t :: itemTokens ts

/-- The tokens of each member of an object. -/
def memberTokens : List (Text × Tree) → List (List Token)
  | [] => []
  | (k, t) :: ms => (.string k :: .colon :: tokens t) :: memberTokens ms

end

end Tree

namespace ReadState

/-- Reading some tokens and then others. -/
theorem run_append (s : ReadState) (ts us : List Token) :
    s.run (ts ++ us) = (s.run ts).bind (·.run us) := by
  induction ts generalizing s with
  | nil => rfl
  | cons t ts ih =>
      rw [List.cons_append, run, run]
      cases s.step t with
      | none => rfl
      | some s' => exact ih s'

/-- One token. -/
theorem run_singleton (s : ReadState) (t : Token) : s.run [t] = s.step t := by
  rw [run]
  cases s.step t <;> rfl

/-- The first token and then the others. -/
theorem run_cons {s s' : ReadState} {t : Token} (h : s.step t = some s') (ts : List Token) :
    s.run (t :: ts) = s'.run ts := by
  rw [run, h]

/-- The key of a member and the colon after it. -/
theorem run_key (k : Text) (read : List (Text × Tree)) (st : List Unfinished) (mayClose : Bool)
    (ts : List Token) :
    run ⟨.object read :: st, .key mayClose⟩ (.string k :: .colon :: ts) =
      run ⟨.member read k :: st, .value false⟩ ts := by
  cases mayClose <;> rfl

/-- The end of an array after its last item. -/
theorem run_closeArray (t : Tree) (read : List Tree) (st : List Unfinished) :
    run ⟨.array (t :: read) :: st, .separator⟩ [.closeArray] =
      complete (.array (read.reverse ++ [t])) st := by
  rw [run_singleton, ← List.reverse_cons]
  rfl

/-- The end of an object after its last member. -/
theorem run_closeObject (m : Text × Tree) (read : List (Text × Tree)) (st : List Unfinished) :
    run ⟨.object (m :: read) :: st, .separator⟩ [.closeObject] =
      complete (.object (read.reverse ++ [m])) st := by
  rw [run_singleton, ← List.reverse_cons]
  rfl

-- The recursion is that of the tokens. What was read before waits in the reader, last part first, so
-- that the lists of parts are read with any such parts in front of them.
mutual

/-- **The reader makes the tree of its tokens**, wherever a value is expected. -/
theorem run_tokens : (t : Tree) → (st : List Unfinished) → (mayClose : Bool) →
    run ⟨st, .value mayClose⟩ t.tokens = complete t st
  | .null, st, mayClose => by
      rw [Tree.tokens, run_singleton]
      cases mayClose <;> rfl
  | .bool b, st, mayClose => by
      rw [Tree.tokens, run_singleton]
      cases mayClose <;> rfl
  | .number n, st, mayClose => by
      rw [Tree.tokens, run_singleton]
      cases mayClose <;> rfl
  | .string t, st, mayClose => by
      rw [Tree.tokens, run_singleton]
      cases mayClose <;> rfl
  | .array items, st, mayClose => by
      have hopen : step ⟨st, .value mayClose⟩ .openArray = some ⟨.array [] :: st, .value true⟩ := by
        cases mayClose <;> rfl
      rw [Tree.tokens, run_cons hopen, run_itemTokens items [] st true fun _ => rfl]
      rfl
  | .object members, st, mayClose => by
      have hopen : step ⟨st, .value mayClose⟩ .openObject = some ⟨.object [] :: st, .key true⟩ := by
        cases mayClose <;> rfl
      rw [Tree.tokens, run_cons hopen, run_memberTokens members [] st true fun _ => rfl]
      rfl

/-- The items of an array are read after those read before. -/
theorem run_itemTokens : (items read : List Tree) → (st : List Unfinished) → (mayClose : Bool) →
    (items = [] → mayClose = true) →
      run ⟨.array read :: st, .value mayClose⟩
        ([.comma].intercalate (Tree.itemTokens items) ++ [.closeArray]) =
          complete (.array (read.reverse ++ items)) st
  | [], read, st, mayClose, h => by
      rw [h rfl, List.append_nil]
      exact run_singleton _ _
  | [t], read, st, mayClose, _ => by
      rw [Tree.itemTokens, Tree.itemTokens, List.intercalate_singleton, run_append,
        run_tokens t _ mayClose]
      exact run_closeArray t read st
  | t :: u :: us, read, st, mayClose, _ => by
      rw [Tree.itemTokens, Tree.itemTokens, List.intercalate_cons_cons, ← Tree.itemTokens,
        List.append_assoc, List.append_assoc, run_append, run_tokens t _ mayClose]
      have hrest := run_itemTokens (u :: us) (t :: read) st false nofun
      rw [List.reverse_cons, List.append_assoc] at hrest
      exact hrest

/-- The members of an object are read after those read before. -/
theorem run_memberTokens : (members read : List (Text × Tree)) → (st : List Unfinished) →
    (mayClose : Bool) → (members = [] → mayClose = true) →
      run ⟨.object read :: st, .key mayClose⟩
        ([.comma].intercalate (Tree.memberTokens members) ++ [.closeObject]) =
          complete (.object (read.reverse ++ members)) st
  | [], read, st, mayClose, h => by
      rw [h rfl, List.append_nil]
      exact run_singleton _ _
  | [(k, t)], read, st, mayClose, _ => by
      rw [Tree.memberTokens, Tree.memberTokens, List.intercalate_singleton, List.cons_append,
        List.cons_append, run_key, run_append, run_tokens t _ false]
      exact run_closeObject (k, t) read st
  | (k, t) :: m :: ms, read, st, mayClose, _ => by
      rw [Tree.memberTokens, Tree.memberTokens, List.intercalate_cons_cons, ← Tree.memberTokens,
        List.append_assoc, List.append_assoc, List.cons_append, List.cons_append, run_key,
        run_append, run_tokens t _ false]
      have hrest := run_memberTokens (m :: ms) ((k, t) :: read) st false nofun
      rw [List.reverse_cons, List.append_assoc] at hrest
      exact hrest

end

end ReadState

/-! ## Layouts -/

theorem isMark_openArray : IsMark '[' .openArray := ⟨rfl, fun _ => rfl, stops_cons (by decide)⟩

theorem isMark_closeArray : IsMark ']' .closeArray := ⟨rfl, fun _ => rfl, stops_cons (by decide)⟩

theorem isMark_openObject : IsMark '\x7b' .openObject := ⟨rfl, fun _ => rfl, stops_cons (by decide)⟩

theorem isMark_closeObject : IsMark '\x7d' .closeObject :=
  ⟨rfl, fun _ => rfl, stops_cons (by decide)⟩

theorem isMark_comma : IsMark ',' .comma := ⟨rfl, fun _ => rfl, stops_cons (by decide)⟩

theorem isMark_colon : IsMark ':' .colon := ⟨rfl, fun _ => rfl, stops_cons (by decide)⟩

/-- White space goes on with no numeral. -/
theorem stops_spaces {space rest : List Char} (hspace : ∀ c ∈ space, isSpace c = true)
    (h : Stops rest) : Stops (space ++ rest) := by
  cases space with
  | nil => exact h
  | cons c cs =>
      -- None of the four blank characters is in a numeral.
      refine stops_cons ?_ _
      have hc := hspace c List.mem_cons_self
      simp only [isSpace, Bool.or_eq_true, decide_eq_true_eq] at hc
      rcases hc with ((rfl | rfl) | rfl) | rfl <;> decide

namespace Spells

variable {parts : List (List Char)} {tokens : List (List Token)}

/-- Parts with commas between them, each comma with white space after it. -/
theorem intercalate {between : List Char} (hbetween : ∀ c ∈ between, isSpace c = true)
    (h : List.Forall₂ Spells parts tokens) :
    Spells ((',' :: between).intercalate parts) ([.comma].intercalate tokens) := by
  induction h with
  | nil => exact nil
  | cons hpart hparts ih =>
      cases hparts with
      | nil =>
          rw [List.intercalate_singleton, List.intercalate_singleton]
          exact hpart
      | cons hnext hparts =>
          rw [List.intercalate_cons_cons, List.intercalate_cons_cons, List.append_assoc,
            List.append_assoc]
          exact hpart.append (mark isMark_comma (spaces hbetween ih)) fun _ _ =>
            isMark_comma.stops _

/-- **A container in either layout**: parts with commas between them, and white space anywhere. -/
theorem container {opening closing : Char} {first last : Token} (hopening : IsMark opening first)
    (hclosing : IsMark closing last) (before between after : List Char)
    (hbefore : ∀ c ∈ before, isSpace c = true) (hbetween : ∀ c ∈ between, isSpace c = true)
    (hafter : ∀ c ∈ after, isSpace c = true)
    (h : List.Forall₂ Spells parts tokens) :
    Spells (opening :: (before ++ ((',' :: between).intercalate parts ++ (after ++ [closing]))))
      (first :: ([.comma].intercalate tokens ++ [last])) := by
  have hend : Spells (after ++ [closing]) [last] := spaces hafter (mark hclosing nil)
  refine mark hopening (spaces hbefore ((intercalate hbetween h).append hend fun rest _ => ?_))
  rw [List.append_assoc]
  exact stops_spaces hafter (hclosing.stops rest)

/-- A member in either layout, with white space after the colon. -/
theorem member (k : Text) {value : List Char} {ts : List Token} (after : List Char)
    (hafter : ∀ c ∈ after, isSpace c = true) (h : Spells value ts) :
    Spells ((printText k).toList ++ (':' :: (after ++ value))) (.string k :: .colon :: ts) :=
  (text k).append (mark isMark_colon (spaces hafter h)) fun _ _ => isMark_colon.stops _

end Spells

/-- A word that stands for itself. -/
theorem Spells.word (c : Char) (cs : List Char) {t : Token} (hspace : isSpace c = false)
    (h : ∀ rest, scanToken (c :: (cs ++ rest)) = some (t, rest)) : Spells (c :: cs) [t] :=
  .single (fun _ => forall_mem_head?_cons hspace _) fun rest _ => h rest

namespace Tree

/-! ## Both layouts are read back -/

mutual

/-- A tree is **proper** if its numerals are well-formed. -/
def Proper : Tree → Prop
  | .number n => n.IsWellFormed
  | .array items => ProperItems items
  | .object members => ProperMembers members
  | _ => True

/-- Items are proper if each of them is. -/
def ProperItems : List Tree → Prop
  | [] => True
  | t :: ts => t.Proper ∧ ProperItems ts

/-- Members are proper if the value of each of them is. -/
def ProperMembers : List (Text × Tree) → Prop
  | [] => True
  | (_, t) :: ms => t.Proper ∧ ProperMembers ms

end

/-- The null value spells its token. -/
theorem spells_null : Spells "null".toList [.null] :=
  .word 'n' ['u', 'l', 'l'] rfl fun _ => rfl

/-- A boolean spells its token. -/
theorem spells_bool (b : Bool) : Spells (if b then "true" else "false").toList [.bool b] := by
  cases b with
  | true => exact .word 't' ['r', 'u', 'e'] rfl fun _ => rfl
  | false => exact .word 'f' ['a', 'l', 's', 'e'] rfl fun _ => rfl

/-- A container without white space. -/
theorem spells_plain {opening closing : String} {o c : Char} {first last : Token}
    {parts : List String} {tokens : List (List Token)} (ho : opening.toList = [o])
    (hc : closing.toList = [c]) (hopening : IsMark o first) (hclosing : IsMark c last)
    (h : List.Forall₂ Spells (parts.map String.toList) tokens) :
    Spells (opening ++ String.intercalate "," parts ++ closing).toList
      (first :: ([.comma].intercalate tokens ++ [last])) := by
  have hcontainer := Spells.container hopening hclosing [] [] [] nofun nofun nofun h
  rw [String.toList_append, String.toList_append, String.toList_intercalate, ho, hc]
  exact hcontainer

/-- A line break and an indentation are white space. -/
theorem isSpace_newline (level : Nat) : ∀ c ∈ (newline level).toList, isSpace c = true := by
  intro c hc
  simp only [newline, String.toList_append, String.toList_ofList] at hc
  rcases List.mem_append.mp hc with hbreak | hindent
  · obtain rfl := List.mem_singleton.mp hbreak
    rfl
  · rw [List.eq_of_mem_replicate hindent]
    rfl

/-- A container with each part on a line of its own. -/
theorem spells_enclose {opening closing : String} {o c : Char} {first last : Token}
    {parts : List String} {tokens : List (List Token)} (level : Nat) (ho : opening.toList = [o])
    (hc : closing.toList = [c]) (hopening : IsMark o first) (hclosing : IsMark c last)
    (h : List.Forall₂ Spells (parts.map String.toList) tokens) :
    Spells (enclose level opening closing parts).toList
      (first :: ([.comma].intercalate tokens ++ [last])) := by
  rw [enclose]
  split
  · next hempty =>
      obtain rfl := List.isEmpty_iff.mp hempty
      have hplain := spells_plain ho hc hopening hclosing h
      have hnil : String.intercalate "," [] = "" := rfl
      rw [hnil, String.append_empty] at hplain
      exact hplain
  · have hcontainer := Spells.container hopening hclosing _ _ _ (isSpace_newline (level + 1))
      (isSpace_newline (level + 1)) (isSpace_newline level) h
    simp only [String.toList_append, String.toList_intercalate, ho, hc, List.append_assoc]
    exact hcontainer

mutual

/-- Without white space, a tree spells its tokens. -/
theorem spells_compact : (t : Tree) → t.Proper → Spells t.compact.toList t.tokens
  | .null, _ => spells_null
  | .bool b, _ => spells_bool b
  | .number _, h => .numeral h
  | .string t, _ => .text t
  | .array items, h =>
      spells_plain rfl rfl isMark_openArray isMark_closeArray (forall₂_compactItems items h)
  | .object members, h =>
      spells_plain rfl rfl isMark_openObject isMark_closeObject (forall₂_compactMembers members h)

/-- The items of an array spell their tokens. -/
theorem forall₂_compactItems : (items : List Tree) → ProperItems items →
    List.Forall₂ Spells ((compactItems items).map String.toList) (itemTokens items)
  | [], _ => .nil
  | t :: ts, h => .cons (spells_compact t h.1) (forall₂_compactItems ts h.2)

/-- The members of an object spell their tokens. -/
theorem forall₂_compactMembers : (members : List (Text × Tree)) → ProperMembers members →
    List.Forall₂ Spells ((compactMembers members).map String.toList) (memberTokens members)
  | [], _ => .nil
  | (k, t) :: ms, h => by
      refine .cons ?_ (forall₂_compactMembers ms h.2)
      rw [String.toList_append, String.toList_append, List.append_assoc]
      exact .member k [] nofun (spells_compact t h.1)

end

mutual

/-- With indentation, a tree spells its tokens. -/
theorem spells_prettyAt (level : Nat) :
    (t : Tree) → t.Proper → Spells (t.prettyAt level).toList t.tokens
  | .null, _ => spells_null
  | .bool b, _ => spells_bool b
  | .number _, h => .numeral h
  | .string t, _ => .text t
  | .array items, h => spells_enclose level rfl rfl isMark_openArray isMark_closeArray
      (forall₂_prettyItems (level + 1) items h)
  | .object members, h => spells_enclose level rfl rfl isMark_openObject isMark_closeObject
      (forall₂_prettyMembers (level + 1) members h)

/-- The items of an array spell their tokens. -/
theorem forall₂_prettyItems (level : Nat) : (items : List Tree) → ProperItems items →
    List.Forall₂ Spells ((prettyItems level items).map String.toList) (itemTokens items)
  | [], _ => .nil
  | t :: ts, h => .cons (spells_prettyAt level t h.1) (forall₂_prettyItems level ts h.2)

/-- The members of an object spell their tokens. -/
theorem forall₂_prettyMembers (level : Nat) :
    (members : List (Text × Tree)) → ProperMembers members →
      List.Forall₂ Spells ((prettyMembers level members).map String.toList) (memberTokens members)
  | [], _ => .nil
  | (k, t) :: ms, h => by
      refine .cons ?_ (forall₂_prettyMembers level ms h.2)
      rw [String.toList_append, String.toList_append, List.append_assoc]
      exact .member k [' '] (List.forall_mem_singleton.mpr (by decide)) (spells_prettyAt level t h.1)

end

/-- The tokens of a tree are those of no other. -/
theorem ofTokens?_tokens (t : Tree) : ofTokens? t.tokens = some t := by
  rw [ofTokens?, ReadState.start, ReadState.run_tokens]
  rfl

/-- A text that spells the tokens of a tree is read as that tree. -/
theorem parse?_of_spells {s : String} {t : Tree} (h : Spells s.toList t.tokens) :
    parse? s = some t := by
  rw [parse?, lex_of_spells h, Option.bind_some, ofTokens?_tokens]

/-- **A tree is read back from its text without white space.** -/
theorem parse?_compact {t : Tree} (h : t.Proper) : parse? t.compact = some t :=
  parse?_of_spells (spells_compact t h)

/-- **A tree is read back from its text with indentation.** -/
theorem parse?_pretty {t : Tree} (h : t.Proper) : parse? t.pretty = some t :=
  parse?_of_spells (spells_prettyAt 0 t h)

/-- So it is if the text is a line of its own. -/
theorem parse?_pretty_newline {t : Tree} (h : t.Proper) : parse? (t.pretty ++ "\n") = some t := by
  have hspace : ∀ c ∈ ['\n'], isSpace c = true := List.forall_mem_singleton.mpr (by decide)
  have hline := (spells_prettyAt 0 t h).append (.spaces hspace .nil) fun _ hrest =>
    stops_spaces hspace hrest
  rw [List.append_nil, List.append_nil] at hline
  refine parse?_of_spells ?_
  rw [String.toList_append]
  exact hline

end Tree

end Lookout.Json
