/-! # TOML values
A **value** is what a TOML document assigns to a key. Floating-point numbers and dates are kept as
they are written, since nothing is computed with them. -/

namespace Lookout.Toml

/-- A **value** of TOML. -/
inductive Value
  | text (s : String)
  | integer (i : Int)
  | float (literal : String)
  | boolean (b : Bool)
  | dateTime (literal : String)
  | array (items : List Value)
  | table (members : List (String × Value))
  deriving Inhabited, Repr

/-- The members of a table, each key once. -/
abbrev Table := List (String × Value)

end Lookout.Toml
