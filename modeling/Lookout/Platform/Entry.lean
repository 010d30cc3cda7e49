import Lookout.Platform.Failure

/-! # Directory entries
What can be found under a path, and the text it holds, if it holds one. -/

namespace Lookout

/-- An **entry**: what is found under a path. -/
inductive Entry
  /-- Nothing. -/
  | missing
  /-- A directory. -/
  | directory
  /-- Nothing, because the path leads through a file. -/
  | underFile
  /-- A file with these bytes. -/
  | file (bytes : ByteArray)
  deriving Inhabited

namespace Entry

/-- The file that holds a text. -/
def ofText (s : String) : Entry := .file s.toUTF8

/-- The text of an entry, or why it has none. -/
def read : Entry → Except ReadFault String
  | .missing => .error .notFound
  | .directory => .error .isDirectory
  | .underFile => .error .notDirectory
  | .file bytes =>
    match String.fromUTF8? bytes with
    | some s => .ok s
    | none => .error .notText

/-- A text that was written can be read. -/
theorem read_ofText (s : String) : (ofText s).read = .ok s := by
  have hdecode : String.fromUTF8? s.toUTF8 = some s := dif_pos s.isValidUTF8
  simp only [ofText, read, hdecode]

end Entry

end Lookout
