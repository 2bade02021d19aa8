/-
Documents: texts that write down one value with indents or brackets. A text is divided into tokens, the tokens
make nodes, and nodes have values.
-/
import BadgeEngine.Document.Meaning

namespace BadgeEngine.Document

/-- a text with every line end a line feed -/
def plainLineEnds : List Char → List Char
  | '\r' :: '\n' :: cs => '\n' :: plainLineEnds cs
  | '\r' :: cs => '\n' :: plainLineEnds cs
  | c :: cs => c :: plainLineEnds cs
  | [] => []

/-- reads the one document of a text; a text without one is null -/
def read (text : String) : Except Problem Value := do
  let cs := plainLineEnds text.toList
  if !cs.all isAllowed then throw .document
  match ← nodeOf cs with
  | none => return .null
  | some n => n.meaning

end BadgeEngine.Document
