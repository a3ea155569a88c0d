import ColumnBlocks.Markdown.Container

/-
Inline content as it is written.  From the second line on, the lines of a passage still have the
marks of the containers in front of them: some constructs go on behind these marks, and others take
a line as it stands.
-/
namespace ColumnBlocks
namespace Markdown

/-- What stands behind the text of a passage on its last line. -/
inductive LineTail where
  /-- Nothing, or white space that counts for nothing. -/
  | nothing
  /-- White space that belongs to a text directly before it. -/
  | blanks (t : Text)
  /-- A closing row of marks, taken away together with the spaces before it. -/
  | marks
deriving DecidableEq, Repr

/-- The text of a leaf, with the containers that the leaf stands in. -/
structure Passage where
  text : Text
  containers : List Container := []
  tail : LineTail := .nothing
deriving DecidableEq, Repr, Inhabited

end Markdown
end ColumnBlocks
