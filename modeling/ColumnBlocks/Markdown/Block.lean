import ColumnBlocks.Markdown.Event
import ColumnBlocks.Markdown.Passage

/-
The blocks of a document.  Containers hold blocks, and leaves hold their inline content as it is
written.  Inline content is read only when the whole document is known, because a link may use a
definition that comes later.
-/
namespace ColumnBlocks
namespace Markdown

inductive Block where
  /-- A paragraph, after the checkbox of a task when it has one. -/
  | paragraph (task : Option Bool) (source : Passage)
  | heading (level : HeadingLevel) (task : Option Bool) (source : Passage)
  | rule
  | code (info : Option Text) (body : Text)
  | html (raw : Text)
  /-- A table, with the cells of its head and of its rows. -/
  | table (head : List Text) (rows : List (List Text))
  | taskMarker (checked : Bool)
  | quote (content : List Block)
  /-- A list of items.  The paragraphs of a tight list are not set apart. -/
  | list (first : Option Nat) (tight : Bool) (items : List Block)
  | item (content : List Block)
  | footnote (label : Text) (content : List Block)
deriving Repr, Inhabited

end Markdown
end ColumnBlocks
