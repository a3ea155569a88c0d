import ColumnBlocks.Markdown.Cursor

/-
The containers that a line stands in.  Each of them asks for something at the start of the line,
from the outermost one inwards.
-/
namespace ColumnBlocks
namespace Markdown

inductive Container where
  | quote
  /-- A list whose markers have the character `mark`, with the number of its first item. -/
  | list (mark : Char) (first : Option Nat) (tight : Bool)
  /-- An item, with the columns by which its lines are indented. -/
  | item (indent : Nat)
  | footnote (label : Text)
deriving DecidableEq, Repr, Inhabited

namespace Container

/-- The position after `n` columns.  A line that ends before that is as good as indented. -/
def indented? (n : Nat) (c : Cursor) : Option Cursor :=
  let (missing, c) := c.indent n
  if missing = 0 || c.atLineEnd then some c else none

/-- The position after a `>` with up to three columns before it and one after it. -/
def afterQuoteMark? (c : Cursor) : Option Cursor :=
  ((c.indent 3).2.char? '>').map fun c => (c.indent 1).2

/-- The position inside a container, when the line goes on in it. -/
def enter? (c : Cursor) : Container → Option Cursor
  | quote => afterQuoteMark? c
  | list _ _ _ => some c
  | item n => indented? n c
  | footnote _ => indented? 4 c

/-- Enters containers, the outermost first, as far as the line goes on in them.  The first
component is how many that are. -/
def enterAll (c : Cursor) : List Container → Nat × Cursor
  | [] => (0, c)
  | k :: ks =>
    match k.enter? c with
    | none => (0, c)
    | some c =>
      let (n, c) := enterAll c ks
      (n + 1, c)

/-- The position inside all of the containers, at the start of a line that goes on in them. -/
def inside? (ks : List Container) (t : Text) : Option Cursor :=
  let (n, c) := enterAll { rest := t } ks
  if n = ks.length then some c else none

/-- What the containers leave of a line: the line after their marks, as far as it has them. -/
def lineStart (ks : List Container) (t : Text) : Text := (enterAll { rest := t } ks).2.rest

/-- The content of a line, without the marks of the containers and the indentation after them. -/
def contentStart (ks : List Container) (t : Text) : Text := (lineStart ks t).dropWhile isIndent

end Container
end Markdown
end ColumnBlocks
