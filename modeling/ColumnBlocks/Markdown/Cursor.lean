import ColumnBlocks.Markdown.Chars

/-
A position in the indentation of a line.  Indentation is measured in columns, a tab reaches to the
next multiple of four, and a container may take a part of a tab only; the columns of the tab that
are left over stay with the position.
-/
namespace ColumnBlocks
namespace Markdown

structure Cursor where
  rest : Text
  /-- The characters since the last tab. -/
  column : Nat := 0
  /-- The columns left over from a tab. -/
  spare : Nat := 0
deriving Repr

namespace Cursor

/-- Takes up to `n` columns of spaces and tabs from a text.  The first component is how many of
them are missing. -/
def takeColumns (n column : Nat) : Text → Nat × Cursor
  | ' ' :: r =>
    match n with
    | 0 => (0, { rest := ' ' :: r, column })
    | n + 1 => takeColumns n (column + 1) r
  | '\t' :: r =>
    if n = 0 then (0, { rest := '\t' :: r, column })
    else
      let width := 4 - column % 4
      if width ≤ n then takeColumns (n - width) 0 r
      else (0, { rest := r, column := 0, spare := width - n })
  | t => (n, { rest := t, column })

/-- Takes up to `n` columns.  The first component is how many of them are missing. -/
def indent (n : Nat) (c : Cursor) : Nat × Cursor :=
  if n ≤ c.spare then (0, { c with spare := c.spare - n })
  else takeColumns (n - c.spare) c.column c.rest

def skipIndent (c : Cursor) : Cursor := { rest := c.rest.dropWhile isIndent }

def atLineEnd (c : Cursor) : Bool := (afterLineEnd? c.rest).isSome

/-- The position after a character of the line, when the line goes on with it. -/
def char? (ch : Char) (c : Cursor) : Option Cursor :=
  match c.rest with
  | d :: r => if d == ch then some { c with rest := r, column := c.column + 1 } else none
  | [] => none

end Cursor
end Markdown
end ColumnBlocks
