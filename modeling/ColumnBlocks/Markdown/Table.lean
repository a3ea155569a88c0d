import ColumnBlocks.Markdown.Chars
import ColumnBlocks.Text.Iterate

/-
Lines of a table.  Bars separate cells unless a backslash stands before them, and the line below the
head consists of dashes.
-/
namespace ColumnBlocks
namespace Markdown
namespace Table

/-- A text cut before its first bar. -/
def cutCell : Text → Text × Text
  | [] => ([], [])
  | '\\' :: '|' :: r =>
    let (cell, rest) := cutCell r
    ('\\' :: '|' :: cell, rest)
  | c :: r =>
    if c == '|' then ([], c :: r)
    else
      let (cell, rest) := cutCell r
      (c :: cell, rest)

def cellStep (cells : List Text) (t : Text) : Text.Step (List Text) :=
  let t := dropBlanks (match t with
    | '|' :: r => r
    | t => t)
  if t.isEmpty then .stop cells t
  else
    let (cell, rest) := cutCell t
    .more (trimBlanks cell :: cells) rest

def cells (line : Text) : List Text := (Text.iterate cellStep [] line).1.reverse

/-- The cells of a line in a table with `n` columns. -/
def row (n : Nat) (line : Text) : List Text :=
  let cells := cells line
  cells.take n ++ List.replicate (n - cells.length) []

def barParts (line : Text) : List Text :=
  match cutCell line with
  | (part, []) => [part]
  | (part, _ :: rest) => if rest.length < line.length then part :: barParts rest else [part]
termination_by line.length

/-- Whether a line ends with a backslash that is no character of its own. -/
def endsWithEscape (line : Text) : Bool := (run '\\' line.reverse).1 % 2 == 1

/-- The number of columns that a line has as the head of a table, when it has a bar. -/
def headColumns? (line : Text) : Option Nat :=
  let parts := barParts (dropBlanks line)
  let inner := if parts.head? == some [] then parts.drop 1 else parts
  let inner := if (dropBlanks (inner.getLastD [])).isEmpty then inner.dropLast else inner
  if parts.length < 2 then none else some inner.length

/-- The number of columns that a line below the head stands for, when it is such a line. -/
def ruleColumns? (line : Text) : Option Nat :=
  let indent := line.takeWhile (· == ' ')
  let body := line.drop indent.length
  let parts := (match body with
    | '|' :: r => r
    | t => t).splitOn '|'
  let last := parts.getLastD []
  let isRule := indent.length ≤ 3 && body.all (fun c => c == ' ' || c == ':' || c == '-' || c == '|') &&
    body.contains '|' && body.contains '-' && parts.dropLast.all (·.contains '-')
  if isRule then some (parts.length - if last.all (· == ' ') then 1 else 0) else none

end Table
end Markdown
end ColumnBlocks
