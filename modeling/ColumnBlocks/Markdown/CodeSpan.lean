import ColumnBlocks.Markdown.Container
import ColumnBlocks.Text.Iterate

/-
Code among inline content, between two rows of backticks of one length.
-/
namespace ColumnBlocks
namespace Markdown
namespace CodeSpan

/-- A text cut at the next row of exactly `n` backticks: what stands before and after it. -/
def cut? (n : Nat) : Text → Option (Text × Text)
  | [] => none
  | c :: r =>
    let onwards (before rest : Text) : Option (Text × Text) :=
      if rest.length ≤ r.length then (cut? n rest).map fun (t, rest) => (before ++ t, rest)
      else none
    if c == '\x60' then
      let (k, rest) := run c (c :: r)
      if k = n then some ([], rest) else onwards (List.replicate k c) rest
    else onwards [c] r
termination_by t => t.length

/-- The characters of a line of code.  In a table a bar is written with a backslash before it. -/
def unescape (inTable : Bool) : Text → Text
  | [] => []
  | '\\' :: '|' :: r =>
    if inTable then '|' :: unescape inTable r else '\\' :: '|' :: unescape inTable r
  | c :: r => c :: unescape inTable r

/-- Reads one line of code.  Each character that ends it counts as a space, and the code goes on
behind the marks of the containers. -/
def lineStep (ks : List Container) (inTable : Bool) (code t : Text) : Text.Step Text :=
  let line := lineOf t
  let code := code ++ unescape inTable line
  match t.drop line.length with
  | [] => .stop code []
  | _ :: rest => .more (code ++ [' ']) (Container.lineStart ks rest)

/-- Code as one line. -/
def unfold (ks : List Container) (inTable : Bool) (t : Text) : Text :=
  (Text.iterate (lineStep ks inTable) [] t).1

/-- Code without one space at both of its ends, unless it consists of spaces. -/
def strip (t : Text) : Text :=
  if t.head? == some ' ' && t.getLast? == some ' ' && t.any (· != ' ') then t.tail.dropLast else t

end CodeSpan

/-- The code after a row of `n` backticks, and what follows it. -/
def codeSpan? (ks : List Container) (inTable : Bool) (n : Nat) (t : Text) : Option (Text × Text) :=
  (CodeSpan.cut? n t).map fun (code, rest) =>
    (CodeSpan.strip (CodeSpan.unfold ks inTable code), rest)

end Markdown
end ColumnBlocks
