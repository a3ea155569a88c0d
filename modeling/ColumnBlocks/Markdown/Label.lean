import ColumnBlocks.Markdown.Chars
import ColumnBlocks.Text.CaseFold
import ColumnBlocks.Text.Iterate

/-
Labels of links and footnotes.  A label stands between square brackets, holds no bracket that is not
escaped, at least one character that is not white space, and no empty line; each row of white space
in it counts as one space, and none counts at its ends.  Two labels are the same when they are equal
up to case.
-/
namespace ColumnBlocks
namespace Markdown

/-- How a label reads on after the end of a line: the start of the next line, when the label may go
on there. -/
abbrev NextLine := Text → Option Text

namespace Label

/-- White space inside a label, at most one line end among it. -/
def space? (next : NextLine) (t : Text) : Option Text :=
  let t := dropBlanks t
  match t with
  | c :: _ =>
    if isLineEnd c then do
      let rest := dropBlanks (← next (← afterLineEnd? t))
      guard (!(rest.head?.map isLineEnd).getD false)
      return rest
    else some t
  | [] => some t

/-- A label read in part: its characters, the last first, and whether it is complete. -/
structure Partial where
  chars : Text := []
  /-- How much of the longest label is used up. -/
  weight : Nat := 0
  complete : Bool := false

def limit : Nat := 1000

/-- What a character adds to the weight of a label: its bytes beyond ASCII. -/
def weightOf (c : Char) : Nat := if c.toNat < 128 then 0 else c.utf8Size

namespace Partial

/-- Adds characters that weigh `weight`. -/
def add (chars : Text) (weight : Nat) (p : Partial) : Partial :=
  { p with chars := chars.reverse ++ p.chars, weight := p.weight + weight }

end Partial

/-- Reads one character, one escape or one row of white space. -/
def step (next : NextLine) (inTable : Bool) (p : Partial) (t : Text) : Text.Step Partial :=
  if limit ≤ p.weight then .stop p t
  else
    match t with
    | [] | '[' :: _ => .stop p t
    | ']' :: rest => .stop { p with complete := true } rest
    | '\\' :: '|' :: rest => .more (p.add (if inTable then ['|'] else ['\\', '|']) 2) rest
    | '\\' :: c :: rest => .more (p.add ['\\', c] (1 + c.utf8Size)) rest
    | c :: r =>
      if isWhite c then
        match space? next t with
        | some rest => .more (p.add [' '] (t.length - rest.length)) rest
        | none => .stop p t
      else .more (p.add [c] (weightOf c)) r

def trim (t : Text) : Text := ((t.dropWhile isWhite).reverse.dropWhile isWhite).reverse

end Label

/-- The label whose opening bracket is read, and what follows its closing bracket. -/
def label? (next : NextLine) (inTable : Bool) (t : Text) : Option (Text × Text) :=
  match Text.iterate (Label.step next inTable) {} t with
  | (p, rest) =>
    if p.complete && p.chars.any (!isWhite ·) then some (Label.trim p.chars.reverse, rest) else none

/-- The form in which labels are compared. -/
def labelKey (label : Text) : Text := Text.foldCase label

end Markdown
end ColumnBlocks
