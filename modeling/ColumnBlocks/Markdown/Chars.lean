import ColumnBlocks.Text.Punctuation

/-
The classes of characters that the block structure of Markdown goes by, and the ends of lines.
A line ends at a line feed, a carriage return, or both in this order, and at the end of the text.
-/
namespace ColumnBlocks
namespace Markdown

/-- White space that ends no line. -/
def isBlank (c : Char) : Bool := c == ' ' || c == '\t' || c == '\x0b' || c == '\x0c'

def isLineEnd (c : Char) : Bool := c == '\n' || c == '\r'

def isWhite (c : Char) : Bool := isBlank c || isLineEnd c

/-- White space that indents a line. -/
def isIndent (c : Char) : Bool := c == ' ' || c == '\t'

def dropBlanks (t : Text) : Text := t.dropWhile isBlank

/-- What follows the end of a line, when a text starts with one. -/
def afterLineEnd? : Text → Option Text
  | [] => some []
  | '\n' :: r => some r
  | '\r' :: '\n' :: r => some r
  | '\r' :: r => some r
  | _ :: _ => none

/-- What follows a line without content, when a text starts with one. -/
def afterBlankLine? (t : Text) : Option Text := afterLineEnd? (dropBlanks t)

def atBlankLine (t : Text) : Bool := (afterBlankLine? t).isSome

/-- A text cut after its first line feed, as lines of literal content are. -/
def cutLine : Text → Text × Text
  | [] => ([], [])
  | c :: r =>
    if c == '\n' then ([c], r)
    else
      let (line, rest) := cutLine r
      (c :: line, rest)

def lineOf (t : Text) : Text := t.takeWhile fun c => !isLineEnd c

def afterLine (t : Text) : Text :=
  (afterLineEnd? (t.dropWhile fun c => !isLineEnd c)).getD []

/-- A text without one line end at its end. -/
def withoutLineEnd (t : Text) : Text :=
  match t.reverse with
  | '\n' :: '\r' :: back => back.reverse
  | c :: back => if isLineEnd c then back.reverse else t
  | [] => []

/-- A text without the blanks at its end. -/
def trimBlanks (t : Text) : Text := (t.reverse.dropWhile isBlank).reverse

/-- How often `c` is repeated at the start of a text, and what follows. -/
def run (c : Char) (t : Text) : Nat × Text := ((t.takeWhile (· == c)).length, t.dropWhile (· == c))

end Markdown
end ColumnBlocks
