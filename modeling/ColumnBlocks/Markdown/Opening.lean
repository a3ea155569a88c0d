import ColumnBlocks.Markdown.Event
import ColumnBlocks.Markdown.Label
import ColumnBlocks.Markdown.Markup
import ColumnBlocks.Markdown.Passage
import ColumnBlocks.Text.Digit

/-
What a line opens with.  All functions look at a line behind its indentation, and the ones that read
a mark return what follows it.
-/
namespace ColumnBlocks
namespace Markdown

/-! ## Rules and headings -/

/-- Whether the line is a rule: three or more equal marks and nothing else. -/
def isRule : Text → Bool
  | [] => false
  | c :: r =>
    let line := lineOf (c :: r)
    (c == '*' || c == '-' || c == '_') && line.all (fun d => d == c || isIndent d) &&
      3 ≤ line.count c

/-- The level of a heading, from the marks before it. -/
def headingMark? (t : Text) : Option (HeadingLevel × Text) := do
  let (n, rest) := run '#' t
  guard (rest.head?.all isWhite)
  return (← HeadingLevel.ofNat? n, rest)

/-- The text of a heading, from the rest of its line.  A closing row of marks is taken away when it
has a space before it, or nothing before it, and then the heading is empty. -/
def headingPassage (t : Text) : Passage :=
  let back := (lineOf (dropBlanks t)).reverse.dropWhile (· == ' ')
  match back.dropWhile (· == '#') with
  | [] => { text := [] }
  | ' ' :: r => { text := (r.dropWhile (· == ' ')).reverse, tail := .marks }
  | _ =>
    let blanks := (back.takeWhile isBlank).reverse
    { text := (dropBlanks back).reverse, tail := if blanks.isEmpty then .nothing else .blanks blanks }

/-- The level that a line of `=` or `-` gives to the paragraph above it. -/
def underline? : Text → Option (HeadingLevel × Text)
  | [] => none
  | c :: r => do
    let level ← if c == '=' then some .one else if c == '-' then some .two else none
    return (level, ← afterBlankLine? (run c (c :: r)).2)

/-! ## Fences of code -/

structure Fence where
  mark : Char
  length : Nat
deriving DecidableEq, Repr

/-- An opening fence.  One of backticks has no backtick behind it on its line. -/
def fence? : Text → Option (Fence × Text)
  | [] => none
  | c :: r =>
    let (n, rest) := run c (c :: r)
    let isFence := c == '~' || (c == '\x60' && !(rest.takeWhile (· != '\n')).contains '\x60')
    if isFence && 3 ≤ n then some (⟨c, n⟩, rest) else none

/-- What follows a closing fence, which may be longer than the opening one. -/
def Fence.afterClosing? (f : Fence) : Text → Option Text
  | [] => some []
  | t =>
    let (n, rest) := run f.mark t
    let rest := rest.dropWhile (· == ' ')
    if f.length ≤ n && (afterLineEnd? rest).isSome then some rest else none

/-! ## List items -/

/-- The marker of a list item, without the space after it. -/
structure ListMark where
  mark : Char
  number : Option Nat
  width : Nat
deriving DecidableEq, Repr

/-- The marker of an ordered item: up to nine digits, and a point or a parenthesis. -/
def numberMark? (t : Text) : Option (ListMark × Text) := do
  let digits := t.takeWhile Char.isDigit
  guard (digits.length ≤ 9)
  match t.drop digits.length with
  | c :: rest =>
    guard (c == '.' || c == ')')
    return (⟨c, some (← Text.decimal? digits), digits.length + 1⟩, rest)
  | [] => none

/-- A list marker.  A rule is none. -/
def listMark? : Text → Option (ListMark × Text)
  | [] => none
  | c :: r =>
    if c == '-' || c == '+' || c == '*' then
      if isRule (c :: r) then none else some (⟨c, none, 1⟩, r)
    else numberMark? (c :: r)

/-- The state of a task, from the box at the start of an item.  White space follows the box. -/
def taskMark? : Text → Option (Bool × Text)
  | '[' :: c :: ']' :: d :: r =>
    if !isWhite d then none
    else if isBlank c then some (false, d :: r)
    else if c == 'x' || c == 'X' then some (true, d :: r)
    else none
  | _ => none

/-! ## Footnotes -/

/-- The label at the start of a line that reads like a footnote.  The label goes over no line end
unless a backslash stands before it. -/
def footnoteMark? (t : Text) : Option (Text × Text) := do
  let (label, rest) ← label? (fun _ => none) false (← Text.after? ['[', '^'] t)
  return (label, ← Text.after? [':'] rest)

def footnoteLabel? (t : Text) : Option (Text × Text) := do
  let (label, rest) ← footnoteMark? t
  guard (!(Text.upTo rest t).any isLineEnd)
  return (label, rest)

end Markdown
end ColumnBlocks
