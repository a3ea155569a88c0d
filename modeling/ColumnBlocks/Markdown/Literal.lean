import ColumnBlocks.Markdown.Container
import ColumnBlocks.Markdown.Markup
import ColumnBlocks.Markdown.Opening

/-
Leaves whose lines are taken literally: code between fences, indented code, and blocks of HTML.
Their lines end at line feeds only.
-/
namespace ColumnBlocks
namespace Markdown
namespace Literal

/-- A line without a carriage return directly before its last character, when that is one of ASCII:
in a line with an end it is the line feed. -/
def withoutReturn : Text → Text
  | [] => []
  | ['\r', c] => if c.toNat < 128 then [c] else ['\r', c]
  | c :: r => c :: withoutReturn r

def line (spare : Nat) (t : Text) : Text := List.replicate spare ' ' ++ withoutReturn t

/-! ## Code between fences -/

/-- Reads one line of code, or the end of it.  The lines lose the indentation of the fence. -/
def fencedStep (ks : List Container) (f : Fence) (indent : Nat) (body t : Text) : Text.Step Text :=
  match Container.inside? ks t with
  | none => .stop body t
  | some c =>
    let c := (c.indent indent).2
    let closed? := do
      let (missing, c) := c.indent (4 - indent)
      guard (missing != 0)
      f.afterClosing? c.rest
    match closed? with
    | some rest => .stop body ((afterBlankLine? rest).getD rest)
    | none =>
      let (l, rest) := cutLine c.rest
      .more (body ++ line c.spare l) rest

/-- The code after the line of an opening fence, and what follows it. -/
def fenced (ks : List Container) (f : Fence) (indent : Nat) (t : Text) : Text × Text :=
  Text.iterate (fencedStep ks f indent) [] t

/-! ## Indented code -/

/-- Code being read: the lines up to the last one with content, the blank lines after that, and the
columns left over in front of the next line. -/
structure Indented where
  body : Text := []
  blanks : Text := []
  spare : Nat
deriving Repr

/-- Reads one line of code, at its content. -/
def indentedStep (ks : List Container) (code : Indented) (t : Text) : Text.Step Indented :=
  let (l, rest) := cutLine t
  let written := code.blanks ++ line code.spare l
  let code :=
    if atBlankLine t then { code with blanks := written }
    else { code with body := code.body ++ written, blanks := [] }
  match (Container.inside? ks rest).bind (Container.indented? 4) with
  | none => .stop code rest
  | some c => if c.rest.isEmpty then .stop code rest else .more { code with spare := c.spare } c.rest

/-- Indented code from its first line on, and what follows it. -/
def indented (ks : List Container) (c : Cursor) : Indented × Text :=
  Text.iterate (indentedStep ks) { spare := c.spare } c.rest

/-! ## Blocks of HTML -/

/-- What ends a block of HTML: the line with a certain text, or a blank line after it. -/
inductive HtmlEnd where
  | closing (w : Text)
  | blank
deriving DecidableEq, Repr

def HtmlEnd.inLine (l : Text) : HtmlEnd → Bool
  | closing w => Text.occurs w l
  | blank => false

def HtmlEnd.beforeLine (c : Cursor) : HtmlEnd → Bool
  | closing _ => c.rest.isEmpty
  | blank => atBlankLine c.rest

/-- How a block of HTML that opens after a `<` ends.  A single tag opens one only when it stands
alone on its line. -/
def htmlEnd? (t : Text) : Option HtmlEnd :=
  match Markup.closingText? t with
  | some w => some (.closing w)
  | none => if Markup.startsBlockElement t || Markup.isTagLine t then some .blank else none

/-- Reads one line of HTML, at its content. -/
def htmlStep (ks : List Container) (e : HtmlEnd) (s : Text × Nat) (t : Text) :
    Text.Step (Text × Nat) :=
  let (l, rest) := cutLine t
  let raw := s.1 ++ line s.2 l
  match Container.inside? ks rest with
  | none => .stop (raw, 0) rest
  | some c => if e.inLine l || e.beforeLine c then .stop (raw, 0) rest else .more (raw, c.spare) c.rest

/-- A block of HTML from its first line on, which has `indent` columns before it, and what follows
it. -/
def html (ks : List Container) (e : HtmlEnd) (indent : Nat) (t : Text) : Text × Text :=
  let ((raw, _), rest) := Text.iterate (htmlStep ks e) ([], indent) t
  (raw, rest)

end Literal
end Markdown
end ColumnBlocks
