import ColumnBlocks.Markdown.Container
import ColumnBlocks.Markdown.Opening
import ColumnBlocks.Markdown.Table

/-
Where a paragraph ends.  A paragraph goes on over the lines below it, also when they leave out the
marks of the containers around it, until a line opens with something of its own.
-/
namespace ColumnBlocks
namespace Markdown
namespace Interruption

structure Place where
  containers : List Container
  /-- The lines belong to a table. -/
  inTable : Bool := false

/-- Whether a list item that opens here ends the paragraph.  Inside the containers of the paragraph
it has to have content and to be the first of its list. -/
def byItem (inTable inContainers : Bool) (t : Text) : Bool :=
  match listMark? t with
  | none => false
  | some (m, rest) =>
    rest.head?.all (fun c => isIndent c || isLineEnd c) &&
      (!inContainers || inTable || (m.number.all (· == 1) && !atBlankLine rest))

/-- Whether a table opens here: a line that starts with a bar, and the line below the head. -/
def byTable (place : Place) (t : Text) : Bool :=
  t.head? == some '|' &&
    match Container.inside? place.containers (afterLine t) with
    | none => false
    | some c =>
      match Table.ruleColumns? (lineOf c.rest) with
      | none => false
      | columns => columns == Table.headColumns? (lineOf t)

/-- Whether the line ends the paragraph before it, tables apart. -/
def withoutTable (inTable inContainers : Bool) (t : Text) : Bool :=
  (afterLineEnd? t).isSome || isRule t || (headingMark? t).isSome || (fence? t).isSome ||
    t.head? == some '>' || byItem inTable inContainers t ||
    (match t with
      | '<' :: r => Markup.interrupts r
      | _ => false) ||
    (footnoteMark? t).isSome

end Interruption

/-- Whether the line at `t`, which stands inside all of its containers or not, ends the paragraph
before it. -/
def interrupts (place : Interruption.Place) (inContainers : Bool) (t : Text) : Bool :=
  Interruption.withoutTable place.inTable inContainers t || Interruption.byTable place t

/-- The start of a line, from the start of its characters, unless it ends the paragraph. -/
def continuation? (ks : List Container) (t : Text) : Option Cursor :=
  let (n, c) := Container.enterAll { rest := t } ks
  let (missing, c) := c.indent 4
  if missing != 0 && interrupts ⟨ks, false⟩ (n == ks.length) c.rest then none else some c

end Markdown
end ColumnBlocks
