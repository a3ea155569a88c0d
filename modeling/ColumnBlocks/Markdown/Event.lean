import ColumnBlocks.Text.Basic

/-
Events describe a Markdown document in reading order: a container starts, its content follows, and
it stops.  They are the interface between whatever reads Markdown and whatever builds from it.
-/
namespace ColumnBlocks
namespace Markdown

inductive HeadingLevel where
  | one
  | two
  | three
  | four
  | five
  | six
deriving DecidableEq, Repr

/-- The level with a number from one to six. -/
def HeadingLevel.ofNat? : Nat → Option HeadingLevel
  | 1 => some one
  | 2 => some two
  | 3 => some three
  | 4 => some four
  | 5 => some five
  | 6 => some six
  | _ => none

inductive Tag where
  | paragraph
  | heading (level : HeadingLevel)
  | blockQuote
  /-- Code, with the text after the opening fence when there is a fence. -/
  | codeBlock (info : Option Text)
  | htmlBlock
  /-- A list, with the number of its first item when it is an ordered one. -/
  | list (start : Option Nat)
  | item
  | footnoteDefinition (label : Text)
  | definitionList
  | definitionTitle
  | definition
  | table
  | tableHead
  | tableRow
  | tableCell
  | emphasis
  | strong
  | strikethrough
  | superscript
  | subscript
  | link (destination title : Text)
  | image (destination title : Text)
  | metadata
deriving DecidableEq, Repr

inductive Event where
  | start (tag : Tag)
  | stop
  | text (s : Text)
  | code (s : Text)
  | inlineMath (s : Text)
  | displayMath (s : Text)
  /-- A piece of the raw markup of an HTML block. -/
  | html (raw : Text)
  /-- A piece of markup among inline content. -/
  | inlineHtml (raw : Text)
  | footnoteReference (label : Text)
  | softBreak
  | hardBreak
  | rule
  | taskMarker (checked : Bool)
deriving DecidableEq, Repr

end Markdown
end ColumnBlocks
