import ColumnBlocks.Block.Line
import ColumnBlocks.Text.Lines

/-
The layout of a complete block: its lines are dealt out to columns, and marker lines disappear.
Lines that were cut from one paragraph and end up side by side in a column become one paragraph
again, with breaks between them.
-/
namespace ColumnBlocks

structure ColumnBuilder where
  width : Nat
  /-- What is finished, in order. -/
  done : List Node := []
  /-- The paragraph that further lines of its source may still join. -/
  joining : Option (Nat × List Node) := none
deriving Repr, Inhabited

namespace ColumnBuilder

def content (b : ColumnBuilder) : List Node :=
  match b.joining with
  | none => b.done
  | some (_, children) => b.done ++ [.paragraph children]

/-- The builder with its last paragraph finished. -/
def settle (b : ColumnBuilder) : ColumnBuilder := { b with done := b.content, joining := none }

def add (b : ColumnBuilder) (line : Line) : ColumnBuilder :=
  match line.node with
  | .paragraph children =>
    match b.joining with
    | some (source, held) =>
      if source = line.source then
        { b with joining := some (source, held ++ .lineBreak :: children) }
      else { b.settle with joining := some (line.source, children) }
    | none => { b with joining := some (line.source, children) }
  | n => { b with done := b.content ++ [n], joining := none }

def build (wrap : Bool) (b : ColumnBuilder) : Node := .column b.width wrap b.content

/-- The columns that the lines fill, from the column being filled on. -/
def fill (b : ColumnBuilder) : List Line → List ColumnBuilder
  | [] => [b]
  | line :: rest =>
    match line.marker? with
    | some (.opens width) => fill { b.settle with width } rest
    | some (.closes _) => fill b.settle rest
    | some (.divides width) => b :: fill { width } rest
    | none => fill (b.add line) rest

end ColumnBuilder

/-- The columns of a complete block, from left to right. -/
def renderBlock (nodes : List Node) (wrap : Bool) : List Node :=
  (ColumnBuilder.fill { width := 1 } (splitLines nodes)).map (ColumnBuilder.build wrap)

/-- The widths that the marker lines of a text ask for. -/
def columnWidths (text : Text) : List Nat :=
  (Text.lines text).filterMap fun line =>
    match Marker.ofLine? line with
    | some (.opens width) | some (.divides width) => some width
    | _ => none

end ColumnBlocks
