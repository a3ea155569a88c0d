import ColumnBlocks.Marker.Width

/-
The three markers of a column block.  A marker stands at the very start of a line and is written
exactly so; everything else is content.
-/
namespace ColumnBlocks

inductive Marker where
  /-- `[begin]` with a width hint opens a block and its first column. -/
  | opens (width : Nat)
  /-- `[col]` with a width hint starts the next column. -/
  | divides (width : Nat)
  /-- `[end]` closes the block, and the rest of its line configures it. -/
  | closes (config : Text)
deriving DecidableEq, Repr

namespace Marker

def beginText : Text := "[begin]".toList

def colText : Text := "[col]".toList

def endText : Text := "[end]".toList

def ofLine? (line : Text) : Option Marker :=
  match Text.after? beginText line with
  | some hint => some (opens (width hint))
  | none =>
    match Text.after? colText line with
    | some hint => some (divides (width hint))
    | none => (Text.after? endText line).map closes

end Marker
end ColumnBlocks
