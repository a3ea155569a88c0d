import ColumnBlocks.Text.Basic

/-
What a file holds: a text, or bytes that are no text.
-/
namespace ColumnBlocks
namespace Files

inductive Content where
  | text (t : Text)
  | binary (bytes : List UInt8)
deriving DecidableEq, Repr

def Content.ofBytes (bytes : ByteArray) : Content :=
  match String.fromUTF8? bytes with
  | some s => .text s.toList
  | none => .binary bytes.toList

end Files
end ColumnBlocks
