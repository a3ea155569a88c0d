import ColumnBlocks.Text.Basic

/-
Tables of characters.  A property of Unicode is a list of ranges, written as hexadecimal code
points `first-last` or `only` with blanks between them; in that form a table of some hundred ranges
stays a short text.
-/
namespace ColumnBlocks
namespace Text

/-- The value of a hexadecimal digit, of either case. -/
def hexValue? (c : Char) : Option Nat :=
  if '0' ≤ c ∧ c ≤ '9' then some (c.toNat - '0'.toNat)
  else if 'a' ≤ c ∧ c ≤ 'f' then some (c.toNat - 'a'.toNat + 10)
  else if 'A' ≤ c ∧ c ≤ 'F' then some (c.toNat - 'A'.toNat + 10)
  else none

def hexNumber (t : Text) : Nat := t.foldl (fun n c => n * 16 + (hexValue? c).getD 0) 0

/-- The words of a text, which blanks and line feeds separate. -/
def words (t : Text) : List Text :=
  (t.splitBy fun a b => (a == ' ' || a == '\n') == (b == ' ' || b == '\n')).filter fun w =>
    w.head? != some ' ' && w.head? != some '\n'

def readRange (w : Text) : Nat × Nat :=
  let first := w.takeWhile (· != '-')
  match w.drop (first.length + 1) with
  | [] => (hexNumber first, hexNumber first)
  | last => (hexNumber first, hexNumber last)

def readRanges (table : String) : Array (Nat × Nat) := ((words table.toList).map readRange).toArray

def inRanges (ranges : Array (Nat × Nat)) (n : Nat) : Bool :=
  ranges.any fun (first, last) => first ≤ n && n ≤ last

end Text
end ColumnBlocks
