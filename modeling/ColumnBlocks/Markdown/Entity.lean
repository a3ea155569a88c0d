import ColumnBlocks.Markdown.Chars
import ColumnBlocks.Markdown.EntityTable

/-
References to characters: by name, as in `&amp;`, or by number, as in `&#65;` and `&#x41;`.  What is
no reference stays text.
-/
namespace ColumnBlocks
namespace Markdown

/-- The character with a code point.  The replacement character stands for the code point zero and
for numbers that are none. -/
def charOfPoint (n : Nat) : Char :=
  if n ≠ 0 ∧ n.isValidChar then Char.ofNat n else '\uFFFD'

/-- Digits, at least one and at most `limit` of them, and the semicolon after them. -/
def digitsReference? (isDigit : Char → Bool) (value : Text → Nat) (limit : Nat) (t : Text) :
    Option (Text × Text) := do
  let digits := (t.take limit).takeWhile isDigit
  guard !digits.isEmpty
  match t.drop digits.length with
  | ';' :: rest => return ([charOfPoint (value digits)], rest)
  | _ => none

def isHexDigit (c : Char) : Bool := (Text.hexValue? c).isSome

def decimalNumber (t : Text) : Nat := t.foldl (fun n c => n * 10 + (c.toNat - '0'.toNat)) 0

/-- The characters of a reference whose ampersand is read, and what follows it. -/
def entity? : Text → Option (Text × Text)
  | '#' :: 'x' :: r | '#' :: 'X' :: r => digitsReference? isHexDigit Text.hexNumber 6 r
  | '#' :: r => digitsReference? Char.isDigit decimalNumber 7 r
  | t => do
    let name := t.takeWhile Char.isAlphanum
    match t.drop name.length with
    | ';' :: rest => return ((← entityTable.find? (·.1 == name)).2, rest)
    | _ => none

end Markdown
end ColumnBlocks
