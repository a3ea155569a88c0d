import ColumnBlocks.Text.Digit
import ColumnBlocks.Text.Space

/-
The width hint after a marker: blanks, an optional sign, digits, and anything after them.  The
digits of every script are taken together, so an ASCII number that runs on into other digits is no
number; what cannot be used as a width stands for the width one.
-/
namespace ColumnBlocks
namespace Marker

/-- Widths fit into 32 bits. -/
def maxWidth : Nat := 4294967295

/-- The digits of a hint behind its sign, unless the sign is a minus. -/
def unsigned? : Text → Option Text
  | '-' :: _ => none
  | '+' :: r => some r
  | t => some t

/-- The width a hint asks for. -/
def width? (hint : Text) : Option Nat := do
  let digits := (← unsigned? (Text.trimStart hint)).takeWhile Text.isDecimalDigit
  let n ← Text.decimal? digits
  if 1 ≤ n ∧ n ≤ maxWidth then some n else none

def width (hint : Text) : Nat := (width? hint).getD 1

theorem width?_bounds {hint : Text} {n : Nat} (h : width? hint = some n) :
    1 ≤ n ∧ n ≤ maxWidth := by
  simp only [width?, bind, Option.bind_eq_some_iff] at h
  obtain ⟨_, _, m, _, h⟩ := h
  split at h
  · cases h; assumption
  · cases h

theorem width_bounds (hint : Text) : 1 ≤ width hint ∧ width hint ≤ maxWidth := by
  unfold width
  cases h : width? hint with
  | none => simp [maxWidth]
  | some n => exact width?_bounds h

end Marker
end ColumnBlocks
