import ColumnBlocks.Text.Basic

/-
Lines of a text.  A line ends at a line feed, and one carriage return directly before the line feed
belongs to the ending; a last line without a line feed keeps all its characters.  The line being
read is kept reversed, so that the carriage return to drop is its head.
-/
namespace ColumnBlocks
namespace Text

/-- A finished line, from its reversed characters. -/
def closeLine : Text → Text
  | '\r' :: held => held.reverse
  | held => held.reverse

/-- The lines of a text whose first line already holds `held`, reversed. -/
def linesFrom (held : Text) : Text → List Text
  | [] => if held.isEmpty then [] else [held.reverse]
  | c :: r => if c = '\n' then closeLine held :: linesFrom [] r else linesFrom (c :: held) r

/-- The lines of a text.  A final line feed opens no further line. -/
def lines (t : Text) : List Text := linesFrom [] t

theorem linesFrom_append_lf (held a b : Text) :
    linesFrom held (a ++ '\n' :: b) = linesFrom held (a ++ ['\n']) ++ linesFrom [] b := by
  induction a generalizing held with
  | nil => simp [linesFrom]
  | cons c r ih => by_cases h : c = '\n' <;> simp [linesFrom, h, ih]

/-- A line feed separates: the lines on both of its sides are found independently. -/
theorem lines_append_lf (a b : Text) : lines (a ++ '\n' :: b) = lines (a ++ ['\n']) ++ lines b :=
  linesFrom_append_lf [] a b

end Text
end ColumnBlocks
