import ColumnBlocks.Proofs.Classification
import ColumnBlocks.Proofs.PlainText
import Mathlib

/-!
# Lines that start with a marker

A text is classified by two numbers: of its lines that start with the opening marker, and of those
that start with the closing one.  Such numbers add up wherever a text falls apart into its lines, and
a line feed at its end does not change them.
-/

namespace ColumnBlocks

namespace Text

/-- The number of lines of a text that start with `lead`. -/
def countStarts (lead t : Text) : Nat := (lines t).countP (lead.isPrefixOf ·)

theorem countStarts_append {a : Text} (h : Node.lineStartAfter true a = true) (lead b : Text) :
    countStarts lead (a ++ b) = countStarts lead a + countStarts lead b := by
  rw [countStarts, lines_append h, List.countP_append]
  rfl

/-! ## A line feed at the end -/

theorem isPrefixOf_concat {lead : Text} {c : Char} (hc : c ∉ lead) (l : Text) :
    lead.isPrefixOf (l ++ [c]) = lead.isPrefixOf l := by
  rw [Bool.eq_iff_iff, List.isPrefixOf_iff_prefix, List.isPrefixOf_iff_prefix,
    List.prefix_concat_iff]
  constructor
  · rintro (rfl | h)
    · exact absurd (List.mem_append_right l List.mem_cons_self) hc
    · exact h
  · exact Or.inr

theorem isPrefixOf_closeLine {lead : Text} (hcr : '\r' ∉ lead) (held : Text) :
    lead.isPrefixOf (closeLine held) = lead.isPrefixOf held.reverse := by
  unfold closeLine
  split
  · rw [List.reverse_cons, isPrefixOf_concat hcr]
  · rfl

/-- What can start a line and is not lost with the end of the line. -/
structure IsLead (lead : Text) : Prop where
  ne_nil : lead ≠ []
  cr : '\r' ∉ lead

theorem countP_linesFrom_lf {lead : Text} (hlead : lead.IsLead) (held t : Text) :
    (linesFrom held (t ++ ['\n'])).countP (lead.isPrefixOf ·) =
      (linesFrom held t).countP (lead.isPrefixOf ·) := by
  induction t generalizing held with
  | nil =>
    show List.countP (lead.isPrefixOf ·) [closeLine held] = _
    rw [linesFrom, List.countP_singleton, isPrefixOf_closeLine hlead.cr]
    cases held with
    | nil =>
      have hnone : lead.isPrefixOf [] = false := by
        cases lead with
        | nil => exact absurd rfl hlead.ne_nil
        | cons c lead => rfl
      simp [hnone]
    | cons c held => simp [List.countP_singleton]
  | cons c t ih =>
    rw [List.cons_append, linesFrom, linesFrom]
    split
    · rw [List.countP_cons, List.countP_cons, ih]
    · exact ih (c :: held)

theorem countStarts_lf {lead : Text} (hlead : lead.IsLead) (t : Text) :
    countStarts lead (t ++ ['\n']) = countStarts lead t :=
  countP_linesFrom_lf hlead [] t

theorem countStarts_newLine {lead : Text} (hlead : lead.IsLead) (t : Text) (s : Bool) :
    countStarts lead (t ++ Node.newLine s) = countStarts lead t := by
  cases s with
  | true => rw [Node.newLine_true, List.append_nil]
  | false => exact countStarts_lf hlead t

end Text

/-! ## Content -/

namespace Node

theorem countStarts_plainTextAll_append {a : List Node} (h : ∀ n ∈ a, n.standsAlone = true)
    (lead : Text) (b : List Node) :
    Text.countStarts lead (plainTextAll (a ++ b)) =
      Text.countStarts lead (plainTextAll a) + Text.countStarts lead (plainTextAll b) := by
  have ha := plainTextAll_lineStart h
  rw [plainTextAll_append ha, Text.countStarts_append ha]

theorem countStarts_plainTextAll {ns : List Node} (h : ∀ n ∈ ns, n.standsAlone = true)
    (lead : Text) :
    Text.countStarts lead (plainTextAll ns) =
      (ns.map fun n => Text.countStarts lead n.plainText).sum := by
  rw [Text.countStarts, lines_plainTextAll h, List.countP_flatMap]
  rfl

end Node

/-! ## Markers -/

namespace Marker

theorem isLead_beginText : beginText.IsLead := ⟨by decide, by decide⟩

theorem isLead_endText : endText.IsLead := ⟨by decide, by decide⟩

def openings (t : Text) : Nat := Text.countStarts beginText t

def closings (t : Text) : Nat := Text.countStarts endText t

theorem isPrefixOf_eq_isSome (lead l : Text) : lead.isPrefixOf l = (Text.after? lead l).isSome :=
  (List.isSome_isPrefixOf?_eq_isPrefixOf lead l).symm

theorem isOpening_ofLine? (l : Text) :
    ((ofLine? l).map isOpening).getD false = beginText.isPrefixOf l := by
  rw [isPrefixOf_eq_isSome, ofLine?]
  cases Text.after? beginText l with
  | some hint => rfl
  | none =>
    cases Text.after? colText l with
    | some hint => rfl
    | none => cases Text.after? endText l <;> rfl

/-- No line starts with two markers. -/
theorem after?_endText {lead l rest : Text} (hl : Text.after? lead l = some rest)
    (hlead : ∀ l, Text.after? endText (lead ++ l) = none) : Text.after? endText l = none := by
  rw [← List.isPrefixOf?_eq_some_iff_append_eq.mp hl, hlead]

theorem isClosing_ofLine? (l : Text) :
    ((ofLine? l).map isClosing).getD false = endText.isPrefixOf l := by
  rw [isPrefixOf_eq_isSome, ofLine?]
  cases hb : Text.after? beginText l with
  | some hint =>
    rw [after?_endText hb fun _ => rfl]
    rfl
  | none =>
    cases hc : Text.after? colText l with
    | some hint =>
      rw [after?_endText hc fun _ => rfl]
      rfl
    | none => cases Text.after? endText l <;> rfl

theorem countP_isOpening_shown (t : Text) : (shown t).countP isOpening = openings t := by
  rw [shown, List.countP_filterMap]
  exact congrArg (List.countP · (Text.lines t)) (funext isOpening_ofLine?)

theorem countP_isClosing_shown (t : Text) : (shown t).countP isClosing = closings t := by
  rw [shown, List.countP_filterMap]
  exact congrArg (List.countP · (Text.lines t)) (funext isClosing_ofLine?)

end Marker

/-- The two numbers decide what is done with a text. -/
theorem classify_eq_ofCounts (t : Text) :
    classify t = Action.ofCounts (Marker.openings t) (Marker.closings t) := by
  rw [classify_eq, Marker.countP_isOpening_shown, Marker.countP_isClosing_shown]

end ColumnBlocks
