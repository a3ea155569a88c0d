import ColumnBlocks.Proofs.MarkerLines

/-!
# What the classification does not see

A text is classified by two counts, so neither the order of its lines matters, nor any line that does
not open or close a block, nor how its lines end.
-/

namespace ColumnBlocks

namespace Text

/-- A text in which the line feeds that `chosen` picks out by their number get a carriage return in
front of them. -/
def withReturns (chosen : Nat → Bool) : Text → Text
  | [] => []
  | c :: r =>
    if c = '\n' then
      (if chosen 0 then ['\r', '\n'] else ['\n']) ++ withReturns (fun i => chosen (i + 1)) r
    else c :: withReturns chosen r

theorem closeLine_of_ne {held : Text} (h : held.head? ≠ some '\r') : closeLine held = held.reverse := by
  unfold closeLine
  split
  · exact absurd rfl h
  · rfl

/-- A carriage return that is put in front of a line feed belongs to the end of the line. -/
theorem linesFrom_withReturns {t : Text} (ht : '\r' ∉ t) (chosen : Nat → Bool) {held : Text}
    (hheld : held.head? ≠ some '\r') : linesFrom held (withReturns chosen t) = linesFrom held t := by
  induction t generalizing chosen held with
  | nil => rfl
  | cons c t ih =>
    rw [List.mem_cons, not_or] at ht
    have hnext : ∀ chosen, linesFrom [] (withReturns chosen t) = linesFrom [] t :=
      fun chosen => ih ht.2 chosen (by simp)
    rw [withReturns]
    by_cases hc : c = '\n'
    · rw [if_pos hc, linesFrom, if_pos hc, closeLine_of_ne hheld]
      cases chosen 0 with
      | true =>
        show closeLine ('\r' :: held) :: linesFrom [] (withReturns _ t) = _
        rw [hnext, closeLine]
      | false =>
        show closeLine held :: linesFrom [] (withReturns _ t) = _
        rw [hnext, closeLine_of_ne hheld]
    · have hhead : (c :: held).head? ≠ some '\r' := fun e => ht.1 (Option.some.inj e).symm
      rw [if_neg hc, linesFrom, linesFrom, if_neg hc, if_neg hc, ih ht.2 chosen hhead]

theorem lines_withReturns {t : Text} (ht : '\r' ∉ t) (chosen : Nat → Bool) :
    lines (withReturns chosen t) = lines t :=
  linesFrom_withReturns ht chosen (by simp)

end Text

namespace Marker

/-- Whether a line opens or closes a block. -/
def isBound (line : Text) : Bool := beginText.isPrefixOf line || endText.isPrefixOf line

/-- Only the lines that open or close a block are counted. -/
theorem countStarts_filter_isBound {lead : Text} (hlead : lead = beginText ∨ lead = endText) (t : Text) :
    Text.countStarts lead t = ((Text.lines t).filter isBound).countP (lead.isPrefixOf ·) := by
  rw [List.countP_filter]
  refine List.countP_congr fun line _ => ?_
  rcases hlead with rfl | rfl
  · simp +contextual [isBound]
  · simp +contextual [isBound]

end Marker

/-- Two texts whose bounding lines are the same up to their order are classified alike. -/
theorem classify_congr {t u : Text}
    (h : ((Text.lines u).filter Marker.isBound).Perm ((Text.lines t).filter Marker.isBound)) :
    classify u = classify t := by
  have hcount : ∀ lead, lead = Marker.beginText ∨ lead = Marker.endText →
      Text.countStarts lead u = Text.countStarts lead t := by
    intro lead hlead
    rw [Marker.countStarts_filter_isBound hlead, Marker.countStarts_filter_isBound hlead]
    exact h.countP_eq _
  have hopenings : Marker.openings u = Marker.openings t := hcount _ (Or.inl rfl)
  have hclosings : Marker.closings u = Marker.closings t := hcount _ (Or.inr rfl)
  rw [classify_eq_ofCounts, classify_eq_ofCounts, hopenings, hclosings]

/-- A text is a complete block if exactly one of its lines opens and exactly one closes a block, an
open block if one opens and none closes, and no block in every other case.  So it does not matter in
which order its lines stand, which lines it has beside those that open or close a block, and which of
its lines end with a carriage return and a line feed. -/
theorem classify_counts (t : Text) :
    (classify t = .render ↔ Marker.openings t = 1 ∧ Marker.closings t = 1) ∧
      (classify t = .accumulate ↔ Marker.openings t = 1 ∧ Marker.closings t = 0) ∧
      (classify t = .passThrough ↔ ¬(Marker.openings t = 1 ∧ Marker.closings t ≤ 1)) ∧
      (∀ u, (Text.lines u).Perm (Text.lines t) → classify u = classify t) ∧
      (∀ u, (Text.lines u).filter Marker.isBound = (Text.lines t).filter Marker.isBound →
        classify u = classify t) ∧
      ('\r' ∉ t → ∀ chosen, classify (Text.withReturns chosen t) = classify t) := by
  refine ⟨?_, ?_, ?_, ?_, ?_, ?_⟩
  · rw [classify_eq_ofCounts, Action.ofCounts_eq_render]
  · rw [classify_eq_ofCounts, Action.ofCounts_eq_accumulate]
  · rw [classify_eq_ofCounts, Action.ofCounts_eq_passThrough]
  · intro u hperm
    exact classify_congr (hperm.filter Marker.isBound)
  · intro u hbound
    exact classify_congr (List.Perm.of_eq hbound)
  · intro ht chosen
    rw [classify, classify, Text.lines_withReturns ht]

/-- A block whose closing line comes first, with lines of both kinds of end. -/
theorem classify_counts_reversed :
    classify "[end] wrap\r\na\n[begin]2".toList = classify "[begin]2\na\n[end] wrap".toList ∧
      classify "[begin]2\r\na\n[end] wrap".toList = classify "[begin]2\na\n[end] wrap".toList := by
  have hcounts := classify_counts "[begin]2\na\n[end] wrap".toList
  constructor
  · refine hcounts.2.2.2.1 _ ?_
    have hlines : Text.lines "[end] wrap\r\na\n[begin]2".toList =
        (Text.lines "[begin]2\na\n[end] wrap".toList).reverse := by cbv
    rw [hlines]
    exact List.reverse_perm _
  · exact hcounts.2.2.2.2.2 (by decide) fun i => i == 0

end ColumnBlocks
