import ColumnBlocks.Proofs.Configuration
import ColumnBlocks.Proofs.Decimal
import ColumnBlocks.Proofs.Paragraphs
import Mathlib.Data.List.SplitLengths

/-!
# Blocks as they are written

A script is the content of a block apart from any layout: the widths and lines of its columns and its
configuration.  Its lines are what an author types.  Wherever paragraphs begin and end in these
lines, the columns of the block are those of the script.
-/

namespace ColumnBlocks

structure Part where
  width : Nat
  lines : List Text
  width_range : 1 ≤ width ∧ width ≤ Marker.maxWidth
  isLine : ∀ l ∈ lines, l.IsLine
  plain : ∀ l ∈ lines, ¬Marker.beginText <+: l ∧ ¬Marker.colText <+: l ∧ ¬Marker.endText <+: l

structure Script where
  first : Part
  others : List Part
  config : Text
  config_lf : '\n' ∉ config
  config_cr : '\r' ∉ config

namespace Part

/-- The lines of a column behind its marker, which is `lead` with the width. -/
def written (lead : Text) (p : Part) : List Text := (lead ++ Text.ofNat p.width) :: p.lines

theorem ofLine?_of_mem {p : Part} {l : Text} (h : l ∈ p.lines) : Marker.ofLine? l = none :=
  Marker.ofLine?_eq_none.mpr (p.plain l h)

theorem filterMap_lines (p : Part) : p.lines.filterMap Marker.ofLine? = [] :=
  List.filterMap_eq_nil_iff.mpr fun _ hl => ofLine?_of_mem hl

end Part

namespace Script

def parts (s : Script) : List Part := s.first :: s.others

def lines (s : Script) : List Text :=
  s.first.written Marker.beginText ++ s.others.flatMap (Part.written Marker.colText) ++
    [Marker.endText ++ s.config]

def wraps (s : Script) (env : Environment) : Bool :=
  env.layoutEnabled && (env.settings.wrapByDefault || Text.occurs "wrap".toList s.config)

/-! ## Lines and markers -/

theorem isLine_marked {lead rest : Text} (hlead : lead.IsLine) (hlf : '\n' ∉ rest)
    (hcr : '\r' ∉ rest) : Text.IsLine (lead ++ rest) where
  ne_nil := by
    intro h
    exact hlead.ne_nil (List.append_eq_nil_iff.mp h).1
  lf := by
    intro h
    rcases List.mem_append.mp h with h | h
    · exact hlead.lf h
    · exact hlf h
  cr := by
    intro h
    rcases List.mem_append.mp h with h | h
    · exact hlead.cr h
    · exact hcr h

theorem isLine_written {lead : Text} (hlead : lead.IsLine) (p : Part) :
    ∀ l ∈ p.written lead, l.IsLine := by
  intro l hl
  rcases List.mem_cons.mp hl with rfl | hl
  · refine isLine_marked hlead ?_ ?_
    · intro h
      exact absurd (Text.isDigit_of_mem_ofNat h) (by decide)
    · intro h
      exact absurd (Text.isDigit_of_mem_ofNat h) (by decide)
  · exact p.isLine l hl

theorem isLine_of_mem {s : Script} {l : Text} (h : l ∈ s.lines) : l.IsLine := by
  have hbegin : Text.IsLine Marker.beginText := ⟨by decide, by decide, by decide⟩
  have hcol : Text.IsLine Marker.colText := ⟨by decide, by decide, by decide⟩
  have hend : Text.IsLine Marker.endText := ⟨by decide, by decide, by decide⟩
  rcases List.mem_append.mp h with h | h
  · rcases List.mem_append.mp h with h | h
    · exact isLine_written hbegin s.first l h
    · obtain ⟨p, _, hl⟩ := List.mem_flatMap.mp h
      exact isLine_written hcol p l hl
  · rw [List.mem_singleton.mp h]
    exact isLine_marked hend s.config_lf s.config_cr

theorem isLine_of_paragraphs {s : Script} {ps : List (List Text)} {rest : List Text}
    (h : s.lines = ps.flatten ++ rest) (hne : ∀ ls ∈ ps, ls ≠ []) :
    ∀ ls ∈ ps, ls ≠ [] ∧ ∀ l ∈ ls, l.IsLine := by
  intro ls hls
  refine ⟨hne ls hls, ?_⟩
  intro l hl
  have hmem : l ∈ ps.flatten ++ rest :=
    List.mem_append_left rest (List.mem_flatten.mpr ⟨ls, hls, hl⟩)
  rw [← h] at hmem
  exact isLine_of_mem hmem

theorem filterMap_written_col (ps : List Part) :
    (ps.flatMap (Part.written Marker.colText)).filterMap Marker.ofLine? =
      ps.map fun p => .divides p.width := by
  induction ps with
  | nil => rfl
  | cons p ps ih =>
    have hmarker : Marker.ofLine? (Marker.colText ++ Text.ofNat p.width) = some (.divides p.width) := by
      rw [Marker.ofLine?_col, Marker.width_ofNat p.width_range]
    rw [List.flatMap_cons, List.filterMap_append, ih, Part.written,
      List.filterMap_cons_some hmarker, Part.filterMap_lines]
    rfl

def markers (s : Script) : List Marker :=
  .opens s.first.width :: (s.others.map fun p => .divides p.width) ++ [.closes s.config]

theorem filterMap_lines (s : Script) : s.lines.filterMap Marker.ofLine? = s.markers := by
  have hbegin : Marker.ofLine? (Marker.beginText ++ Text.ofNat s.first.width) =
      some (.opens s.first.width) := by
    rw [Marker.ofLine?_begin, Marker.width_ofNat s.first.width_range]
  rw [lines, List.filterMap_append, List.filterMap_append, filterMap_written_col, Part.written,
    List.filterMap_cons_some hbegin, Part.filterMap_lines,
    List.filterMap_cons_some (Marker.ofLine?_end s.config)]
  rfl

theorem countP_isOpening_markers (s : Script) : s.markers.countP Marker.isOpening = 1 := by
  rw [markers, List.cons_append, List.countP_cons, List.countP_append, List.countP_map]
  simp [Marker.isOpening, Function.comp_def]

theorem countP_isClosing_markers (s : Script) : s.markers.countP Marker.isClosing = 1 := by
  rw [markers, List.cons_append, List.countP_cons, List.countP_append, List.countP_map]
  simp [Marker.isClosing, Function.comp_def]

/-! ## Recognition -/

theorem one_le_countP_isOpening {s : Script} {front rest : List Text}
    (h : s.lines = front ++ rest) (hne : front ≠ []) :
    1 ≤ (front.filterMap Marker.ofLine?).countP Marker.isOpening := by
  obtain ⟨l, ls, rfl⟩ := List.exists_cons_of_ne_nil hne
  have hl : l = Marker.beginText ++ Text.ofNat s.first.width := (List.cons.inj h).1.symm
  have hmarker : (Marker.opens (Marker.width (Text.ofNat s.first.width))).isOpening = true := rfl
  rw [hl, List.filterMap_cons_some (Marker.ofLine?_begin _), List.countP_cons, if_pos hmarker]
  omega

theorem one_le_countP_isClosing {s : Script} {front rest : List Text}
    (h : s.lines = front ++ rest) (hne : rest ≠ []) :
    1 ≤ (rest.filterMap Marker.ofLine?).countP Marker.isClosing := by
  rcases List.eq_nil_or_concat rest with rfl | ⟨ls, l, rfl⟩
  · exact absurd rfl hne
  · have hlast := congrArg List.getLast? h
    rw [lines, List.getLast?_concat, List.concat_eq_append, ← List.append_assoc,
      List.getLast?_concat] at hlast
    have hl : l = Marker.endText ++ s.config := (Option.some.inj hlast).symm
    have hmarker : (Marker.closes s.config).isClosing = true := rfl
    rw [List.concat_eq_append, hl, List.filterMap_append,
      List.filterMap_cons_some (Marker.ofLine?_end _), List.countP_append, List.countP_cons,
      if_pos hmarker]
    omega

/-- Content that shows the first lines of a script is an open block, and with the last of them a
complete one. -/
theorem classify_of_lines {s : Script} {t : Text} {rest : List Text}
    (h : s.lines = Text.lines t ++ rest) (hne : Text.lines t ≠ []) :
    classify t = if rest.isEmpty then .render else .accumulate := by
  have hmarkers : Marker.shown t ++ rest.filterMap Marker.ofLine? = s.markers := by
    rw [← filterMap_lines, h, List.filterMap_append, Marker.shown]
  have hopening := s.countP_isOpening_markers
  have hclosing := s.countP_isClosing_markers
  rw [← hmarkers, List.countP_append] at hopening hclosing
  have hfirst : 1 ≤ (Marker.shown t).countP Marker.isOpening := one_le_countP_isOpening h hne
  have hopened : (Marker.shown t).countP Marker.isOpening = 1 := by omega
  rw [classify_eq, hopened]
  cases rest with
  | nil =>
    rw [List.filterMap_nil, List.countP_nil, Nat.add_zero] at hclosing
    rw [hclosing]
    rfl
  | cons l ls =>
    have hlast := one_le_countP_isClosing h (List.cons_ne_nil l ls)
    have hunclosed : (Marker.shown t).countP Marker.isClosing = 0 := by omega
    rw [hunclosed]
    rfl

theorem ofText_lines {s : Script} {t : Text} (h : Text.lines t = s.lines) :
    BlockConfig.ofText t = BlockConfig.ofConfigText s.config := by
  have hnone : (s.others.map fun p => Marker.divides p.width).findSome? Marker.config? = none := by
    simp [Marker.config?]
  rw [BlockConfig.ofText_eq, Marker.shown, h, filterMap_lines, markers, List.cons_append,
    List.findSome?_cons, List.findSome?_append, hnone]
  rfl

/-! ## Columns -/

/-- Numbered lines dealt out to columns.  The line in front of a column is its marker. -/
def deal (ps : List Part) (as : List (Nat × Text)) : List (List (Nat × Text)) :=
  ((ps.map fun p => p.lines.length + 1).splitLengths as).map List.tail

theorem deal_cons {p : Part} {as : List (Nat × Text)} (h : as.map Prod.snd = p.lines)
    (ps : List Part) (a : Nat × Text) (bs : List (Nat × Text)) :
    deal (p :: ps) (a :: as ++ bs) = as :: deal ps bs := by
  have hlen : (a :: as).length = p.lines.length + 1 := by
    rw [← h, List.length_map, List.length_cons]
  rw [deal, List.map_cons, List.splitLengths_cons, List.take_left' hlen, List.drop_left' hlen]
  rfl

theorem exists_of_written {p : Part} {lead : Text} {as : List (Nat × Text)} {rest : List Text}
    (h : as.map Prod.snd = p.written lead ++ rest) :
    ∃ b bs cs, as = b :: bs ++ cs ∧ b.2 = lead ++ Text.ofNat p.width ∧
      bs.map Prod.snd = p.lines ∧ cs.map Prod.snd = rest := by
  obtain ⟨front, cs, rfl, hfront, hcs⟩ := List.map_eq_append_iff.mp h
  obtain ⟨b, bs, rfl, hb, hbs⟩ := List.map_eq_cons_iff.mp hfront
  exact ⟨b, bs, cs, rfl, hb, hbs, hcs⟩

theorem map_deal_others {ps : List Part} {as : List (Nat × Text)} {rest : List Text}
    (h : as.map Prod.snd = ps.flatMap (Part.written Marker.colText) ++ rest) :
    (deal ps as).map (List.map Prod.snd) = ps.map (·.lines) := by
  induction ps generalizing as with
  | nil => rfl
  | cons p ps ih =>
    rw [List.flatMap_cons, List.append_assoc] at h
    obtain ⟨b, bs, cs, rfl, _, hbs, hcs⟩ := exists_of_written h
    rw [deal_cons hbs, List.map_cons, ih hcs, hbs, List.map_cons]

theorem map_deal {s : Script} {as : List (Nat × Text)} (h : as.map Prod.snd = s.lines) :
    (deal s.parts as).map (List.map Prod.snd) = s.parts.map (·.lines) := by
  rw [lines, List.append_assoc] at h
  obtain ⟨b, bs, cs, rfl, _, hbs, hcs⟩ := exists_of_written h
  rw [parts, deal_cons hbs, List.map_cons, map_deal_others hcs, hbs, List.map_cons]

theorem ofLine?_of_map {p : Part} {as : List (Nat × Text)} (h : as.map Prod.snd = p.lines) :
    ∀ a ∈ as, Marker.ofLine? a.2 = none := by
  intro a ha
  have hl : a.2 ∈ p.lines := by
    rw [← h]
    exact List.mem_map_of_mem ha
  exact Part.ofLine?_of_mem hl

theorem isDivider_of_map {p : Part} {as : List (Nat × Text)} (h : as.map Prod.snd = p.lines) :
    ∀ l ∈ as.map Line.ofNumbered, l.isDivider = false := by
  intro l hl
  obtain ⟨a, ha, rfl⟩ := List.mem_map.mp hl
  exact Line.isDivider_of_isContent (Line.isContent_ofNumbered (ofLine?_of_map h a ha))

/-- What the columns from some stretch on hold, when `run` is the first part of that stretch. -/
theorem content_stretches {ps : List Part} {as : List (Nat × Text)} {config : Text} {run : List Line}
    (hrun : ∀ l ∈ run, l.isDivider = false)
    (h : as.map Prod.snd =
      ps.flatMap (Part.written Marker.colText) ++ [Marker.endText ++ config]) :
    (stretches (run ++ as.map Line.ofNumbered)).map Line.content =
      Line.content run :: (deal ps as).map fun c => (runs c).map Node.ofLines := by
  induction ps generalizing as run with
  | nil =>
    -- Only the closing line is left, and it adds nothing to the last column.
    obtain ⟨a, bs, rfl, ha, hbs⟩ := List.map_eq_cons_iff.mp h
    have hmarker : (Line.ofNumbered a).marker? = some (.closes config) := by
      rw [Line.marker?_ofNumbered, ha, Marker.ofLine?_end]
    have hcontent : (Line.ofNumbered a).isContent = false := by
      rw [Line.isContent, hmarker]
      rfl
    have hall : ∀ l ∈ run ++ [Line.ofNumbered a], l.isDivider = false := by
      intro l hl
      rcases List.mem_append.mp hl with hl | hl
      · exact hrun l hl
      · rw [List.mem_singleton.mp hl, Line.isDivider, hmarker]
        rfl
    rw [List.map_eq_nil_iff.mp hbs, List.map_singleton, stretches,
      List.splitOnP_eq_singleton hall, List.map_singleton, Line.content_append_marker hcontent,
      Line.content_nil, List.append_nil]
    rfl
  | cons p ps ih =>
    rw [List.flatMap_cons, List.append_assoc] at h
    obtain ⟨b, bs, cs, rfl, hb, hbs, hcs⟩ := exists_of_written h
    have hdivider : (Line.ofNumbered b).isDivider = true := by
      rw [Line.isDivider, Line.marker?_ofNumbered, hb, Marker.ofLine?_col]
      rfl
    have hrest := ih (isDivider_of_map hbs) hcs
    rw [stretches] at hrest
    rw [List.cons_append, List.map_cons, List.map_append, stretches,
      List.splitOnP_append_cons_of_forall_mem hrun _ hdivider, List.map_cons, hrest,
      ← List.cons_append, deal_cons hbs, List.map_cons, Line.content_ofNumbered (ofLine?_of_map hbs)]

theorem placed_markers (s : Script) : Marker.placed 1 s.markers = s.parts.map (·.width) := by
  have hplaced : ∀ w, Marker.placed w
      ((s.others.map fun p => .divides p.width) ++ [.closes s.config]) =
        w :: s.others.map (·.width) := by
    induction s.others with
    | nil => exact fun w => rfl
    | cons p ps ih =>
      intro w
      rw [List.map_cons, List.cons_append, Marker.placed, ih, List.map_cons]
  rw [markers, List.cons_append, Marker.placed, hplaced, parts, List.map_cons]

/-- The columns of a script whose lines form the paragraphs `ps`.  Neighbouring lines of a column form
a paragraph exactly if they have the same number, which is if they did so in `ps`. -/
def columns (s : Script) (ps : List (List Text)) (wrap : Bool) : List Node :=
  List.zipWith (fun p c => .column p.width wrap ((runs c).map Node.ofLines)) s.parts
    (deal s.parts (numbered 0 ps))

theorem length_deal (ps : List Part) (as : List (Nat × Text)) : (deal ps as).length = ps.length := by
  rw [deal, List.length_map, List.length_splitLengths, List.length_map]

theorem columns_widths (s : Script) (ps : List (List Text)) (wrap : Bool) :
    (s.columns ps wrap).map Node.columnWidth? = s.parts.map fun p => some p.width := by
  have hlength := length_deal s.parts (numbered 0 ps)
  calc (s.columns ps wrap).map Node.columnWidth?
      = List.zipWith (fun p _ => some p.width) s.parts (deal s.parts (numbered 0 ps)) :=
        List.map_zipWith
    _ = ((s.parts.zip (deal s.parts (numbered 0 ps))).map Prod.fst).map fun p => some p.width := by
        rw [List.map_map, ← List.map_uncurry_zip_eq_zipWith]
        rfl
    _ = s.parts.map fun p => some p.width := by rw [List.map_fst_zip (by omega)]

theorem content_columns {s : Script} {as : List (Nat × Text)} (h : as.map Prod.snd = s.lines) :
    (stretches (as.map Line.ofNumbered)).map Line.content =
      (deal s.parts as).map fun c => (runs c).map Node.ofLines := by
  rw [lines, List.append_assoc] at h
  obtain ⟨b, bs, cs, rfl, hb, hbs, hcs⟩ := exists_of_written h
  have hmarker : (Line.ofNumbered b).marker? =
      some (.opens (Marker.width (Text.ofNat s.first.width))) := by
    rw [Line.marker?_ofNumbered, hb, Marker.ofLine?_begin]
  have hopening : (Line.ofNumbered b).isContent = false := by
    rw [Line.isContent, hmarker]
    rfl
  have hrun : ∀ l ∈ Line.ofNumbered b :: bs.map Line.ofNumbered, l.isDivider = false := by
    intro l hl
    rcases List.mem_cons.mp hl with rfl | hl
    · rw [Line.isDivider, hmarker]
      rfl
    · exact isDivider_of_map hbs l hl
  have hfirst : Line.content (Line.ofNumbered b :: bs.map Line.ofNumbered) =
      (runs bs).map Node.ofLines := by
    have happend := Line.content_append_marker hopening [] (bs.map Line.ofNumbered)
    rw [List.nil_append, Line.content_nil, List.nil_append] at happend
    rw [happend, Line.content_ofNumbered (ofLine?_of_map hbs)]
  rw [List.map_append, List.map_cons, content_stretches hrun hcs, hfirst, parts, deal_cons hbs,
    List.map_cons]

/-- However the lines of a script are put into paragraphs, they are laid out in its columns. -/
theorem renderBlock_ofLines {s : Script} {ps : List (List Text)} (h : ps.flatten = s.lines)
    (hne : ∀ ls ∈ ps, ls ≠ []) (wrap : Bool) :
    renderBlock (ps.map Node.ofLines) wrap = s.columns ps wrap := by
  have hall : s.lines = ps.flatten ++ [] := by rw [h, List.append_nil]
  have hlines := isLine_of_paragraphs hall hne
  have hmap : (numbered 0 ps).map Prod.snd = s.lines := by rw [map_numbered, h]
  have hsplit : splitLines (ps.map Node.ofLines) = (numbered 0 ps).map Line.ofNumbered :=
    Line.ofNodesFrom_ofLines hlines 0
  have hseen : ((numbered 0 ps).map Line.ofNumbered).filterMap Line.marker? = s.markers := by
    rw [← filterMap_lines, ← hmap, List.filterMap_map, List.filterMap_map]
    congr 1
    funext a
    exact Line.marker?_ofNumbered a
  rw [renderBlock_eq, hsplit, hseen, placed_markers, ← List.zipWith_map_right, content_columns hmap,
    List.zipWith_map, columns]

end Script
end ColumnBlocks
