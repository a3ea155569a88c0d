import ColumnBlocks.Proofs.Agreement

/-!
# The width on a column's own marker

A divider carries the width of the column that it starts, and the opening carries that of the first
column.  The columns get these widths wherever the content lines stand, but an opening that comes
after dividers is too late: the column that is open there loses its own width to it, and the first
column keeps the width one.
-/

namespace ColumnBlocks

namespace Marker

def dividerWidth? : Marker → Option Nat
  | divides w => some w
  | opens _ | closes _ => none

/-- The number of dividers in front of the first opening. -/
def lateness (ms : List Marker) : Nat := (ms.takeWhile fun m => !m.isOpening).countP isDivider

@[simp] theorem lateness_opens (w : Nat) (ms : List Marker) : lateness (opens w :: ms) = 0 := rfl

@[simp] theorem lateness_divides (w : Nat) (ms : List Marker) :
    lateness (divides w :: ms) = lateness ms + 1 :=
  List.countP_cons_of_pos rfl

@[simp] theorem lateness_closes (c : Text) (ms : List Marker) :
    lateness (closes c :: ms) = lateness ms :=
  List.countP_cons_of_neg Bool.false_ne_true

theorem lateness_le (ms : List Marker) : lateness ms ≤ (ms.filterMap dividerWidth?).length := by
  induction ms with
  | nil => exact Nat.le_refl 0
  | cons m ms ih =>
    cases m with
    | opens w =>
      rw [lateness_opens]
      exact Nat.zero_le _
    | divides w =>
      rw [lateness_divides]
      exact Nat.succ_le_succ ih
    | closes c =>
      rw [lateness_closes]
      exact ih

theorem filterMap_asked_of_no_opening {ms : List Marker} (h : ms.filter isOpening = []) :
    ms.filterMap asked = ms.filterMap dividerWidth? := by
  refine List.filterMap_congr fun m hm => ?_
  cases m with
  | opens w => exact absurd rfl (List.filter_eq_nil_iff.mp h (opens w) hm)
  | divides w => rfl
  | closes c => rfl

/-- The columns have the widths of their own dividers, one standing for the first, but the opening
overwrites the width of the column that is open where it stands. -/
theorem placed_eq_set {v w : Nat} {ms : List Marker} (h : ms.filter isOpening = [opens w]) :
    placed v ms = (v :: ms.filterMap dividerWidth?).set (lateness ms) w := by
  -- The width `v` of the column that is open changes at every divider.
  induction ms generalizing v with
  | nil => cases h
  | cons m ms ih =>
    cases m with
    | opens u =>
      obtain ⟨hu, hrest⟩ : opens u = opens w ∧ ms.filter isOpening = [] := List.cons.inj h
      obtain rfl := opens.inj hu
      have hcount : ms.countP isOpening = 0 := by
        rw [List.countP_eq_length_filter, hrest]
        rfl
      rw [placed, placed_of_no_opening hcount, filterMap_asked_of_no_opening hrest, lateness_opens]
      rfl
    | divides u =>
      rw [placed, ih h, lateness_divides, List.set_cons_succ]
      rfl
    | closes c =>
      rw [placed, ih h, lateness_closes]
      rfl

/-! ## Widths in range -/

theorem asked_bounds {line : Text} {m : Marker} (hm : ofLine? line = some m) {w : Nat}
    (hw : m.asked = some w) : 1 ≤ w ∧ w ≤ maxWidth := by
  unfold ofLine? at hm
  split at hm
  · rename_i hint _
    cases hm
    cases hw
    exact width_bounds hint
  · split at hm
    · rename_i hint _
      cases hm
      cases hw
      exact width_bounds hint
    · obtain ⟨config, -, rfl⟩ := Option.map_eq_some_iff.mp hm
      cases hw

theorem forall_mem_placed {P : Nat → Prop} {v : Nat} {ms : List Marker} (hv : P v)
    (hms : ∀ m ∈ ms, ∀ w, m.asked = some w → P w) : ∀ w ∈ placed v ms, P w := by
  induction ms generalizing v with
  | nil =>
    intro w hw
    rw [List.mem_singleton.mp hw]
    exact hv
  | cons m ms ih =>
    have hrest : ∀ m ∈ ms, ∀ w, m.asked = some w → P w :=
      fun m hm => hms m (List.mem_cons_of_mem _ hm)
    have hfirst := hms m List.mem_cons_self
    cases m with
    | opens u => exact ih (hfirst u rfl) hrest
    | divides u =>
      intro w hw
      rcases List.mem_cons.mp hw with rfl | hw
      · exact hv
      · exact ih (hfirst u rfl) hrest w hw
    | closes c => exact ih hv hrest

end Marker

theorem set_eq_cons_iff {v w d : Nat} {ws : List Nat} (hd : d ≤ ws.length) :
    (v :: ws).set d w = w :: ws ↔ d = 0 ∨ w = v ∧ ws[d - 1]? = some v := by
  cases d with
  | zero => simp
  | succ d =>
    rw [List.set_cons_succ, List.cons.injEq]
    constructor
    · rintro ⟨rfl, hset⟩
      refine Or.inr ⟨rfl, ?_⟩
      rw [← hset]
      exact List.getElem?_set_self hd
    · rintro (h0 | ⟨rfl, hw⟩)
      · exact absurd h0 (Nat.succ_ne_zero d)
      · refine ⟨rfl, List.ext_getElem? fun i => ?_⟩
        by_cases hi : d = i
        · subst hi
          rw [List.getElem?_set_self hd]
          exact hw.symm
        · exact List.getElem?_set_ne hi

/-! ## Blocks -/

theorem renderBlock_columnWidth? (nodes : List Node) (wrap : Bool) :
    (renderBlock nodes wrap).map Node.columnWidth? =
      (Marker.placed 1 (Marker.seen nodes)).map some := by
  have hwidth := ColumnBuilder.fill_width { width := 1 } (splitLines nodes)
  rw [renderBlock, List.map_map, Marker.seen, ← hwidth, List.map_map]
  rfl

theorem Line.asked_bounds {l : Line} {m : Marker} (hm : l.marker? = some m) {w : Nat}
    (hw : m.asked = some w) : 1 ≤ w ∧ w ≤ Marker.maxWidth := by
  unfold marker? at hm
  split at hm
  · obtain ⟨line, -, hline⟩ := Option.bind_eq_some_iff.mp hm
    exact Marker.asked_bounds hline hw
  · cases hm

/-- No column of a block has the width zero, or one that does not fit into 32 bits. -/
theorem renderBlock_width_bounds (nodes : List Node) (wrap : Bool) :
    ∀ n ∈ renderBlock nodes wrap, ∃ w, n.columnWidth? = some w ∧ 1 ≤ w ∧ w ≤ Marker.maxWidth := by
  intro n hn
  have hwidth := List.mem_map_of_mem (f := Node.columnWidth?) hn
  rw [renderBlock_columnWidth?] at hwidth
  obtain ⟨w, hw, hnw⟩ := List.mem_map.mp hwidth
  refine ⟨w, hnw.symm, ?_⟩
  refine Marker.forall_mem_placed (P := fun w => 1 ≤ w ∧ w ≤ Marker.maxWidth) (by decide) ?_ w hw
  intro m hm v hv
  obtain ⟨l, -, hl⟩ := List.mem_filterMap.mp hm
  exact Line.asked_bounds hl hv

/-- Of a block with one opening, every column gets the width on its own divider, and the first the
width one, except that the column open at the opening gets the width of the opening.  So all columns
have the widths on their own markers, the opening being that of the first, exactly if the opening
comes before all dividers, or if it asks for the width one and so does the divider before it. -/
theorem renderBlock_ownWidths {nodes : List Node} {w : Nat} (wrap : Bool)
    (h : (Marker.seen nodes).filter Marker.isOpening = [.opens w]) :
    let own := (Marker.seen nodes).filterMap Marker.dividerWidth?
    let late := Marker.lateness (Marker.seen nodes)
    let widths := (renderBlock nodes wrap).map Node.columnWidth?
    widths = ((1 :: own).set late w).map some ∧
      (widths = (w :: own).map some ↔ late = 0 ∨ w = 1 ∧ own[late - 1]? = some 1) := by
  intro own late widths
  have hwidths : widths = ((1 :: own).set late w).map some := by
    rw [← Marker.placed_eq_set h]
    exact renderBlock_columnWidth? nodes wrap
  refine ⟨hwidths, ?_⟩
  rw [hwidths, List.map_inj_right fun _ _ => Option.some.inj]
  exact set_eq_cons_iff (Marker.lateness_le (Marker.seen nodes))

/-- Three columns, the opening standing in the second behind a content line. -/
def openedLate : List Node :=
  [.paragraph [.text "[col]2".toList, .lineBreak, .text "a".toList, .lineBreak,
      .text "[begin]3".toList],
    .paragraph [.text "[col]4".toList, .lineBreak, .text "[end]".toList]]

theorem renderBlock_ownWidths_openedLate :
    (Marker.seen openedLate).filter Marker.isOpening = [.opens 3] ∧
      (renderBlock openedLate false).map Node.columnWidth? = [1, 3, 4].map some := by
  have hopening : (Marker.seen openedLate).filter Marker.isOpening = [.opens 3] := by cbv
  have hown : (Marker.seen openedLate).filterMap Marker.dividerWidth? = [2, 4] := by cbv
  have hlate : Marker.lateness (Marker.seen openedLate) = 1 := by cbv
  have hwidths := (renderBlock_ownWidths false hopening).1
  rw [hown, hlate] at hwidths
  exact ⟨hopening, hwidths⟩

/-- A divider in front of the opening: neither column has the width on its own marker. -/
def crossedMarkers : List Node :=
  [.paragraph [.text "[col]2".toList], .paragraph [.text "[begin]3".toList]]

theorem opening_overwrites_divider :
    (Marker.seen crossedMarkers).filter Marker.isOpening = [.opens 3] ∧
      (Marker.seen crossedMarkers).filterMap Marker.dividerWidth? = [2] ∧
      (renderBlock crossedMarkers false).map Node.columnWidth? = [some 1, some 3] := by
  refine ⟨?_, ?_, ?_⟩
  · cbv
  · cbv
  · cbv

end ColumnBlocks
