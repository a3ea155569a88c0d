import ColumnBlocks.Proofs.Calls
import ColumnBlocks.Proofs.Partition
import ColumnBlocks.Proofs.PlainText

/-!
# Two views of a block

A block is recognised by the lines of its plain text and laid out by the lines of its paragraphs, and
the two need not show the same markers: a paragraph inside another node has lines of text and no
lines to lay out.  The widths of the columns are those that the text asks for exactly if the markers
of the paragraphs place them.
-/

namespace ColumnBlocks

namespace Marker

/-- The markers of the lines that some nodes are laid out by. -/
def seen (nodes : List Node) : List Marker := (splitLines nodes).filterMap Line.marker?

/-! ## Widths in place -/

theorem placed_of_no_opening {w : Nat} {ms : List Marker} (h : ms.countP isOpening = 0) :
    placed w ms = w :: ms.filterMap asked := by
  induction ms generalizing w with
  | nil => rfl
  | cons m ms ih =>
    rw [List.countP_cons, Nat.add_eq_zero_iff] at h
    have hrest := ih (w := w) h.1
    cases m with
    | opens v => simp [isOpening] at h
    | divides v =>
      have hv : asked (divides v) = some v := rfl
      rw [placed, ih h.1, List.filterMap_cons_some hv]
    | closes c => rw [placed, hrest, List.filterMap_cons_none rfl]

/-- A block gives its columns the widths it asks for exactly if the dividers in front of its opening
ask for the width that the first column has anyway. -/
theorem placed_eq_asked {w : Nat} {ms : List Marker} (h : ms.countP isOpening = 1) :
    placed w ms = ms.filterMap asked ↔
      ∀ v, divides v ∈ ms.takeWhile (fun m => !m.isOpening) → v = w := by
  induction ms generalizing w with
  | nil => simp at h
  | cons m ms ih =>
    cases m with
    | opens v =>
      have hrest : ms.countP isOpening = 0 := by simpa [List.countP_cons, isOpening] using h
      have hv : asked (opens v) = some v := rfl
      rw [placed, placed_of_no_opening hrest, List.filterMap_cons_some hv]
      simp [isOpening]
    | divides v =>
      have hrest : ms.countP isOpening = 1 := by simpa [List.countP_cons, isOpening] using h
      have hfront : (divides v :: ms).takeWhile (fun m => !m.isOpening) =
          divides v :: ms.takeWhile (fun m => !m.isOpening) := rfl
      have hv : asked (divides v) = some v := rfl
      rw [placed, List.filterMap_cons_some hv, hfront, List.cons.injEq, ih hrest]
      constructor
      · rintro ⟨rfl, hall⟩ u hu
        rcases List.mem_cons.mp hu with hu | hu
        · exact (divides.inj hu)
        · exact hall u hu
      · intro hall
        have hv : v = w := hall v List.mem_cons_self
        exact ⟨hv.symm, fun u hu => (hall u (List.mem_cons_of_mem _ hu)).trans hv.symm⟩
    | closes c =>
      have hrest : ms.countP isOpening = 1 := by simpa [List.countP_cons, isOpening] using h
      have hfront : (closes c :: ms).takeWhile (fun m => !m.isOpening) =
          closes c :: ms.takeWhile (fun m => !m.isOpening) := rfl
      rw [placed, List.filterMap_cons_none rfl, hfront, ih hrest]
      simp

/-! ## One node at a time -/

theorem filterMap_ofNode (source : Nat) (n : Node) :
    (Line.ofNode source n).filterMap Line.marker? = seen [n] := by
  rw [seen, splitLines, Line.ofNodesFrom, Line.ofNodesFrom, List.append_nil]
  cases n with
  | paragraph children =>
    rw [Line.ofNode, Line.ofNode]
    split
    · rw [List.filterMap_map, List.filterMap_map]
      rfl
    · rfl
  | _ => rfl

theorem filterMap_ofNodesFrom (source : Nat) (nodes : List Node) :
    (Line.ofNodesFrom source nodes).filterMap Line.marker? = nodes.flatMap fun n => seen [n] := by
  induction nodes generalizing source with
  | nil => rfl
  | cons n ns ih =>
    rw [Line.ofNodesFrom, List.filterMap_append, filterMap_ofNode, ih, List.flatMap_cons]

/-- Where both views of every single node are the same, so are both views of the row. -/
theorem seen_eq_shown {nodes : List Node}
    (h : ∀ n ∈ nodes, n.standsAlone = true ∧ seen [n] = shown n.plainText) :
    seen nodes = shown (Node.plainTextAll nodes) := by
  calc seen nodes
      = nodes.flatMap fun n => seen [n] := filterMap_ofNodesFrom 0 nodes
    _ = nodes.flatMap fun n => shown n.plainText := List.flatMap_congr fun n hn => (h n hn).2
    _ = (nodes.flatMap fun n => Text.lines n.plainText).filterMap ofLine? := by
        rw [List.filterMap_flatMap]
        rfl
    _ = shown (Node.plainTextAll nodes) := by
        rw [shown, Node.lines_plainTextAll fun n hn => (h n hn).1]

end Marker

/-! ## Blocks that are laid out -/

namespace Session

/-- The columns of a block that was laid out have the widths that its text asks for exactly if the
markers of its paragraphs place them there, and there is one more of them than the text has dividers
exactly if its paragraphs show as many.  With the same markers on both sides, what remains is that a
divider in front of the opening gets the width that belongs to the column before it.  Both sides have
the same markers where this is so for every single node. -/
theorem process_widths {s : Session} {env : Environment} {f : Fragment}
    (h : (s.process env f).action = .render) :
    let nodes := (s.merge f).children
    let text := (s.merge f).plainText
    let columns := (s.process env f).fragment.children
    (columns.filterMap Node.columnWidth? = columnWidths text ↔
        Marker.placed 1 (Marker.seen nodes) = (Marker.shown text).filterMap Marker.asked) ∧
      (columns.length = (Marker.shown text).countP Marker.isDivider + 1 ↔
        (Marker.seen nodes).countP Marker.isDivider =
          (Marker.shown text).countP Marker.isDivider) ∧
      (Marker.seen nodes = Marker.shown text →
        (columns.filterMap Node.columnWidth? = columnWidths text ↔
          ∀ v, .divides v ∈ (Marker.shown text).takeWhile (fun m => !m.isOpening) → v = 1)) ∧
      ((∀ n ∈ nodes, n.standsAlone = true ∧ Marker.seen [n] = Marker.shown n.plainText) →
        Marker.seen nodes = Marker.shown text) := by
  intro nodes text columns
  let wrap := layoutWraps (BlockConfig.ofText text) env
  have hcolumns : columns = renderBlock nodes wrap := by
    have hfragment := (process_render h).2
    calc columns = (layOut env (s.merge f)).1.children := congrArg Fragment.children hfragment
      _ = renderBlock nodes wrap := layOut_children env (s.merge f)
  have hwidths : columns.filterMap Node.columnWidth? = Marker.placed 1 (Marker.seen nodes) := by
    rw [hcolumns, renderBlock_widths, Marker.seen]
  have hlength : columns.length = (Marker.seen nodes).countP Marker.isDivider + 1 := by
    rw [hcolumns, (renderBlock_stretches nodes wrap).length_eq, stretches, length_splitOnP,
      Marker.seen, List.countP_filterMap]
    congr 2
    funext l
    rw [Line.isDivider]
    cases l.marker? <;> rfl
  have hopening : (Marker.shown text).countP Marker.isOpening = 1 := by
    rw [process_action] at h
    exact (classify_eq_render.mp h).1
  refine ⟨by rw [hwidths, columnWidths_eq], by rw [hlength]; omega, ?_, Marker.seen_eq_shown⟩
  intro hsame
  rw [hwidths, hsame, columnWidths_eq]
  exact Marker.placed_eq_asked hopening

/-- A block whose opening comes late, after a divider that asks for the width one. -/
def lateOpening : Fragment := .ofNodes
  [.paragraph [.text "[col]".toList, .lineBreak, .text "[begin]2".toList],
    .paragraph [.text "[end]".toList]]

theorem process_widths_lateOpening :
    (fresh.process {} lateOpening).fragment.children.filterMap Node.columnWidth? =
      columnWidths (fresh.merge lateOpening).plainText := by
  have hrender : (fresh.process {} lateOpening).action = .render := by cbv
  have hsame : Marker.seen (fresh.merge lateOpening).children =
      Marker.shown (fresh.merge lateOpening).plainText := by cbv
  have hfront : (Marker.shown (fresh.merge lateOpening).plainText).takeWhile
      (fun m => !m.isOpening) = [.divides 1] := by cbv
  refine ((process_widths hrender).2.2.1 hsame).mpr ?_
  rw [hfront]
  intro v hv
  exact Marker.divides.inj (List.mem_singleton.mp hv)

/-- A block whose opening stands in a quotation. -/
def quotedOpening : Fragment := .ofNodes
  [.element "blockquote".toList [] [.paragraph [.text "[begin]3".toList]],
    .paragraph [.text "[end]".toList]]

/-- A block whose divider stands in a list. -/
def listedDivider : Fragment := .ofNodes
  [.paragraph [.text "[begin]".toList],
    .element "ul".toList [] [.element "li".toList [] [.text "[col]".toList]],
    .paragraph [.text "[end]".toList]]

/-- Paragraphs inside other nodes count for the text only: neither the widths nor the number of the
columns are what the text says. -/
theorem text_and_columns_disagree :
    ((fresh.process {} quotedOpening).action = .render ∧
        columnWidths (fresh.merge quotedOpening).plainText = [3] ∧
        (fresh.process {} quotedOpening).fragment.children.filterMap Node.columnWidth? = [1]) ∧
      ((fresh.process {} listedDivider).action = .render ∧
        columnWidths (fresh.merge listedDivider).plainText = [1, 1] ∧
        (fresh.process {} listedDivider).fragment.children.filterMap Node.columnWidth? = [1]) := by
  refine ⟨⟨?_, ?_, ?_⟩, ?_, ?_, ?_⟩
  · cbv
  · cbv
  · cbv
  · cbv
  · cbv
  · cbv

end Session
end ColumnBlocks
