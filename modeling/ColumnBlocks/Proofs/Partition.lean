import ColumnBlocks.Proofs.Columns
import ColumnBlocks.Proofs.Segments

/-!
# What columns are made of

The lines that a block falls into hold no break of their own, so a paragraph that was put together
from some lines can be split into them again.  So every line of a block can be found in its columns,
and the marker lines are the only ones to disappear.
-/

namespace ColumnBlocks

namespace Node

def isLineBreak : Node → Bool
  | lineBreak => true
  | _ => false

def columnChildren : Node → List Node
  | column _ _ children => children
  | _ => []

/-- A paragraph split at its own breaks, and any other node as it is. -/
def unfolded : Node → List Node
  | paragraph children => (children.splitOnP isLineBreak).map paragraph
  | n => [n]

end Node

/-! ## Splitting and joining -/

section Lists

variable {α : Type} {p : α → Bool}

theorem flatten_splitOnP (as : List α) : (as.splitOnP p).flatten = as.filter (!p ·) := by
  induction as with
  | nil => rfl
  | cons a as ih =>
    obtain ⟨t, ts, ht⟩ := List.exists_cons_of_ne_nil (List.splitOnP_ne_nil p as)
    rw [ht, List.flatten_cons] at ih
    rw [List.splitOnP_cons_eq_if_modifyHead, ht]
    cases ha : p a with
    | true => simp [ha, ih]
    | false => simp [ha, ih]

theorem length_splitOnP (as : List α) : (as.splitOnP p).length = as.countP p + 1 := by
  induction as with
  | nil => rfl
  | cons a as ih =>
    rw [List.splitOnP_cons_eq_if_modifyHead, List.countP_cons]
    cases ha : p a with
    | true => simp [ih]
    | false => simp [ih]

/-- Pieces that hold no separator are found again in what they are joined to. -/
theorem splitOnP_intercalate {sep : α} (hsep : p sep = true) {pieces : List (List α)}
    (hne : pieces ≠ []) (h : ∀ piece ∈ pieces, ∀ a ∈ piece, p a = false) :
    ([sep].intercalate pieces).splitOnP p = pieces := by
  induction pieces with
  | nil => exact absurd rfl hne
  | cons piece rest ih =>
    have hpiece := h piece List.mem_cons_self
    cases rest with
    | nil => rw [List.intercalate_singleton, List.splitOnP_eq_singleton hpiece]
    | cons next rest =>
      rw [List.intercalate_cons_cons, List.append_assoc, List.singleton_append,
        List.splitOnP_append_cons_of_forall_mem hpiece sep hsep,
        ih (List.cons_ne_nil next rest) (fun q hq => h q (List.mem_cons_of_mem piece hq))]

end Lists

/-! ## Lines hold no break -/

namespace Line

/-- No break stands directly in a line. -/
def Unbroken (ns : List Node) : Prop := ∀ n ∈ ns, n.isLineBreak = false

theorem Unbroken.append {a b : List Node} (ha : Unbroken a) (hb : Unbroken b) : Unbroken (a ++ b) := by
  intro n hn
  rcases List.mem_append.mp hn with hn | hn
  · exact ha n hn
  · exact hb n hn

theorem cut_unbroken (n : Node) : ∀ s ∈ cut n, Unbroken s := by
  cases n with
  | element name attributes children =>
    rw [cut]
    split
    · intro s hs
      obtain ⟨segment, _, rfl⟩ := List.mem_map.mp hs
      unfold wrapSegment
      split <;> simp [Unbroken, Node.isLineBreak]
    · simp [Unbroken, Node.isLineBreak]
  | _ => simp [cut, Unbroken, Node.isLineBreak]

theorem cutAll_unbroken (ns : List Node) : ∀ s ∈ cutAll ns, Unbroken s := by
  induction ns with
  | nil => simp [cutAll, Unbroken]
  | cons n ns ih =>
    rw [cutAll]
    exact forall_mem_joinSegments (fun _ _ => Unbroken.append) (cut_unbroken n) ih

theorem dropLeadingLineEnds_unbroken {ns : List Node} (h : Unbroken ns) :
    Unbroken (dropLeadingLineEnds ns) := by
  unfold dropLeadingLineEnds
  split
  · rename_i t rest
    have hrest : Unbroken rest := fun n hn => h n (List.mem_cons_of_mem _ hn)
    split
    · exact hrest
    · intro n hn
      rcases List.mem_cons.mp hn with rfl | hn
      · rfl
      · exact hrest n hn
  · exact h

theorem ofNode_unbroken {source : Nat} {n : Node} {l : Line} (hl : l ∈ ofNode source n) :
    Unbroken l.inline := by
  cases n with
  | paragraph children =>
    rw [ofNode] at hl
    split at hl
    · obtain ⟨segment, hsegment, rfl⟩ := List.mem_map.mp hl
      exact dropLeadingLineEnds_unbroken (cutAll_unbroken children segment hsegment)
    · rename_i hb
      rw [List.mem_singleton.mp hl]
      intro n hn
      rw [Node.anyBreak_eq_any] at hb
      cases n with
      | lineBreak => exact absurd (List.any_eq_true.mpr ⟨_, hn, by rw [Node.hasBreak]⟩) hb
      | _ => rfl
  | _ =>
    rw [ofNode, List.mem_singleton] at hl
    · rw [hl]
      simp [inline, Unbroken]
    · simp

theorem ofNodesFrom_unbroken {source : Nat} {nodes : List Node} {l : Line}
    (hl : l ∈ ofNodesFrom source nodes) : Unbroken l.inline := by
  induction nodes generalizing source with
  | nil => simp [ofNodesFrom] at hl
  | cons n ns ih =>
    rw [ofNodesFrom, List.mem_append] at hl
    rcases hl with hl | hl
    · exact ofNode_unbroken hl
    · exact ih hl

end Line

theorem splitLines_unbroken {nodes : List Node} {l : Line} (hl : l ∈ splitLines nodes) :
    Line.Unbroken l.inline :=
  Line.ofNodesFrom_unbroken hl

/-! ## Runs -/

namespace Line

theorem isParagraph_of_chain {l : Line} {ls : List Line} (hne : ls ≠ [])
    (h : (l :: ls).IsChain fun a b => joins a b = true) :
    ∀ m ∈ l :: ls, m.isContent = true ∧ m.isParagraph = true := by
  induction ls generalizing l with
  | nil => exact absurd rfl hne
  | cons k ls ih =>
    obtain ⟨hjoins, hrest⟩ := List.isChain_cons_cons.mp h
    obtain ⟨hl, hk, _⟩ := joins_iff.mp hjoins
    intro m hm
    rcases List.mem_cons.mp hm with rfl | hm
    · exact hl
    · by_cases hls : ls = []
      · subst hls
        rw [List.mem_singleton.mp hm]
        exact hk
      · exact ih hls hrest m hm

theorem fold_unfolded {run : List Line} (hchain : run.IsChain fun a b => joins a b = true)
    (hrun : ∀ l ∈ run, Unbroken l.inline) :
    (fold run).flatMap Node.unfolded = (run.filter isContent).map (·.node) := by
  cases run with
  | nil => rfl
  | cons l ls =>
    by_cases hls : ls = []
    · subst hls
      have hl : Unbroken l.inline := hrun l List.mem_cons_self
      cases hc : l.isContent with
      | false => simp [fold, hc]
      | true =>
        cases hp : l.isParagraph with
        | true =>
          have hn := node_eq_of_isParagraph hp
          simp [fold, hc, hp, Node.unfolded, List.splitOnP_eq_singleton hl, hn]
        | false =>
          have hu : l.node.unfolded = [l.node] := by
            cases hn : l.node <;> simp_all [isParagraph, Node.unfolded]
          simp [fold, hc, hp, hu]
    · have hall := isParagraph_of_chain hls hchain
      obtain ⟨hc, hp⟩ := hall l List.mem_cons_self
      have hfilter : (l :: ls).filter isContent = l :: ls :=
        List.filter_eq_self.mpr fun m hm => (hall m hm).1
      have hnodes : (l :: ls).map (·.node) = (l :: ls).map fun m => .paragraph m.inline :=
        List.map_congr_left fun m hm => node_eq_of_isParagraph (hall m hm).2
      have hsplit : ([.lineBreak].intercalate ((l :: ls).map inline)).splitOnP Node.isLineBreak =
          (l :: ls).map inline := by
        refine splitOnP_intercalate rfl (by simp) ?_
        intro piece hpiece
        obtain ⟨m, hm, rfl⟩ := List.mem_map.mp hpiece
        exact hrun m hm
      rw [fold, if_pos hc, if_pos hp, hfilter, hnodes, List.flatMap_singleton, Node.unfolded, hsplit,
        List.map_map]
      rfl

theorem content_unfolded {ls : List Line} (h : ∀ l ∈ ls, Unbroken l.inline) :
    (content ls).flatMap Node.unfolded = (ls.filter isContent).map (·.node) := by
  have hruns : ∀ run ∈ ls.splitBy joins,
      (fold run).flatMap Node.unfolded = (run.filter isContent).map (·.node) := by
    intro run hrun
    refine fold_unfolded (List.isChain_of_mem_splitBy hrun) ?_
    intro l hl
    refine h l ?_
    rw [← List.flatten_splitBy joins ls]
    exact List.mem_flatten.mpr ⟨run, hrun, hl⟩
  calc (content ls).flatMap Node.unfolded
      = (ls.splitBy joins).flatMap fun run => (fold run).flatMap Node.unfolded := by
        rw [content, List.flatMap_assoc]
    _ = (ls.splitBy joins).flatMap fun run => (run.filter isContent).map (·.node) :=
        List.flatMap_congr hruns
    _ = ((ls.splitBy joins).flatten.filter isContent).map (·.node) := by
        rw [List.filter_flatten, List.map_flatten, List.map_map]
        rfl
    _ = (ls.filter isContent).map (·.node) := by rw [List.flatten_splitBy]

end Line

/-! ## Blocks -/

theorem renderBlock_stretches (nodes : List Node) (wrap : Bool) :
    List.Forall₂ (fun column s => ∃ width, column = .column width wrap (Line.content s))
      (renderBlock nodes wrap) (stretches (splitLines nodes)) := by
  have hcontent := fill_stretches 1 (splitLines nodes)
  have hsame : List.Forall₂ (fun b s => ColumnBuilder.content b = Line.content s)
      (ColumnBuilder.fill { width := 1 } (splitLines nodes)) (stretches (splitLines nodes)) := by
    rw [← List.forall₂_eq_eq_eq] at hcontent
    exact List.forall₂_map_left_iff.mp (List.forall₂_map_right_iff.mp hcontent)
  rw [renderBlock, List.forall₂_map_left_iff]
  refine hsame.imp ?_
  intro b s hb
  exact ⟨b.width, by rw [ColumnBuilder.build, hb]⟩

theorem unbroken_of_mem_stretches {nodes : List Node} {s : List Line}
    (hs : s ∈ stretches (splitLines nodes)) : ∀ l ∈ s, Line.Unbroken l.inline := by
  intro l hl
  have hflat : l ∈ (stretches (splitLines nodes)).flatten := List.mem_flatten.mpr ⟨s, hs, hl⟩
  rw [stretches, flatten_splitOnP] at hflat
  exact splitLines_unbroken (List.mem_of_mem_filter hflat)

/-- The content lines of the stretches are all content lines there are. -/
theorem flatten_stretches_filter (ls : List Line) :
    (stretches ls).flatten.filter Line.isContent = ls.filter Line.isContent := by
  rw [stretches, flatten_splitOnP, List.filter_filter]
  refine List.filter_congr ?_
  intro l _
  cases hc : l.isContent with
  | true => simp [Line.isDivider_of_isContent hc]
  | false => rfl

theorem renderBlock_unfolded (nodes : List Node) (wrap : Bool) :
    (renderBlock nodes wrap).flatMap (fun column => column.columnChildren.flatMap Node.unfolded) =
      ((splitLines nodes).filter Line.isContent).map (·.node) := by
  let columns := ColumnBuilder.fill { width := 1 } (splitLines nodes)
  have hcontent := fill_stretches 1 (splitLines nodes)
  have hstretch : ∀ s ∈ stretches (splitLines nodes), (Line.content s).flatMap Node.unfolded =
      (s.filter Line.isContent).map (·.node) :=
    fun s hs => Line.content_unfolded (unbroken_of_mem_stretches hs)
  calc (renderBlock nodes wrap).flatMap (fun column => column.columnChildren.flatMap Node.unfolded)
      = (columns.map ColumnBuilder.content).flatMap (·.flatMap Node.unfolded) := by
        rw [renderBlock, List.flatMap_map, List.flatMap_map]
        rfl
    _ = (stretches (splitLines nodes)).flatMap
          fun s => (Line.content s).flatMap Node.unfolded := by rw [hcontent, List.flatMap_map]
    _ = (stretches (splitLines nodes)).flatMap fun s => (s.filter Line.isContent).map (·.node) :=
        List.flatMap_congr hstretch
    _ = ((stretches (splitLines nodes)).flatten.filter Line.isContent).map (·.node) := by
        rw [List.filter_flatten, List.map_flatten, List.map_map]
        rfl
    _ = ((splitLines nodes).filter Line.isContent).map (·.node) := by
        rw [flatten_stretches_filter]

/-- A block is partitioned and its content conserved.  Its columns are the stretches of its lines, in
order and with the wrap flag that was asked for; a column holds what the runs of its stretch come to,
a paragraph for the neighbouring lines of one paragraph and any other node as it is.  Split at their
breaks again, the columns give back the content lines of the block and nothing else. -/
theorem renderBlock_partitions (nodes : List Node) (wrap : Bool) :
    List.Forall₂ (fun column s => ∃ width, column = .column width wrap (Line.content s))
        (renderBlock nodes wrap) (stretches (splitLines nodes)) ∧
      (renderBlock nodes wrap).length = (splitLines nodes).countP Line.isDivider + 1 ∧
      (renderBlock nodes wrap).flatMap (fun column => column.columnChildren.flatMap Node.unfolded) =
        ((splitLines nodes).filter Line.isContent).map (·.node) := by
  have hstretches := renderBlock_stretches nodes wrap
  refine ⟨hstretches, ?_, renderBlock_unfolded nodes wrap⟩
  rw [hstretches.length_eq, stretches, length_splitOnP]

end ColumnBlocks
