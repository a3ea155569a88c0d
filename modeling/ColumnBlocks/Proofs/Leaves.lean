import ColumnBlocks.Proofs.Columns
import ColumnBlocks.Proofs.Segments

/-!
# Leaves of inline content

Inline content is read from left to right as a row of leaves and breaks, where a leaf comes with the
elements around it.  Cutting a paragraph into lines copies elements, drops empty copies and moves
nodes from one list to another, but the row of leaves stays the same: the lines are its pieces between
the breaks.
-/

namespace ColumnBlocks

/-- An element without its content. -/
structure Shell where
  name : Text
  attributes : List Attribute
deriving DecidableEq, Repr

inductive Leaf where
  | lineBreak
  /-- A node that is not looked into, and the elements around it from the outermost inwards. -/
  | node (around : List Shell) (n : Node)
deriving Repr

namespace Leaf

def isLineBreak : Leaf → Bool
  | lineBreak => true
  | node _ _ => false

/-- A row without the line ends at the start of a text that comes first in it and has no element
around it.  A text of line ends only goes altogether. -/
def trimStart : List Leaf → List Leaf
  | node [] (.text s) :: rest =>
    match s.dropWhile (fun c => c == '\n' || c == '\r') with
    | [] => rest
    | s' => node [] (.text s') :: rest
  | row => row

theorem trimStart_cons {l : Leaf} (h : ∀ s, l ≠ node [] (.text s)) (row : List Leaf) :
    trimStart (l :: row) = l :: row := by
  rw [trimStart]
  intro s rest hrow
  exact h s (List.cons.inj hrow).1

end Leaf

namespace Node

mutual

/-- The leaves and breaks of a node with the elements `around` it. -/
def leaves (around : List Shell) : Node → List Leaf
  | lineBreak => [.lineBreak]
  | element name attributes children =>
    if children.isEmpty then [.node around (element name attributes children)]
    else leavesAll (around ++ [⟨name, attributes⟩]) children
  | text s => [.node around (text s)]
  | html raw => [.node around (html raw)]
  | paragraph children => [.node around (paragraph children)]
  | column width wrap children => [.node around (column width wrap children)]

def leavesAll (around : List Shell) : List Node → List Leaf
  | [] => []
  | n :: ns => leaves around n ++ leavesAll around ns

end

theorem leavesAll_append (around : List Shell) (a b : List Node) :
    leavesAll around (a ++ b) = leavesAll around a ++ leavesAll around b := by
  induction a with
  | nil => rw [leavesAll]; rfl
  | cons n ns ih => rw [List.cons_append, leavesAll, leavesAll, ih, List.append_assoc]

theorem leavesAll_singleton (around : List Shell) (n : Node) :
    leavesAll around [n] = leaves around n := by
  rw [leavesAll, leavesAll, List.append_nil]

theorem leaves_element {children : List Node} (h : children ≠ []) (around : List Shell) (name : Text)
    (attributes : List Attribute) :
    leaves around (element name attributes children) =
      leavesAll (around ++ [⟨name, attributes⟩]) children := by
  rw [leaves, if_neg]
  simpa using h

mutual

theorem leaves_ne_nil (around : List Shell) (n : Node) : leaves around n ≠ [] := by
  cases n with
  | element name attributes children =>
    by_cases h : children = []
    · simp [leaves, h]
    · rw [leaves_element h]
      exact leavesAll_ne_nil _ h
  | _ => simp [leaves]

theorem leavesAll_ne_nil (around : List Shell) {ns : List Node} (h : ns ≠ []) :
    leavesAll around ns ≠ [] := by
  cases ns with
  | nil => exact absurd rfl h
  | cons n ns =>
    rw [leavesAll]
    exact List.append_ne_nil_of_left_ne_nil (leaves_ne_nil around n) _

end

mutual

/-- The elements around a node are around its leaves. -/
theorem around_of_mem_leaves {around : List Shell} {n : Node} {l : Leaf}
    (hl : l ∈ leaves around n) :
    l = .lineBreak ∨ ∃ inner m, l = .node (around ++ inner) m := by
  cases n with
  | lineBreak =>
    rw [leaves] at hl
    exact Or.inl (List.mem_singleton.mp hl)
  | element name attributes children =>
    by_cases h : children = []
    · rw [leaves, if_pos (by simpa using h)] at hl
      exact Or.inr ⟨[], _, by rw [List.append_nil]; exact List.mem_singleton.mp hl⟩
    · rw [leaves_element h] at hl
      rcases around_of_mem_leavesAll hl with hl | ⟨inner, m, hl⟩
      · exact Or.inl hl
      · exact Or.inr ⟨[⟨name, attributes⟩] ++ inner, m, by rw [← List.append_assoc]; exact hl⟩
  | _ =>
    rw [leaves] at hl
    exact Or.inr ⟨[], _, by rw [List.append_nil]; exact List.mem_singleton.mp hl⟩

theorem around_of_mem_leavesAll {around : List Shell} {ns : List Node} {l : Leaf}
    (hl : l ∈ leavesAll around ns) :
    l = .lineBreak ∨ ∃ inner m, l = .node (around ++ inner) m := by
  cases ns with
  | nil =>
    rw [leavesAll] at hl
    exact absurd hl List.not_mem_nil
  | cons n ns =>
    rw [leavesAll] at hl
    rcases List.mem_append.mp hl with hl | hl
    · exact around_of_mem_leaves hl
    · exact around_of_mem_leavesAll hl

end

theorem ne_text_of_mem_leaves_element {name : Text} {attributes : List Attribute}
    {children : List Node} {l : Leaf} (hl : l ∈ leaves [] (element name attributes children))
    (t : Text) : l ≠ .node [] (.text t) := by
  by_cases h : children = []
  · rw [leaves, if_pos (by simpa using h)] at hl
    rw [List.mem_singleton.mp hl]
    simp
  · rw [leaves_element h] at hl
    rcases around_of_mem_leavesAll hl with rfl | ⟨inner, m, rfl⟩
    · simp
    · simp

/-! ## Breaks -/

mutual

theorem isLineBreak_of_mem_leaves {around : List Shell} {n : Node} (h : n.hasBreak = false) {l : Leaf}
    (hl : l ∈ leaves around n) : l.isLineBreak = false := by
  cases n with
  | lineBreak => exact absurd h (by simp [hasBreak])
  | element name attributes children =>
    by_cases hne : children = []
    · rw [leaves, if_pos (by simpa using hne)] at hl
      rw [List.mem_singleton.mp hl]
      rfl
    · rw [leaves_element hne] at hl
      rw [hasBreak] at h
      exact isLineBreak_of_mem_leavesAll h hl
  | _ =>
    rw [leaves] at hl
    rw [List.mem_singleton.mp hl]
    rfl

theorem isLineBreak_of_mem_leavesAll {around : List Shell} {ns : List Node}
    (h : anyBreak ns = false) {l : Leaf} (hl : l ∈ leavesAll around ns) : l.isLineBreak = false := by
  cases ns with
  | nil =>
    rw [leavesAll] at hl
    exact absurd hl List.not_mem_nil
  | cons n ns =>
    rw [anyBreak, Bool.or_eq_false_iff] at h
    rw [leavesAll] at hl
    rcases List.mem_append.mp hl with hl | hl
    · exact isLineBreak_of_mem_leaves h.1 hl
    · exact isLineBreak_of_mem_leavesAll h.2 hl

end

end Node

/-! ## Segments -/

namespace Line

open Node (leaves leavesAll leavesAll_append)

theorem leavesAll_wrapSegment (around : List Shell) (name : Text) (attributes : List Attribute)
    (s : List Node) :
    leavesAll around (wrapSegment name attributes s) =
      leavesAll (around ++ [⟨name, attributes⟩]) s := by
  by_cases hs : s = []
  · rw [hs, wrapSegment_nil, leavesAll, leavesAll]
  · rw [wrapSegment_of_ne hs, Node.leavesAll_singleton, Node.leaves_element hs]

mutual

theorem intercalate_cut_leaves (around : List Shell) (n : Node) :
    [.lineBreak].intercalate ((cut n).map (leavesAll around)) = leaves around n := by
  cases n with
  | lineBreak =>
    rw [cut, List.map_cons, List.map_singleton, List.intercalate_cons_cons,
      List.intercalate_singleton, leavesAll, leaves]
    rfl
  | element name attributes children =>
    rw [cut]
    by_cases hb : Node.anyBreak children = true
    · have hne : children ≠ [] := by
        rintro rfl
        exact absurd hb (by decide)
      rw [if_pos hb, List.map_map, Node.leaves_element hne, ← intercalate_cutAll_leaves]
      congr 1
      exact List.map_congr_left fun s _ => leavesAll_wrapSegment around name attributes s
    · rw [if_neg hb, List.map_singleton, List.intercalate_singleton, Node.leavesAll_singleton]
  | _ => rw [cut, List.map_singleton, List.intercalate_singleton, Node.leavesAll_singleton]

/-- The segments of some content have its leaves, with a break between neighbouring segments. -/
theorem intercalate_cutAll_leaves (around : List Shell) (ns : List Node) :
    [.lineBreak].intercalate ((cutAll ns).map (leavesAll around)) = leavesAll around ns := by
  cases ns with
  | nil => rw [cutAll, List.map_singleton, List.intercalate_singleton]
  | cons n ns =>
    rw [cutAll, intercalate_joinSegments (leavesAll_append around), intercalate_cut_leaves,
      intercalate_cutAll_leaves, leavesAll]

end

/-- No leaf of a segment is a break. -/
def Solid (around : List Shell) (s : List Node) : Prop :=
  ∀ l ∈ leavesAll around s, l.isLineBreak = false

theorem solid_of_leaf {around : List Shell} {n : Node} (h : leaves around n = [.node around n]) :
    Solid around [n] := by
  intro l hl
  rw [Node.leavesAll_singleton, h] at hl
  rw [List.mem_singleton.mp hl]
  rfl

mutual

theorem cut_solid (around : List Shell) (n : Node) : ∀ s ∈ cut n, Solid around s := by
  cases n with
  | lineBreak => simp [cut, Solid, leavesAll]
  | element name attributes children =>
    rw [cut]
    by_cases hb : Node.anyBreak children = true
    · rw [if_pos hb]
      intro s hs
      obtain ⟨t, ht, rfl⟩ := List.mem_map.mp hs
      rw [Solid, leavesAll_wrapSegment]
      exact cutAll_solid _ children t ht
    · rw [if_neg hb]
      intro s hs
      rw [List.mem_singleton.mp hs]
      intro l hl
      rw [Node.leavesAll_singleton] at hl
      refine Node.isLineBreak_of_mem_leaves ?_ hl
      rw [Node.hasBreak]
      exact Bool.eq_false_iff.mpr hb
  | _ =>
    intro s hs
    rw [cut] at hs
    rw [List.mem_singleton.mp hs]
    exact solid_of_leaf (by rw [leaves])

theorem cutAll_solid (around : List Shell) (ns : List Node) : ∀ s ∈ cutAll ns, Solid around s := by
  cases ns with
  | nil => simp [cutAll, Solid, leavesAll]
  | cons n ns =>
    rw [cutAll]
    refine forall_mem_joinSegments ?_ (cut_solid around n) (cutAll_solid around ns)
    intro s t hs ht l hl
    rw [leavesAll_append] at hl
    rcases List.mem_append.mp hl with hl | hl
    · exact hs l hl
    · exact ht l hl

end

/-- Trimming the row of a segment is trimming its first node: behind an element no text has an empty
row of elements around it. -/
theorem leavesAll_dropLeadingLineEnds (s : List Node) :
    leavesAll [] (dropLeadingLineEnds s) = Leaf.trimStart (leavesAll [] s) := by
  cases s with
  | nil => rfl
  | cons n rest =>
    cases n with
    | text t =>
      have hrow : leavesAll [] (.text t :: rest) = .node [] (.text t) :: leavesAll [] rest := by
        rw [leavesAll, leaves, List.singleton_append]
      rw [hrow, dropLeadingLineEnds, Leaf.trimStart]
      cases t.dropWhile (fun c => c == '\n' || c == '\r') with
      | nil => rfl
      | cons c t' => rw [leavesAll, leaves, List.singleton_append]
    | element name attributes children =>
      obtain ⟨l, ls, hl⟩ :=
        List.exists_cons_of_ne_nil (Node.leaves_ne_nil [] (.element name attributes children))
      have hfirst : ∀ t, l ≠ .node [] (.text t) := by
        apply Node.ne_text_of_mem_leaves_element
        rw [hl]
        exact List.mem_cons_self
      rw [dropLeadingLineEnds, leavesAll, hl, List.cons_append, Leaf.trimStart_cons hfirst]
      simp
    | _ =>
      rw [dropLeadingLineEnds, leavesAll, leaves, List.singleton_append, Leaf.trimStart_cons] <;>
        simp

/-- The lines that come of the node with the index `source`.  A node that is no paragraph is one line
as it is.  A paragraph comes to one line for each piece of its row of leaves between the breaks, and
if it has a break anywhere, a text at the start of a line loses the line ends at its start. -/
def ComesOf (source : Nat) (lines : List Line) : Node → Prop
  | .paragraph children =>
    (∀ l ∈ lines, l.source = source ∧ l.isParagraph = true) ∧
      ∃ pieces, pieces ≠ [] ∧ (∀ piece ∈ pieces, ∀ l ∈ piece, Leaf.isLineBreak l = false) ∧
        [.lineBreak].intercalate pieces = leavesAll [] children ∧
        lines.map (fun l => leavesAll [] l.inline) =
          if Node.anyBreak children then pieces.map Leaf.trimStart else pieces
  | n => lines = [⟨source, n⟩]

theorem ofNode_comesOf (source : Nat) (n : Node) : ComesOf source (ofNode source n) n := by
  cases n with
  | paragraph children =>
    rw [ofNode]
    by_cases hb : Node.anyBreak children = true
    · rw [if_pos hb]
      refine ⟨?_, (cutAll children).map (leavesAll []), ?_, ?_, ?_, ?_⟩
      · intro l hl
        obtain ⟨s, _, rfl⟩ := List.mem_map.mp hl
        exact ⟨rfl, rfl⟩
      · simpa using cutAll_ne_nil children
      · intro piece hpiece
        obtain ⟨s, hs, rfl⟩ := List.mem_map.mp hpiece
        exact cutAll_solid [] children s hs
      · exact intercalate_cutAll_leaves [] children
      · rw [if_pos hb, List.map_map, List.map_map]
        exact List.map_congr_left fun s _ => leavesAll_dropLeadingLineEnds s
    · rw [if_neg hb]
      refine ⟨?_, [leavesAll [] children], List.cons_ne_nil _ _, ?_, ?_, ?_⟩
      · intro l hl
        rw [List.mem_singleton.mp hl]
        exact ⟨rfl, rfl⟩
      · intro piece hpiece l hl
        rw [List.mem_singleton.mp hpiece] at hl
        exact Node.isLineBreak_of_mem_leavesAll (Bool.eq_false_iff.mpr hb) hl
      · rw [List.intercalate_singleton]
      · rw [if_neg hb]
        rfl
  | _ =>
    rw [ofNode]
    · exact rfl
    · simp

theorem ComesOf.source {source : Nat} {lines : List Line} {n : Node} (h : ComesOf source lines n) :
    lines ≠ [] ∧ ∀ l ∈ lines, l.source = source := by
  cases n with
  | paragraph children =>
    obtain ⟨hparagraphs, pieces, hne, _, _, hrows⟩ := h
    refine ⟨?_, fun l hl => (hparagraphs l hl).1⟩
    rintro rfl
    rw [List.map_nil] at hrows
    split at hrows
    · exact hne (List.map_eq_nil_iff.mp hrows.symm)
    · exact hne hrows.symm
  | _ =>
    obtain rfl : lines = [⟨source, _⟩] := h
    refine ⟨List.cons_ne_nil _ _, fun l hl => ?_⟩
    rw [List.mem_singleton.mp hl]

/-! ## All lines -/

theorem ofNodesFrom_comesOf (source : Nat) (ns : List Node) :
    ∃ groups, ofNodesFrom source ns = groups.flatten ∧
      List.Forall₂ (fun n group => ComesOf n.2 group n.1) (ns.zipIdx source) groups := by
  induction ns generalizing source with
  | nil => exact ⟨[], rfl, .nil⟩
  | cons n ns ih =>
    obtain ⟨groups, hflat, hgroups⟩ := ih (source + 1)
    refine ⟨ofNode source n :: groups, ?_, ?_⟩
    · rw [ofNodesFrom, hflat, List.flatten_cons]
    · rw [List.zipIdx_cons]
      exact .cons (ofNode_comesOf source n) hgroups

theorem source_mem_ofNodesFrom (source i : Nat) (ns : List Node) :
    i ∈ (ofNodesFrom source ns).map (·.source) ↔ source ≤ i ∧ i < source + ns.length := by
  induction ns generalizing source with
  | nil =>
    simp only [ofNodesFrom, List.map_nil, List.not_mem_nil, List.length_nil, false_iff]
    omega
  | cons n ns ih =>
    have hhead : i ∈ (ofNode source n).map (·.source) ↔ i = source := by
      obtain ⟨hne, hsource⟩ := (ofNode_comesOf source n).source
      constructor
      · intro hi
        obtain ⟨l, hl, rfl⟩ := List.mem_map.mp hi
        exact hsource l hl
      · rintro rfl
        obtain ⟨l, hl⟩ := List.exists_mem_of_ne_nil _ hne
        exact List.mem_map.mpr ⟨l, hl, hsource l hl⟩
    rw [ofNodesFrom, List.map_append, List.mem_append, hhead, ih, List.length_cons]
    omega

theorem sources_ofNodesFrom (source : Nat) (ns : List Node) :
    ((ofNodesFrom source ns).map (·.source)).Pairwise (· ≤ ·) := by
  induction ns generalizing source with
  | nil => exact List.Pairwise.nil
  | cons n ns ih =>
    have hhead : ∀ i ∈ (ofNode source n).map (·.source), i = source := by
      intro i hi
      obtain ⟨l, hl, rfl⟩ := List.mem_map.mp hi
      exact (ofNode_comesOf source n).source.2 l hl
    rw [ofNodesFrom, List.map_append]
    refine List.pairwise_append.mpr ⟨?_, ih (source + 1), ?_⟩
    · apply List.pairwise_of_forall_mem_list
      intro i hi j hj
      rw [hhead i hi, hhead j hj]
    · intro i hi j hj
      rw [hhead i hi]
      exact Nat.le_of_succ_le ((source_mem_ofNodesFrom (source + 1) j ns).mp hj).1

end Line

/-- The lines of some content fall into groups, one for each node in order, that come of their nodes:
the lines of a paragraph have its leaves, and every other node is its own line.  So the sources of the
lines appear in order and none is missing. -/
theorem splitLines_leaves (nodes : List Node) :
    (∃ groups, splitLines nodes = groups.flatten ∧
        List.Forall₂ (fun n group => Line.ComesOf n.2 group n.1) nodes.zipIdx groups) ∧
      ((splitLines nodes).map (·.source)).Pairwise (· ≤ ·) ∧
      ∀ i, i ∈ (splitLines nodes).map (·.source) ↔ i < nodes.length := by
  refine ⟨Line.ofNodesFrom_comesOf 0 nodes, Line.sources_ofNodesFrom 0 nodes, fun i => ?_⟩
  have h := Line.source_mem_ofNodesFrom 0 i nodes
  rw [Nat.zero_add] at h
  exact h.trans (and_iff_right (Nat.zero_le i))

end ColumnBlocks
