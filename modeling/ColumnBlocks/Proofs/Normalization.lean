import ColumnBlocks.Proofs.Segments

/-!
# Normalization

Normalized content has one node for each line.  A paragraph of inline content falls into one line more
than it has breaks, however deep they stand, and none of them is left in a line.  So there is nothing
to cut in normalized content.

Inline content is asked for because a paragraph is not looked for inside a paragraph, and a break that
stands in one stays where it is.
-/

namespace ColumnBlocks

namespace Node

def isParagraph : Node → Bool
  | paragraph _ => true
  | _ => false

mutual

/-- The number of line breaks in a node, at any depth. -/
def breaks : Node → Nat
  | lineBreak => 1
  | paragraph children | element _ _ children | column _ _ children => breaksAll children
  | text _ | html _ => 0

def breaksAll : List Node → Nat
  | [] => 0
  | n :: ns => breaks n + breaksAll ns

end

mutual

/-- Whether a node is neither a paragraph nor a column, and none of either stands in it. -/
def isInline : Node → Bool
  | paragraph _ | column _ _ _ => false
  | element _ _ children => areInline children
  | text _ | lineBreak | html _ => true

def areInline : List Node → Bool
  | [] => true
  | n :: ns => isInline n && areInline ns

end

/-- Whether a node holds inline content if it is a paragraph. -/
def holdsInline : Node → Bool
  | paragraph children => areInline children
  | _ => true

/-- A node that is a line already. -/
def IsLine (n : Node) : Prop := n.isParagraph = false ∨ n.hasBreak = false

theorem breaksAll_append (a b : List Node) : breaksAll (a ++ b) = breaksAll a + breaksAll b := by
  induction a with
  | nil => simp [breaksAll]
  | cons n ns ih => rw [List.cons_append, breaksAll, breaksAll, ih, Nat.add_assoc]

mutual

theorem breaks_eq_zero {n : Node} : n.breaks = 0 ↔ n.hasBreak = false := by
  cases n with
  | text s => simp [breaks, hasBreak]
  | lineBreak => simp [breaks, hasBreak]
  | html raw => simp [breaks, hasBreak]
  | paragraph children => rw [breaks, hasBreak, breaksAll_eq_zero]
  | element name attributes children => rw [breaks, hasBreak, breaksAll_eq_zero]
  | column width wrap children => rw [breaks, hasBreak, breaksAll_eq_zero]

theorem breaksAll_eq_zero {ns : List Node} : breaksAll ns = 0 ↔ anyBreak ns = false := by
  cases ns with
  | nil => simp [breaksAll, anyBreak]
  | cons n ns =>
    rw [breaksAll, anyBreak, Nat.add_eq_zero_iff, Bool.or_eq_false_iff, breaks_eq_zero,
      breaksAll_eq_zero]

end

theorem breaksAll_of_not_anyBreak {ns : List Node} (h : ¬anyBreak ns = true) : breaksAll ns = 0 :=
  breaksAll_eq_zero.mpr (Bool.eq_false_iff.mpr h)

end Node

/-! ## Segments -/

namespace Line

open Node (breaks breaksAll breaksAll_append)

/-- The last segment of one row and the first one of the other become one. -/
theorem length_joinSegments {a b : List (List Node)} (ha : a ≠ []) (hb : b ≠ []) :
    (joinSegments a b).length + 1 = a.length + b.length := by
  induction a, b using joinSegments.induct with
  | case1 b => exact absurd rfl ha
  | case2 s => exact absurd rfl hb
  | case3 s t ts =>
    simp only [joinSegments, List.length_cons, List.length_nil]
    omega
  | case4 s s' rest b ih =>
    have hlength := ih (List.cons_ne_nil s' rest) hb
    simp only [joinSegments, List.length_cons] at hlength ⊢
    omega

mutual

theorem length_cut {n : Node} (h : n.isInline = true) : (cut n).length = n.breaks + 1 := by
  cases n with
  | text s => simp [cut, breaks]
  | lineBreak => simp [cut, breaks]
  | html raw => simp [cut, breaks]
  | paragraph children => simp [Node.isInline] at h
  | column width wrap children => simp [Node.isInline] at h
  | element name attributes children =>
    rw [Node.isInline] at h
    rw [cut, breaks]
    by_cases hb : Node.anyBreak children = true
    · rw [if_pos hb, List.length_map, length_cutAll h]
    · rw [if_neg hb, Node.breaksAll_of_not_anyBreak hb]
      rfl

/-- Inline content has one segment more than it has breaks. -/
theorem length_cutAll {ns : List Node} (h : Node.areInline ns = true) :
    (cutAll ns).length = breaksAll ns + 1 := by
  cases ns with
  | nil => simp [cutAll, breaksAll]
  | cons n ns =>
    rw [Node.areInline, Bool.and_eq_true] at h
    have hn := length_cut h.1
    have hns := length_cutAll h.2
    have hjoined := length_joinSegments (cut_ne_nil n) (cutAll_ne_nil ns)
    rw [cutAll, breaksAll]
    omega

end

theorem breaksAll_wrapSegment (name : Text) (attributes : List Attribute) (s : List Node) :
    breaksAll (wrapSegment name attributes s) = breaksAll s := by
  by_cases hs : s = []
  · rw [hs, wrapSegment_nil]
  · rw [wrapSegment_of_ne hs, breaksAll, breaksAll, breaks, Nat.add_zero]

mutual

theorem breaksAll_of_mem_cut {n : Node} (h : n.isInline = true) : ∀ s ∈ cut n, breaksAll s = 0 := by
  cases n with
  | text s => simp [cut, breaksAll, breaks]
  | lineBreak => simp [cut, breaksAll]
  | html raw => simp [cut, breaksAll, breaks]
  | paragraph children => simp [Node.isInline] at h
  | column width wrap children => simp [Node.isInline] at h
  | element name attributes children =>
    rw [Node.isInline] at h
    rw [cut]
    by_cases hb : Node.anyBreak children = true
    · rw [if_pos hb]
      intro s hs
      obtain ⟨t, ht, rfl⟩ := List.mem_map.mp hs
      rw [breaksAll_wrapSegment]
      exact breaksAll_of_mem_cutAll h t ht
    · rw [if_neg hb]
      intro s hs
      rw [List.mem_singleton.mp hs, breaksAll, breaksAll, breaks,
        Node.breaksAll_of_not_anyBreak hb]

theorem breaksAll_of_mem_cutAll {ns : List Node} (h : Node.areInline ns = true) :
    ∀ s ∈ cutAll ns, breaksAll s = 0 := by
  cases ns with
  | nil => simp [cutAll, breaksAll]
  | cons n ns =>
    rw [Node.areInline, Bool.and_eq_true] at h
    rw [cutAll]
    apply forall_mem_joinSegments _ (breaksAll_of_mem_cut h.1) (breaksAll_of_mem_cutAll h.2)
    intro s t hs ht
    rw [breaksAll_append, hs, ht]

end

theorem breaksAll_dropLeadingLineEnds (s : List Node) :
    breaksAll (dropLeadingLineEnds s) = breaksAll s := by
  unfold dropLeadingLineEnds
  split
  · rename_i t rest
    split
    · rw [breaksAll, breaks, Nat.zero_add]
    · rw [breaksAll, breaksAll, breaks, breaks]
  · rfl

/-! ## Lines of a node -/

theorem ofNode_of_isLine {n : Node} (h : n.IsLine) (source : Nat) :
    ofNode source n = [⟨source, n⟩] := by
  cases n with
  | paragraph children =>
    have hb : Node.anyBreak children = false := by
      rcases h with h | h
      · cases h
      · rwa [Node.hasBreak] at h
    rw [ofNode, if_neg (by simp [hb])]
  | _ =>
    rw [ofNode]
    simp

theorem ofNode_isLine {n : Node} (h : n.holdsInline = true) {source : Nat} {l : Line}
    (hl : l ∈ ofNode source n) : l.node.IsLine := by
  by_cases hn : n.IsLine
  · rw [ofNode_of_isLine hn, List.mem_singleton] at hl
    rw [hl]
    exact hn
  · cases n with
    | paragraph children =>
      have hb : Node.anyBreak children = true := by
        by_contra hb
        exact hn (Or.inr (by rw [Node.hasBreak]; exact Bool.eq_false_iff.mpr hb))
      rw [ofNode, if_pos hb] at hl
      obtain ⟨s, hs, rfl⟩ := List.mem_map.mp hl
      have hbreaks : breaksAll (dropLeadingLineEnds s) = 0 := by
        rw [breaksAll_dropLeadingLineEnds]
        exact breaksAll_of_mem_cutAll h s hs
      right
      rw [Node.hasBreak]
      exact Node.breaksAll_eq_zero.mp hbreaks
    | _ => exact absurd (Or.inl rfl) hn

theorem length_ofNode {n : Node} (h : n.holdsInline = true) (source : Nat) :
    (ofNode source n).length = breaksAll ([n].filter Node.isParagraph) + 1 := by
  cases n with
  | paragraph children =>
    have hfilter : breaksAll ([Node.paragraph children].filter Node.isParagraph) =
        breaksAll children := by
      rw [List.filter_cons_of_pos rfl, List.filter_nil, breaksAll, breaksAll, breaks, Nat.add_zero]
    rw [hfilter, ofNode]
    by_cases hb : Node.anyBreak children = true
    · rw [if_pos hb, List.length_map]
      exact length_cutAll h
    · rw [if_neg hb, Node.breaksAll_of_not_anyBreak hb]
      rfl
  | _ =>
    rw [ofNode]
    · rfl
    · simp

theorem map_node_ofNode (source i : Nat) (n : Node) :
    (ofNode source n).map (·.node) = (ofNode i n).map (·.node) := by
  cases n with
  | paragraph children =>
    rw [ofNode, ofNode]
    split
    · rw [List.map_map, List.map_map]
      rfl
    · rfl
  | _ => rfl

theorem map_node_ofNodesFrom (source : Nat) (ns : List Node) :
    (ofNodesFrom source ns).map (·.node) = ns.flatMap fun n => (ofNode 0 n).map (·.node) := by
  induction ns generalizing source with
  | nil => rfl
  | cons n ns ih =>
    rw [ofNodesFrom, List.map_append, ih, List.flatMap_cons, map_node_ofNode source 0]

theorem length_ofNodesFrom {ns : List Node} (h : ∀ n ∈ ns, n.holdsInline = true) (source : Nat) :
    (ofNodesFrom source ns).length = ns.length + breaksAll (ns.filter Node.isParagraph) := by
  induction ns generalizing source with
  | nil => rfl
  | cons n ns ih =>
    have hn := length_ofNode (h n List.mem_cons_self) source
    have hns := ih (fun m hm => h m (List.mem_cons_of_mem n hm)) (source + 1)
    have hfilter : (n :: ns).filter Node.isParagraph =
        [n].filter Node.isParagraph ++ ns.filter Node.isParagraph := by
      rw [← List.filter_append, List.singleton_append]
    rw [ofNodesFrom, List.length_append, hn, hns, hfilter, breaksAll_append, List.length_cons]
    omega

end Line

/-! ## Normalized content -/

theorem normalize_eq_flatMap (ns : List Node) :
    normalize ns = ns.flatMap fun n => (Line.ofNode 0 n).map (·.node) :=
  Line.map_node_ofNodesFrom 0 ns

theorem normalize_of_isLine {ns : List Node} (h : ∀ n ∈ ns, n.IsLine) : normalize ns = ns := by
  have hlines : ∀ n ∈ ns, (Line.ofNode 0 n).map (·.node) = [n] := by
    intro n hn
    rw [Line.ofNode_of_isLine (h n hn)]
    rfl
  rw [normalize_eq_flatMap, List.flatMap_congr hlines, List.flatMap_singleton']

theorem normalize_isLine {ns : List Node} (h : ∀ n ∈ ns, n.holdsInline = true) :
    ∀ n ∈ normalize ns, n.IsLine := by
  intro n hn
  rw [normalize_eq_flatMap, List.mem_flatMap] at hn
  obtain ⟨m, hm, hn⟩ := hn
  obtain ⟨l, hl, rfl⟩ := List.mem_map.mp hn
  exact Line.ofNode_isLine (h m hm) hl

/-- Content whose paragraphs hold inline content is normalized to lines.  No break is left in a
paragraph at any depth, so normalizing once more changes nothing.  There is a line for each node and
one more for each break in a paragraph, and a node that is no paragraph or has no break stays in its
place as it is. -/
theorem normalize_breaks {nodes : List Node} (h : ∀ n ∈ nodes, n.holdsInline = true) :
    (∀ n ∈ normalize nodes, n.isParagraph = true → n.hasBreak = false) ∧
      normalize (normalize nodes) = normalize nodes ∧
      (splitLines nodes).length =
        nodes.length + Node.breaksAll (nodes.filter Node.isParagraph) ∧
      ∀ front n rest, nodes = front ++ n :: rest → (n.isParagraph = false ∨ n.hasBreak = false) →
        normalize nodes = normalize front ++ n :: normalize rest := by
  have hlines := normalize_isLine h
  refine ⟨?_, normalize_of_isLine hlines, Line.length_ofNodesFrom h 0, ?_⟩
  · intro n hn hparagraph
    rcases hlines n hn with hother | hbreak
    · rw [hparagraph] at hother
      cases hother
    · exact hbreak
  · intro front n rest hnodes hn
    have hself : (Line.ofNode 0 n).map (·.node) = [n] := by
      rw [Line.ofNode_of_isLine hn]
      rfl
    rw [hnodes, normalize_eq_flatMap, List.flatMap_append, List.flatMap_cons, hself,
      ← normalize_eq_flatMap, ← normalize_eq_flatMap, List.singleton_append]

/-- Breaks at several depths, beside each other and at both ends, and a break outside of paragraphs. -/
def broken : List Node :=
  [.paragraph [.lineBreak, .tagged "em" [.text ['a'], .tagged "strong" [.lineBreak, .lineBreak]]],
    .tagged "ul" [.tagged "li" [.text ['b'], .lineBreak]],
    .paragraph [.tagged "em" [.text ['c']]]]

theorem normalize_breaks_nested :
    (∀ n ∈ broken, n.holdsInline = true) ∧
      normalize (normalize broken) = normalize broken ∧
      (splitLines broken).length = 6 ∧
      normalize broken =
        [.paragraph [], .paragraph [.tagged "em" [.text ['a']]], .paragraph [], .paragraph []] ++
          broken.drop 1 := by
  have h : ∀ n ∈ broken, n.holdsInline = true := by decide
  obtain ⟨_, hagain, hlength, _⟩ := normalize_breaks h
  exact ⟨h, hagain, hlength, by cbv⟩

/-- A paragraph in a paragraph keeps its break, and then a second pass finds more to take away. -/
example :
    let nodes : List Node := [.paragraph [.text ['\n'], .text ['\n'], .paragraph [.lineBreak]]]
    normalize nodes = [.paragraph [.text ['\n'], .paragraph [.lineBreak]]] ∧
      normalize (normalize nodes) = [.paragraph [.paragraph [.lineBreak]]] := by
  constructor <;> cbv

end ColumnBlocks
