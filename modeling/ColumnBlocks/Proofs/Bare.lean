import ColumnBlocks.Node.PlainText
import ColumnBlocks.Proofs.Columns

/-!
# Bare nodes

A column has one field that says nothing about its content, the wrap flag.  Without these flags a node
is bare.  The plain text of a node, its lines, their markers and the columns made of them are those of
the bare node, since no step on the way looks at a wrap flag.
-/

namespace ColumnBlocks

namespace Node

mutual

/-- A node without the wrap flags of its columns, at any depth. -/
def bare : Node → Node
  | text s => text s
  | lineBreak => lineBreak
  | html raw => html raw
  | paragraph children => paragraph (bareAll children)
  | element name attributes children => element name attributes (bareAll children)
  | column width _ children => column width false (bareAll children)

def bareAll : List Node → List Node
  | [] => []
  | n :: ns => bare n :: bareAll ns

end

theorem bareAll_eq_map (ns : List Node) : bareAll ns = ns.map bare := by
  induction ns with
  | nil => rw [bareAll, List.map_nil]
  | cons n ns ih => rw [bareAll, ih, List.map_cons]

theorem bareAll_append (a b : List Node) : bareAll (a ++ b) = bareAll a ++ bareAll b := by
  rw [bareAll_eq_map, bareAll_eq_map, bareAll_eq_map, List.map_append]

mutual

/-- The wrap flag of a column is not written. -/
theorem write_bare (s : Bool) (n : Node) : write s n.bare = write s n := by
  cases n with
  | text t => rw [bare]
  | lineBreak => rw [bare]
  | html raw => rw [bare]
  | paragraph children =>
    rw [bare, write, write, writeBlock, writeBlock, writeAll_bareAll]
  | element name attributes children =>
    rw [bare, write, write, writeBlock, writeBlock, writeAll_bareAll, writeAll_bareAll]
  | column width wrap children =>
    rw [bare, write, write, writeBlock, writeBlock, writeAll_bareAll]

theorem writeAll_bareAll (s : Bool) (ns : List Node) : writeAll s (bareAll ns) = writeAll s ns := by
  cases ns with
  | nil => rw [bareAll]
  | cons n ns => rw [bareAll, writeAll, writeAll, write_bare, writeAll_bareAll]

end

mutual

theorem hasBreak_bare (n : Node) : n.bare.hasBreak = n.hasBreak := by
  cases n with
  | text t => rw [bare]
  | lineBreak => rw [bare]
  | html raw => rw [bare]
  | paragraph children => rw [bare, hasBreak, hasBreak, anyBreak_bareAll]
  | element name attributes children => rw [bare, hasBreak, hasBreak, anyBreak_bareAll]
  | column width wrap children => rw [bare, hasBreak, hasBreak, anyBreak_bareAll]

theorem anyBreak_bareAll (ns : List Node) : anyBreak (bareAll ns) = anyBreak ns := by
  cases ns with
  | nil => rw [bareAll]
  | cons n ns => rw [bareAll, anyBreak, anyBreak, hasBreak_bare, anyBreak_bareAll]

end

end Node

/-! ## Lines -/

namespace Line

def bare (l : Line) : Line := ⟨l.source, l.node.bare⟩

theorem joinSegments_map (g : List Node → List Node) (hg : ∀ a b, g (a ++ b) = g a ++ g b)
    (ss ts : List (List Node)) :
    joinSegments (ss.map g) (ts.map g) = (joinSegments ss ts).map g := by
  induction ss, ts using joinSegments.induct with
  | case1 ts => rfl
  | case2 s => rfl
  | case3 s t ts => simp only [List.map_cons, List.map_nil, joinSegments, hg]
  | case4 s s' rest ts ih =>
    simp only [List.map_cons, joinSegments] at ih ⊢
    rw [ih]

theorem wrapSegment_bareAll (name : Text) (attributes : List Attribute) (segment : List Node) :
    wrapSegment name attributes (Node.bareAll segment) =
      Node.bareAll (wrapSegment name attributes segment) := by
  cases segment with
  | nil => rw [Node.bareAll]; rfl
  | cons n ns => simp [wrapSegment, Node.bareAll, Node.bare]

mutual

theorem cut_bare (n : Node) : cut n.bare = (cut n).map Node.bareAll := by
  cases n with
  | element name attributes children =>
    rw [Node.bare, cut, cut, Node.anyBreak_bareAll]
    split
    · rw [cutAll_bareAll, List.map_map, List.map_map]
      exact List.map_congr_left fun segment _ => wrapSegment_bareAll name attributes segment
    · simp [Node.bareAll, Node.bare]
  | text t => simp [cut, Node.bareAll, Node.bare]
  | lineBreak => simp [cut, Node.bareAll, Node.bare]
  | html raw => simp [cut, Node.bareAll, Node.bare]
  | paragraph children => simp [cut, Node.bareAll, Node.bare]
  | column width wrap children => simp [cut, Node.bareAll, Node.bare]

theorem cutAll_bareAll (ns : List Node) :
    cutAll (Node.bareAll ns) = (cutAll ns).map Node.bareAll := by
  cases ns with
  | nil => simp [cutAll, Node.bareAll]
  | cons n ns =>
    rw [Node.bareAll, cutAll, cutAll, cut_bare, cutAll_bareAll,
      joinSegments_map Node.bareAll Node.bareAll_append]

end

theorem dropLeadingLineEnds_bareAll (ns : List Node) :
    dropLeadingLineEnds (Node.bareAll ns) = Node.bareAll (dropLeadingLineEnds ns) := by
  cases ns with
  | nil => rw [Node.bareAll]; rfl
  | cons n ns =>
    cases n with
    | text t =>
      rw [Node.bareAll, Node.bare, dropLeadingLineEnds, dropLeadingLineEnds]
      split
      · rfl
      · rw [Node.bareAll, Node.bare]
    | _ => simp [Node.bareAll, Node.bare, dropLeadingLineEnds]

theorem ofNode_bare (source : Nat) (n : Node) :
    ofNode source n.bare = (ofNode source n).map bare := by
  cases n with
  | paragraph children =>
    rw [Node.bare, ofNode, ofNode, Node.anyBreak_bareAll]
    split
    · rw [cutAll_bareAll, List.map_map, List.map_map]
      refine List.map_congr_left fun segment _ => ?_
      simp only [Function.comp, bare, Node.bare, dropLeadingLineEnds_bareAll]
    · simp [bare, Node.bare]
  | _ => simp [ofNode, bare, Node.bare]

theorem ofNodesFrom_bareAll (source : Nat) (ns : List Node) :
    ofNodesFrom source (Node.bareAll ns) = (ofNodesFrom source ns).map bare := by
  induction ns generalizing source with
  | nil => rw [Node.bareAll]; rfl
  | cons n ns ih =>
    rw [Node.bareAll, ofNodesFrom, ofNodesFrom, ofNode_bare, ih, List.map_append]

theorem leadingText?_bareAll (ns : List Node) :
    leadingText? (Node.bareAll ns) = leadingText? ns := by
  induction ns using leadingText?.induct with
  | case1 t rest => simp [Node.bareAll, Node.bare, leadingText?]
  | case2 name attributes children rest ih =>
    rw [Node.bareAll, Node.bare, leadingText?, leadingText?, ih]
  | case3 ns htext helement =>
    cases ns with
    | nil => rw [Node.bareAll]
    | cons n ns =>
      cases n with
      | text t => exact absurd rfl (htext t ns)
      | element name attributes children => exact absurd rfl (helement name attributes children ns)
      | _ => simp [Node.bareAll, Node.bare, leadingText?]

theorem isParagraph_bare (l : Line) : l.bare.isParagraph = l.isParagraph := by
  obtain ⟨source, n⟩ := l
  cases n <;> simp [bare, Node.bare, isParagraph]

theorem inline_bare (l : Line) : l.bare.inline = Node.bareAll l.inline := by
  obtain ⟨source, n⟩ := l
  cases n <;> simp [bare, Node.bare, inline, Node.bareAll]

/-- No marker is hidden and none is shown. -/
theorem marker?_bare (l : Line) : l.bare.marker? = l.marker? := by
  obtain ⟨source, n⟩ := l
  cases n with
  | paragraph children => simp only [bare, Node.bare, marker?, leadingText?_bareAll]
  | _ => simp [bare, Node.bare, marker?]

end Line

theorem splitLines_bareAll (ns : List Node) :
    splitLines (Node.bareAll ns) = (splitLines ns).map Line.bare :=
  Line.ofNodesFrom_bareAll 0 ns

/-! ## Columns -/

namespace ColumnBuilder

def bare (b : ColumnBuilder) : ColumnBuilder where
  width := b.width
  done := Node.bareAll b.done
  joining := b.joining.map fun (source, held) => (source, Node.bareAll held)

theorem content_bare (b : ColumnBuilder) : b.bare.content = Node.bareAll b.content := by
  obtain ⟨width, done, joining⟩ := b
  cases joining with
  | none => rfl
  | some joining => simp [bare, content, Node.bareAll_append, Node.bareAll, Node.bare]

theorem settle_bare (b : ColumnBuilder) : b.bare.settle = b.settle.bare := by
  simp only [settle, content_bare]
  rfl

theorem add_bare (b : ColumnBuilder) (l : Line) : b.bare.add l.bare = (b.add l).bare := by
  have hbare := Line.isParagraph_bare l
  cases hp : l.isParagraph with
  | true =>
    rw [hp] at hbare
    by_cases hj : ∃ held, b.joining = some (l.source, held)
    · obtain ⟨held, hj⟩ := hj
      have hj' : b.bare.joining = some (l.bare.source, Node.bareAll held) := by
        simp [bare, hj, Line.bare]
      rw [add_joins hp hj, add_joins hbare hj', Line.inline_bare]
      simp [bare, Line.bare, Node.bareAll_append, Node.bareAll, Node.bare]
    · have hj : ∀ held, b.joining ≠ some (l.source, held) := not_exists.mp hj
      have hj' : ∀ held, b.bare.joining ≠ some (l.bare.source, held) := by
        intro held h
        obtain ⟨joining, hjoining, hheld⟩ := Option.map_eq_some_iff.mp h
        have hsource : joining.1 = l.source := congrArg Prod.fst hheld
        exact hj joining.2 (by rw [hjoining, ← hsource])
      rw [add_starts hp hj, add_starts hbare hj', settle_bare, Line.inline_bare]
      rfl
  | false =>
    rw [hp] at hbare
    rw [add_other hp, add_other hbare, content_bare]
    simp [bare, Line.bare, Node.bareAll_append, Node.bareAll]

theorem fill_bare (b : ColumnBuilder) (ls : List Line) :
    fill b.bare (ls.map Line.bare) = (fill b ls).map bare := by
  induction ls generalizing b with
  | nil => rfl
  | cons l ls ih =>
    rw [List.map_cons, fill, fill, Line.marker?_bare]
    split
    · rename_i w hm
      rw [settle_bare]
      exact ih { b.settle with width := w }
    · rw [settle_bare, ih]
    · rename_i w hm
      exact congrArg (b.bare :: ·) (ih { width := w })
    · rw [add_bare, ih]

theorem build_bare (wrap : Bool) (b : ColumnBuilder) :
    (b.build wrap).bare = b.bare.build false := by
  rw [build, build, Node.bare, content_bare]
  rfl

end ColumnBuilder

/-- The columns of a block are those of its bare nodes, but for their wrap flags. -/
theorem bareAll_renderBlock (ns : List Node) (wrap : Bool) :
    Node.bareAll (renderBlock ns wrap) = renderBlock (Node.bareAll ns) false := by
  have hfill := ColumnBuilder.fill_bare { width := 1 } (splitLines ns)
  calc Node.bareAll (renderBlock ns wrap)
      = (ColumnBuilder.fill { width := 1 } (splitLines ns)).map fun b => (b.build wrap).bare := by
        rw [Node.bareAll_eq_map, renderBlock, List.map_map]
        rfl
    _ = ((ColumnBuilder.fill { width := 1 } (splitLines ns)).map ColumnBuilder.bare).map
          (ColumnBuilder.build false) := by
        rw [List.map_map]
        exact List.map_congr_left fun b _ => ColumnBuilder.build_bare wrap b
    _ = renderBlock (Node.bareAll ns) false := by
        rw [← hfill, renderBlock, splitLines_bareAll]
        rfl

theorem filterMap_columnWidth?_bareAll (ns : List Node) :
    (Node.bareAll ns).filterMap Node.columnWidth? = ns.filterMap Node.columnWidth? := by
  rw [Node.bareAll_eq_map, List.filterMap_map]
  congr 1
  funext n
  cases n <;> simp [Node.bare, Node.columnWidth?]

end ColumnBlocks
