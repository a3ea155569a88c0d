import ColumnBlocks.Proofs.Classification
import Mathlib.Data.List.Forall2
import Mathlib.Data.List.SplitBy

/-!
# Columns

The columns of a block, said without the loop that fills them.  The lines of a block fall into
stretches, which the dividing lines separate, and a stretch falls into runs, which are the longest
rows of lines that belong together.  `ColumnBuilder.fill_content` and `ColumnBuilder.fill_width` are
the two facts about the loop, and everything else about columns follows from them.
-/

namespace ColumnBlocks

namespace Line

def isContent (l : Line) : Bool := l.marker?.isNone

def isDivider (l : Line) : Bool := l.marker?.any Marker.isDivider

def inline (l : Line) : List Node :=
  match l.node with
  | .paragraph children => children
  | _ => []

/-- Whether two neighbours belong together: content lines that were cut from one paragraph. -/
def joins (a b : Line) : Bool :=
  (a.isContent && a.isParagraph) && (b.isContent && b.isParagraph) && a.source == b.source

/-- What a run of lines is in its column: one paragraph with breaks between its lines, a node that is
no paragraph as it is, and nothing for a marker line. -/
def fold : List Line → List Node
  | [] => []
  | l :: ls =>
    if l.isContent then
      if l.isParagraph then [.paragraph ([.lineBreak].intercalate ((l :: ls).map inline))]
      else [l.node]
    else []

/-- The content of a column whose lines are `ls`. -/
def content (ls : List Line) : List Node := (ls.splitBy joins).flatMap fold

theorem isDivider_of_isContent {l : Line} (h : l.isContent = true) : l.isDivider = false := by
  have hm : l.marker? = none := by simpa [isContent] using h
  rw [isDivider, hm]
  rfl

theorem node_eq_of_isParagraph {l : Line} (h : l.isParagraph = true) :
    l.node = .paragraph l.inline := by
  cases hn : l.node <;> simp_all [isParagraph, inline]

theorem joins_iff {a b : Line} :
    joins a b = true ↔ (a.isContent = true ∧ a.isParagraph = true) ∧
      (b.isContent = true ∧ b.isParagraph = true) ∧ a.source = b.source := by
  simp [joins, and_assoc]

@[simp] theorem content_nil : content [] = [] := rfl

/-- Where two neighbours do not belong together, the content before and after them is independent. -/
theorem content_append {a b : List Line}
    (h : ∀ x ∈ a.getLast?, ∀ y ∈ b.head?, joins x y = false) :
    content (a ++ b) = content a ++ content b := by
  rw [content, List.splitBy_append h, List.flatMap_append]
  rfl

theorem content_singleton (l : Line) : content [l] = fold [l] := by
  simp [content, List.splitBy, List.splitBy.loop]

theorem content_append_cons {l : Line} (hl : ∀ m, joins m l = false ∧ joins l m = false)
    (a b : List Line) : content (a ++ l :: b) = content a ++ fold [l] ++ content b := by
  have hright : content (l :: b) = fold [l] ++ content b := by
    rw [← List.singleton_append, content_append (a := [l]), content_singleton]
    intro x hx y _
    have hx : x = l := by simpa [eq_comm] using hx
    rw [hx]
    exact (hl y).2
  rw [content_append, hright, List.append_assoc]
  intro x _ y hy
  have hy : y = l := by simpa [eq_comm] using hy
  rw [hy]
  exact (hl x).1

theorem content_append_marker {l : Line} (hl : l.isContent = false) (a b : List Line) :
    content (a ++ l :: b) = content a ++ content b := by
  rw [content_append_cons (l := l), fold, hl]
  · simp
  · intro m
    simp [joins, hl]

theorem content_run {ls : List Line} {source : Nat} (hne : ls ≠ [])
    (h : ∀ l ∈ ls, l.isContent = true ∧ l.isParagraph = true ∧ l.source = source) :
    content ls = [.paragraph ([.lineBreak].intercalate (ls.map inline))] := by
  have hchain : ls.IsChain fun a b => joins a b = true := by
    refine List.Pairwise.isChain (List.pairwise_of_forall_mem_list ?_)
    intro a ha b hb
    obtain ⟨hac, hap, has⟩ := h a ha
    obtain ⟨hbc, hbp, hbs⟩ := h b hb
    exact joins_iff.mpr ⟨⟨hac, hap⟩, ⟨hbc, hbp⟩, has.trans hbs.symm⟩
  rw [content, List.splitBy_of_isChain hne hchain]
  cases ls with
  | nil => exact absurd rfl hne
  | cons l ls =>
    obtain ⟨hc, hp, _⟩ := h l List.mem_cons_self
    simp [fold, hc, hp]

end Line

namespace Marker

/-- The widths of the columns that some markers give, the first column having the width `w` until an
opening marker gives it another. -/
def placed (w : Nat) : List Marker → List Nat
  | [] => [w]
  | opens v :: ms => placed v ms
  | divides v :: ms => w :: placed v ms
  | closes _ :: ms => placed w ms

end Marker

theorem intercalate_concat {α : Type} {pieces : List (List α)} (h : pieces ≠ []) (sep : α)
    (piece : List α) :
    [sep].intercalate (pieces ++ [piece]) = [sep].intercalate pieces ++ sep :: piece := by
  induction pieces with
  | nil => exact absurd rfl h
  | cons p ps ih =>
    cases ps with
    | nil => simp [List.intercalate_cons_cons]
    | cons q ps =>
      rw [List.cons_append, List.cons_append, List.intercalate_cons_cons, ← List.cons_append,
        ih (List.cons_ne_nil q ps), List.intercalate_cons_cons]
      simp

namespace ColumnBuilder

/-! ## The loop -/

/-- The paragraph that further lines may join consists of the lines of `run`. -/
def Gathers (b : ColumnBuilder) (run : List Line) : Prop :=
  match b.joining with
  | none => run = []
  | some (source, held) =>
    run ≠ [] ∧ (∀ l ∈ run, l.isContent = true ∧ l.isParagraph = true ∧ l.source = source) ∧
      held = [.lineBreak].intercalate (run.map Line.inline)

theorem content_eq {b : ColumnBuilder} {run : List Line} (hb : b.Gathers run) :
    b.content = b.done ++ Line.content run := by
  cases hj : b.joining with
  | none =>
    have hrun : run = [] := by simpa only [Gathers, hj] using hb
    simp [content, hj, hrun]
  | some joining =>
    obtain ⟨source, held⟩ := joining
    simp only [Gathers, hj] at hb
    obtain ⟨hne, hrun, hheld⟩ := hb
    simp only [content, hj]
    rw [Line.content_run hne hrun, hheld]

theorem settle_gathers (b : ColumnBuilder) : b.settle.Gathers [] := rfl

theorem settle_step {b : ColumnBuilder} {run : List Line} (hb : b.Gathers run) {l : Line}
    (hl : l.isContent = false) (rest : List Line) :
    b.done ++ Line.content (run ++ l :: rest) = b.settle.done ++ Line.content rest := by
  have hdone : b.settle.done = b.content := rfl
  rw [Line.content_append_marker hl, hdone, content_eq hb, List.append_assoc]

theorem add_other {b : ColumnBuilder} {l : Line} (hp : l.isParagraph = false) :
    b.add l = { b with done := b.content ++ [l.node], joining := none } := by
  unfold add
  split
  · rename_i hn
    simp [Line.isParagraph, hn] at hp
  · rfl

theorem add_joins {b : ColumnBuilder} {l : Line} {held : List Node} (hp : l.isParagraph = true)
    (hj : b.joining = some (l.source, held)) :
    b.add l = { b with joining := some (l.source, held ++ .lineBreak :: l.inline) } := by
  simp only [add, Line.node_eq_of_isParagraph hp, hj, if_true]

theorem add_starts {b : ColumnBuilder} {l : Line} (hp : l.isParagraph = true)
    (hj : ∀ held, b.joining ≠ some (l.source, held)) :
    b.add l = { b.settle with joining := some (l.source, l.inline) } := by
  have hn := Line.node_eq_of_isParagraph hp
  cases h : b.joining with
  | none => simp only [add, hn, settle, content, h]
  | some joining =>
    obtain ⟨source, held⟩ := joining
    have hs : source ≠ l.source := by
      rintro rfl
      exact hj held h
    simp only [add, hn, h, if_neg hs]

/-- A paragraph line of another paragraph does not join the run. -/
theorem not_joins_of_gathers {b : ColumnBuilder} {run : List Line} (hb : b.Gathers run) {l : Line}
    (hj : ∀ held, b.joining ≠ some (l.source, held)) :
    ∀ x ∈ run.getLast?, Line.joins x l = false := by
  intro x hx
  have hmem := List.mem_of_getLast? hx
  cases h : b.joining with
  | none =>
    have hrun : run = [] := by simpa only [Gathers, h] using hb
    rw [hrun] at hmem
    exact absurd hmem List.not_mem_nil
  | some joining =>
    obtain ⟨source, held⟩ := joining
    simp only [Gathers, h] at hb
    have hsource : x.source = source := (hb.2.1 x hmem).2.2
    rw [Bool.eq_false_iff]
    intro hjoins
    have hsame : x.source = l.source := (Line.joins_iff.mp hjoins).2.2
    exact hj held (by rw [h, ← hsource, hsame])

/-- The step of the loop at a content line: the line joins the run or starts a new one, and the lines
that follow are dealt with in the same way. -/
theorem add_step {b : ColumnBuilder} {run : List Line} (hb : b.Gathers run) {l : Line}
    (hl : l.isContent = true) :
    ∃ run', (b.add l).Gathers run' ∧ ∀ rest,
      b.done ++ Line.content (run ++ l :: rest) =
        (b.add l).done ++ Line.content (run' ++ rest) := by
  by_cases hp : l.isParagraph = true
  · by_cases hj : ∃ held, b.joining = some (l.source, held)
    · obtain ⟨held, hj⟩ := hj
      have hrun := hb
      simp only [Gathers, hj] at hrun
      obtain ⟨hne, hall, hheld⟩ := hrun
      have hmap : run.map Line.inline ≠ [] := by simpa using hne
      rw [add_joins hp hj]
      refine ⟨run ++ [l], ⟨by simp, ?_, ?_⟩, ?_⟩
      · intro x hx
        rcases List.mem_append.mp hx with hx | hx
        · exact hall x hx
        · rw [List.mem_singleton.mp hx]
          exact ⟨hl, hp, rfl⟩
      · rw [hheld, List.map_append, List.map_singleton]
        exact (intercalate_concat hmap .lineBreak l.inline).symm
      · intro rest
        rw [List.append_assoc, List.singleton_append]
    · have hj : ∀ held, b.joining ≠ some (l.source, held) := not_exists.mp hj
      rw [add_starts hp hj]
      refine ⟨[l], ⟨List.cons_ne_nil l [], ?_, by simp⟩, ?_⟩
      · intro x hx
        rw [List.mem_singleton.mp hx]
        exact ⟨hl, hp, rfl⟩
      · intro rest
        show b.done ++ Line.content (run ++ l :: rest) = b.content ++ Line.content (l :: rest)
        rw [content_eq hb, List.append_assoc, Line.content_append]
        intro x hx y hy
        obtain rfl : l = y := by simpa using hy
        exact not_joins_of_gathers hb hj x hx
  · have hp : l.isParagraph = false := by simpa using hp
    rw [add_other hp]
    refine ⟨[], rfl, ?_⟩
    intro rest
    rw [Line.content_append_cons (l := l), content_eq hb]
    · simp [Line.fold, hl, hp]
    · intro m
      simp [Line.joins, hp]

theorem splitOnP_cons_of_not {α : Type} {p : α → Bool} {a : α} {as t : List α} {ts : List (List α)}
    (ha : p a = false) (h : as.splitOnP p = t :: ts) : (a :: as).splitOnP p = (a :: t) :: ts := by
  rw [List.splitOnP_cons_eq_if_modifyHead, h, ha]
  rfl

/-- The columns hold the stretches of the lines, the lines of the run being in front of the first. -/
theorem fill_content {b : ColumnBuilder} {run : List Line} (hb : b.Gathers run)
    {ls s : List Line} {ss : List (List Line)} (h : ls.splitOnP Line.isDivider = s :: ss) :
    (fill b ls).map content = (b.done ++ Line.content (run ++ s)) :: ss.map Line.content := by
  -- The run is kept apart from the stretch because a line may still join it.
  induction ls generalizing b run s ss with
  | nil =>
    obtain ⟨rfl, rfl⟩ : [] = s ∧ [] = ss := by simpa [List.splitOnP_nil] using h
    simp [fill, content_eq hb]
  | cons l ls ih =>
    obtain ⟨t, ts, ht⟩ := List.exists_cons_of_ne_nil (List.splitOnP_ne_nil Line.isDivider ls)
    rw [fill]
    split
    · rename_i w hm
      have hd : l.isDivider = false := by simp [Line.isDivider, hm, Marker.isDivider]
      obtain ⟨rfl, rfl⟩ := List.cons.inj ((splitOnP_cons_of_not hd ht).symm.trans h)
      have hb' : Gathers { b.settle with width := w } [] := rfl
      rw [settle_step hb (by simp [Line.isContent, hm])]
      exact ih hb' ht
    · rename_i c hm
      have hd : l.isDivider = false := by simp [Line.isDivider, hm, Marker.isDivider]
      obtain ⟨rfl, rfl⟩ := List.cons.inj ((splitOnP_cons_of_not hd ht).symm.trans h)
      rw [settle_step hb (by simp [Line.isContent, hm])]
      exact ih (settle_gathers b) ht
    · rename_i w hm
      have hd : l.isDivider = true := by simp [Line.isDivider, hm, Marker.isDivider]
      rw [List.splitOnP_cons_eq_if_modifyHead, if_pos hd, ht] at h
      obtain ⟨rfl, rfl⟩ := List.cons.inj h
      have hb' : Gathers { width := w } [] := rfl
      rw [List.map_cons, content_eq hb, List.append_nil, List.map_cons, ih hb' ht]
      rfl
    · rename_i hm
      have hc : l.isContent = true := by simp [Line.isContent, hm]
      have hd := Line.isDivider_of_isContent hc
      obtain ⟨rfl, rfl⟩ := List.cons.inj ((splitOnP_cons_of_not hd ht).symm.trans h)
      obtain ⟨run', hb', hstep⟩ := add_step hb hc
      rw [hstep]
      exact ih hb' ht

theorem add_width (b : ColumnBuilder) (l : Line) : (b.add l).width = b.width := by
  unfold add
  split
  · split
    · split <;> rfl
    · rfl
  · rfl

theorem fill_width (b : ColumnBuilder) (ls : List Line) :
    (fill b ls).map (·.width) = Marker.placed b.width (ls.filterMap Line.marker?) := by
  induction ls generalizing b with
  | nil => rfl
  | cons l ls ih =>
    rw [fill]
    split
    · rename_i hm
      rw [ih, List.filterMap_cons_some hm, Marker.placed]
    · rename_i hm
      rw [ih, List.filterMap_cons_some hm, Marker.placed]
      rfl
    · rename_i hm
      rw [List.map_cons, ih, List.filterMap_cons_some hm, Marker.placed]
    · rename_i hm
      rw [ih, List.filterMap_cons_none hm, add_width]

end ColumnBuilder

/-! ## Blocks -/

def Node.columnWidth? : Node → Option Nat
  | .column width _ _ => some width
  | _ => none

/-- The stretches of some lines, one for each column. -/
def stretches (ls : List Line) : List (List Line) := ls.splitOnP Line.isDivider

theorem fill_stretches (w : Nat) (ls : List Line) :
    (ColumnBuilder.fill { width := w } ls).map ColumnBuilder.content =
      (stretches ls).map Line.content := by
  obtain ⟨s, ss, h⟩ := List.exists_cons_of_ne_nil (List.splitOnP_ne_nil Line.isDivider ls)
  have hb : ColumnBuilder.Gathers { width := w } [] := rfl
  rw [stretches, h, ColumnBuilder.fill_content hb h]
  rfl

/-- The columns of a block are the stretches of its lines, with the widths that its markers give. -/
theorem renderBlock_eq (nodes : List Node) (wrap : Bool) :
    renderBlock nodes wrap =
      List.zipWith (fun width s => .column width wrap (Line.content s))
        (Marker.placed 1 ((splitLines nodes).filterMap Line.marker?))
        (stretches (splitLines nodes)) := by
  let columns := ColumnBuilder.fill { width := 1 } (splitLines nodes)
  have hwidth := ColumnBuilder.fill_width { width := 1 } (splitLines nodes)
  have hcontent := fill_stretches 1 (splitLines nodes)
  calc renderBlock nodes wrap
      = List.zipWith (fun b b' => .column b.width wrap b'.content) columns columns := by
        rw [List.zipWith_self]
        rfl
    _ = List.zipWith (fun width content => .column width wrap content)
          (columns.map (·.width)) (columns.map ColumnBuilder.content) := by rw [List.zipWith_map]
    _ = List.zipWith (fun width s => .column width wrap (Line.content s))
          (Marker.placed 1 ((splitLines nodes).filterMap Line.marker?))
          (stretches (splitLines nodes)) := by rw [hwidth, hcontent, List.zipWith_map_right]

theorem renderBlock_widths (nodes : List Node) (wrap : Bool) :
    (renderBlock nodes wrap).filterMap Node.columnWidth? =
      Marker.placed 1 ((splitLines nodes).filterMap Line.marker?) := by
  have hwidth := ColumnBuilder.fill_width { width := 1 } (splitLines nodes)
  rw [renderBlock, List.filterMap_map, ← hwidth]
  exact congrFun List.filterMap_eq_map _

end ColumnBlocks
