import ColumnBlocks.Proofs.Columns
import ColumnBlocks.Proofs.PlainText

/-!
# Paragraphs of plain lines

A paragraph that consists of lines of text with breaks between them writes these lines and is cut
into them again.  A line keeps the number of its paragraph, and the lines of a column that have one
number form a paragraph again.
-/

namespace ColumnBlocks

/-- A text that stands on one line and fills it. -/
structure Text.IsLine (l : Text) : Prop where
  ne_nil : l ≠ []
  lf : '\n' ∉ l
  cr : '\r' ∉ l

instance (l : Text) : Decidable l.IsLine :=
  decidable_of_iff (l ≠ [] ∧ '\n' ∉ l ∧ '\r' ∉ l)
    ⟨fun ⟨hne, hlf, hcr⟩ => ⟨hne, hlf, hcr⟩, fun h => ⟨h.ne_nil, h.lf, h.cr⟩⟩

namespace Node

/-- The paragraph with the lines `ls`. -/
def ofLines (ls : List Text) : Node :=
  .paragraph ([.lineBreak].intercalate (ls.map fun l => [.text l]))

/-! ## Plain text -/

theorem writeAll_lines (s : Bool) (ls : List Text) :
    writeAll s ([.lineBreak].intercalate (ls.map fun l => [.text l])) = ['\n'].intercalate ls := by
  induction ls generalizing s with
  | nil => rw [List.map_nil, List.intercalate_nil, List.intercalate_nil, writeAll]
  | cons l ls ih =>
    cases ls with
    | nil =>
      rw [List.map_singleton, List.intercalate_singleton, List.intercalate_singleton, writeAll,
        writeAll, write, List.append_nil]
    | cons l' ls =>
      rw [List.map_cons] at ih
      rw [List.map_cons, List.map_cons, List.intercalate_cons_cons, List.intercalate_cons_cons,
        List.append_assoc, List.singleton_append, List.singleton_append, writeAll, writeAll,
        write, write, ih, List.append_assoc]

theorem intercalate_lf {ls : List Text} (hne : ls ≠ []) :
    ['\n'].intercalate ls ++ ['\n'] = ls.flatMap (· ++ ['\n']) := by
  induction ls with
  | nil => exact absurd rfl hne
  | cons l ls ih =>
    cases ls with
    | nil => simp
    | cons l' ls =>
      rw [List.intercalate_cons_cons, List.append_assoc, ih (List.cons_ne_nil l' ls),
        List.flatMap_cons (x := l)]

theorem lineStartAfter_line {l : Text} (hl : l.IsLine) (s : Bool) : lineStartAfter s l = false := by
  rcases List.eq_nil_or_concat l with rfl | ⟨a, c, rfl⟩
  · exact absurd rfl hl.ne_nil
  · have hc : c ≠ '\n' := by
      intro e
      refine hl.lf ?_
      rw [e, List.concat_eq_append]
      exact List.mem_append_right a List.mem_cons_self
    simpa [lineStartAfter] using hc

theorem lineStartAfter_lines {ls : List Text} (hne : ls ≠ []) (h : ∀ l ∈ ls, l.IsLine) (s : Bool) :
    lineStartAfter s (['\n'].intercalate ls) = false := by
  induction ls generalizing s with
  | nil => exact absurd rfl hne
  | cons l ls ih =>
    cases ls with
    | nil =>
      rw [List.intercalate_singleton]
      exact lineStartAfter_line (h l List.mem_cons_self) s
    | cons l' ls =>
      rw [List.intercalate_cons_cons, lineStartAfter_append]
      exact ih (List.cons_ne_nil l' ls) (fun m hm => h m (List.mem_cons_of_mem l hm)) _

theorem plainText_ofLines {ls : List Text} (hne : ls ≠ []) (h : ∀ l ∈ ls, l.IsLine) :
    (ofLines ls).plainText = ls.flatMap (· ++ ['\n']) := by
  rw [plainText, ofLines, write, writeBlock, writeAll_lines, lineStartAfter_lines hne h,
    newLine_true, newLine_false, List.nil_append, intercalate_lf hne]

theorem lines_ofLines {ps : List (List Text)} (h : ∀ ls ∈ ps, ls ≠ [] ∧ ∀ l ∈ ls, l.IsLine) :
    Text.lines (plainTextAll (ps.map ofLines)) = ps.flatten := by
  have halone : ∀ n ∈ ps.map ofLines, n.standsAlone = true := by
    intro n hn
    obtain ⟨ls, _, rfl⟩ := List.mem_map.mp hn
    rfl
  have hread : ∀ ls ∈ ps, Text.lines (ofLines ls).plainText = ls := by
    intro ls hls
    obtain ⟨hne, hlines⟩ := h ls hls
    rw [plainText_ofLines hne hlines]
    exact Text.lines_flatMap fun l hl => ⟨(hlines l hl).lf, (hlines l hl).cr⟩
  rw [lines_plainTextAll halone, List.flatMap_map, List.flatMap_congr hread, List.flatMap_id']

end Node

/-! ## Numbered lines -/

/-- The lines of some paragraphs, each with the number of its paragraph, counted from `i` on. -/
def numbered (i : Nat) : List (List Text) → List (Nat × Text)
  | [] => []
  | ls :: ps => ls.map (fun l => (i, l)) ++ numbered (i + 1) ps

theorem map_numbered (i : Nat) (ps : List (List Text)) :
    (numbered i ps).map Prod.snd = ps.flatten := by
  induction ps generalizing i with
  | nil => rfl
  | cons ls ps ih =>
    rw [numbered, List.map_append, ih, List.flatten_cons, List.map_map]
    show ls.map id ++ ps.flatten = ls ++ ps.flatten
    rw [List.map_id]

namespace Line

def ofNumbered (a : Nat × Text) : Line := ⟨a.1, .paragraph [.text a.2]⟩

theorem marker?_ofNumbered (a : Nat × Text) : (ofNumbered a).marker? = Marker.ofLine? a.2 := by
  show (leadingText? [.text a.2]).bind Marker.ofLine? = Marker.ofLine? a.2
  rw [leadingText?, Option.bind_some]

theorem cutAll_lines {ls : List Text} (hne : ls ≠ []) :
    cutAll ([.lineBreak].intercalate (ls.map fun l => [.text l])) =
      ls.map fun l => [.text l] := by
  induction ls with
  | nil => exact absurd rfl hne
  | cons l ls ih =>
    cases ls with
    | nil =>
      rw [List.map_singleton, List.intercalate_singleton, cutAll, cutAll, cut]
      rfl
    | cons l' ls =>
      have hrest := ih (List.cons_ne_nil l' ls)
      rw [List.map_cons] at hrest
      rw [List.map_cons, List.map_cons, List.intercalate_cons_cons, List.append_assoc,
        List.singleton_append, List.singleton_append, cutAll, cutAll, hrest, cut, cut]
      rfl

theorem dropLeadingLineEnds_line {l : Text} (hl : l.IsLine) :
    dropLeadingLineEnds [.text l] = [.text l] := by
  have hdrop : l.dropWhile (fun c => c == '\n' || c == '\r') = l := by
    cases l with
    | nil => rfl
    | cons c l =>
      have hlf : c ≠ '\n' := fun e => hl.lf (by rw [e]; exact List.mem_cons_self)
      have hcr : c ≠ '\r' := fun e => hl.cr (by rw [e]; exact List.mem_cons_self)
      rw [List.dropWhile_cons_of_neg (by simp [hlf, hcr])]
  rw [dropLeadingLineEnds, hdrop]
  cases l with
  | nil => exact absurd rfl hl.ne_nil
  | cons c l => rfl

theorem ofNode_ofLines {ls : List Text} (hne : ls ≠ []) (h : ∀ l ∈ ls, l.IsLine) (i : Nat) :
    ofNode i (Node.ofLines ls) = ls.map fun l => ofNumbered (i, l) := by
  have hcut : ∀ l ∈ ls, (⟨i, .paragraph (dropLeadingLineEnds [.text l])⟩ : Line) =
      ofNumbered (i, l) := by
    intro l hl
    rw [dropLeadingLineEnds_line (h l hl)]
    rfl
  rw [Node.ofLines, ofNode]
  split
  · rw [cutAll_lines hne, List.map_map]
    exact List.map_congr_left hcut
  · rename_i hbreak
    cases ls with
    | nil => exact absurd rfl hne
    | cons l ls =>
      cases ls with
      | nil => rfl
      | cons l' ls =>
        refine absurd ?_ hbreak
        rw [Node.anyBreak_eq_any, List.map_cons, List.map_cons, List.intercalate_cons_cons]
        simp [Node.hasBreak]

/-- The lines of some paragraphs are cut as they were put together. -/
theorem ofNodesFrom_ofLines {ps : List (List Text)} (h : ∀ ls ∈ ps, ls ≠ [] ∧ ∀ l ∈ ls, l.IsLine)
    (i : Nat) : ofNodesFrom i (ps.map Node.ofLines) = (numbered i ps).map ofNumbered := by
  induction ps generalizing i with
  | nil => rfl
  | cons ls ps ih =>
    obtain ⟨hne, hls⟩ := h ls List.mem_cons_self
    rw [List.map_cons, ofNodesFrom, ofNode_ofLines hne hls,
      ih (fun q hq => h q (List.mem_cons_of_mem ls hq)), numbered, List.map_append, List.map_map]
    rfl

end Line

/-! ## Lines of one number -/

theorem splitBy_map {α β : Type} {f : α → β} {r : β → β → Bool} {q : α → α → Bool} {as : List α}
    (h : ∀ a ∈ as, ∀ b ∈ as, r (f a) (f b) = q a b) :
    (as.map f).splitBy r = (as.splitBy q).map (List.map f) := by
  have hmem : ∀ run ∈ as.splitBy q, ∀ a ∈ run, a ∈ as := by
    intro run hrun a ha
    rw [← List.flatten_splitBy q as]
    exact List.mem_flatten.mpr ⟨run, hrun, ha⟩
  refine List.splitBy_eq_iff.mpr ⟨?_, ?_, ?_, ?_⟩
  · rw [← List.map_flatten, List.flatten_splitBy]
  · intro hnil
    obtain ⟨run, hrun, he⟩ := List.mem_map.mp hnil
    exact List.ne_nil_of_mem_splitBy hrun (List.map_eq_nil_iff.mp he)
  · intro m hm
    obtain ⟨run, hrun, rfl⟩ := List.mem_map.mp hm
    rw [List.isChain_map]
    refine (List.isChain_of_mem_splitBy hrun).imp_of_mem_imp ?_
    intro a b ha hb hab
    rw [h a (hmem run hrun a ha) b (hmem run hrun b hb)]
    exact hab
  · rw [List.isChain_map]
    refine (List.isChain_getLast_head_splitBy q as).imp_of_mem_imp ?_
    rintro x y hx hy ⟨hxne, hyne, hxy⟩
    refine ⟨by simpa using hxne, by simpa using hyne, ?_⟩
    rw [List.getLast_map, List.head_map, h _ (hmem x hx _ (List.getLast_mem hxne)) _
      (hmem y hy _ (List.head_mem hyne))]
    exact hxy

/-- The rows of neighbouring lines that have one number. -/
def runs (as : List (Nat × Text)) : List (List Text) :=
  (as.splitBy fun a b => a.1 == b.1).map (List.map Prod.snd)

theorem flatten_runs (as : List (Nat × Text)) : (runs as).flatten = as.map Prod.snd := by
  rw [runs, ← List.map_flatten, List.flatten_splitBy]

namespace Line

theorem isContent_ofNumbered {a : Nat × Text} (h : Marker.ofLine? a.2 = none) :
    (ofNumbered a).isContent = true := by
  rw [isContent, marker?_ofNumbered, h]
  rfl

/-- Content lines that are put in a column form paragraphs as they did before. -/
theorem content_ofNumbered {as : List (Nat × Text)} (h : ∀ a ∈ as, Marker.ofLine? a.2 = none) :
    content (as.map ofNumbered) = (runs as).map Node.ofLines := by
  have hjoins : ∀ a ∈ as, ∀ b ∈ as, joins (ofNumbered a) (ofNumbered b) = (a.1 == b.1) := by
    intro a ha b hb
    have hparagraph : ∀ c, (ofNumbered c).isParagraph = true := fun c => rfl
    rw [joins, isContent_ofNumbered (h a ha), isContent_ofNumbered (h b hb), hparagraph, hparagraph]
    rfl
  have hfold : ∀ run ∈ as.splitBy (fun a b => a.1 == b.1),
      fold (run.map ofNumbered) = [Node.ofLines (run.map Prod.snd)] := by
    intro run hrun
    have hne : run ≠ [] := List.ne_nil_of_mem_splitBy hrun
    cases run with
    | nil => exact absurd rfl hne
    | cons a run =>
      have ha : a ∈ as := by
        rw [← List.flatten_splitBy (fun a b => a.1 == b.1) as]
        exact List.mem_flatten.mpr ⟨a :: run, hrun, List.mem_cons_self⟩
      have hlines : (ofNumbered a :: run.map ofNumbered).map inline =
          ((a :: run).map Prod.snd).map fun l => [.text l] := by
        rw [← List.map_cons, List.map_map, List.map_map]
        rfl
      have hp : (ofNumbered a).isParagraph = true := rfl
      rw [List.map_cons, fold, if_pos (isContent_ofNumbered (h a ha)), if_pos hp, hlines,
        Node.ofLines]
  rw [content, splitBy_map hjoins, List.flatMap_map, List.flatMap_congr hfold, runs, List.map_map,
    List.map_eq_flatMap]
  rfl

end Line
end ColumnBlocks
