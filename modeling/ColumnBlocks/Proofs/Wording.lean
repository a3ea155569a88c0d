import ColumnBlocks.Fragment
import ColumnBlocks.Proofs.PlainText
import ColumnBlocks.Proofs.Segments
import Mathlib.Data.List.TakeWhile

/-!
# The wording of content

Empty lines and carriage returns say nothing.  What is left of a text without them is its wording, and
two texts have the same wording in every surrounding if one can stand for the other there.  Up to that,
a block can be written between two line feeds whatever stands around it, and then the texts of the
segments of a paragraph, with line feeds between them, are the text of the paragraph.
-/

namespace ColumnBlocks

namespace Text

/-- The lines of a text without their carriage returns, as far as something is left of them. -/
def wording (t : Text) : List Text :=
  ((t.filter (· != '\r')).splitOn '\n').filter (!·.isEmpty)

/-- A line feed separates. -/
theorem wording_append_lf (a b : Text) : wording (a ++ '\n' :: b) = wording a ++ wording b := by
  have hlf : ('\n' :: b).filter (· != '\r') = '\n' :: b.filter (· != '\r') := rfl
  rw [wording, List.filter_append, hlf, List.splitOn, List.splitOnP_append_cons _ _ (by rfl),
    List.filter_append]
  rfl

theorem wording_lf (t : Text) : wording ('\n' :: t) = wording t := wording_append_lf [] t

/-- Two texts that can stand for each other in any text, as far as its wording goes. -/
def SameWording (a b : Text) : Prop :=
  ∀ before after, wording (before ++ a ++ after) = wording (before ++ b ++ after)

namespace SameWording

variable {a b c d : Text}

theorem refl (a : Text) : SameWording a a := fun _ _ => rfl

theorem symm (h : SameWording a b) : SameWording b a := fun before after => (h before after).symm

theorem trans (h : SameWording a b) (h' : SameWording b c) : SameWording a c :=
  fun before after => (h before after).trans (h' before after)

instance : Trans SameWording SameWording SameWording := ⟨trans⟩

theorem append (h : SameWording a b) (h' : SameWording c d) : SameWording (a ++ c) (b ++ d) := by
  intro before after
  have hleft := h before (c ++ after)
  have hright := h' (before ++ b) after
  simp only [List.append_assoc] at hleft hright ⊢
  rw [hleft, hright]

theorem append_left (h : SameWording c d) (a : Text) : SameWording (a ++ c) (a ++ d) :=
  (refl a).append h

theorem append_right (h : SameWording a b) (c : Text) : SameWording (a ++ c) (b ++ c) :=
  h.append (refl c)

theorem wording_eq (h : SameWording a b) : wording a = wording b := by simpa using h [] []

/-- An empty line says nothing. -/
theorem lf_lf : SameWording ['\n', '\n'] ['\n'] := by
  intro before after
  simp only [List.append_assoc, List.cons_append, List.nil_append]
  rw [wording_append_lf, wording_append_lf, wording_lf]

/-- Between two blocks one line feed is enough. -/
theorem join {x y : Text} (ha : SameWording a ('\n' :: x ++ ['\n']))
    (hb : SameWording b ('\n' :: y ++ ['\n'])) :
    SameWording (a ++ b) ('\n' :: (x ++ ['\n'] ++ y) ++ ['\n']) := by
  have hmiddle := (lf_lf.append_right (y ++ ['\n'])).append_left ('\n' :: x)
  simp only [List.cons_append, List.nil_append, List.append_assoc] at ha hb hmiddle ⊢
  refine (ha.append hb).trans ?_
  simpa only [List.cons_append, List.nil_append, List.append_assoc] using hmiddle

theorem cr : SameWording ['\r'] [] := by
  intro before after
  have hcr : ∀ t, wording t = wording (t.filter (· != '\r')) := by
    intro t
    rw [wording, wording, List.filter_filter]
    simp
  rw [hcr, hcr (before ++ [] ++ after)]
  simp

/-- Line ends at the start of a line say nothing. -/
theorem lf_lineEnds {s : Text} (h : ∀ c ∈ s, c = '\n' ∨ c = '\r') : SameWording ('\n' :: s) ['\n'] := by
  induction s with
  | nil => exact refl _
  | cons c s ih =>
    have hs := ih fun d hd => h d (List.mem_cons_of_mem c hd)
    rcases h c List.mem_cons_self with rfl | rfl
    · exact (lf_lf.append_right s).trans hs
    · have hdrop : SameWording ('\n' :: '\r' :: s) ('\n' :: s) :=
        (cr.append_left ['\n']).append_right s
      exact hdrop.trans hs

end SameWording
end Text

open Text (wording SameWording)

/-! ## Blocks between line feeds -/

namespace Node

mutual

/-- The text of a node with a line feed before and after each block, whatever stands around it. -/
def spaced : Node → Text
  | text s => s
  | lineBreak => ['\n']
  | html _ => []
  | paragraph children | column _ _ children => '\n' :: spacedAll children ++ ['\n']
  | element name _ children =>
    if isBlockElement name then '\n' :: spacedAll children ++ ['\n'] else spacedAll children

def spacedAll : List Node → Text
  | [] => []
  | n :: ns => spaced n ++ spacedAll ns

end

theorem spacedAll_append (a b : List Node) : spacedAll (a ++ b) = spacedAll a ++ spacedAll b := by
  induction a with
  | nil => rw [spacedAll]; rfl
  | cons n ns ih => rw [List.cons_append, spacedAll, spacedAll, ih, List.append_assoc]

theorem spacedAll_singleton (n : Node) : spacedAll [n] = spaced n := by
  rw [spacedAll, spacedAll, List.append_nil]

/-- Whether a line feed is written at a place or the place is at the start of a line anyway makes no
difference. -/
theorem wording_newLine {before : Text} {s : Bool} (h : lineStartAfter true before = s)
    (after : Text) :
    wording (before ++ newLine s ++ after) = wording (before ++ '\n' :: after) := by
  cases s with
  | false => simp
  | true =>
    rw [newLine_true, List.append_nil]
    rcases eq_nil_or_lf_of_lineStart h with rfl | ⟨b, rfl⟩
    · exact (Text.wording_lf after).symm
    · rw [List.append_assoc, List.append_assoc, List.singleton_append, List.singleton_append,
        Text.wording_append_lf, Text.wording_append_lf, Text.wording_lf]

theorem wording_writeBlock {children : List Node}
    (h : ∀ before after, lineStartAfter true before = true →
      wording (before ++ writeAll true children ++ after) =
        wording (before ++ spacedAll children ++ after))
    {before : Text} {s : Bool} (hs : lineStartAfter true before = s) (after : Text) :
    wording (before ++ writeBlock s children ++ after) =
      wording (before ++ ('\n' :: spacedAll children ++ ['\n']) ++ after) := by
  have hstart : lineStartAfter true (before ++ newLine s) = true := by
    rw [lineStartAfter_append, hs]
    cases s <;> rfl
  have hend : lineStartAfter true (before ++ newLine s ++ writeAll true children) =
      lineStartAfter true (writeAll true children) := by
    rw [lineStartAfter_append, hstart]
  calc wording (before ++ writeBlock s children ++ after)
      = wording (before ++ newLine s ++ writeAll true children ++
          newLine (lineStartAfter true (writeAll true children)) ++ after) := by
        simp only [writeBlock, List.append_assoc]
    _ = wording (before ++ newLine s ++ writeAll true children ++ '\n' :: after) :=
        wording_newLine hend after
    _ = wording (before ++ newLine s ++ spacedAll children ++ '\n' :: after) := h _ _ hstart
    _ = wording (before ++ newLine s ++ (spacedAll children ++ '\n' :: after)) := by
        rw [List.append_assoc]
    _ = wording (before ++ '\n' :: (spacedAll children ++ '\n' :: after)) := wording_newLine hs _
    _ = wording (before ++ ('\n' :: spacedAll children ++ ['\n']) ++ after) := by simp

mutual

theorem wording_write (n : Node) {before : Text} {s : Bool} (hs : lineStartAfter true before = s)
    (after : Text) :
    wording (before ++ write s n ++ after) = wording (before ++ spaced n ++ after) := by
  cases n with
  | text t => rw [write, spaced]
  | lineBreak => rw [write, spaced]
  | html raw => rw [write, spaced]
  | paragraph children =>
    rw [write, spaced]
    exact wording_writeBlock (fun _ _ h => wording_writeAll children h _) hs after
  | column width wrap children =>
    rw [write, spaced]
    exact wording_writeBlock (fun _ _ h => wording_writeAll children h _) hs after
  | element name attributes children =>
    rw [write, spaced]
    split
    · exact wording_writeBlock (fun _ _ h => wording_writeAll children h _) hs after
    · exact wording_writeAll children hs after

theorem wording_writeAll (ns : List Node) {before : Text} {s : Bool}
    (hs : lineStartAfter true before = s) (after : Text) :
    wording (before ++ writeAll s ns ++ after) = wording (before ++ spacedAll ns ++ after) := by
  cases ns with
  | nil => rw [writeAll, spacedAll]
  | cons n ns =>
    -- The row behind the node goes first, since it depends on what the node wrote.
    have hnext : lineStartAfter true (before ++ write s n) = lineStartAfter s (write s n) := by
      rw [lineStartAfter_append, hs]
    have hrest := wording_writeAll ns hnext after
    have hnode := wording_write n hs (spacedAll ns ++ after)
    rw [writeAll, spacedAll]
    simp only [List.append_assoc] at hrest hnode ⊢
    rw [hrest, hnode]

end

theorem wording_plainTextAll (ns : List Node) : wording (plainTextAll ns) = wording (spacedAll ns) := by
  have h := @wording_writeAll ns [] true rfl []
  rw [List.nil_append, List.nil_append, List.append_nil, List.append_nil] at h
  exact h

end Node

/-! ## Segments -/

namespace Line

open Node (spaced spacedAll spacedAll_append)

section Wrapping

variable {name : Text} (hb : Node.isBlockElement name = true) (attributes : List Attribute)
include hb

theorem spacedAll_wrapSegment {s : List Node} (hs : s ≠ []) :
    spacedAll (wrapSegment name attributes s) = '\n' :: spacedAll s ++ ['\n'] := by
  rw [wrapSegment_of_ne hs, Node.spacedAll_singleton, spaced, if_pos hb]

/-- An empty copy of an element can be left out next to a line feed. -/
theorem lf_wrapSegment (s : List Node) :
    SameWording ('\n' :: spacedAll (wrapSegment name attributes s))
      ('\n' :: spacedAll s ++ ['\n']) := by
  by_cases hs : s = []
  · rw [hs, wrapSegment_nil, spacedAll]
    exact SameWording.lf_lf.symm
  · rw [spacedAll_wrapSegment hb attributes hs]
    exact SameWording.lf_lf.append_right (spacedAll s ++ ['\n'])

theorem wrapSegment_lf (s : List Node) :
    SameWording (spacedAll (wrapSegment name attributes s) ++ ['\n'])
      ('\n' :: spacedAll s ++ ['\n']) := by
  by_cases hs : s = []
  · rw [hs, wrapSegment_nil, spacedAll]
    exact SameWording.lf_lf.symm
  · rw [spacedAll_wrapSegment hb attributes hs, List.append_assoc]
    exact SameWording.lf_lf.append_left ('\n' :: spacedAll s)

theorem lf_wrapSegments {segments : List (List Node)} (hne : segments ≠ []) :
    SameWording
      ('\n' :: ['\n'].intercalate (segments.map fun s => spacedAll (wrapSegment name attributes s)))
      ('\n' :: ['\n'].intercalate (segments.map spacedAll) ++ ['\n']) := by
  induction segments with
  | nil => exact absurd rfl hne
  | cons s rest ih =>
    have hfirst := lf_wrapSegment hb attributes s
    by_cases hrest : rest = []
    · subst hrest
      simpa only [List.map_singleton, List.intercalate_singleton] using hfirst
    · rw [List.map_cons, List.map_cons, List.intercalate_cons_of_ne_nil (by simpa using hrest),
        List.intercalate_cons_of_ne_nil (by simpa using hrest)]
      have hjoined := hfirst.join (ih hrest)
      rwa [List.cons_append, List.append_cons, ← List.cons_append] at hjoined

/-- The copies of a block element around the segments of its content write what the element writes. -/
theorem wrapSegments {segments : List (List Node)} (hne : segments ≠ []) (hone : segments ≠ [[]]) :
    SameWording
      (['\n'].intercalate (segments.map fun s => spacedAll (wrapSegment name attributes s)))
      ('\n' :: ['\n'].intercalate (segments.map spacedAll) ++ ['\n']) := by
  cases segments with
  | nil => exact absurd rfl hne
  | cons s rest =>
    by_cases hrest : rest = []
    · subst hrest
      have hs : s ≠ [] := by
        rintro rfl
        exact hone rfl
      rw [List.map_singleton, List.map_singleton, List.intercalate_singleton,
        List.intercalate_singleton, spacedAll_wrapSegment hb attributes hs]
      exact SameWording.refl _
    · rw [List.map_cons, List.map_cons, List.intercalate_cons_of_ne_nil (by simpa using hrest),
        List.intercalate_cons_of_ne_nil (by simpa using hrest)]
      have hbehind := (lf_wrapSegments hb attributes hrest).append_left
        (spacedAll (wrapSegment name attributes s))
      have hfront := (wrapSegment_lf hb attributes s).append_right
        (['\n'].intercalate (rest.map spacedAll) ++ ['\n'])
      simp only [List.cons_append, List.nil_append, List.append_assoc] at hbehind hfront ⊢
      exact hbehind.trans hfront

end Wrapping

mutual

theorem cut_sameWording (n : Node) :
    SameWording (['\n'].intercalate ((cut n).map spacedAll)) (spaced n) := by
  cases n with
  | lineBreak =>
    rw [cut, List.map_cons, List.map_singleton, List.intercalate_cons_cons,
      List.intercalate_singleton, spacedAll, spaced]
    exact SameWording.refl _
  | element name attributes children =>
    rw [cut]
    by_cases hbreak : Node.anyBreak children = true
    · rw [if_pos hbreak, List.map_map, spaced]
      have hchildren := cutAll_sameWording children
      by_cases hb : Node.isBlockElement name = true
      · rw [if_pos hb]
        have hone : cutAll children ≠ [[]] := by
          intro hcut
          rw [eq_nil_of_cutAll hcut] at hbreak
          exact absurd hbreak (by decide)
        refine (wrapSegments hb attributes (cutAll_ne_nil children) hone).trans ?_
        exact (hchildren.append_left ['\n']).append_right ['\n']
      · rw [if_neg hb]
        have hwrap : spacedAll ∘ wrapSegment name attributes = spacedAll := by
          funext s
          show spacedAll (wrapSegment name attributes s) = spacedAll s
          by_cases hs : s = []
          · rw [hs, wrapSegment_nil]
          · rw [wrapSegment_of_ne hs, Node.spacedAll_singleton, spaced, if_neg hb]
        rw [hwrap]
        exact hchildren
    · rw [if_neg hbreak, List.map_singleton, List.intercalate_singleton, Node.spacedAll_singleton]
      exact SameWording.refl _
  | _ =>
    rw [cut, List.map_singleton, List.intercalate_singleton, Node.spacedAll_singleton]
    exact SameWording.refl _

theorem cutAll_sameWording (ns : List Node) :
    SameWording (['\n'].intercalate ((cutAll ns).map spacedAll)) (spacedAll ns) := by
  cases ns with
  | nil =>
    rw [cutAll, List.map_singleton, List.intercalate_singleton]
    exact SameWording.refl _
  | cons n ns =>
    rw [cutAll, intercalate_joinSegments spacedAll_append, spacedAll]
    exact (cut_sameWording n).append (cutAll_sameWording ns)

end

/-! ## Lines -/

theorem dropLeadingLineEnds_sameWording (s : List Node) :
    SameWording ('\n' :: spacedAll (dropLeadingLineEnds s)) ('\n' :: spacedAll s) := by
  unfold dropLeadingLineEnds
  split
  · rename_i t rest
    have hends : ∀ c ∈ t.takeWhile (fun c => c == '\n' || c == '\r'), c = '\n' ∨ c = '\r' := by
      intro c hc
      simpa using List.mem_takeWhile_imp hc
    have hdrop : SameWording ('\n' :: t.dropWhile (fun c => c == '\n' || c == '\r')) ('\n' :: t) := by
      have h := (SameWording.lf_lineEnds hends).append_right
        (t.dropWhile (fun c => c == '\n' || c == '\r'))
      rw [List.cons_append, List.takeWhile_append_dropWhile] at h
      exact h.symm
    have hrest := hdrop.append_right (spacedAll rest)
    rw [spacedAll, spaced]
    split
    · rename_i hempty
      rw [hempty] at hrest
      exact hrest
    · rw [spacedAll, spaced]
      exact hrest
  · exact SameWording.refl _

theorem paragraphs_sameWording {segments : List (List Node)} (hne : segments ≠ []) :
    SameWording (spacedAll (segments.map fun s => .paragraph (dropLeadingLineEnds s)))
      ('\n' :: ['\n'].intercalate (segments.map spacedAll) ++ ['\n']) := by
  induction segments with
  | nil => exact absurd rfl hne
  | cons s rest ih =>
    have hfirst := (dropLeadingLineEnds_sameWording s).append_right ['\n']
    rw [List.map_cons, spacedAll, spaced]
    by_cases hrest : rest = []
    · subst hrest
      simpa only [List.map_nil, spacedAll, List.append_nil, List.map_singleton,
        List.intercalate_singleton] using hfirst
    · rw [List.map_cons, List.intercalate_cons_of_ne_nil (by simpa using hrest)]
      exact hfirst.join (ih hrest)

theorem ofNode_sameWording (source : Nat) (n : Node) :
    SameWording (spacedAll ((ofNode source n).map (·.node))) (spaced n) := by
  cases n with
  | paragraph children =>
    rw [ofNode, spaced]
    split
    · rw [List.map_map]
      refine (paragraphs_sameWording (cutAll_ne_nil children)).trans ?_
      exact ((cutAll_sameWording children).append_left ['\n']).append_right ['\n']
    · rw [List.map_singleton, Node.spacedAll_singleton, spaced]
      exact SameWording.refl _
  | _ =>
    rw [ofNode, List.map_singleton, Node.spacedAll_singleton]
    · exact SameWording.refl _
    · simp

theorem ofNodesFrom_sameWording (source : Nat) (ns : List Node) :
    SameWording (spacedAll ((ofNodesFrom source ns).map (·.node))) (spacedAll ns) := by
  induction ns generalizing source with
  | nil => exact SameWording.refl _
  | cons n ns ih =>
    rw [ofNodesFrom, List.map_append, spacedAll_append, spacedAll]
    exact (ofNode_sameWording source n).append (ih (source + 1))

end Line

/-- Content and its logical lines say the same. -/
theorem wording_normalize (nodes : List Node) :
    wording (Fragment.ofNodes (normalize nodes)).plainText =
      wording (Fragment.ofNodes nodes).plainText := by
  calc wording (Fragment.ofNodes (normalize nodes)).plainText
      = wording (Node.spacedAll (normalize nodes)) := Node.wording_plainTextAll _
    _ = wording (Node.spacedAll nodes) := (Line.ofNodesFrom_sameWording 0 nodes).wording_eq
    _ = wording (Fragment.ofNodes nodes).plainText := (Node.wording_plainTextAll nodes).symm

end ColumnBlocks
