import ColumnBlocks.Proofs.Automaton

/-!
# Cuts of a block

A host may cut a block into fragments wherever one of its nodes ends.  A session recognises the block
in any such cut, because a first part of it shows the opening and no closing, and the columns are the
ones that the uncut block is laid out in.
-/

namespace ColumnBlocks
namespace Session

/-- The content of some fragments in a row. -/
def contents (calls : List (Environment × Fragment)) : List Node := calls.flatMap (·.2.children)

@[simp] theorem contents_nil : contents [] = [] := rfl

@[simp] theorem contents_cons (c : Environment × Fragment) (cs : List (Environment × Fragment)) :
    contents (c :: cs) = c.2.children ++ contents cs := rfl

theorem countStarts_contents_cons {c : Environment × Fragment} {cs : List (Environment × Fragment)}
    (halone : ∀ n ∈ contents (c :: cs), n.standsAlone = true) (lead : Text) :
    Text.countStarts lead (Node.plainTextAll (contents (c :: cs))) =
      Text.countStarts lead c.2.plainText +
        Text.countStarts lead (Node.plainTextAll (contents cs)) :=
  Node.countStarts_plainTextAll_append (fun n hn => halone n (List.mem_append_left _ hn)) lead
    (contents cs)

theorem countStarts_le_of_mem {calls : List (Environment × Fragment)}
    (halone : ∀ n ∈ contents calls, n.standsAlone = true) {c : Environment × Fragment}
    (hc : c ∈ calls) (lead : Text) :
    Text.countStarts lead c.2.plainText ≤
      Text.countStarts lead (Node.plainTextAll (contents calls)) := by
  induction calls with
  | nil => exact absurd hc List.not_mem_nil
  | cons d ds ih =>
    have hds : ∀ n ∈ contents ds, n.standsAlone = true :=
      fun n hn => halone n (List.mem_append_right _ hn)
    rw [countStarts_contents_cons halone]
    rcases List.mem_cons.mp hc with rfl | hc
    · exact Nat.le_add_right _ _
    · exact Nat.le_trans (ih hds hc) (Nat.le_add_left _ _)

/-- What becomes of the fragments of a block from some fragment on, the part before it being held.  An
open block in the queue stands for the opening line. -/
theorem HoldsBlocks.run_laidOut {calls : List (Environment × Fragment)} {s : Session}
    (hs : s.HoldsBlocks) (halone : ∀ n ∈ contents calls, n.standsAlone = true)
    (hopening : Marker.openings (Node.plainTextAll (contents calls)) + s.isPending.toNat = 1)
    (hclosing : Marker.closings (Node.plainTextAll (contents calls)) = 1)
    (hfirst : ∀ c ∈ calls.head?, 0 < Marker.openings c.2.plainText + s.isPending.toNat)
    (hlast : ∀ c ∈ calls.getLast?, 0 < Marker.closings c.2.plainText) :
    (s.run (calls.map fun c => .process c.1 c.2)).1 = fresh ∧
      LaidOut (s.run (calls.map fun c => .process c.1 c.2)).2 calls fun env =>
        renderBlock (s.held ++ contents calls)
          (layoutWraps (BlockConfig.ofText (Node.plainTextAll (s.held ++ contents calls))) env) := by
  -- On the fragments that are left.  The opening is held or in the next one, and the closing is in
  -- the last one, so that the decision on the next one says whether it is the last.
  induction calls generalizing s with
  | nil =>
    rw [contents_nil, Node.plainTextAll_nil] at hclosing
    exact absurd hclosing (by decide)
  | cons c cs ih =>
    have hchildren : ∀ n ∈ c.2.children, n.standsAlone = true :=
      fun n hn => halone n (List.mem_append_left _ hn)
    have hrest : ∀ n ∈ contents cs, n.standsAlone = true :=
      fun n hn => halone n (List.mem_append_right _ hn)
    have hopenings : Marker.openings (Node.plainTextAll (contents (c :: cs))) =
        Marker.openings c.2.plainText + Marker.openings (Node.plainTextAll (contents cs)) :=
      countStarts_contents_cons halone Marker.beginText
    have hclosings : Marker.closings (Node.plainTextAll (contents (c :: cs))) =
        Marker.closings c.2.plainText + Marker.closings (Node.plainTextAll (contents cs)) :=
      countStarts_contents_cons halone Marker.endText
    have hbegun := hfirst c rfl
    have hopened : Marker.openings c.2.plainText + s.isPending.toNat = 1 := by omega
    have haction : (s.process c.1 c.2).action =
        Action.ofCounts 1 (Marker.closings c.2.plainText) := by
      rw [hs.process_action, ← hopened]
      rfl
    by_cases hcs : cs = []
    · subst hcs
      rw [contents_nil, Node.plainTextAll_nil] at hclosings
      have hclosed : Marker.closings c.2.plainText = 1 := hclosings.symm.trans hclosing
      have hrender : (s.process c.1 c.2).action = .render := by
        rw [haction, hclosed]
        rfl
      rw [contents_cons, contents_nil, List.append_nil]
      exact laidOut_render hrender
    · have hend : ∀ d ∈ cs.getLast?, 0 < Marker.closings d.2.plainText := by
        intro d hd
        exact hlast d (by rw [List.getLast?_cons, Option.mem_def.mp hd]; rfl)
      have hlater : 0 < Marker.closings (Node.plainTextAll (contents cs)) :=
        Nat.lt_of_lt_of_le (hend _ (List.getLast?_eq_some_getLast hcs))
          (countStarts_le_of_mem hrest (List.getLast_mem hcs) Marker.endText)
      have hunclosed : Marker.closings c.2.plainText = 0 := by omega
      have hkeep : (s.process c.1 c.2).action = .accumulate := by
        rw [haction, hunclosed]
        rfl
      have hpending := (process_isPending s c.1 c.2).mpr hkeep
      have hheld : (s.process c.1 c.2).session.held = s.held ++ c.2.children := by
        rw [(process_accumulate hkeep).1, held_ofNodes, merge_children]
      obtain ⟨hfresh, hlaid⟩ := ih (hs.process hchildren c.1) hrest
        (by rw [hpending, Bool.toNat_true]; omega) (by omega)
        (fun d _ => by rw [hpending, Bool.toNat_true]; omega) hend
      rw [hheld, List.append_assoc] at hlaid
      exact ⟨hfresh, laidOut_accumulate hkeep hlaid⟩

/-- How a block is cut into fragments does not matter.  Take a row of blocks and raw markup whose text
has one opening line and one closing line, and any cut of it with the opening line in the first
fragment and the closing line in the last.  From a session with an empty queue, under any
environments, every fragment but the last is kept and left empty; the last one receives the columns
that the row is laid out in as one fragment, and the queue is empty again. -/
theorem run_cut {s : Session} (hidle : s.isPending = false) {nodes : List Node}
    (halone : ∀ n ∈ nodes, n.standsAlone = true)
    (hopening : Marker.openings (Node.plainTextAll nodes) = 1)
    (hclosing : Marker.closings (Node.plainTextAll nodes) = 1)
    {calls : List (Environment × Fragment)} (hcut : contents calls = nodes)
    (hfirst : ∀ c ∈ calls.head?, 0 < Marker.openings c.2.plainText)
    (hlast : ∀ c ∈ calls.getLast?, 0 < Marker.closings c.2.plainText) :
    let o := s.run (calls.map fun c => .process c.1 c.2)
    o.1.isPending = false ∧
      LaidOut o.2 calls fun env => (s.process env (.ofNodes nodes)).fragment.children := by
  intro o
  have hs : s = fresh := eq_fresh hidle
  subst hs
  subst hcut
  obtain ⟨hfresh, hlaid⟩ :=
    (holdsBlocks_of_idle hidle).run_laidOut halone hopening hclosing hfirst hlast
  have hwhole : (fun env => (fresh.process env (.ofNodes (contents calls))).fragment.children) =
      fun env => renderBlock (fresh.held ++ contents calls) (layoutWraps
        (BlockConfig.ofText (Node.plainTextAll (fresh.held ++ contents calls))) env) := by
    funext env
    have hrender : (fresh.process env (.ofNodes (contents calls))).action = .render := by
      rw [process_action, merge_fresh, classify_eq_ofCounts]
      exact Action.ofCounts_eq_render.mpr ⟨hopening, hclosing⟩
    rw [(process_render hrender).2, layOut_children]
    rfl
  rw [hwhole]
  exact ⟨congrArg isPending hfresh, hlaid⟩

/-- A block with a quotation and raw markup in it. -/
def quotingBlock : List Node :=
  [.paragraph [.text "[begin]2".toList, .lineBreak, .text "a".toList],
    .html "<hr>".toList,
    .element "blockquote".toList [] [.paragraph [.text "b".toList]],
    .paragraph [.text "[col]".toList],
    .paragraph [.text "[end] wrap".toList]]

def quotingCalls : List (Environment × Fragment) :=
  [({}, .ofNodes (quotingBlock.take 1)),
    ({ platform := .mobile }, .ofNodes ((quotingBlock.drop 1).take 2)),
    ({}, .ofNodes (quotingBlock.drop 3))]

theorem run_cut_quoting :
    LaidOut (fresh.run (quotingCalls.map fun c => .process c.1 c.2)).2 quotingCalls
        (fun env => (fresh.process env (.ofNodes quotingBlock)).fragment.children) ∧
      (fresh.process {} (.ofNodes quotingBlock)).fragment.children =
        [.column 2 true (.paragraph [.text "a".toList] :: (quotingBlock.drop 1).take 2),
          .column 1 true []] := by
  have halone : ∀ n ∈ quotingBlock, n.standsAlone = true := by decide
  have hopening : Marker.openings (Node.plainTextAll quotingBlock) = 1 := by cbv
  have hclosing : Marker.closings (Node.plainTextAll quotingBlock) = 1 := by cbv
  have hbegin : Marker.openings (Node.plainTextAll (quotingBlock.take 1)) = 1 := by cbv
  have hend : Marker.closings (Node.plainTextAll (quotingBlock.drop 3)) = 1 := by cbv
  have hfirst : ∀ c ∈ quotingCalls.head?, 0 < Marker.openings c.2.plainText := by
    rintro c ⟨⟩
    exact Nat.lt_of_lt_of_eq Nat.zero_lt_one hbegin.symm
  have hlast : ∀ c ∈ quotingCalls.getLast?, 0 < Marker.closings c.2.plainText := by
    rintro c ⟨⟩
    exact Nat.lt_of_lt_of_eq Nat.zero_lt_one hend.symm
  refine ⟨(run_cut rfl halone hopening hclosing rfl hfirst hlast).2, ?_⟩
  cbv

end Session
end ColumnBlocks
