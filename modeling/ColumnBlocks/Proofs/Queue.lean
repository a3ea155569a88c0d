import ColumnBlocks.Document
import ColumnBlocks.Proofs.Calls
import ColumnBlocks.Proofs.MarkerLines

/-!
# The queue of a session

Whatever has been done with a session, its queue is empty or holds one fragment, which is an open
block.  A call that hands over a fragment leaves such a queue behind whatever it found, and every
other call leaves an empty one.
-/

namespace ColumnBlocks
namespace Session

/-- The content of a block whose end has not come yet. -/
structure IsOpenBlock (f : Fragment) : Prop where
  classes : f.classes = []
  children : f.children ≠ []
  openings : Marker.openings f.plainText = 1
  closings : Marker.closings f.plainText = 0

/-- The queue after a call.  If the call handed over a fragment, `last?` is what was decided on it. -/
structure Queued (s : Session) (last? : Option Action) : Prop where
  length_le : s.pending.length ≤ 1
  isOpen : ∀ f ∈ s.pending, IsOpenBlock f
  isPending : s.isPending = true ↔ last? = some .accumulate

/-! ## What one call leaves -/

theorem queued_of_idle {s : Session} {last? : Option Action} (hs : s.isPending = false)
    (hlast : last? ≠ some .accumulate) : s.Queued last? := by
  have hfresh : s = fresh := eq_fresh hs
  subst hfresh
  refine { length_le := Nat.zero_le 1, isOpen := ?_, isPending := ?_ }
  · intro f hf
    exact absurd hf List.not_mem_nil
  · rw [hs]
    exact iff_of_false Bool.false_ne_true hlast

theorem isOpenBlock_ofNodes {ns : List Node}
    (h : classify (Node.plainTextAll ns) = .accumulate) : IsOpenBlock (.ofNodes ns) := by
  rw [classify_eq_ofCounts, Action.ofCounts_eq_accumulate] at h
  obtain ⟨hopening, hclosing⟩ := h
  refine { classes := rfl, children := ?_, openings := hopening, closings := hclosing }
  rintro rfl
  rw [Node.plainTextAll_nil] at hopening
  exact absurd hopening (by decide)

theorem process_queued (s : Session) (env : Environment) (f : Fragment) :
    (s.process env f).session.Queued (some (s.process env f).action) := by
  by_cases h : (s.process env f).action = .accumulate
  · have hsession := (process_accumulate h).1
    have hopen : IsOpenBlock (.ofNodes (s.merge f).children) := by
      rw [process_action] at h
      exact isOpenBlock_ofNodes h
    refine { length_le := ?_, isOpen := ?_, isPending := ?_ }
    · rw [hsession]
      exact Nat.le_refl 1
    · intro g hg
      rw [hsession] at hg
      rw [List.mem_singleton.mp hg]
      exact hopen
    · rw [process_isPending, Option.some.injEq]
  · refine queued_of_idle ?_ ?_
    · rw [Bool.eq_false_iff]
      intro hpending
      exact h ((process_isPending s env f).mp hpending)
    · intro hlast
      exact h (Option.some.inj hlast)

theorem finish_isPending (s : Session) : s.finish.2.1.isPending = false := by
  unfold finish
  split
  · rfl
  · rename_i h
    exact Bool.eq_false_iff.mpr h

theorem renderMarkdown_isPending (s : Session) (env : Environment) (markdown : Text)
    (events : Text → List Markdown.Event) :
    (s.renderMarkdown env markdown events).1.isPending = false :=
  finish_isPending _

/-! ## What any number of calls leave -/

/-- The sessions that come about, however the events of documents are read.  If the last call handed
over a fragment, `last?` is what was decided on it. -/
inductive Reached : Session → Option Action → Prop where
  | fresh : Reached Session.fresh none
  | process {s : Session} {last? : Option Action} (hs : Reached s last?) (env : Environment)
      (f : Fragment) : Reached (s.process env f).session (some (s.process env f).action)
  | finish {s : Session} {last? : Option Action} (hs : Reached s last?) : Reached s.finish.2.1 none
  | reset {s : Session} {last? : Option Action} (hs : Reached s last?) : Reached s.reset.1 none
  | renderMarkdown {s : Session} {last? : Option Action} (hs : Reached s last?) (env : Environment)
      (markdown : Text) (events : Text → List Markdown.Event) :
      Reached (s.renderMarkdown env markdown events).1 none

/-- The queue of a session never holds more than one fragment.  That fragment has no classes and is
an open block, and it is there exactly if the last call handed over a fragment and kept it. -/
theorem reached_queued {s : Session} {last? : Option Action} (h : Reached s last?) :
    s.Queued last? := by
  have hnone : (none : Option Action) ≠ some .accumulate := by simp
  cases h with
  | fresh => exact queued_of_idle rfl hnone
  | process hs env f => exact process_queued _ env f
  | finish hs => exact queued_of_idle (finish_isPending _) hnone
  | reset hs => exact queued_of_idle rfl hnone
  | renderMarkdown hs env markdown events =>
    exact queued_of_idle (renderMarkdown_isPending _ env markdown events) hnone

def secondOpening : Fragment := .ofNodes [.paragraph [.text "[begin]2".toList]]

/-- A second opening takes the block out of the queue, and a third one is held again. -/
theorem reached_queued_reopened :
    let s := ((fresh.process {} secondOpening).session.process {} secondOpening).session
    s.Queued (some .passThrough) ∧
      (s.process {} secondOpening).session.Queued (some .accumulate) := by
  have hsecond : ((fresh.process {} secondOpening).session.process {} secondOpening).action =
      .passThrough := by cbv
  have hthird : (((fresh.process {} secondOpening).session.process {} secondOpening).session.process
      {} secondOpening).action = .accumulate := by cbv
  have hs := Reached.process (.process .fresh {} secondOpening) {} secondOpening
  have ht := Reached.process hs {} secondOpening
  rw [hsecond] at hs
  rw [hthird] at ht
  exact ⟨reached_queued hs, reached_queued ht⟩

end Session
end ColumnBlocks
