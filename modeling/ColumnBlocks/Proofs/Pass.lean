import ColumnBlocks.Document
import ColumnBlocks.Proofs.Queue
import ColumnBlocks.Proofs.Stitching

/-!
# A pass over a document

A pass hands the fragments of a document to the session one by one, and appends what the session still
holds at the end.  It is a run of calls like any other, so the document that comes out is read off the
log of that run; and since it starts with a reset, that log is the same for every session.
-/

namespace ColumnBlocks
namespace Session

/-! ## The log of a pass -/

def Passage.keeps (p : Passage) : Bool := p.action = .accumulate

theorem kept?_passed (p : Passage) : (Event.passed p).kept? = if p.keeps then some p else none := by
  simp [Event.kept?, Passage.keeps]

/-- The fragments of a document on their way through a session. -/
def passages (s : Session) (env : Environment) : List Fragment → List Passage
  | [] => []
  | f :: fs =>
    let o := s.process env f
    { env, before := f, action := o.action, after := o.fragment } :: o.session.passages env fs

theorem run_process (s : Session) (env : Environment) (fs : List Fragment) :
    (s.run (fs.map (.process env))).2 = (s.passages env fs).map .passed := by
  induction fs generalizing s with
  | nil => rfl
  | cons f fs ih =>
    rw [List.map_cons, run_cons, passages, List.map_cons]
    exact congrArg (_ :: ·) (ih (s.process env f).session)

theorem passages_before (s : Session) (env : Environment) (fs : List Fragment) :
    (s.passages env fs).map (·.before) = fs := by
  induction fs generalizing s with
  | nil => rfl
  | cons f fs ih => rw [passages, List.map_cons, ih]

theorem processAll_session (s : Session) (env : Environment) (fs : List Fragment) :
    (s.processAll env fs).1 = (s.run (fs.map (.process env))).1 := by
  induction fs generalizing s with
  | nil => rfl
  | cons f fs ih => exact ih (s.process env f).session

theorem processAll_fragments (s : Session) (env : Environment) (fs : List Fragment) :
    (s.processAll env fs).2.1 = (s.passages env fs).map (·.after) := by
  induction fs generalizing s with
  | nil => rfl
  | cons f fs ih => exact congrArg ((s.process env f).fragment :: ·) (ih (s.process env f).session)

/-! ## What is open at the end -/

theorem rtakeWhile_append_cons {α : Type} {q : α → Bool} {a : α} (ha : q a = false)
    (front rest : List α) : (front ++ a :: rest).rtakeWhile q = rest.rtakeWhile q := by
  have hstop : (a :: front.reverse).takeWhile q = [] := by simp [ha]
  have hreverse : (front ++ a :: rest).reverse = rest.reverse ++ a :: front.reverse := by simp
  rw [List.rtakeWhile, List.rtakeWhile, hreverse, List.takeWhile_append, hstop, List.append_nil]
  split
  · rename_i hall
    rw [(List.takeWhile_prefix q).eq_of_length hall]
  · rfl

/-- The row that is open at the end of a log is the longest row of kept fragments there. -/
theorem cut_opened {kept : List Passage} (hkept : ∀ p ∈ kept, p.keeps = true) (ps : List Passage) :
    (cut kept (ps.map .passed)).opened = (kept ++ ps).rtakeWhile Passage.keeps := by
  induction ps generalizing kept with
  | nil =>
    rw [List.append_nil]
    exact (List.rtakeWhile_eq_self_iff.mpr hkept).symm
  | cons p ps ih =>
    rw [List.map_cons, cut, kept?_passed]
    cases hp : p.keeps with
    | true =>
      have hnext : ∀ q ∈ kept ++ [p], q.keeps = true := by
        intro q hq
        rcases List.mem_append.mp hq with hq | hq
        · exact hkept q hq
        · rw [List.mem_singleton.mp hq, hp]
      rw [if_pos rfl]
      simp only
      rw [ih hnext, List.append_assoc, List.singleton_append]
    -- Behind a fragment that is let through nothing is open, whatever was kept before it.
    | false =>
      have hnone : ∀ q ∈ ([] : List Passage), q.keeps = true := by simp
      rw [if_neg Bool.false_ne_true, rtakeWhile_append_cons hp]
      exact ih hnone

theorem passages_held (env : Environment) (fs : List Fragment) :
    (fresh.run (fs.map (.process env))).1.Holds
      ((fresh.passages env fs).rtakeWhile Passage.keeps) := by
  have hholds := (run_holds fresh_holds (fs.map (.process env))).1
  rw [run_process, cut_opened (by simp), List.nil_append] at hholds
  exact hholds

theorem finish_rest (s : Session) :
    s.finish.1.toList = if s.isPending then [Fragment.ofNodes s.held] else [] := by
  unfold finish
  split
  · simp [merge, Fragment.ofNodes]
  · rfl

/-! ## Documents -/

section Events

variable (events : Text → List Markdown.Event)

theorem renderMarkdown_fragments (s : Session) (env : Environment) (markdown : Text) :
    let fs := Markdown.fragments markdown events
    (s.renderMarkdown env markdown events).2.1.fragments =
      (fresh.passages env fs).map (·.after) ++
        (fresh.run (fs.map (.process env))).1.finish.1.toList := by
  intro fs
  rw [← processAll_fragments, ← processAll_session]
  rfl

def renderAll (s : Session) : List (Environment × Text) → List Document
  | [] => []
  | (env, markdown) :: rest =>
    let o := s.renderMarkdown env markdown events
    o.2.1 :: o.1.renderAll rest

theorem renderAll_eq_map (s : Session) (passes : List (Environment × Text)) :
    s.renderAll events passes =
      passes.map fun p => (fresh.renderMarkdown p.1 p.2 events).2.1 := by
  induction passes generalizing s with
  | nil => rfl
  | cons p ps ih =>
    rw [List.map_cons, renderAll, ih]
    rfl

theorem zip_renderAll (s : Session) (passes : List (Environment × Text)) :
    passes.zip (s.renderAll events passes) =
      passes.map fun p => (p, (fresh.renderMarkdown p.1 p.2 events).2.1) := by
  rw [renderAll_eq_map, List.zip, List.zipWith_map_right, List.zipWith_self]

/-- A pass does not depend on the past.  However the events of documents are read, and whatever a
session holds, the document is the one that a fresh session gives, and the session is idle afterwards.
The document has the fragments of its text in their places, each as it was left; and if a block is still
open behind the last of them, one more fragment brings all nodes of that block, whose own fragments are
empty.  So documents that share a session come out the same in every order. -/
theorem renderMarkdown_independent (s : Session) (env : Environment) (markdown : Text) :
    let fs := Markdown.fragments markdown events
    let o := fresh.run (fs.map (.process env))
    let document := (s.renderMarkdown env markdown events).2.1
    document = (fresh.renderMarkdown env markdown events).2.1 ∧
      (s.renderMarkdown env markdown events).1.isPending = false ∧
      (∃ ps : List Passage, o.2 = ps.map .passed ∧ ps.map (·.before) = fs ∧
        let opened := ps.rtakeWhile fun p => p.action = .accumulate
        document.fragments = ps.map (·.after) ++
            (if o.1.isPending then [Fragment.ofNodes (contentOf opened)] else []) ∧
          (o.1.isPending = true ↔ opened ≠ []) ∧ ∀ p ∈ opened, p.after.children = []) ∧
      (∀ passes, s.renderAll events passes =
        passes.map fun p => (fresh.renderMarkdown p.1 p.2 events).2.1) ∧
      ∀ passes passes' : List (Environment × Text), passes.Perm passes' →
        (passes.zip (s.renderAll events passes)).Perm
          (passes'.zip (s.renderAll events passes')) := by
  intro fs o document
  have hholds := passages_held env fs
  refine ⟨rfl, renderMarkdown_isPending s env markdown events,
    ⟨fresh.passages env fs, ?_, ?_, ?_, ?_, ?_⟩, renderAll_eq_map events s, ?_⟩
  · exact run_process fresh env fs
  · exact passages_before fresh env fs
  · show (s.renderMarkdown env markdown events).2.1.fragments = _
    rw [renderMarkdown_fragments, finish_rest, hholds.held]
    rfl
  · rw [hholds.pending]
    simp [Passage.keeps]
  · intro p hp
    rw [(hholds.emptied p hp).2]
  · intro passes passes' h
    rw [zip_renderAll, zip_renderAll]
    exact h.map _

end Events

/-- A session that still holds a block of another document. -/
def stale : Session := (fresh.process {} (.ofNodes [.paragraph [.text "[begin]old".toList]])).session

def unclosed : Text := "a\n\n[begin]\n\nb".toList

def closed : Text := "[end]".toList

/-- A document that leaves a block open and one that closes a block it never opened. -/
theorem renderMarkdown_independent_stale :
    let passes : List (Environment × Text) := [({}, unclosed), ({ platform := .mobile }, closed)]
    (passes.zip (stale.renderAll Markdown.read passes)).Perm
        (passes.reverse.zip (stale.renderAll Markdown.read passes.reverse)) ∧
      stale.isPending = true ∧
      ((stale.renderMarkdown {} unclosed).2.1.fragments.map fun f => f.children.length) = [1, 0, 0, 2] ∧
      ((stale.renderMarkdown {} closed).2.1.fragments.map fun f => f.children.length) = [1] := by
  intro passes
  have hindependent := renderMarkdown_independent Markdown.read stale {} unclosed
  refine ⟨hindependent.2.2.2.2 _ _ passes.reverse_perm.symm, ?_, ?_, ?_⟩ <;> cbv

end Session
end ColumnBlocks
