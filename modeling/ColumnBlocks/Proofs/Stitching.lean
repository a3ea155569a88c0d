import ColumnBlocks.Proofs.Calls

/-!
# Stitching

Content travels through the queue of a session from one fragment to a later one.  Here the log of a
run is cut into groups without a look at the queue: a group is a row of fragments whose content was
kept, and the event that ended the row.  Each group comes out with exactly the content that went into
it, whatever the calls are.
-/

namespace ColumnBlocks
namespace Session

/-! ## Groups -/

def Call.content : Call → List Node
  | .process _ f => f.children
  | .finish | .reset => []

/-- The passage of a fragment whose content waits for the next fragment. -/
def Event.kept? : Event → Option Passage
  | .passed p => if p.action = .accumulate then some p else none
  | .finished _ | .reset => none

def contentOf (ps : List Passage) : List Node := ps.flatMap (·.before.children)

/-- A row of fragments that were kept, and the event that ended the row. -/
structure Group where
  kept : List Passage
  ending : Event

namespace Group

def events (g : Group) : List Event := g.kept.map .passed ++ [g.ending]

/-- All content of a group, in the order in which it was handed in. -/
def content (g : Group) : List Node := contentOf g.kept ++ g.ending.call.content

/-- What the end of a group hands over.  A fragment that closes the group carries all of its content,
as it is or laid out in columns; the end of the document hands the content back in a fragment of its
own if there is a group to hand back; a reset hands over nothing. -/
def Delivered (g : Group) : Prop :=
  match g.ending with
  | .passed p =>
    match p.action with
    | .passThrough => p.after = { p.before with children := g.content }
    | .render =>
      p.after.children = renderBlock g.content
        (layoutWraps (BlockConfig.ofText (Node.plainTextAll g.content)) p.env)
    | .accumulate => False
  | .finished rest? => rest? = if g.kept.isEmpty then none else some (Fragment.ofNodes g.content)
  | .reset => True

end Group

/-- A log cut into groups, and the fragments kept at its end. -/
structure History where
  groups : List Group
  opened : List Passage

/-- Cuts a log, the fragments `kept` being in front of it. -/
def cut (kept : List Passage) : List Event → History
  | [] => { groups := [], opened := kept }
  | e :: es =>
    match e.kept? with
    | some p => cut (kept ++ [p]) es
    | none =>
      let h := cut [] es
      { h with groups := { kept, ending := e } :: h.groups }

def Passage.Kept (p : Passage) : Prop :=
  p.action = .accumulate ∧ p.after = { p.before with children := [] }

theorem Event.eq_passed_of_kept? {e : Event} {p : Passage} (h : e.kept? = some p) :
    e = .passed p := by
  cases e with
  | passed q =>
    simp only [Event.kept?] at h
    split at h
    · rw [Option.some.inj h]
    · cases h
  | finished rest? => cases h
  | reset => cases h

theorem cut_events (kept : List Passage) (es : List Event) :
    (cut kept es).groups.flatMap Group.events ++ (cut kept es).opened.map .passed =
      kept.map .passed ++ es := by
  induction es generalizing kept with
  | nil => simp [cut]
  | cons e es ih =>
    rw [cut]
    cases h : e.kept? with
    | some p =>
      simp only
      rw [ih, Event.eq_passed_of_kept? h]
      simp
    | none =>
      simp only [List.flatMap_cons, Group.events]
      rw [List.append_assoc, ih]
      simp

theorem cut_ending {kept : List Passage} {es : List Event} {g : Group}
    (hg : g ∈ (cut kept es).groups) : g.ending.kept? = none := by
  induction es generalizing kept with
  | nil => simp [cut] at hg
  | cons e es ih =>
    rw [cut] at hg
    cases h : e.kept? with
    | some p =>
      rw [h] at hg
      exact ih hg
    | none =>
      rw [h] at hg
      rcases List.mem_cons.mp hg with rfl | hg
      · exact h
      · exact ih hg

/-! ## The queue -/

/-- The queue of a session holds exactly the content of a row of kept fragments. -/
structure Holds (s : Session) (kept : List Passage) : Prop where
  held : s.held = contentOf kept
  pending : s.isPending = !kept.isEmpty
  emptied : ∀ p ∈ kept, p.Kept

theorem fresh_holds : fresh.Holds [] :=
  { held := rfl, pending := rfl, emptied := by simp }

theorem step_keeps {s : Session} {kept : List Passage} {c : Call} {p : Passage}
    (hs : s.Holds kept) (h : (s.step c).2.kept? = some p) : (s.step c).1.Holds (kept ++ [p]) := by
  cases c with
  | process env f =>
    simp only [step, Event.kept?] at h ⊢
    split at h
    · rename_i ha
      obtain ⟨hsession, hfragment⟩ := process_accumulate ha
      have hp := (Option.some.inj h).symm
      refine { held := ?_, pending := ?_, emptied := ?_ }
      · rw [hsession, held_ofNodes, merge_children, hs.held, hp]
        simp [contentOf]
      · rw [hsession]
        simp [isPending]
      · intro q hq
        rcases List.mem_append.mp hq with hq | hq
        · exact hs.emptied q hq
        · rw [List.mem_singleton.mp hq, hp]
          exact ⟨ha, hfragment⟩
    · cases h
  | finish => cases h
  | reset => cases h

/-- Every other event takes the whole row out of the queue, and only a reset drops it. -/
theorem step_ends {s : Session} {kept : List Passage} {c : Call} (hs : s.Holds kept)
    (h : (s.step c).2.kept? = none) :
    (s.step c).1.Holds [] ∧ Group.Delivered { kept, ending := (s.step c).2 } := by
  cases c with
  | process env f =>
    have hcontent : (s.merge f).children = contentOf kept ++ f.children := by
      rw [merge_children, hs.held]
    cases ha : (s.process env f).action with
    | accumulate => simp [step, Event.kept?, ha] at h
    | render =>
      obtain ⟨hsession, hfragment⟩ := process_render ha
      refine ⟨?_, ?_⟩
      · simp only [step, hsession]
        exact fresh_holds
      · simp only [step, Group.Delivered, ha, Group.content, Event.call, Call.content]
        rw [hfragment, layOut_children, Fragment.plainText, hcontent]
    | passThrough =>
      obtain ⟨hsession, hfragment⟩ := process_passThrough ha
      refine ⟨?_, ?_⟩
      · simp only [step, hsession]
        exact fresh_holds
      · simp only [step, Group.Delivered, ha, Group.content, Event.call, Call.content]
        rw [hfragment, merge, hs.held]
  | finish =>
    cases hp : s.isPending with
    | false =>
      have hk : kept.isEmpty = true := by simpa [hp] using hs.pending
      have hkept : kept = [] := List.isEmpty_iff.mp hk
      subst hkept
      simp only [step, finish, hp, Bool.false_eq_true, if_false]
      exact ⟨hs, rfl⟩
    | true =>
      have hk : kept.isEmpty = false := by simpa [hp] using hs.pending
      simp only [step, finish, hp, if_true]
      refine ⟨fresh_holds, ?_⟩
      simp [Group.Delivered, Group.content, Event.call, Call.content, hk, merge, Fragment.ofNodes,
        hs.held]
  | reset => exact ⟨fresh_holds, trivial⟩

/-! ## Runs -/

/-- What a run does from any state: the row in the queue is the first part of the first group. -/
theorem run_holds {s : Session} {kept : List Passage} (hs : s.Holds kept) (calls : List Call) :
    (s.run calls).1.Holds (cut kept (s.run calls).2).opened ∧
      ∀ g ∈ (cut kept (s.run calls).2).groups, (∀ p ∈ g.kept, p.Kept) ∧ g.Delivered := by
  -- A row that is still open belongs to the first group of what follows, hence any row at the start.
  induction calls generalizing s kept with
  | nil => exact ⟨hs, by simp [cut]⟩
  | cons c cs ih =>
    rw [run_cons]
    simp only [cut]
    cases h : (s.step c).2.kept? with
    | some p => exact ih (step_keeps hs h)
    | none =>
      obtain ⟨hnext, hdelivered⟩ := step_ends hs h
      obtain ⟨hopened, hgroups⟩ := ih hnext
      refine ⟨hopened, ?_⟩
      intro g hg
      rcases List.mem_cons.mp hg with rfl | hg
      · exact ⟨hs.emptied, hdelivered⟩
      · exact hgroups g hg

theorem cut_content (kept : List Passage) (es : List Event) :
    (cut kept es).groups.flatMap Group.content ++ contentOf (cut kept es).opened =
      contentOf kept ++ (es.map Event.call).flatMap Call.content := by
  induction es generalizing kept with
  | nil => simp [cut]
  | cons e es ih =>
    rw [cut]
    cases h : e.kept? with
    | some p =>
      simp only
      rw [ih, Event.eq_passed_of_kept? h]
      simp [contentOf, Event.call, Call.content]
    | none =>
      simp only [List.flatMap_cons, List.map_cons]
      rw [List.append_assoc, ih, Group.content]
      simp [contentOf]

/-- Stitching neither loses, duplicates nor reorders content.  The log of any calls on a fresh session
falls into consecutive groups, each of them ended by the first event that keeps nothing.  The other
fragments of a group are left empty, and the end of the group hands over exactly what its fragments
brought.  What no group contains is still held, so that content is dropped by a reset only. -/
theorem run_stitches (calls : List Call) :
    let s := (fresh.run calls).1
    let log := (fresh.run calls).2
    let h := cut [] log
    log.map Event.call = calls ∧
      h.groups.flatMap Group.events ++ h.opened.map .passed = log ∧
      (∀ g ∈ h.groups, (∀ p ∈ g.kept, p.Kept) ∧ g.ending.kept? = none ∧ g.Delivered) ∧
      (∀ p ∈ h.opened, p.Kept) ∧
      s.isPending = !h.opened.isEmpty ∧ s.held = contentOf h.opened ∧
      h.groups.flatMap Group.content ++ s.held = calls.flatMap Call.content := by
  intro s log h
  obtain ⟨hopened, hgroups⟩ := run_holds fresh_holds calls
  have hcalls : log.map Event.call = calls := run_calls fresh calls
  refine ⟨hcalls, cut_events [] log, ?_, hopened.emptied, hopened.pending, hopened.held, ?_⟩
  · intro g hg
    exact ⟨(hgroups g hg).1, cut_ending hg, (hgroups g hg).2⟩
  · calc h.groups.flatMap Group.content ++ s.held
        = h.groups.flatMap Group.content ++ contentOf h.opened := by rw [← hopened.held]
      _ = (log.map Event.call).flatMap Call.content := cut_content [] log
      _ = calls.flatMap Call.content := by rw [hcalls]

end Session
end ColumnBlocks
