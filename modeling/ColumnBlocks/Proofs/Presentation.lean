import ColumnBlocks.Proofs.Bare
import ColumnBlocks.Proofs.Calls

/-!
# Presentation

The settings and the platform of a host end up in two places: in the classes of a fragment that is
laid out, and in the wrap flags of its columns.  Both may come back as input.  What a fragment is
without them is its bare form, and a session that is handed fragments of one bare form decides the
same and leaves the same behind, whatever its hosts are.
-/

namespace ColumnBlocks

/-! ## Fragments -/

namespace Fragment

/-- Whether a class says how a fragment is laid out. -/
def isLayoutClass (name : Text) : Bool := name == parentClass || name == rtlClass

def bare (f : Fragment) : Fragment where
  classes := f.classes.filter fun name => !isLayoutClass name
  children := Node.bareAll f.children

@[simp] theorem plainText_bare (f : Fragment) : f.bare.plainText = f.plainText :=
  Node.writeAll_bareAll true f.children

theorem bare_addClass {name : Text} (hname : isLayoutClass name = true) (f : Fragment) :
    (f.addClass name).bare = f.bare := by
  unfold addClass
  split
  · rfl
  · simp [bare, hname]

end Fragment

/-! ## Calls -/

namespace Session

def bare (s : Session) : Session where
  pending := s.pending.map Fragment.bare

theorem isPending_bare (s : Session) : s.bare.isPending = s.isPending := by
  simp [bare, isPending]

theorem held_bare (s : Session) : s.bare.held = Node.bareAll s.held := by
  rw [held, held, Node.bareAll_eq_map, List.map_flatMap, bare, List.flatMap_map]
  exact List.flatMap_congr fun f _ => Node.bareAll_eq_map f.children

theorem merge_bare (s : Session) (f : Fragment) : s.bare.merge f.bare = (s.merge f).bare := by
  simp only [merge, Fragment.bare, held_bare, Node.bareAll_append]

theorem layoutClasses_bare (config : BlockConfig) (env : Environment) (f : Fragment) :
    (layoutClasses config env f).bare = f.bare := by
  have hparent : Fragment.isLayoutClass parentClass = true := by decide
  have hrtl : Fragment.isLayoutClass rtlClass = true := by decide
  unfold layoutClasses
  split
  · dsimp only
    split
    · rw [Fragment.bare_addClass hrtl, Fragment.bare_addClass hparent]
    · rw [Fragment.bare_addClass hparent]
  · rfl

/-- All that a host has a say in is what the bare form leaves out. -/
theorem layOut_bare (env : Environment) (f : Fragment) :
    (layOut env f).1.bare = { f.bare with children := renderBlock f.bare.children false } := by
  have hclasses := congrArg Fragment.classes
    (layoutClasses_bare (BlockConfig.ofText f.plainText) env f)
  have hchildren := bareAll_renderBlock f.children
    (layoutWraps (BlockConfig.ofText f.plainText) env)
  exact congrArg₂ Fragment.mk hclasses hchildren

structure Outcome.Alike (o p : Outcome) : Prop where
  action : o.action = p.action
  session : o.session.bare = p.session.bare
  fragment : o.fragment.bare = p.fragment.bare

theorem process_alike {s t : Session} (hst : s.bare = t.bare) {f g : Fragment}
    (hfg : f.bare = g.bare) (env env' : Environment) :
    (s.process env f).Alike (t.process env' g) := by
  have hmerge : (s.merge f).bare = (t.merge g).bare := by
    rw [← merge_bare, ← merge_bare, hst, hfg]
  have hchildren : Node.bareAll (s.merge f).children = Node.bareAll (t.merge g).children :=
    congrArg Fragment.children hmerge
  -- Decisions are taken from the plain text, which is that of the bare form.
  have haction : (s.process env f).action = (t.process env' g).action := by
    rw [process_action, process_action, ← Fragment.plainText_bare, hmerge, Fragment.plainText_bare]
  cases hs : (s.process env f).action with
  | accumulate =>
    obtain ⟨hsession, hfragment⟩ := process_accumulate hs
    obtain ⟨hsession', hfragment'⟩ := process_accumulate (haction.symm.trans hs)
    refine { action := haction, session := ?_, fragment := ?_ }
    · rw [hsession, hsession']
      simp only [bare, List.map_cons, List.map_nil, Fragment.bare, Fragment.ofNodes, hchildren]
    · have hclasses := congrArg Fragment.classes hfg
      rw [hfragment, hfragment']
      exact congrArg₂ Fragment.mk hclasses rfl
  | render =>
    obtain ⟨hsession, hfragment⟩ := process_render hs
    obtain ⟨hsession', hfragment'⟩ := process_render (haction.symm.trans hs)
    refine { action := haction, session := ?_, fragment := ?_ }
    · rw [hsession, hsession']
    · rw [hfragment, hfragment', layOut_bare, layOut_bare, hmerge]
  | passThrough =>
    obtain ⟨hsession, hfragment⟩ := process_passThrough hs
    obtain ⟨hsession', hfragment'⟩ := process_passThrough (haction.symm.trans hs)
    refine { action := haction, session := ?_, fragment := ?_ }
    · rw [hsession, hsession']
    · rw [hfragment, hfragment', hmerge]

theorem finish_alike {s t : Session} (hst : s.bare = t.bare) :
    s.finish.1.map Fragment.bare = t.finish.1.map Fragment.bare ∧
      s.finish.2.1.bare = t.finish.2.1.bare := by
  have hpending : s.isPending = t.isPending := by rw [← isPending_bare, hst, isPending_bare]
  have hmerge : (s.merge {}).bare = (t.merge {}).bare := by rw [← merge_bare, ← merge_bare, hst]
  unfold finish
  rw [hpending]
  split
  · exact ⟨congrArg some hmerge, rfl⟩
  · exact ⟨rfl, hst⟩

/-! ## Runs -/

/-- A call as far as it matters: the host is left out altogether. -/
def Call.bare : Call → Call
  | .process _ f => .process {} f.bare
  | .finish => .finish
  | .reset => .reset

def Passage.bare (p : Passage) : Passage where
  env := {}
  before := p.before.bare
  action := p.action
  after := p.after.bare

def Event.bare : Event → Event
  | .passed p => .passed p.bare
  | .finished rest? => .finished (rest?.map Fragment.bare)
  | .reset => .reset

theorem step_alike {s t : Session} (hst : s.bare = t.bare) {c d : Call} (hcd : c.bare = d.bare) :
    (s.step c).1.bare = (t.step d).1.bare ∧ (s.step c).2.bare = (t.step d).2.bare := by
  cases c with
  | process env f =>
    cases d with
    | process env' g =>
      have hfg : f.bare = g.bare := (Call.process.inj hcd).2
      have h := process_alike hst hfg env env'
      refine ⟨h.session, congrArg Event.passed ?_⟩
      simp only [Passage.bare, hfg, h.action, h.fragment]
    | finish => cases hcd
    | reset => cases hcd
  | finish =>
    cases d with
    | process env' g => cases hcd
    | finish =>
      obtain ⟨hrest, hsession⟩ := finish_alike hst
      exact ⟨hsession, congrArg Event.finished hrest⟩
    | reset => cases hcd
  | reset =>
    cases d with
    | process env' g => cases hcd
    | finish => cases hcd
    | reset => exact ⟨rfl, rfl⟩

theorem run_alike {s t : Session} (hst : s.bare = t.bare) {cs ds : List Call}
    (hcalls : cs.map Call.bare = ds.map Call.bare) :
    (s.run cs).1.bare = (t.run ds).1.bare ∧
      (s.run cs).2.map Event.bare = (t.run ds).2.map Event.bare := by
  induction cs generalizing s t ds with
  | nil =>
    have hds : ds = [] := List.map_eq_nil_iff.mp hcalls.symm
    rw [hds]
    exact ⟨hst, rfl⟩
  | cons c cs ih =>
    obtain ⟨d, ds', rfl, hcd, hrest⟩ := List.map_eq_cons_iff.mp hcalls.symm
    obtain ⟨hsession, hevent⟩ := step_alike hst hcd.symm
    obtain ⟨hlast, hevents⟩ := ih hsession hrest.symm
    exact ⟨hlast, congrArg₂ List.cons hevent hevents⟩

theorem run_take_alike {s t : Session} (hst : s.bare = t.bare) {cs ds : List Call}
    (hcalls : cs.map Call.bare = ds.map Call.bare) (n : Nat) :
    (s.run (cs.take n)).1.bare = (t.run (ds.take n)).1.bare := by
  refine (run_alike hst ?_).1
  rw [List.map_take, hcalls, List.map_take]

def Event.columnWidths : Event → List Nat
  | .passed p => p.after.children.filterMap Node.columnWidth?
  | .finished _ | .reset => []

theorem columnWidths_bare (e : Event) : e.bare.columnWidths = e.columnWidths := by
  cases e with
  | passed p => exact filterMap_columnWidth?_bareAll p.after.children
  | finished rest? => rfl
  | reset => rfl

/-- Settings and platform affect presentation only.  Two runs whose fragments have the same bare form
agree in every decision, in the bare form of every fragment they leave and in the columns and their
widths, whatever the hosts are.  After any number of calls the queues have the same bare form, a block
is open in both sessions or in none, and so is what they hand back at the end of the document. -/
theorem run_bare_eq {s t : Session} (hst : s.bare = t.bare) {cs ds : List Call}
    (hcalls : cs.map Call.bare = ds.map Call.bare) :
    (s.run cs).2.map Event.bare = (t.run ds).2.map Event.bare ∧
      (s.run cs).2.map Event.columnWidths = (t.run ds).2.map Event.columnWidths ∧
      ∀ n,
        let s' := (s.run (cs.take n)).1
        let t' := (t.run (ds.take n)).1
        s'.bare = t'.bare ∧ s'.isPending = t'.isPending ∧
          s'.finish.1.map Fragment.bare = t'.finish.1.map Fragment.bare := by
  have hevents := (run_alike hst hcalls).2
  refine ⟨hevents, ?_, ?_⟩
  · calc (s.run cs).2.map Event.columnWidths
        = ((s.run cs).2.map Event.bare).map Event.columnWidths := by
          rw [List.map_map]
          exact List.map_congr_left fun e _ => (columnWidths_bare e).symm
      _ = ((t.run ds).2.map Event.bare).map Event.columnWidths := by rw [hevents]
      _ = (t.run ds).2.map Event.columnWidths := by
          rw [List.map_map]
          exact List.map_congr_left fun e _ => columnWidths_bare e
  · intro n s' t'
    have hsession : s'.bare = t'.bare := run_take_alike hst hcalls n
    have hpending : s'.isPending = t'.isPending := by
      rw [← isPending_bare, hsession, isPending_bare]
    exact ⟨hsession, hpending, (finish_alike hsession).1⟩

def Event.classes : Event → List Text
  | .passed p => p.after.classes
  | .finished _ | .reset => []

/-- A block in two fragments, the first of which comes with some classes and with a column of an
earlier pass. -/
def laidOutBefore (env : Environment) (classes : List Text) (wrap : Bool) : List Call :=
  [.process env
      { classes, children := [.paragraph [.text "[begin]2".toList], .column 3 wrap [.text ['a']]] },
    .process env (.ofNodes [.paragraph [.text "[end] rtl".toList]])]

def wide : List Call :=
  laidOutBefore { settings := { wrapByDefault := true } } [parentClass, "note".toList] true

def narrow : List Call :=
  laidOutBefore { settings := { renderOnMobile := false }, platform := .mobile } ["note".toList] false

/-- A desktop host lays out the columns from right to left and a mobile host does not lay out any, but
the block is the same. -/
theorem run_bare_eq_hosts :
    (fresh.run wide).2.map Event.bare = (fresh.run narrow).2.map Event.bare ∧
      (fresh.run wide).2.map Event.columnWidths = (fresh.run narrow).2.map Event.columnWidths ∧
      (fresh.run narrow).2.map Event.columnWidths = [[], [2]] ∧
      (fresh.run wide).2.map Event.classes =
        [[parentClass, "note".toList], [parentClass, rtlClass]] ∧
      (fresh.run narrow).2.map Event.classes = [["note".toList], []] := by
  have hcalls : wide.map Call.bare = narrow.map Call.bare := by cbv
  obtain ⟨hevents, hwidths, _⟩ := run_bare_eq (s := fresh) (t := fresh) rfl hcalls
  refine ⟨hevents, hwidths, ?_, ?_, ?_⟩ <;>
    simp only [wide, narrow, laidOutBefore, run_cons, run_nil, step, List.map_cons, List.map_nil] <;>
    cbv

end Session
end ColumnBlocks
