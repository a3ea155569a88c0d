import ColumnBlocks.Session

/-!
# Runs of calls on a session

What one call of `Session.process` does for each of its three decisions, and runs of any calls on one
session together with the log of what came of them.  Every statement about the history of a session
is about such a log.
-/

namespace ColumnBlocks
namespace Session

/-! ## One call -/

theorem process_action (s : Session) (env : Environment) (f : Fragment) :
    (s.process env f).action = classify (s.merge f).plainText := by
  unfold process
  cases h : classify (s.merge f).plainText <;> simp only [h]

theorem process_accumulate {s : Session} {env : Environment} {f : Fragment}
    (h : (s.process env f).action = .accumulate) :
    (s.process env f).session = { pending := [Fragment.ofNodes (s.merge f).children] } ∧
      (s.process env f).fragment = { f with children := [] } := by
  rw [process_action] at h
  unfold process
  simp only [h, true_and]
  rfl

theorem process_render {s : Session} {env : Environment} {f : Fragment}
    (h : (s.process env f).action = .render) :
    (s.process env f).session = fresh ∧ (s.process env f).fragment = (layOut env (s.merge f)).1 := by
  rw [process_action] at h
  unfold process
  simp only [h, and_self]

theorem process_passThrough {s : Session} {env : Environment} {f : Fragment}
    (h : (s.process env f).action = .passThrough) :
    (s.process env f).session = fresh ∧ (s.process env f).fragment = s.merge f := by
  rw [process_action] at h
  unfold process
  simp only [h, and_self]

theorem layOut_children (env : Environment) (f : Fragment) :
    (layOut env f).1.children =
      renderBlock f.children (layoutWraps (BlockConfig.ofText f.plainText) env) := rfl

@[simp] theorem merge_children (s : Session) (f : Fragment) :
    (s.merge f).children = s.held ++ f.children := rfl

@[simp] theorem held_ofNodes (ns : List Node) :
    ({ pending := [Fragment.ofNodes ns] } : Session).held = ns := by
  simp [held, Fragment.ofNodes]

/-- A call leaves a block open exactly if that is what it decided. -/
theorem process_isPending (s : Session) (env : Environment) (f : Fragment) :
    (s.process env f).session.isPending = true ↔ (s.process env f).action = .accumulate := by
  cases h : (s.process env f).action with
  | accumulate =>
    rw [(process_accumulate h).1]
    simp [isPending]
  | render =>
    rw [(process_render h).1]
    simp [isPending, fresh]
  | passThrough =>
    rw [(process_passThrough h).1]
    simp [isPending, fresh]

theorem eq_fresh {s : Session} (h : s.isPending = false) : s = fresh := by
  have hpending : s.pending = [] := by simpa [isPending] using h
  cases s
  rw [fresh]
  exact congrArg mk hpending

theorem merge_fresh (f : Fragment) : fresh.merge f = f := rfl

/-! ## Any number of calls -/

/-- A fragment on its way through a session: the host's environment, the fragment as it came, what
was decided, and the fragment as it was left. -/
structure Passage where
  env : Environment
  before : Fragment
  action : Action
  after : Fragment
deriving Repr

inductive Call where
  | process (env : Environment) (f : Fragment)
  | finish
  | reset
deriving Repr

/-- A call with what came of it. -/
inductive Event where
  | passed (p : Passage)
  | finished (rest? : Option Fragment)
  | reset
deriving Repr

def Event.call : Event → Call
  | .passed p => .process p.env p.before
  | .finished _ => .finish
  | .reset => .reset

def step (s : Session) : Call → Session × Event
  | .process env f =>
    let o := s.process env f
    (o.session, .passed { env, before := f, action := o.action, after := o.fragment })
  | .finish => (s.finish.2.1, .finished s.finish.1)
  | .reset => (s.reset.1, .reset)

/-- The session after some calls, and the log of them. -/
def run (s : Session) : List Call → Session × List Event
  | [] => (s, [])
  | c :: cs =>
    let (s, e) := s.step c
    let (s, es) := s.run cs
    (s, e :: es)

@[simp] theorem run_nil (s : Session) : s.run [] = (s, []) := rfl

theorem run_cons (s : Session) (c : Call) (cs : List Call) :
    s.run (c :: cs) =
      (((s.step c).1.run cs).1, (s.step c).2 :: ((s.step c).1.run cs).2) := rfl

theorem step_call (s : Session) (c : Call) : (s.step c).2.call = c := by
  cases c <;> rfl

/-- A log reports on the calls of its run, each of them once and in order. -/
theorem run_calls (s : Session) (cs : List Call) : (s.run cs).2.map Event.call = cs := by
  induction cs generalizing s with
  | nil => rfl
  | cons c cs ih => rw [run_cons, List.map_cons, step_call, ih]

/-! ## Fragments of a block -/

/-- The log of some fragments all of which were kept and left empty but the last, which received the
columns. -/
def LaidOut (log : List Event) (calls : List (Environment × Fragment))
    (columns : Environment → List Node) : Prop :=
  ∃ earlier last, log = (earlier ++ [last]).map .passed ∧
    (earlier ++ [last]).map (fun p => (p.env, p.before)) = calls ∧
    (∀ p ∈ earlier, p.action = .accumulate ∧ p.after.children = []) ∧
    last.action = .render ∧ last.after.children = columns last.env

theorem laidOut_render {s : Session} {env : Environment} {f : Fragment}
    (h : (s.process env f).action = .render) :
    (s.run [.process env f]).1 = fresh ∧
      LaidOut (s.run [.process env f]).2 [(env, f)] fun env =>
        renderBlock (s.merge f).children
          (layoutWraps (BlockConfig.ofText (s.merge f).plainText) env) := by
  obtain ⟨hsession, hfragment⟩ := process_render h
  refine ⟨hsession, [], ⟨env, f, .render, (s.process env f).fragment⟩, ?_, rfl, ?_, rfl, ?_⟩
  · rw [run_cons, run_nil, step]
    simp only [h]
    rfl
  · intro p hp
    exact absurd hp List.not_mem_nil
  · show (s.process env f).fragment.children = _
    rw [hfragment, layOut_children]

theorem laidOut_accumulate {s : Session} {env : Environment} {f : Fragment} {cs : List Call}
    {calls : List (Environment × Fragment)} {columns : Environment → List Node}
    (h : (s.process env f).action = .accumulate)
    (hrest : LaidOut ((s.process env f).session.run cs).2 calls columns) :
    LaidOut (s.run (.process env f :: cs)).2 ((env, f) :: calls) columns := by
  obtain ⟨earlier, last, hlog, hcalls, hearlier, haction, hchildren⟩ := hrest
  obtain ⟨_, hfragment⟩ := process_accumulate h
  refine ⟨⟨env, f, .accumulate, (s.process env f).fragment⟩ :: earlier, last, ?_, ?_, ?_, haction,
    hchildren⟩
  · rw [run_cons, step]
    simp only [h, hlog]
    rfl
  · rw [List.cons_append, List.map_cons, hcalls]
  · intro p hp
    rcases List.mem_cons.mp hp with rfl | hp
    · refine ⟨rfl, ?_⟩
      show (s.process env f).fragment.children = []
      rw [hfragment]
    · exact hearlier p hp

end Session
end ColumnBlocks
