import ColumnBlocks.Proofs.Queue

/-!
# One bit of memory

A session that is handed blocks only never has to look back at what it holds.  All that counts of the
fragments before is whether a block is open, and all that counts of a fragment is how many of its
lines open and how many close a block.
-/

namespace ColumnBlocks

/-- The numbers of lines of a fragment that open and that close a block. -/
structure Tally where
  openings : Nat
  closings : Nat
deriving DecidableEq, Repr

def Fragment.tally (f : Fragment) : Tally where
  openings := Marker.openings f.plainText
  closings := Marker.closings f.plainText

namespace Tally

/-- The decision of the automaton.  A block that is open stands for one more opening. -/
def action (pending : Bool) (t : Tally) : Action :=
  Action.ofCounts (t.openings + pending.toNat) t.closings

/-- What the automaton decides one time after another, and the bit it ends with. -/
def run (pending : Bool) : List Tally → List Action × Bool
  | [] => ([], pending)
  | t :: ts =>
    let (actions, pending') := run (t.action pending = .accumulate) ts
    (t.action pending :: actions, pending')

end Tally

namespace Session

def Event.action? : Event → Option Action
  | .passed p => some p.action
  | .finished _ | .reset => none

/-! ## What is held -/

/-- The queue holds blocks, and they are together an open block unless there are none. -/
structure HoldsBlocks (s : Session) : Prop where
  alone : ∀ n ∈ s.held, n.standsAlone = true
  openings : Marker.openings (Node.plainTextAll s.held) = s.isPending.toNat
  closings : Marker.closings (Node.plainTextAll s.held) = 0

theorem Queued.holdsBlocks {s : Session} {last? : Option Action} (hs : s.Queued last?)
    (halone : ∀ n ∈ s.held, n.standsAlone = true) : s.HoldsBlocks := by
  cases hpending : s.pending with
  | nil =>
    have hheld : s.held = [] := by rw [held, hpending, List.flatMap_nil]
    have hidle : s.isPending = false := by simp [Session.isPending, hpending]
    refine { alone := halone, openings := ?_, closings := ?_ }
    · rw [hheld, hidle, Node.plainTextAll_nil]
      rfl
    · rw [hheld, Node.plainTextAll_nil]
      rfl
  | cons f fs =>
    have hlength := hs.length_le
    rw [hpending, List.length_cons] at hlength
    have hfs : fs = [] := List.eq_nil_of_length_eq_zero (by omega)
    subst hfs
    have hheld : s.held = f.children := by
      rw [held, hpending, List.flatMap_cons, List.flatMap_nil, List.append_nil]
    have hopen : s.isPending = true := by simp [Session.isPending, hpending]
    have hf : IsOpenBlock f := hs.isOpen f (by rw [hpending]; exact List.mem_cons_self)
    refine { alone := halone, openings := ?_, closings := ?_ }
    · rw [hheld, hopen]
      exact hf.openings
    · rw [hheld]
      exact hf.closings

theorem holdsBlocks_of_idle {s : Session} (h : s.isPending = false) : s.HoldsBlocks := by
  have hqueued : s.Queued none := queued_of_idle h (by simp)
  refine hqueued.holdsBlocks ?_
  intro n hn
  rw [eq_fresh h] at hn
  exact absurd hn List.not_mem_nil

/-! ## One call -/

/-- The text of what is held and the text of a fragment are counted independently. -/
theorem HoldsBlocks.process_action {s : Session} (hs : s.HoldsBlocks) (env : Environment)
    (f : Fragment) : (s.process env f).action = f.tally.action s.isPending := by
  have hline := Node.plainTextAll_lineStart hs.alone
  have htext : (s.merge f).plainText = Node.plainTextAll s.held ++ f.plainText :=
    Node.plainTextAll_append hline f.children
  have hopenings : Marker.openings (s.merge f).plainText =
      Marker.openings f.plainText + s.isPending.toNat := by
    rw [htext, Marker.openings, Text.countStarts_append hline, Nat.add_comm]
    exact congrArg (Marker.openings f.plainText + ·) hs.openings
  have hclosings : Marker.closings (s.merge f).plainText = Marker.closings f.plainText := by
    rw [htext, Marker.closings, Text.countStarts_append hline]
    exact (congrArg (· + Marker.closings f.plainText) hs.closings).trans (Nat.zero_add _)
  rw [Session.process_action, classify_eq_ofCounts, hopenings, hclosings]
  rfl

theorem mem_held_process {s : Session} {env : Environment} {f : Fragment} {n : Node}
    (h : n ∈ (s.process env f).session.held) : n ∈ s.held ∨ n ∈ f.children := by
  cases ha : (s.process env f).action with
  | accumulate =>
    rw [(process_accumulate ha).1, held_ofNodes, merge_children] at h
    exact List.mem_append.mp h
  | render =>
    rw [(process_render ha).1] at h
    exact absurd h List.not_mem_nil
  | passThrough =>
    rw [(process_passThrough ha).1] at h
    exact absurd h List.not_mem_nil

theorem HoldsBlocks.process {s : Session} (hs : s.HoldsBlocks) {f : Fragment}
    (hf : ∀ n ∈ f.children, n.standsAlone = true) (env : Environment) :
    (s.process env f).session.HoldsBlocks := by
  refine (process_queued s env f).holdsBlocks ?_
  intro n hn
  rcases mem_held_process hn with hn | hn
  · exact hs.alone n hn
  · exact hf n hn

/-! ## Any number of calls -/

theorem HoldsBlocks.run {s : Session} (hs : s.HoldsBlocks) {calls : List (Environment × Fragment)}
    (hcalls : ∀ c ∈ calls, ∀ n ∈ c.2.children, n.standsAlone = true) :
    (s.run (calls.map fun c => .process c.1 c.2)).1.HoldsBlocks := by
  induction calls generalizing s with
  | nil => exact hs
  | cons c cs ih =>
    rw [List.map_cons, run_cons]
    have hnext := hs.process (hcalls c List.mem_cons_self) c.1
    exact ih hnext fun d hd => hcalls d (List.mem_cons_of_mem c hd)

theorem HoldsBlocks.run_eq {s : Session} (hs : s.HoldsBlocks)
    {calls : List (Environment × Fragment)}
    (hcalls : ∀ c ∈ calls, ∀ n ∈ c.2.children, n.standsAlone = true) :
    let o := s.run (calls.map fun c => .process c.1 c.2)
    let a := Tally.run s.isPending (calls.map (·.2.tally))
    o.2.map Event.action? = a.1.map some ∧ o.1.isPending = a.2 := by
  induction calls generalizing s with
  | nil => exact ⟨rfl, rfl⟩
  | cons c cs ih =>
    have hnext := hs.process (hcalls c List.mem_cons_self) c.1
    obtain ⟨hactions, hpending⟩ := ih hnext fun d hd => hcalls d (List.mem_cons_of_mem c hd)
    have haction := hs.process_action c.1 c.2
    have hbit : (s.process c.1 c.2).session.isPending =
        decide (c.2.tally.action s.isPending = .accumulate) := by
      rw [Bool.eq_iff_iff, process_isPending, haction, decide_eq_true_iff]
    rw [hbit] at hactions hpending
    simp only [List.map_cons, run_cons, Tally.run]
    exact ⟨congrArg₂ List.cons (congrArg some haction) hactions, hpending⟩

/-- A session refines an automaton with one bit of memory, as long as nothing but blocks and raw
markup is handed over to it.  The decision of every call follows from whether a block is open and from
the numbers of opening and closing lines of the fragment alone, and a block is open after the call
exactly if it was kept; so the automaton, which is shown these numbers only, decides the same all
along. -/
theorem run_automaton {s : Session} (hidle : s.isPending = false)
    {calls : List (Environment × Fragment)}
    (halone : ∀ c ∈ calls, ∀ n ∈ c.2.children, n.standsAlone = true) :
    let o := s.run (calls.map fun c => .process c.1 c.2)
    let a := Tally.run false (calls.map (·.2.tally))
    (o.2.map Event.action? = a.1.map some ∧ o.1.isPending = a.2) ∧
      ∀ front c rest, calls = front ++ c :: rest →
        let t := (s.run (front.map fun c => .process c.1 c.2)).1
        let o := t.process c.1 c.2
        o.action = Action.ofCounts (Marker.openings c.2.plainText + t.isPending.toNat)
            (Marker.closings c.2.plainText) ∧
          (o.session.isPending = true ↔ o.action = .accumulate) := by
  intro o a
  have hs := holdsBlocks_of_idle hidle
  have hrun := hs.run_eq halone
  rw [hidle] at hrun
  refine ⟨hrun, ?_⟩
  intro front c rest hcalls t o
  have ht : t.HoldsBlocks := by
    refine hs.run ?_
    intro d hd
    exact halone d (by rw [hcalls]; exact List.mem_append_left (c :: rest) hd)
  exact ⟨ht.process_action c.1 c.2, process_isPending t c.1 c.2⟩

/-- A block in three fragments, and one that a second opening breaks off. -/
def brokenOff : List (Environment × Fragment) :=
  ["a", "[begin]", "b", "[end]", "[begin]", "[begin]"].map fun t =>
    ({}, .ofNodes [.paragraph [.text t.toList]])

theorem run_automaton_brokenOff :
    let o := fresh.run (brokenOff.map fun c => .process c.1 c.2)
    o.2.map Event.action? =
        [.passThrough, .accumulate, .accumulate, .render, .accumulate, .passThrough].map some ∧
      o.1.isPending = false := by
  have halone : ∀ c ∈ brokenOff, ∀ n ∈ c.2.children, n.standsAlone = true := by decide
  have hautomaton : Tally.run false (brokenOff.map (·.2.tally)) =
      ([.passThrough, .accumulate, .accumulate, .render, .accumulate, .passThrough], false) := by cbv
  have hrun := (run_automaton (s := fresh) rfl halone).1
  rw [hautomaton] at hrun
  exact hrun

end Session
end ColumnBlocks
