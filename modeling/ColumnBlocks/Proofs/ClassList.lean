import ColumnBlocks.Proofs.Calls
import Mathlib.Data.List.Nodup
import Mathlib.Logic.Function.Basic

/-!
# The classes of a fragment

A style sheet makes columns of a fragment by its classes, and it lets a column wrap only inside of a
fragment that is laid out as columns.  Classes are added and never taken away, so this has to hold of
a fragment however often it is handed over, to whatever session and under whatever environment.
-/

namespace ColumnBlocks

/-! ## Lists of classes -/

/-- No class stands twice, and what runs right to left is laid out as columns. -/
structure SoundClasses (names : List Text) : Prop where
  nodup : names.Nodup
  parent : rtlClass ∈ names → parentClass ∈ names

/-- Sound classes are kept sound by others that are sound themselves, as far as they are missing. -/
theorem SoundClasses.extend {names asked : List Text} (h : SoundClasses names)
    (hasked : SoundClasses asked) : SoundClasses (names ++ asked.filter (!names.contains ·)) where
  nodup := by
    refine List.nodup_append'.mpr ⟨h.nodup, hasked.nodup.filter _, ?_⟩
    intro name hname hadded
    have hmissing := (List.mem_filter.mp hadded).2
    simp [hname] at hmissing
  parent hrtl := by
    rw [List.mem_append] at hrtl ⊢
    by_cases hparent : parentClass ∈ names
    · exact Or.inl hparent
    · right
      have hadded := hrtl.resolve_left fun hname => hparent (h.parent hname)
      rw [List.mem_filter] at hadded ⊢
      exact ⟨hasked.parent hadded.1, by simpa using hparent⟩

namespace Fragment

theorem classes_addClass (f : Fragment) (name : Text) :
    (f.addClass name).classes = f.classes ++ [name].filter (!f.classes.contains ·) := by
  unfold addClass hasClass
  by_cases h : f.classes.contains name = true
  · rw [if_pos h, List.filter_cons_of_neg (by simp only [h]; decide), List.filter_nil,
      List.append_nil]
  · rw [if_neg h, List.filter_cons_of_pos (by simpa using h), List.filter_nil]

theorem contains_addClass {f : Fragment} {name other : Text} (h : other ≠ name) :
    (f.addClass name).classes.contains other = f.classes.contains other := by
  unfold addClass
  split
  · rfl
  · rw [Bool.eq_iff_iff]
    simp [h]

/-- Classes that are added one by one are added as far as they are missing. -/
theorem classes_foldl_addClass {names : List Text} (h : names.Nodup) (f : Fragment) :
    (names.foldl addClass f).classes = f.classes ++ names.filter (!f.classes.contains ·) := by
  induction names generalizing f with
  | nil => exact (List.append_nil f.classes).symm
  | cons name names ih =>
    obtain ⟨hname, hnames⟩ := List.nodup_cons.mp h
    have hrest : names.filter (!(f.addClass name).classes.contains ·) =
        names.filter (!f.classes.contains ·) := by
      apply List.filter_congr
      intro other hother
      rw [contains_addClass (ne_of_mem_of_not_mem hother hname)]
    rw [List.foldl_cons, ih hnames, hrest, classes_addClass, List.append_assoc,
      ← List.filter_append, List.singleton_append]

end Fragment

namespace Session

/-! ## One call -/

/-- The classes that a block with some configuration asks for. -/
def askedClasses (config : BlockConfig) (env : Environment) : List Text :=
  if env.layoutEnabled then
    if config.runsRtl env.settings then [parentClass, rtlClass] else [parentClass]
  else []

theorem soundClasses_asked (config : BlockConfig) (env : Environment) :
    SoundClasses (askedClasses config env) := by
  unfold askedClasses
  split
  · split
    · exact ⟨by decide, fun _ => by decide⟩
    · exact ⟨by decide, fun _ => by decide⟩
  · exact ⟨List.nodup_nil, fun h => absurd h List.not_mem_nil⟩

theorem eq_of_mem_askedClasses {config : BlockConfig} {env : Environment} {name : Text}
    (h : name ∈ askedClasses config env) : name = parentClass ∨ name = rtlClass := by
  unfold askedClasses at h
  split at h
  · split at h
    · simpa using h
    · exact Or.inl (List.mem_singleton.mp h)
  · exact absurd h List.not_mem_nil

theorem parentClass_mem_askedClasses {config : BlockConfig} {env : Environment} :
    parentClass ∈ askedClasses config env ↔ env.layoutEnabled = true := by
  unfold askedClasses
  split
  · split <;> simp [*]
  · simp [*]

theorem layoutClasses_eq_foldl (config : BlockConfig) (env : Environment) (f : Fragment) :
    layoutClasses config env f = (askedClasses config env).foldl Fragment.addClass f := by
  unfold layoutClasses askedClasses
  split
  · split <;> rfl
  · rfl

/-- The classes that a call asks for.  Only a block that is laid out asks for any. -/
def callClasses (s : Session) (env : Environment) (f : Fragment) : List Text :=
  if (s.process env f).action = .render then
    askedClasses (BlockConfig.ofText (s.merge f).plainText) env
  else []

theorem soundClasses_call (s : Session) (env : Environment) (f : Fragment) :
    SoundClasses (s.callClasses env f) := by
  unfold callClasses
  split
  · exact soundClasses_asked _ env
  · exact ⟨List.nodup_nil, fun h => absurd h List.not_mem_nil⟩

theorem parentClass_mem_callClasses {s : Session} {env : Environment} {f : Fragment} :
    parentClass ∈ s.callClasses env f ↔
      (s.process env f).action = .render ∧ env.layoutEnabled = true := by
  unfold callClasses
  split
  · rw [parentClass_mem_askedClasses]
    simp [*]
  · simp [*]

theorem eq_of_mem_callClasses {s : Session} {env : Environment} {f : Fragment} {name : Text}
    (h : name ∈ s.callClasses env f) : name = parentClass ∨ name = rtlClass := by
  unfold callClasses at h
  split at h
  · exact eq_of_mem_askedClasses h
  · exact absurd h List.not_mem_nil

theorem process_classes (s : Session) (env : Environment) (f : Fragment) :
    (s.process env f).fragment.classes =
      f.classes ++ (s.callClasses env f).filter (!f.classes.contains ·) := by
  unfold callClasses
  cases h : (s.process env f).action with
  | accumulate => rw [(process_accumulate h).2]; simp
  | passThrough => rw [(process_passThrough h).2]; simp [merge]
  | render =>
    have hnodup := (soundClasses_asked (BlockConfig.ofText (s.merge f).plainText) env).nodup
    rw [(process_render h).2, if_pos rfl]
    show (layoutClasses (BlockConfig.ofText (s.merge f).plainText) env (s.merge f)).classes = _
    rw [layoutClasses_eq_foldl, Fragment.classes_foldl_addClass hnodup]
    rfl

theorem wrap_of_mem_renderBlock {nodes children : List Node} {width : Nat} {wrap wrap' : Bool}
    (h : .column width wrap' children ∈ renderBlock nodes wrap) : wrap' = wrap := by
  obtain ⟨b, _, hb⟩ := List.mem_map.mp h
  exact ((Node.column.inj hb).2.1).symm

theorem parentClass_of_wraps {s : Session} {env : Environment} {f : Fragment}
    (haction : (s.process env f).action = .render) {width : Nat} {children : List Node}
    (h : .column width true children ∈ (s.process env f).fragment.children) :
    parentClass ∈ (s.process env f).fragment.classes := by
  rw [(process_render haction).2, layOut_children] at h
  have hwraps := wrap_of_mem_renderBlock h
  have hlayout : env.layoutEnabled = true := (Bool.and_eq_true_iff.mp hwraps.symm).1
  have hasked := parentClass_mem_callClasses.mpr ⟨haction, hlayout⟩
  rw [process_classes, List.mem_append, List.mem_filter]
  by_cases hparent : parentClass ∈ f.classes
  · exact Or.inl hparent
  · exact Or.inr ⟨hasked, by simpa using hparent⟩

/-- Nothing but a layout makes nodes. -/
theorem mem_merge_of_ne_render {s : Session} {env : Environment} {f : Fragment}
    (haction : (s.process env f).action ≠ .render) {n : Node}
    (h : n ∈ (s.process env f).fragment.children) : n ∈ (s.merge f).children := by
  cases hcases : (s.process env f).action with
  | accumulate =>
    rw [(process_accumulate hcases).2] at h
    exact absurd h List.not_mem_nil
  | render => exact absurd hcases haction
  | passThrough =>
    rw [(process_passThrough hcases).2] at h
    exact h

end Session

/-! ## Any number of calls -/

/-- The sessions and the fragments of a host, each with a number. -/
structure Host where
  sessions : Nat → Session
  fragments : Nat → Fragment

namespace Host

/-- A fragment is handed over to a session, both being known by their numbers. -/
structure Request where
  session : Nat
  env : Environment
  fragment : Nat

def outcome (h : Host) (r : Request) : Session.Outcome :=
  (h.sessions r.session).process r.env (h.fragments r.fragment)

/-- The session and the fragment are replaced by what a call leaves of them. -/
def step (h : Host) (r : Request) : Host where
  sessions := Function.update h.sessions r.session (h.outcome r).session
  fragments := Function.update h.fragments r.fragment (h.outcome r).fragment

def run (h : Host) (rs : List Request) : Host := rs.foldl step h

theorem run_concat (h : Host) (rs : List Request) (r : Request) :
    h.run (rs ++ [r]) = (h.run rs).step r := by
  rw [run, List.foldl_concat]
  rfl

def Sound (h : Host) : Prop := ∀ i, SoundClasses (h.fragments i).classes

theorem Sound.step {h : Host} (hsound : h.Sound) (r : Request) : (h.step r).Sound := by
  intro i
  by_cases hi : i = r.fragment
  · subst hi
    show SoundClasses (Function.update h.fragments _ (h.outcome r).fragment _).classes
    rw [Function.update_self, outcome, Session.process_classes]
    exact (hsound r.fragment).extend (Session.soundClasses_call _ r.env _)
  · show SoundClasses (Function.update h.fragments _ (h.outcome r).fragment i).classes
    rw [Function.update_of_ne hi]
    exact hsound i

theorem Sound.run {h : Host} (hsound : h.Sound) (rs : List Request) : (h.run rs).Sound := by
  induction rs generalizing h with
  | nil => exact hsound
  | cons r rs ih => exact ih (hsound.step r)

/-- Sound classes stay sound.  Take any sessions and any fragments with sound classes, any calls on
them, a fragment being handed over as often as one likes, and one more call.  After it the classes of
all fragments are sound.  The call leaves the classes of its fragment in front and adds at most the two
classes of a layout behind them; it adds the one for columns exactly if it lays out a block, the layout
is enabled and the class is not there.  If it lays out a block with a column that wraps, then the
fragment has that class, and if it does not lay out a block, then it makes no column at all. -/
theorem run_classes {h : Host} (hsound : ∀ i, SoundClasses (h.fragments i).classes)
    (rs : List Request) (r : Request) :
    let before := h.run rs
    let after := h.run (rs ++ [r])
    let f := before.fragments r.fragment
    let f' := after.fragments r.fragment
    let action := (before.outcome r).action
    (∀ i, SoundClasses (after.fragments i).classes) ∧
      (∀ i, i ≠ r.fragment → after.fragments i = before.fragments i) ∧
      (∃ added, f'.classes = f.classes ++ added ∧
        (∀ name ∈ added, name = parentClass ∨ name = rtlClass) ∧
        (parentClass ∈ added ↔
          action = .render ∧ r.env.layoutEnabled = true ∧ parentClass ∉ f.classes)) ∧
      (action = .render → ∀ width children, .column width true children ∈ f'.children →
        parentClass ∈ f'.classes) ∧
      (action ≠ .render →
        ∀ n ∈ f'.children, n ∈ ((before.sessions r.session).merge f).children) := by
  intro before after f f' action
  have hafter : after = before.step r := run_concat h rs r
  have hf' : f' = (before.outcome r).fragment := by
    show after.fragments r.fragment = _
    rw [hafter]
    exact Function.update_self r.fragment _ before.fragments
  refine ⟨Sound.run hsound (rs ++ [r]), ?_, ?_, ?_, ?_⟩
  · intro i hi
    rw [hafter]
    exact Function.update_of_ne hi _ before.fragments
  · let asked := (before.sessions r.session).callClasses r.env f
    refine ⟨asked.filter (!f.classes.contains ·), ?_, ?_, ?_⟩
    · rw [hf']
      exact Session.process_classes (before.sessions r.session) r.env f
    · intro name hname
      exact Session.eq_of_mem_callClasses (List.mem_filter.mp hname).1
    · rw [List.mem_filter, Session.parentClass_mem_callClasses]
      simp only [and_assoc, Bool.not_eq_true', List.contains_eq_mem, decide_eq_false_iff_not]
      rfl
  · intro haction width children hmem
    rw [hf'] at hmem ⊢
    exact Session.parentClass_of_wraps haction hmem
  · intro haction n hn
    rw [hf'] at hn
    exact Session.mem_merge_of_ne_render haction hn

/-- A block in a quotation, which is laid out anew each time it is handed over. -/
def quotedBlock : Fragment where
  classes := ["note".toList]
  children := [.tagged "blockquote"
    [.paragraph [.text "[begin]".toList, .lineBreak, .text "[end] wrap rtl".toList]]]

def quotes : Host where
  sessions _ := Session.fresh
  fragments _ := quotedBlock

/-- Once without a layout and once with one. -/
def handedOver : List Request :=
  [⟨0, { settings := { renderOnMobile := false }, platform := .mobile }, 7⟩, ⟨0, {}, 7⟩]

theorem run_classes_quoted :
    (∀ i, SoundClasses (quotes.fragments i).classes) ∧
      (∀ i, SoundClasses ((quotes.run (handedOver ++ [⟨1, {}, 7⟩])).fragments i).classes) ∧
      ((quotes.run (handedOver.take 1)).fragments 7).classes = ["note".toList] ∧
      ((quotes.run handedOver).fragments 7).classes = ["note".toList, parentClass, rtlClass] ∧
      ((quotes.run (handedOver ++ [⟨1, {}, 7⟩])).fragments 7).classes =
        ["note".toList, parentClass, rtlClass] := by
  have hnote : SoundClasses quotedBlock.classes := ⟨by decide, fun h => absurd h (by decide)⟩
  have hsound : ∀ i, SoundClasses (quotes.fragments i).classes := fun _ => hnote
  exact ⟨hsound, (run_classes hsound handedOver ⟨1, {}, 7⟩).1, by cbv, by cbv, by cbv⟩

end Host
end ColumnBlocks
