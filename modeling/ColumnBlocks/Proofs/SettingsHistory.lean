import ColumnBlocks.Proofs.Commands
import ColumnBlocks.Proofs.StoredSettings

/-!
# Settings changed one at a time

The file of the settings is a map from settings to values, and a command that changes a setting is an
update of the map: the last change of a setting that succeeded counts, and a change that fails does
nothing.
-/

namespace ColumnBlocks

open Files (Tree)

/-! ## The map in a file -/

/-- The truth value that entries give to a key. -/
def Toml.Entries.boolean? (es : Toml.Entries) (key : Text) : Option Bool :=
  match es.get? key with
  | some (.boolean b) => some b
  | _ => none

namespace Settings

theorem get_take? {es : Toml.Entries} {s s' : Settings} {j : Setting} (h : take? es s j = some s')
    (k : Setting) : s'.get k = if k = j then (es.boolean? j.name).getD (s.get j) else s.get k := by
  unfold take? at h
  unfold Toml.Entries.boolean?
  split at h
  · rename_i hget
    cases h
    rw [hget]
    by_cases hkj : k = j
    · rw [if_pos hkj, hkj]
      rfl
    · rw [if_neg hkj]
  · rename_i b hget
    cases h
    rw [hget, get_set]
    rfl
  · cases h

theorem get_foldlM_take? {es : Toml.Entries} {ks : List Setting} {s s' : Settings}
    (h : ks.foldlM (take? es) s = some s') (k : Setting) :
    s'.get k = if k ∈ ks then (es.boolean? k.name).getD (s.get k) else s.get k := by
  induction ks generalizing s with
  | nil =>
    cases h
    rfl
  | cons j ks ih =>
    rw [List.foldlM_cons] at h
    obtain ⟨s₁, htake, hrest⟩ := Option.bind_eq_some_iff.mp h
    rw [ih hrest, get_take? htake]
    by_cases hkj : k = j
    · subst hkj
      rw [if_pos rfl, if_pos List.mem_cons_self]
      by_cases hk : k ∈ ks
      · rw [if_pos hk]
        cases es.boolean? k.name <;> rfl
      · rw [if_neg hk]
    · simp only [hkj, if_false, List.mem_cons, false_or]

theorem get_ofEntries? {es : Toml.Entries} {s : Settings} (h : ofEntries? es = some s)
    (k : Setting) : s.get k = (es.boolean? k.name).getD (({} : Settings).get k) := by
  rw [get_foldlM_take? h k, if_pos]
  cases k <;> decide

section Entries

variable (entries? : Text → Option Toml.Entries)

/-- The file at a path is not there, or it holds settings. -/
def Readable (path : Text) (fs : Tree) : Prop :=
  fs.contains path = false ∨ ∃ t, fs.read path = .ok t ∧ (ofToml? t entries?).isSome = true

/-- The value that the file at a path gives to a setting. -/
def given? (path : Text) (fs : Tree) (k : Setting) : Option Bool := do
  let es ← (fs.read path).toOption.bind entries?
  es.boolean? k.name

end Entries

variable {entries? : Text → Option Toml.Entries}

theorem contains_of_read {path t : Text} {fs : Tree} (h : fs.read path = .ok t) :
    fs.contains path = true := by
  obtain ⟨⟨p, e⟩, hlocate, hentry⟩ := Files.ok_of_bind h
  rw [Tree.contains, hlocate]
  cases e with
  | none => cases hentry
  | some e => rfl

theorem loaded_eq_ok {path : Text} {fs : Tree} {s : Settings} :
    loaded entries? path fs = .ok s ↔
      (fs.contains path = false ∧ s = {}) ∨
        ∃ t, fs.read path = .ok t ∧ ofToml? t entries? = some s := by
  rw [loaded]
  constructor
  · intro h
    split at h
    · split at h
      · cases h
      · rename_i t hread
        split at h
        · rename_i s' hsettings
          cases h
          exact Or.inr ⟨t, hread, hsettings⟩
        · cases h
    · rename_i hthere
      cases h
      exact Or.inl ⟨Bool.eq_false_iff.mpr hthere, rfl⟩
  · rintro (⟨hthere, rfl⟩ | ⟨t, hread, hsettings⟩)
    · rw [hthere]
      rfl
    · simp only [contains_of_read hread, if_true, hread, hsettings]

theorem readable_iff {path : Text} {fs : Tree} :
    Readable entries? path fs ↔ ∃ s, loaded entries? path fs = .ok s := by
  simp only [loaded_eq_ok, Readable, Option.isSome_iff_exists]
  constructor
  · rintro (hthere | ⟨t, hread, s, hsettings⟩)
    · exact ⟨{}, Or.inl ⟨hthere, rfl⟩⟩
    · exact ⟨s, Or.inr ⟨t, hread, hsettings⟩⟩
  · rintro ⟨s, ⟨hthere, _⟩ | ⟨t, hread, hsettings⟩⟩
    · exact Or.inl hthere
    · exact Or.inr ⟨t, hread, s, hsettings⟩

/-- Loaded settings have the values that the file gives, and the defaults otherwise. -/
theorem get_loaded {path : Text} {fs : Tree} {s : Settings} (h : loaded entries? path fs = .ok s)
    (k : Setting) : s.get k = (given? entries? path fs k).getD (({} : Settings).get k) := by
  rw [given?]
  rcases loaded_eq_ok.mp h with ⟨hthere, rfl⟩ | ⟨t, hread, hsettings⟩
  · cases hread : fs.read path with
    | error f => rfl
    | ok t =>
      rw [contains_of_read hread] at hthere
      cases hthere
  · obtain ⟨es, hes, hs⟩ := Option.bind_eq_some_iff.mp hsettings
    rw [hread, get_ofEntries? hs]
    show _ = ((entries? t).bind fun es => es.boolean? k.name).getD _
    rw [hes]
    rfl

/-- Stored settings are loaded. -/
theorem loaded_of_stores {path : Text} {fs fs' : Tree} {s : Settings}
    (hreads : ofToml? s.printed entries? = some s) (h : Tree.Stores path s.printed fs fs') :
    loaded entries? path fs' = .ok s :=
  loaded_eq_ok.mpr (Or.inr ⟨s.printed, h.read.2, hreads⟩)

end Settings

/-! ## Changes -/

namespace CommandLine

/-- A command that changes a setting, carried out, with the files before and after it. -/
structure Change where
  name : Text
  value : Bool
  before : Tree
  outcome : Outcome
  after : Tree

section Run

variable (entries? : Text → Option Toml.Entries)

def Change.run (path name : Text) (value : Bool) (fs : Tree) : Change :=
  let (outcome, after) := (changeSetting path name value entries?).runOn fs
  { name, value, before := fs, outcome, after }

/-- Changes settings one after another.  A change is tried whether the ones before it succeeded or
not. -/
def changeAll (path : Text) : List (Text × Bool) → Tree → List Change × Tree
  | [], fs => ([], fs)
  | (name, value) :: rest, fs =>
    let change := Change.run entries? path name value fs
    let (changes, last) := changeAll path rest change.after
    (change :: changes, last)

end Run

namespace Change

def Succeeds (c : Change) : Prop := c.outcome.exitCode = 0

instance (c : Change) : Decidable c.Succeeds := inferInstanceAs (Decidable (_ = _))

/-- Whether the file could not be written. -/
def unsaved (c : Change) : Bool :=
  match c.outcome.output with
  | .error (.saving _ _) => true
  | _ => false

/-- The value that a change gives to a setting. -/
def value? (c : Change) (k : Setting) : Option Bool :=
  if c.Succeeds ∧ c.name = k.name then some c.value else none

/-- The value that the last of some changes that gives one to a setting gives to it. -/
def lastValue? (changes : List Change) (k : Setting) : Option Bool :=
  changes.reverse.findSome? (·.value? k)

theorem lastValue?_cons (c : Change) (changes : List Change) (k : Setting) :
    lastValue? (c :: changes) k = (lastValue? changes k).or (c.value? k) := by
  rw [lastValue?, List.reverse_cons, List.findSome?_append, List.findSome?_singleton]
  rfl

section Step

variable {entries? : Text → Option Toml.Entries} {path name : Text} {value : Bool} {fs : Tree}
  (hsaved : (run entries? path name value fs).unsaved = false)
include hsaved

/-- A change either finds nothing to change, or it is stored. -/
theorem run_cases :
    (((∀ k : Setting, k.name ≠ name) ∨ ¬ Settings.Readable entries? path fs) ∧
        ¬ (run entries? path name value fs).Succeeds ∧
        (run entries? path name value fs).after = fs) ∨
      ∃ s k, Settings.loaded entries? path fs = .ok s ∧ k.name = name ∧
        (run entries? path name value fs).Succeeds ∧
        Tree.Stores path (s.set k value).printed fs (run entries? path name value fs).after := by
  have h : Changed entries? path name value fs
      ((run entries? path name value fs).outcome, (run entries? path name value fs).after) :=
    changeSetting_changed entries? path name value fs
  unfold Succeeds
  unfold unsaved at hsaved
  -- From here on only what the command left counts, and not how it came to it.
  generalize (run entries? path name value fs).outcome = o at h hsaved ⊢
  generalize (run entries? path name value fs).after = fs' at h ⊢
  cases h with
  | @unloaded e log hload =>
    refine Or.inl ⟨Or.inr fun hreadable => ?_, by simp [Outcome.exitCode], rfl⟩
    obtain ⟨s, hs⟩ := Settings.readable_iff.mp hreadable
    rw [hs] at hload
    cases hload
  | @unknown s log hload hname =>
    refine Or.inl ⟨Or.inl ?_, by simp [Outcome.exitCode], rfl⟩
    rintro k rfl
    rw [Setting.ofName?_name] at hname
    cases hname
  | @unsaved e fs' log hmakes => cases hsaved
  | @saved s k fs' log hload hname hstores =>
    exact Or.inr ⟨s, k, hload, Setting.name_of_ofName? hname, rfl, hstores⟩

theorem fails_iff :
    ¬ (run entries? path name value fs).Succeeds ↔
      (∀ k : Setting, k.name ≠ name) ∨ ¬ Settings.Readable entries? path fs := by
  rcases run_cases hsaved with ⟨hnothing, hfails, _⟩ | ⟨s, k, hload, hk, hsucceeds, _⟩
  · exact iff_of_true hfails hnothing
  · refine iff_of_false (not_not_intro hsucceeds) ?_
    rintro (hname | hreadable)
    · exact hname k hk
    · exact hreadable (Settings.readable_iff.mpr ⟨s, hload⟩)

theorem after_of_fails (hfails : ¬ (run entries? path name value fs).Succeeds) :
    (run entries? path name value fs).after = fs := by
  rcases run_cases hsaved with ⟨_, _, hafter⟩ | ⟨_, _, _, _, hsucceeds, _⟩
  · exact hafter
  · exact absurd hsucceeds hfails

/-- A change updates the map. -/
theorem loaded_after (hreads : ∀ s : Settings, Settings.ofToml? s.printed entries? = some s)
    {s : Settings} (hload : Settings.loaded entries? path fs = .ok s) :
    ∃ s', Settings.loaded entries? path (run entries? path name value fs).after = .ok s' ∧
      ∀ k, s'.get k = ((run entries? path name value fs).value? k).getD (s.get k) := by
  have hname : (run entries? path name value fs).name = name := rfl
  have hvalue : (run entries? path name value fs).value = value := rfl
  unfold value?
  rw [hname, hvalue]
  rcases run_cases hsaved with ⟨_, hfails, hafter⟩ | ⟨s₀, j, hload₀, rfl, hsucceeds, hstores⟩
  · refine ⟨s, hafter.symm ▸ hload, fun k => ?_⟩
    rw [if_neg fun h => hfails h.1]
    rfl
  · cases hload.symm.trans hload₀
    refine ⟨s.set j value, Settings.loaded_of_stores (hreads _) hstores, fun k => ?_⟩
    rw [Settings.get_set]
    by_cases hkj : k = j
    · rw [if_pos hkj, if_pos ⟨hsucceeds, hkj ▸ rfl⟩]
      rfl
    · rw [if_neg hkj, if_neg fun h => hkj (Setting.name_injective h.2.symm)]
      rfl

end Step
end Change

variable {entries? : Text → Option Toml.Entries} {path : Text}

theorem changeAll_cons (name : Text) (value : Bool) (rest : List (Text × Bool)) (fs : Tree) :
    changeAll entries? path ((name, value) :: rest) fs =
      (Change.run entries? path name value fs ::
          (changeAll entries? path rest (Change.run entries? path name value fs).after).1,
        (changeAll entries? path rest (Change.run entries? path name value fs).after).2) := rfl

theorem changeAll_fails_iff {commands : List (Text × Bool)} {fs : Tree}
    (hsaved : ∀ c ∈ (changeAll entries? path commands fs).1, c.unsaved = false) :
    ∀ c ∈ (changeAll entries? path commands fs).1,
      (¬ c.Succeeds ↔
          (∀ k : Setting, k.name ≠ c.name) ∨ ¬ Settings.Readable entries? path c.before) ∧
        (¬ c.Succeeds → c.after = c.before) := by
  induction commands generalizing fs with
  | nil => exact fun c hc => absurd hc List.not_mem_nil
  | cons command rest ih =>
    rw [changeAll_cons] at hsaved ⊢
    obtain ⟨hfirst, hrest⟩ := List.forall_mem_cons.mp hsaved
    exact List.forall_mem_cons.mpr
      ⟨⟨Change.fails_iff hfirst, Change.after_of_fails hfirst⟩, ih hrest⟩

theorem changeAll_loaded (hreads : ∀ s : Settings, Settings.ofToml? s.printed entries? = some s)
    {commands : List (Text × Bool)} {fs : Tree}
    (hsaved : ∀ c ∈ (changeAll entries? path commands fs).1, c.unsaved = false) {s : Settings}
    (hload : Settings.loaded entries? path fs = .ok s) :
    ∃ s', Settings.loaded entries? path (changeAll entries? path commands fs).2 = .ok s' ∧
      ∀ k, s'.get k =
        (Change.lastValue? (changeAll entries? path commands fs).1 k).getD (s.get k) := by
  induction commands generalizing fs s with
  | nil => exact ⟨s, hload, fun _ => rfl⟩
  | cons command rest ih =>
    rw [changeAll_cons] at hsaved ⊢
    obtain ⟨hfirst, hrest⟩ := List.forall_mem_cons.mp hsaved
    -- The other changes start from what the first one left, which may be the file as it was.
    obtain ⟨s₁, hload₁, hget₁⟩ := Change.loaded_after hfirst hreads hload
    obtain ⟨s', hload', hget⟩ := ih hrest hload₁
    refine ⟨s', hload', fun k => ?_⟩
    rw [hget, hget₁, Change.lastValue?_cons, Option.getD_or]

/-- Commands that change settings one at a time, with nothing in the way of writing the file, update
the map from settings to values that the file holds.  A command fails when its name is the name of no
setting or when the file as it stands holds no settings, and then it does nothing.  Let entries be read
in any way that gets stored settings back.  If the first file can be loaded, so can the last one, and
each setting has the value of the last command for it that succeeded, or else its first value. -/
theorem changeAll_updates (entries? : Text → Option Toml.Entries) (commands : List (Text × Bool))
    (fs : Tree) (hsaved : ∀ c ∈ (changeAll entries? path commands fs).1, c.unsaved = false) :
    (∀ c ∈ (changeAll entries? path commands fs).1,
        (¬ c.Succeeds ↔
            (∀ k : Setting, k.name ≠ c.name) ∨ ¬ Settings.Readable entries? path c.before) ∧
          (¬ c.Succeeds → c.after = c.before)) ∧
      ((∀ s : Settings, Settings.ofToml? s.printed entries? = some s) →
        Settings.Readable entries? path fs →
        ∃ s, (Settings.load path entries?).runOn (changeAll entries? path commands fs).2 =
            (.ok s, (changeAll entries? path commands fs).2) ∧
          ∀ k, s.get k = ((Change.lastValue? (changeAll entries? path commands fs).1 k).or
            (Settings.given? entries? path fs k)).getD (({} : Settings).get k)) := by
  refine ⟨changeAll_fails_iff hsaved, fun hreads hreadable => ?_⟩
  obtain ⟨s, hload⟩ := Settings.readable_iff.mp hreadable
  obtain ⟨s', hload', hget⟩ := changeAll_loaded hreads hsaved hload
  refine ⟨s', ?_, fun k => ?_⟩
  · rw [Settings.load_runOn, hload']
  · rw [hget, Settings.get_loaded hload, Option.getD_or]

/-- A change with a name of no setting and two changes of one setting, where no file is there first. -/
theorem changeAll_updates_fresh :
    (∀ c ∈ (changeAll Toml.read? "settings.toml".toList
        [("wrap_by_default".toList, false), ("colour".toList, true), ("wrap_by_default".toList, true)]
        (Tree.empty ["w".toList])).1, c.unsaved = false) ∧
      ((Settings.load "settings.toml".toList).runOn (changeAll Toml.read? "settings.toml".toList
        [("wrap_by_default".toList, false), ("colour".toList, true), ("wrap_by_default".toList, true)]
        (Tree.empty ["w".toList])).2).1 = .ok { wrapByDefault := true } := by
  have hsaved : ∀ c ∈ (changeAll Toml.read? "settings.toml".toList
      [("wrap_by_default".toList, false), ("colour".toList, true), ("wrap_by_default".toList, true)]
      (Tree.empty ["w".toList])).1, c.unsaved = false := by decide +kernel
  refine ⟨hsaved, ?_⟩
  have hupdates := (changeAll_updates Toml.read? _ _ hsaved).2 Settings.ofToml?_printed
  obtain ⟨s, hload, hget⟩ := hupdates (Or.inl (by decide +kernel))
  rw [hload]
  refine congrArg Except.ok (Settings.ext_get fun k => ?_)
  rw [hget]
  cases k <;> decide +kernel

end CommandLine
end ColumnBlocks
