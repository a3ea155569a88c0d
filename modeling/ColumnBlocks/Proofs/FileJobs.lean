import ColumnBlocks.Proofs.FileTree
import ColumnBlocks.Settings.File

/-!
# What jobs do to a tree of files

Reading a document or the settings leaves the tree as it is.  A job that stores a text makes the
directories that it needs and writes one file, and when it fails, directories are all that it has made.
-/

namespace ColumnBlocks

open Files.Tree (OnlyMakes OnlyWrites)

namespace Files

namespace Job

theorem runOn_bind {α β : Type} (j : Job α) (f : α → Job β) (fs : Tree) :
    (j >>= f).runOn fs = (f (j.runOn fs).1).runOn (j.runOn fs).2 :=
  runOn_andThen f j fs

end Job

/-! ## Reading -/

theorem readDocument_files (path : Text) (fs : Tree) : ((readDocument path).runOn fs).2 = fs := by
  rw [readDocument, Job.runOn]
  split
  · rw [Job.runOn]
    split <;> rfl
  · rfl

/-! ## Storing -/

/-- A text gets stored under a path, and nothing else happens but that directories are made. -/
def Tree.Stores (path content : Text) (fs fs' : Tree) : Prop :=
  ∃ middle, OnlyMakes fs middle ∧ middle.write path (.text content) = .ok fs'

theorem Tree.Stores.onlyWrites {path content : Text} {fs fs' : Tree}
    (h : Tree.Stores path content fs fs') : OnlyWrites path (.text content) fs fs' := by
  obtain ⟨middle, hmakes, hwrite⟩ := h
  obtain ⟨p, hplace, hself, hother⟩ := Tree.onlyWrites_of_write hwrite
  exact ⟨p, hplace, hself, fun q hq => (hother q hq).trans (hmakes.fileAt? q)⟩

theorem Tree.Stores.read {path content : Text} {fs fs' : Tree} (h : Tree.Stores path content fs fs') :
    fs'.contains path = true ∧ fs'.read path = .ok content := by
  obtain ⟨middle, _, hwrite⟩ := h
  exact Tree.read_of_write hwrite

theorem write_runOn (path content : Text) (fs : Tree) :
    (∃ fs', fs.write path (.text content) = .ok fs' ∧
        (Job.write path content .done).runOn fs = (.ok (), fs')) ∨
      ∃ f, (Job.write path content .done).runOn fs = (.error f, fs) := by
  rw [Job.runOn]
  cases h : fs.write path (.text content) with
  | ok fs' => exact Or.inl ⟨fs', rfl, rfl⟩
  | error f => exact Or.inr ⟨f, rfl⟩

theorem writeWithDirectory_runOn (path content : Text) (fs : Tree) :
    (∃ fs', Tree.Stores path content fs fs' ∧
        (writeWithDirectory path content).runOn fs = (.ok (), fs')) ∨
      ∃ f fs', OnlyMakes fs fs' ∧ (writeWithDirectory path content).runOn fs = (.error f, fs') := by
  rw [writeWithDirectory]
  split
  · rcases write_runOn path content fs with ⟨fs', hwrite, hrun⟩ | ⟨f, hrun⟩
    · exact Or.inl ⟨fs', ⟨fs, OnlyMakes.refl fs, hwrite⟩, hrun⟩
    · exact Or.inr ⟨f, fs, OnlyMakes.refl fs, hrun⟩
  · rename_i directory _
    have hmakes := Tree.makeDirectories_onlyMakes fs directory
    rw [Job.runOn]
    generalize fs.makeDirectories directory = result at hmakes ⊢
    obtain ⟨made, middle⟩ := result
    cases made with
    | error f => exact Or.inr ⟨f, middle, hmakes, rfl⟩
    | ok made =>
      rcases write_runOn path content middle with ⟨fs', hwrite, hrun⟩ | ⟨f, hrun⟩
      · exact Or.inl ⟨fs', ⟨middle, hmakes, hwrite⟩, hrun⟩
      · exact Or.inr ⟨f, middle, hmakes, hrun⟩

theorem writeDocument_runOn (path content : Text) (fs : Tree) :
    (∃ fs', Tree.Stores path content fs fs' ∧
        (writeDocument path content).runOn fs = (.ok (), fs')) ∨
      ∃ e fs', OnlyMakes fs fs' ∧ (writeDocument path content).runOn fs = (.error e, fs') := by
  rw [writeDocument, Job.runOn_bind]
  rcases writeWithDirectory_runOn path content fs with ⟨fs', hstores, hrun⟩ | ⟨f, fs', hmakes, hrun⟩
  · rw [hrun]
    exact Or.inl ⟨fs', hstores, rfl⟩
  · rw [hrun]
    exact Or.inr ⟨.fault f, fs', hmakes, rfl⟩

end Files

namespace Settings

open Files (Tree)

variable (entries? : Text → Option Toml.Entries)

/-- What loading the settings comes to. -/
def loaded (path : Text) (fs : Tree) : Except FileFault Settings :=
  if fs.contains path then
    match fs.read path with
    | .error f => .error (.unreadable path f)
    | .ok t =>
      match ofToml? t entries? with
      | some s => .ok s
      | none => .error (.malformed path)
  else .ok {}

theorem load_runOn (path : Text) (fs : Tree) :
    (load path entries?).runOn fs = (loaded entries? path fs, fs) := by
  rw [load, Files.Job.runOn_bind, load?, Files.Job.runOn, loaded]
  by_cases hthere : fs.contains path = true
  · simp only [hthere, if_true, Files.Job.runOn]
    cases fs.read path with
    | error f => rfl
    | ok t =>
      cases h : ofToml? t entries? with
      | none => simp only [h]; rfl
      | some s => simp only [h]; rfl
  · simp only [hthere, if_false, Bool.false_eq_true, Files.Job.runOn]
    rfl

theorem save_runOn (s : Settings) (path : Text) (fs : Tree) :
    (∃ fs', Tree.Stores path s.printed fs fs' ∧ (s.save path).runOn fs = (.ok (), fs')) ∨
      ∃ e fs', OnlyMakes fs fs' ∧ (s.save path).runOn fs = (.error e, fs') := by
  rw [save, Files.Job.runOn_bind]
  rcases Files.writeWithDirectory_runOn path s.printed fs with
    ⟨fs', hstores, hrun⟩ | ⟨f, fs', hmakes, hrun⟩
  · rw [hrun]
    exact Or.inl ⟨fs', hstores, rfl⟩
  · rw [hrun]
    exact Or.inr ⟨.unwritable path f, fs', hmakes, rfl⟩

end Settings
end ColumnBlocks
