import ColumnBlocks.CommandLine.Help
import ColumnBlocks.Proofs.Commands
import Mathlib.Control.Monad.Basic

/-!
# The footprint of a command

A command that fails leaves all files as they are and prints nothing.  One that succeeds gives a content
to its own target at most: the file that a document is rendered to, or the file of the settings.
-/

namespace ColumnBlocks
namespace CommandLine

open Files (Tree)
open Files.Tree (OnlyMakes OnlyWrites)

/-- What a run of the program leaves: its exit code, what the standard output got, and the files. -/
structure Execution where
  exitCode : Nat
  output : Text
  files : Tree

def Execution.of (result : Outcome × Tree) : Execution :=
  { exitCode := result.1.exitCode, output := result.1.printed, files := result.2 }

def Invocation.execute (rs : Readers) (vs : Variables) (i : Invocation) (fs : Tree) : Execution :=
  .of ((i.run vs rs).runOn fs)

/-- Words that are no command do nothing. -/
def execute (rs : Readers) (vs : Variables) (words : List Text) (fs : Tree) : Execution :=
  match rs.invocation words with
  | .error stop => { exitCode := stop.exitCode, output := stop.output, files := fs }
  | .ok i => i.execute rs vs fs

/-- Nothing is printed, and no file is made, removed or changed. -/
structure Execution.IsIdle (e : Execution) (fs : Tree) : Prop where
  output : e.output = []
  fileAt? : ∀ p, e.files.fileAt? p = fs.fileAt? p

/-- What an invocation may do when it succeeds. -/
def Invocation.Footprint (rs : Readers) (vs : Variables) (i : Invocation) (fs : Tree)
    (e : Execution) : Prop :=
  match i.command with
  | .render r =>
    match r.output with
    | none => e.files = fs
    | some path =>
      e.output = [] ∧
        ∃ html, OnlyWrites path (.text html) fs e.files ∧
          Invocation.execute rs vs { i with command := .render { r with output := none } } fs =
            { exitCode := 0, output := html, files := fs }
  | .changeSetting name value =>
    OnlyWrites (settingsPath vs i.config rs) (.text e.output) fs e.files ∧
      ∃ s k, (Settings.load (settingsPath vs i.config rs) rs.entries?).runOn fs = (.ok s, fs) ∧
        k.name = name ∧ e.output = (s.set k value).printed
  | .showSettings | .showPath => e.files = fs

/-! ## Rendering -/

section Rendered

variable {rs : Readers} {path : Text} {r : Rendering} {fs : Tree} {result : Outcome × Tree}

theorem Rendered.isIdle (h : Rendered rs path r fs result) (hfails : result.1.exitCode ≠ 0) :
    (Execution.of result).IsIdle fs := by
  cases h with
  | unloaded hload => exact ⟨rfl, fun _ => rfl⟩
  | unread hread => exact ⟨rfl, fun _ => rfl⟩
  | printed hload hread houtput => exact absurd rfl hfails
  | unwritten houtput hmakes => exact ⟨rfl, hmakes.fileAt?⟩
  | written hload hread houtput hstores => exact absurd rfl hfails

/-- What is printed where no file is named. -/
theorem Rendered.of_eq (h : Rendered rs path r fs result) (houtput : r.output = none) {s : Settings}
    (hload : Settings.loaded rs.entries? path fs = .ok s) {markdown : Text}
    (hread : ((Files.readDocument r.file).runOn fs).1 = .ok markdown) :
    Execution.of result =
      { exitCode := 0, output := (r.html s markdown rs.events).1, files := fs } := by
  cases h with
  | unloaded hload' => cases hload.symm.trans hload'
  | unread hread' => cases hread.symm.trans hread'
  | printed hload' hread' houtput' =>
    cases hload.symm.trans hload'
    cases hread.symm.trans hread'
    rfl
  | unwritten houtput' hmakes => cases houtput.symm.trans houtput'
  | written hload' hread' houtput' hstores => cases houtput.symm.trans houtput'

theorem Rendered.files_eq (h : Rendered rs path r fs result) (hsucceeds : result.1.exitCode = 0)
    (houtput : r.output = none) : result.2 = fs := by
  cases h with
  | unloaded hload => cases hsucceeds
  | unread hread => cases hsucceeds
  | printed hload hread houtput' => rfl
  | unwritten houtput' hmakes => cases hsucceeds
  | written hload hread houtput' hstores => cases houtput.symm.trans houtput'

/-- A document that is written is the one that is printed where no file is named. -/
theorem Rendered.onlyWrites (h : Rendered rs path r fs result) (hsucceeds : result.1.exitCode = 0)
    {output : Text} (houtput : r.output = some output) :
    (Execution.of result).output = [] ∧
      ∃ html, OnlyWrites output (.text html) fs result.2 ∧
        Execution.of ((render path { r with output := none } rs).runOn fs) =
          { exitCode := 0, output := html, files := fs } := by
  cases h with
  | unloaded hload => cases hsucceeds
  | unread hread => cases hsucceeds
  | printed hload hread houtput' => cases houtput.symm.trans houtput'
  | unwritten houtput' hmakes => cases hsucceeds
  | written hload hread houtput' hstores =>
    cases houtput.symm.trans houtput'
    have hprinted := render_rendered rs path { r with output := none } fs
    exact ⟨rfl, _, hstores.onlyWrites, hprinted.of_eq rfl hload hread⟩

end Rendered

/-! ## Settings -/

section Changed

variable {entries? : Text → Option Toml.Entries} {path name : Text} {value : Bool} {fs : Tree}
  {result : Outcome × Tree}

theorem Changed.isIdle (h : Changed entries? path name value fs result)
    (hfails : result.1.exitCode ≠ 0) : (Execution.of result).IsIdle fs := by
  cases h with
  | unloaded hload => exact ⟨rfl, fun _ => rfl⟩
  | unknown hload hname => exact ⟨rfl, fun _ => rfl⟩
  | unsaved hmakes => exact ⟨rfl, hmakes.fileAt?⟩
  | saved hload hname hstores => exact absurd rfl hfails

theorem Changed.onlyWrites (h : Changed entries? path name value fs result)
    (hsucceeds : result.1.exitCode = 0) :
    OnlyWrites path (.text (Execution.of result).output) fs result.2 ∧
      ∃ s k, (Settings.load path entries?).runOn fs = (.ok s, fs) ∧ k.name = name ∧
        (Execution.of result).output = (s.set k value).printed := by
  cases h with
  | unloaded hload => cases hsucceeds
  | unknown hload hname => cases hsucceeds
  | unsaved hmakes => cases hsucceeds
  | saved hload hname hstores =>
    refine ⟨hstores.onlyWrites, _, _, ?_, Setting.name_of_ofName? hname, rfl⟩
    rw [Settings.load_runOn, hload]

end Changed

theorem showSettings_files (entries? : Text → Option Toml.Entries) (path : Text) (fs : Tree) :
    ((showSettings path entries?).runOn fs).2 = fs := by
  rw [showSettings, Files.Job.runOn_bind, Settings.load_runOn]
  cases Settings.loaded entries? path fs <;> rfl

theorem showSettings_isIdle {entries? : Text → Option Toml.Entries} {path : Text} {fs : Tree}
    (hfails : ((showSettings path entries?).runOn fs).1.exitCode ≠ 0) :
    (Execution.of ((showSettings path entries?).runOn fs)).IsIdle fs := by
  rw [showSettings, Files.Job.runOn_bind, Settings.load_runOn] at hfails ⊢
  cases hload : Settings.loaded entries? path fs with
  | error e => exact ⟨rfl, fun _ => rfl⟩
  | ok s =>
    rw [hload] at hfails
    exact absurd rfl hfails

/-! ## Invocations -/

namespace Invocation

theorem isIdle_execute {rs : Readers} {vs : Variables} {i : Invocation} {fs : Tree}
    (hfails : (i.execute rs vs fs).exitCode ≠ 0) : (i.execute rs vs fs).IsIdle fs := by
  obtain ⟨verbose, config, command⟩ := i
  cases command with
  | render r => exact (render_rendered rs _ r fs).isIdle hfails
  | showSettings => exact showSettings_isIdle hfails
  | changeSetting name value => exact (changeSetting_changed _ _ name value fs).isIdle hfails
  | showPath => exact absurd rfl hfails

theorem footprint_execute {rs : Readers} {vs : Variables} {i : Invocation} {fs : Tree}
    (hsucceeds : (i.execute rs vs fs).exitCode = 0) :
    i.Footprint rs vs fs (i.execute rs vs fs) := by
  obtain ⟨verbose, config, command⟩ := i
  cases command with
  | render r =>
    obtain ⟨file, output, mobile, standalone, rtl, wrap⟩ := r
    cases output with
    | none => exact (render_rendered rs _ _ fs).files_eq hsucceeds rfl
    | some output => exact (render_rendered rs _ _ fs).onlyWrites hsucceeds rfl
  | showSettings => exact showSettings_files _ _ fs
  | changeSetting name value => exact (changeSetting_changed _ _ name value fs).onlyWrites hsucceeds
  | showPath => rfl

end Invocation

theorem Stop.output_of_exitCode {stop : Stop} (h : stop.exitCode ≠ 0) : stop.output = [] := by
  cases stop <;> first | rfl | exact absurd rfl h

/-- A run that fails prints nothing and leaves all files as they are.  A run that succeeds keeps to the
footprint of its invocation, or it only tells about the program and leaves the files as they are.  This
holds however words, documents, stored settings and paths are read. -/
theorem execute_footprint (rs : Readers) (vs : Variables) (words : List Text) (fs : Tree) :
    ((execute rs vs words fs).exitCode ≠ 0 → (execute rs vs words fs).IsIdle fs) ∧
      ((execute rs vs words fs).exitCode = 0 →
        match rs.invocation words with
        | .ok i => i.Footprint rs vs fs (execute rs vs words fs)
        | .error _ => (execute rs vs words fs).files = fs) := by
  rw [execute]
  cases rs.invocation words with
  | error stop => exact ⟨fun hfails => ⟨Stop.output_of_exitCode hfails, fun _ => rfl⟩, fun _ => rfl⟩
  | ok i => exact ⟨Invocation.isIdle_execute, Invocation.footprint_execute⟩

/-- A setting is changed, in a file that was not there. -/
theorem execute_footprint_set :
    (execute {} { get? := fun _ => none }
        (["config", "set", "--config", "a.toml", "wrap_by_default", "yes"].map String.toList)
        (Tree.empty ["w".toList])).exitCode = 0 ∧
      ∃ content, OnlyWrites "a.toml".toList (.text content) (Tree.empty ["w".toList])
        (execute {} { get? := fun _ => none }
          (["config", "set", "--config", "a.toml", "wrap_by_default", "yes"].map String.toList)
          (Tree.empty ["w".toList])).files := by
  have hsucceeds : (execute {} { get? := fun _ => none }
      (["config", "set", "--config", "a.toml", "wrap_by_default", "yes"].map String.toList)
      (Tree.empty ["w".toList])).exitCode = 0 := by decide +kernel
  have hread : Readers.invocation {}
      (["config", "set", "--config", "a.toml", "wrap_by_default", "yes"].map String.toList) =
        .ok { config := "a.toml".toList, command := .changeSetting "wrap_by_default".toList true } := by
    decide +kernel
  have hpath : settingsPath { get? := fun _ => none } "a.toml".toList = "a.toml".toList := by
    decide +kernel
  have hfootprint := (execute_footprint {} _ _ _).2 hsucceeds
  rw [hread] at hfootprint
  exact ⟨hsucceeds, _, hpath ▸ hfootprint.1⟩

end CommandLine
end ColumnBlocks
