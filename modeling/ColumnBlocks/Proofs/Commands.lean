import ColumnBlocks.CommandLine.Run
import ColumnBlocks.Proofs.FileJobs

/-!
# What commands come to

A command is a row of requests, each of which may fail.  For each command the ways in which it can end
are listed here, with the files that it leaves; what is proved about commands goes through these lists.
-/

namespace ColumnBlocks
namespace CommandLine

open Files (Job Tree)
open Files.Tree (OnlyMakes Stores)

/-- How rendering a document ends. -/
inductive Rendered (rs : Readers) (path : Text) (r : Rendering) (fs : Tree) :
    Outcome × Tree → Prop
  | unloaded {e : Settings.FileFault} {log : List Log.Entry}
      (hload : Settings.loaded rs.entries? path fs = .error e) :
      Rendered rs path r fs ({ output := .error (.loading path e), log }, fs)
  | unread {e : Files.DocumentFault} {log : List Log.Entry}
      (hread : ((Files.readDocument r.file).runOn fs).1 = .error e) :
      Rendered rs path r fs ({ output := .error (.reading r.file e), log }, fs)
  | printed {s : Settings} {markdown : Text} {log : List Log.Entry}
      (hload : Settings.loaded rs.entries? path fs = .ok s)
      (hread : ((Files.readDocument r.file).runOn fs).1 = .ok markdown) (houtput : r.output = none) :
      Rendered rs path r fs ({ output := .ok (r.html s markdown rs.events).1, log }, fs)
  | unwritten {output : Text} {e : Files.DocumentFault} {fs' : Tree} {log : List Log.Entry}
      (houtput : r.output = some output) (hmakes : OnlyMakes fs fs') :
      Rendered rs path r fs ({ output := .error (.writing output e), log }, fs')
  | written {s : Settings} {markdown output : Text} {fs' : Tree} {log : List Log.Entry}
      (hload : Settings.loaded rs.entries? path fs = .ok s)
      (hread : ((Files.readDocument r.file).runOn fs).1 = .ok markdown)
      (houtput : r.output = some output)
      (hstores : Stores output (r.html s markdown rs.events).1 fs fs') :
      Rendered rs path r fs ({ output := .ok [], log }, fs')

theorem render_rendered (rs : Readers) (path : Text) (r : Rendering) (fs : Tree) :
    Rendered rs path r fs ((render path r rs).runOn fs) := by
  rw [render, Job.runOn_bind, Settings.load_runOn]
  cases hload : Settings.loaded rs.entries? path fs with
  | error e => exact .unloaded hload
  | ok s =>
    simp only [Job.runOn_bind, Files.readDocument_files]
    cases hread : ((Files.readDocument r.file).runOn fs).1 with
    | error e => exact .unread hread
    | ok markdown =>
      cases houtput : r.output with
      | none => exact .printed hload hread houtput
      | some output =>
        simp only [Job.runOn_bind]
        rcases Files.writeDocument_runOn output (r.html s markdown rs.events).1 fs with
          ⟨fs', hstores, hrun⟩ | ⟨e, fs', hmakes, hrun⟩
        · rw [hrun]
          exact .written hload hread houtput hstores
        · rw [hrun]
          exact .unwritten houtput hmakes

/-- How changing a setting ends. -/
inductive Changed (entries? : Text → Option Toml.Entries) (path name : Text) (value : Bool)
    (fs : Tree) : Outcome × Tree → Prop
  | unloaded {e : Settings.FileFault} {log : List Log.Entry}
      (hload : Settings.loaded entries? path fs = .error e) :
      Changed entries? path name value fs ({ output := .error (.loading path e), log }, fs)
  | unknown {s : Settings} {log : List Log.Entry} (hload : Settings.loaded entries? path fs = .ok s)
      (hname : Setting.ofName? name = none) :
      Changed entries? path name value fs ({ output := .error (.unknownSetting name), log }, fs)
  | unsaved {e : Settings.FileFault} {fs' : Tree} {log : List Log.Entry} (hmakes : OnlyMakes fs fs') :
      Changed entries? path name value fs ({ output := .error (.saving path e), log }, fs')
  | saved {s : Settings} {k : Setting} {fs' : Tree} {log : List Log.Entry}
      (hload : Settings.loaded entries? path fs = .ok s) (hname : Setting.ofName? name = some k)
      (hstores : Stores path (s.set k value).printed fs fs') :
      Changed entries? path name value fs ({ output := .ok (s.set k value).printed, log }, fs')

theorem changeSetting_changed (entries? : Text → Option Toml.Entries) (path name : Text)
    (value : Bool) (fs : Tree) :
    Changed entries? path name value fs ((changeSetting path name value entries?).runOn fs) := by
  rw [changeSetting, Job.runOn_bind, Settings.load_runOn]
  cases hload : Settings.loaded entries? path fs with
  | error e => exact .unloaded hload
  | ok s =>
    cases hname : Setting.ofName? name with
    | none => exact .unknown hload hname
    | some k =>
      simp only [Job.runOn_bind]
      rcases Settings.save_runOn (s.set k value) path fs with
        ⟨fs', hstores, hrun⟩ | ⟨e, fs', hmakes, hrun⟩
      · rw [hrun]
        exact .saved hload hname hstores
      · rw [hrun]
        exact .unsaved hmakes

end CommandLine
end ColumnBlocks
