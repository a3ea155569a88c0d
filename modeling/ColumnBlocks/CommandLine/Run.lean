import ColumnBlocks.CommandLine.Arguments
import ColumnBlocks.CommandLine.Failure
import ColumnBlocks.Document
import ColumnBlocks.Html.Page
import ColumnBlocks.Settings.Location

/-
Carrying out commands.  A command is a job on files that ends with what it has to say.  A command
that fails writes no output, and the settings that hold for one run only are never stored.
-/
namespace ColumnBlocks
namespace CommandLine

open Files (Job)

/-- How a run reads its words, documents, stored settings and paths: as this library does, unless
something else is given. -/
structure Readers where
  invocation : List Text → Except Stop Invocation := read
  events : Text → List Markdown.Event := Markdown.read
  entries? : Text → Option Toml.Entries := Toml.read?
  expand? : Variables → Text → Option Text := Variables.expand?
  expandHome : Variables → Text → Text := Variables.expandHome

/-- What a command leaves: its output, or why it failed, and what it told. -/
structure Outcome where
  output : Except Failure Text
  log : List Log.Entry
deriving Repr

namespace Outcome

def exitCode (o : Outcome) : Nat :=
  match o.output with
  | .ok _ => 0
  | .error _ => 1

/-- What the standard output gets. -/
def printed (o : Outcome) : Text :=
  match o.output with
  | .ok t => t
  | .error _ => []

/-- What the standard error gets, apart from the log. -/
def complaint (o : Outcome) : Text :=
  match o.output with
  | .ok _ => []
  | .error f => "Error: ".toList ++ f.message ++ ['\n']

/-- The log of a program that runs on its own, which tells about a failure too. -/
def fullLog (o : Outcome) : List Log.Entry :=
  match o.output with
  | .ok _ => o.log
  | .error f => o.log ++ [.failed f.message]

/-- The entries that are shown: the important ones, or all but the finest. -/
def shown (o : Outcome) (verbose : Bool) : List Log.Entry :=
  let least : Log.Level := if verbose then .debug else .info
  o.fullLog.filter fun e => least.rank ≤ e.level.rank

end Outcome

/-- The path of the settings of a run.  One that cannot be expanded is taken as it is. -/
def settingsPath (vs : Variables) (config : Option Text) (rs : Readers := {}) : Text :=
  match config with
  | none => Settings.defaultPath vs rs.expandHome
  | some path => (rs.expand? vs path).getD path

namespace Rendering

/-- The settings of a run, from the stored ones. -/
def settings (r : Rendering) (s : Settings) : Settings :=
  { s with
    rtlByDefault := s.rtlByDefault || r.rtl
    wrapByDefault := s.wrapByDefault || r.wrap }

def environment (r : Rendering) (s : Settings) : Environment :=
  { settings := r.settings s, platform := if r.mobile then .mobile else .desktop }

/-- The HTML of a document.  The title of a complete page is the name of the file. -/
def html (r : Rendering) (s : Settings) (markdown : Text)
    (events : Text → List Markdown.Event := Markdown.read) : Text × List Log.Entry :=
  let (_, document, log) := Session.fresh.renderMarkdown (r.environment s) markdown events
  let body := document.html
  (if r.standalone then Html.page ((Files.Path.stem? r.file).getD []) body else body, log)

end Rendering

def render (path : Text) (r : Rendering) (rs : Readers := {}) : Job Outcome := do
  let started := [Log.Entry.configPath path]
  match ← Settings.load path rs.entries? with
  | .error e => return { output := .error (.loading path e), log := started }
  | .ok s =>
    match ← Files.readDocument r.file with
    | .error e => return { output := .error (.reading r.file e), log := started }
    | .ok markdown =>
      let (html, told) := r.html s markdown rs.events
      match r.output with
      | none => return { output := .ok html, log := started ++ told }
      | some output =>
        match ← Files.writeDocument output html with
        | .error e => return { output := .error (.writing output e), log := started ++ told }
        | .ok () =>
          return { output := .ok [], log := started ++ told ++ [.renderedTo r.file output] }

def showSettings (path : Text) (entries? : Text → Option Toml.Entries := Toml.read?) :
    Job Outcome := do
  let log := [Log.Entry.configPath path]
  match ← Settings.load path entries? with
  | .error e => return { output := .error (.loading path e), log }
  | .ok s => return { output := .ok s.printed, log }

/-- Changes one setting.  The name is looked at only after the settings are loaded. -/
def changeSetting (path name : Text) (value : Bool)
    (entries? : Text → Option Toml.Entries := Toml.read?) : Job Outcome := do
  let log := [Log.Entry.configPath path]
  match ← Settings.load path entries? with
  | .error e => return { output := .error (.loading path e), log }
  | .ok s =>
    match Setting.ofName? name with
    | none => return { output := .error (.unknownSetting name), log }
    | some k =>
      let s := s.set k value
      match ← s.save path with
      | .error e => return { output := .error (.saving path e), log }
      | .ok () => return { output := .ok s.printed, log := log ++ [.saved name value path] }

def Invocation.run (vs : Variables) (i : Invocation) (rs : Readers := {}) : Job Outcome :=
  let path := settingsPath vs i.config rs
  match i.command with
  | .render r => render path r rs
  | .showSettings => showSettings path rs.entries?
  | .changeSetting name value => changeSetting path name value rs.entries?
  | .showPath => return { output := .ok (path ++ ['\n']), log := [.configPath path] }

end CommandLine
end ColumnBlocks
