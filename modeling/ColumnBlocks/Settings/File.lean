import ColumnBlocks.Files.Document
import ColumnBlocks.Settings.Toml

/-
The file of the settings.  A file that is not there leaves all settings at their defaults.
-/
namespace ColumnBlocks
namespace Settings

open Files (Fault Job)

inductive FileFault where
  | unreadable (path : Text) (f : Fault)
  | malformed (path : Text)
  | unwritable (path : Text) (f : Fault)
deriving DecidableEq, Repr

namespace FileFault

/-- What is said about a text that holds no settings. -/
def malformedText : Text := "TOML parse error".toList

/-- What the fault was caused by. -/
def cause : FileFault → Text
  | unreadable _ f | unwritable _ f => f.message
  | malformed _ => malformedText

def message (e : FileFault) : Text :=
  let about (what : String) (path : Text) : Text :=
    "Failed to ".toList ++ what.toList ++ " config file at ".toList ++ path ++ ": ".toList ++ e.cause
  match e with
  | unreadable path _ => about "read" path
  | malformed path => about "parse" path
  | unwritable path _ => about "write" path

def messages (e : FileFault) : List Text := [e.message, e.cause]

end FileFault

/-- The settings in the file at a path, when there is one. -/
def load? (path : Text) (entries? : Text → Option Toml.Entries := Toml.read?) :
    Job (Except FileFault (Option Settings)) :=
  .contains path fun there =>
    if there then
      .read path fun
        | .error f => .done (.error (.unreadable path f))
        | .ok t =>
          match ofToml? t entries? with
          | some s => .done (.ok (some s))
          | none => .done (.error (.malformed path))
    else .done (.ok none)

def load (path : Text) (entries? : Text → Option Toml.Entries := Toml.read?) :
    Job (Except FileFault Settings) := do
  match ← load? path entries? with
  | .ok s => return .ok (s.getD {})
  | .error e => return .error e

def save (s : Settings) (path : Text) : Job (Except FileFault Unit) := do
  match ← Files.writeWithDirectory path s.printed with
  | .ok () => return .ok ()
  | .error f => return .error (.unwritable path f)

/-- What is said about a name that is the name of no setting. -/
def unknownMessage (name : Text) : Text :=
  "Unknown setting \x60".toList ++ name ++ "\x60 (expected one of: ".toList ++
    Text.join ", ".toList (Setting.all.map Setting.name) ++ [')']

end Settings
end ColumnBlocks
