import ColumnBlocks.Settings.Basic
import ColumnBlocks.Toml.Reader

/-
Settings as a TOML document.  A key that is missing leaves its setting at the default, a key that
names no setting is ignored, and a setting has to be a truth value.
-/
namespace ColumnBlocks
namespace Settings

/-- The settings with the value that a document gives to one of them. -/
def take? (es : Toml.Entries) (s : Settings) (k : Setting) : Option Settings :=
  match es.get? k.name with
  | none => some s
  | some (.boolean b) => some (s.set k b)
  | some _ => none

def ofEntries? (es : Toml.Entries) : Option Settings := Setting.all.foldlM (take? es) {}

/-- The settings in a document, however its entries are read. -/
def ofToml? (t : Text) (entries? : Text → Option Toml.Entries := Toml.read?) : Option Settings := do
  ofEntries? (← entries? t)

end Settings
end ColumnBlocks
