import ColumnBlocks.Files.Path
import ColumnBlocks.Text.Alphanumeric

/-
Where the settings are stored.  A path may start with the home directory of the user, written `~`,
and may hold variables of the environment, written `$NAME` or with braces around the name and maybe
a default.
-/
namespace ColumnBlocks

structure Variables where
  get? : Text → Option Text
  /-- The home directory in the records of the system, which counts when no variable names one. -/
  recordedHome : Option Text := none

namespace Variables

def home? (vs : Variables) : Option Text :=
  ((vs.get? "HOME".toList).filter (!·.isEmpty)).or vs.recordedHome

/-- A path with the home directory for a `~` that is its first segment. -/
def expandHome (vs : Variables) (path : Text) : Text :=
  match path with
  | '~' :: rest =>
    if rest.isEmpty || rest.head? == some '/' then
      match vs.home? with
      | some home => home ++ rest
      | none => path
    else path
  | _ => path

def isNameChar (c : Char) : Bool := Text.isAlphanumeric c || c == '_'

/-- The first place where `w` stands in a text: what is before and after it. -/
def splitAt? (w : Text) : Text → Option (Text × Text)
  | [] => none
  | c :: r =>
    match Text.after? w (c :: r) with
    | some rest => some ([], rest)
    | none => (splitAt? w r).map fun (before, rest) => (c :: before, rest)

/-- The value of what stands between braces: a name, and a default when there is one.  A default
needs a name before it. -/
def bracedValue? (vs : Variables) (inner : Text) : Option Text :=
  match splitAt? ":-".toList inner with
  | some (c :: name, value) => (vs.get? (c :: name)).or (some value)
  | _ => vs.get? inner

/-- A text with the values of its variables, when all of them have one.  What looks like no variable
stays, and two dollar signs stand for one. -/
def expandNames? (vs : Variables) : Text → Option Text
  | [] => some []
  | '$' :: '$' :: rest => (expandNames? vs rest).map ('$' :: ·)
  | '$' :: '\x7b' :: rest =>
    let inner := rest.takeWhile (· != '\x7d')
    match rest.drop inner.length with
    | [] => (expandNames? vs rest).map ('$' :: '\x7b' :: ·)
    | _ :: after =>
      if after.length ≤ rest.length then do
        let value ← vs.bracedValue? inner
        return value ++ (← expandNames? vs after)
      else none
  | '$' :: rest =>
    let name := rest.takeWhile isNameChar
    if name.isEmpty then (expandNames? vs rest).map ('$' :: ·)
    else do
      let value ← vs.get? name
      return value ++ (← expandNames? vs (rest.drop name.length))
  | c :: rest => (expandNames? vs rest).map (c :: ·)
termination_by t => t.length

/-- A path with its variables and its home directory.  A `~` that comes from a variable is none. -/
def expand? (vs : Variables) (path : Text) : Option Text :=
  (vs.expandNames? path).map fun expanded =>
    if path.head? == some '~' then vs.expandHome expanded else expanded

/-- The names that may be looked up for a path: what is between braces with and without a default,
and what stands after a dollar sign. -/
def namesIn : Text → List Text
  | [] => []
  | '$' :: '\x7b' :: rest =>
    let inner := rest.takeWhile (· != '\x7d')
    let names := match splitAt? ":-".toList inner with
      | some (name, _) => [inner, name]
      | none => [inner]
    names ++ namesIn rest
  | '$' :: rest => rest.takeWhile isNameChar :: namesIn rest
  | _ :: rest => namesIn rest

end Variables

namespace Settings

def directory : Text := "~/.config/markdown-columns".toList

/-- The path of the settings, unless another one is given. -/
def defaultPath (vs : Variables) (expandHome : Variables → Text → Text := Variables.expandHome) :
    Text :=
  Files.Path.join (expandHome vs directory) "config.toml".toList

end Settings
end ColumnBlocks
