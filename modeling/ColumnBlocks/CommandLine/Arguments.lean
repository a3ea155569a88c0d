import ColumnBlocks.CommandLine.Command
import ColumnBlocks.CommandLine.Grammar

/-
Reading the words of a command line.  Words are read from left to right, level by level.  A value is
looked at only when the next switch or value comes, or at the end of its level, so an unknown word
that follows a bad value is what gets reported.
-/
namespace ColumnBlocks
namespace CommandLine

/-- Why no command comes of a command line. -/
inductive Stop where
  /-- Help is asked for, on a level or on the help itself. -/
  | help (topic : Call)
  | version
  /-- Nothing was given where a subcommand is needed. -/
  | nothingGiven
  | missingSubcommand
  | missingArgument
  | unknownArgument
  | invalidSubcommand
  /-- A switch stands twice on one level. -/
  | conflict
  /-- A value is missing or empty. -/
  | invalidValue
  /-- A value is none of the possible ones. -/
  | rejectedValue
  | tooManyValues
deriving DecidableEq, Repr

/-- Asking for help or for the version is no error. -/
def Stop.exitCode : Stop → Nat
  | help _ | version => 0
  | _ => 2

/-- What a value belongs to. -/
inductive Slot where
  | switch (s : Switch)
  | place (p : Place)
deriving DecidableEq, Repr

structure Matches where
  switches : List Switch := []
  values : List (Slot × Text) := []
  /-- The last slot, whose value may still be missing. -/
  pending : Option (Slot × Option Text) := none
deriving Repr

namespace Matches

def has (m : Matches) (s : Switch) : Bool := m.switches.contains s

def value? (m : Matches) (s : Slot) : Option Text := m.values.lookup s

/-- Whether a value is possible in a slot.  Paths are not empty. -/
def check (s : Slot) (value : Text) : Except Stop Unit :=
  match s with
  | .place .settingName => .ok ()
  | .place .settingValue => if (truthValue? value).isSome then .ok () else .error .rejectedValue
  | _ => if value.isEmpty then .error .invalidValue else .ok ()

def note (m : Matches) (s : Switch) : Except Stop Matches :=
  if m.has s then .error .conflict else .ok { m with switches := s :: m.switches }

def accept (m : Matches) (s : Slot) (value : Text) : Except Stop Matches := do
  let m ← match s with
    | .switch s => m.note s
    | .place _ => pure m
  check s value
  return { m with values := m.values ++ [(s, value)] }

def settle (m : Matches) : Except Stop Matches :=
  match m.pending with
  | none => .ok m
  | some (_, none) => .error .invalidValue
  | some (s, some value) => { m with pending := none }.accept s value

/-- Whether the last switch has no value yet. -/
def awaiting? (m : Matches) : Option Slot :=
  match m.pending with
  | some (s, none) => some s
  | _ => none

def placed (m : Matches) : Nat :=
  let isPlace : Slot → Bool
    | .place _ => true
    | .switch _ => false
  (m.values.filter (isPlace ·.1)).length + if m.pending.any (isPlace ·.1) then 1 else 0

def flag (m : Matches) (l : Level) (s : Switch) : Except Stop Matches := do
  let m ← m.settle
  match s with
  | .help => throw (.help (.level l))
  | .version => throw .version
  | s => m.note s

/-- Reads a switch with a value, which may be the next word. -/
def withValue (m : Matches) (s : Switch) (value : Option Text) : Except Stop Matches := do
  let m ← m.settle
  match value with
  | some v => m.accept (.switch s) v
  | none => return { m with pending := some (.switch s, none) }

end Matches

/-! ## Words -/

/-- Reads a long switch, from after its hyphens. -/
def readLong (l : Level) (m : Matches) (t : Text) : Except Stop Matches :=
  let name := t.takeWhile (· != '=')
  let value := match t.drop name.length with
    | [] => none
    | _ :: v => some v
  match l.long? name with
  | none => .error .unknownArgument
  | some s =>
    if s.takesValue then m.withValue s value
    else if value.isSome then .error .tooManyValues
    else m.flag l s

/-- Reads short switches, from after their hyphen.  One that takes a value takes the rest of the
word, where there is any. -/
def readShort (l : Level) (m : Matches) : Text → Except Stop Matches
  | [] => .ok m
  | c :: r =>
    match l.shortSwitch? c with
    | none => .error .unknownArgument
    | some s =>
      if s.takesValue then
        m.withValue s (match r with
          | [] => none
          | '=' :: v => some v
          | v => some v)
      else do readShort l (← m.flag l s) r

/-- What is wrong with a word for which there is no place. -/
def misplaced (l : Level) (trailing : Bool) (word : Text) : Stop :=
  if l.subcommands.isEmpty then .unknownArgument
  else if trailing && (l.call? word).isSome then .unknownArgument
  else .invalidSubcommand

def readPlace (l : Level) (m : Matches) (trailing : Bool) (word : Text) : Except Stop Matches :=
  match l.places[m.placed]? with
  | none => .error (misplaced l trailing word)
  | some p => do return { ← m.settle with pending := some (.place p, some word) }

def readWord (l : Level) (m : Matches) (trailing : Bool) (word : Text) : Except Stop Matches :=
  if trailing then readPlace l m trailing word
  else
    match word with
    | '-' :: '-' :: c :: r => readLong l m (c :: r)
    | '-' :: c :: r => readShort l m (c :: r)
    | _ =>
      match m.awaiting? with
      | some s => .ok { m with pending := some (s, some word) }
      | none => readPlace l m trailing word

/-! ## Levels -/

def commandOf (l : Level) (m : Matches) : Except Stop Command :=
  match l with
  | .program | .config =>
    .error (if m.switches.isEmpty then .nothingGiven else .missingSubcommand)
  | .render =>
    match m.value? (.place .file) with
    | none => .error .missingArgument
    | some file =>
      .ok (.render {
        file
        output := m.value? (.switch .output)
        mobile := m.has .mobile
        standalone := m.has .standalone
        rtl := m.has .rtl
        wrap := m.has .wrap })
  | .configShow => .ok .showSettings
  | .configPath => .ok .showPath
  | .configSet =>
    match m.value? (.place .settingName), (m.value? (.place .settingValue)).bind truthValue? with
    | some name, some value => .ok (.changeSetting name value)
    | _, _ => .error .missingArgument

/-- An invocation with what was given on the level around it.  The inner level wins. -/
def Invocation.within (i : Invocation) (m : Matches) : Invocation :=
  { i with
    verbose := i.verbose || m.has .verbose
    config := i.config.or (m.value? (.switch .config)) }

/-- What the words after `help` ask for, on a topic.  The help itself has no topics. -/
def helpOn : Call → List Text → Stop
  | topic, [] => .help topic
  | .help, _ :: _ => .invalidSubcommand
  | .level l, word :: rest =>
    match l.call? word with
    | none => .invalidSubcommand
    | some topic => helpOn topic rest

/-- Reads words on a level.  After `--` no word is a switch or a subcommand. -/
def readWords (l : Level) (m : Matches) (trailing : Bool) :
    List Text → Except Stop Invocation
  | [] => do
    let m ← m.settle
    return { command := ← commandOf l m : Invocation }.within m
  | word :: rest =>
    match if trailing || m.awaiting?.isSome then none else l.call? word with
    | some .help => .error (helpOn (.level l) rest)
    | some (.level inner) => do
      let i ← readWords inner {} false rest
      return i.within (← m.settle)
    | none =>
      if !trailing && word == ['-', '-'] then readWords l m true rest
      else do readWords l (← readWord l m trailing word) trailing rest

def read (words : List Text) : Except Stop Invocation := readWords .program {} false words

end CommandLine
end ColumnBlocks
