import ColumnBlocks.Files.Content
import ColumnBlocks.Files.Fault
import ColumnBlocks.Files.Path

/-
A tree of files.  An entry is found under the names that lead to it from the root, and a path is
followed name by name, from the root or from the working directory; every directory on the way has
to exist, also where the path leaves it again.
-/
namespace ColumnBlocks
namespace Files

inductive Entry where
  | file (content : Content)
  | directory
deriving DecidableEq, Repr

abbrev Place := List Text

structure Tree where
  /-- The entries below the root, which is a directory itself. -/
  entries : List (Place × Entry) := []
  /-- The working directory. -/
  here : Place := []
deriving Repr

namespace Tree

def get? (fs : Tree) (p : Place) : Option Entry :=
  if p.isEmpty then some .directory else fs.entries.lookup p

def put (fs : Tree) (p : Place) (e : Entry) : Tree :=
  if (fs.entries.lookup p).isSome then
    { fs with entries := fs.entries.map fun (q, old) => if q == p then (q, e) else (q, old) }
  else { fs with entries := fs.entries ++ [(p, e)] }

/-! ## Following a path -/

/-- Names have at most 255 bytes. -/
def maxName : Nat := 255

/-- Paths have fewer than 4096 bytes. -/
def maxPath : Nat := 4096

/-- The place that one segment leads to. -/
def follow (p : Place) (segment : Text) : Except Fault Place :=
  if segment == ['.'] then .ok p
  else if segment == ['.', '.'] then .ok p.dropLast
  else if maxName < segment.byteLength then .error .nameTooLong
  else .ok (p ++ [segment])

/-- The place that segments lead to.  The last one may lead to something that is not there. -/
def walk (fs : Tree) (p : Place) : List Text → Except Fault Place
  | [] => .ok p
  | [last] => follow p last
  | segment :: rest => do
    let p ← follow p segment
    match fs.get? p with
    | none => throw .noEntry
    | some (.file _) => throw .notDirectory
    | some .directory => walk fs p rest

/-- Where following a path starts, unless the path cannot be followed at all. -/
def start (fs : Tree) (path : Text) : Except Fault Place := do
  if path.isEmpty then throw .noEntry
  if path.contains '\x00' then throw .zeroInName
  if maxPath ≤ path.byteLength then throw .nameTooLong
  return if path.head? == some '/' then [] else fs.here

/-- The segments of a path to follow. -/
def steps (path : Text) : List Text := (Path.segments path).filter (!·.isEmpty)

/-- Whether a path can only mean a directory. -/
def meansDirectory (path : Text) : Bool := (Path.segments path).getLast?.any Path.isIdle

/-- The place that a path leads to, and what is there. -/
def locate (fs : Tree) (path : Text) : Except Fault (Place × Option Entry) := do
  let p ← fs.walk (← fs.start path) (steps path)
  match fs.get? p with
  | some (.file c) => if meansDirectory path then throw .notDirectory else return (p, some (.file c))
  | e => return (p, e)

/-! ## Operations -/

def contains (fs : Tree) (path : Text) : Bool :=
  match fs.locate path with
  | .ok (_, some _) => true
  | _ => false

def isDirectory (fs : Tree) (path : Text) : Bool :=
  match fs.locate path with
  | .ok (_, some .directory) => true
  | _ => false

def read (fs : Tree) (path : Text) : Except Fault Text := do
  match ← fs.locate path with
  | (_, none) => throw .noEntry
  | (_, some .directory) => throw .isDirectory
  | (_, some (.file (.binary _))) => throw .notText
  | (_, some (.file (.text t))) => return t

/-- Gives a file its content.  A path that can only mean a directory is refused as one when the
directories before its last name are found, whatever the name stands for. -/
def write (fs : Tree) (path : Text) (c : Content) : Except Fault Tree := do
  if meansDirectory path then
    let _ ← fs.walk (← fs.start path) ((steps path).dropLast ++ [['.']])
    throw .isDirectory
  match ← fs.locate path with
  | (_, some .directory) => throw .isDirectory
  | (p, _) => return fs.put p (.file c)

def makeDirectory (fs : Tree) (path : Text) : Except Fault Tree := do
  match ← fs.locate path with
  | (_, some _) => throw .entryExists
  | (p, none) => return fs.put p .directory

/-- Makes a directory that may be there already, unless making it failed for want of another one. -/
def ensureDirectory (fs : Tree) (path : Text) : Except Fault Tree :=
  match fs.makeDirectory path with
  | .ok fs => .ok fs
  | .error f => if f != .noEntry && fs.isDirectory path then .ok fs else .error f

/-- Makes a directory and the ones that lead to it, of which there are at most `depth`.  What is
made stays when a later step fails. -/
def makeDirectoriesWithin (fs : Tree) (path : Text) : Nat → Except Fault Unit × Tree
  | 0 => (.ok (), fs)
  | depth + 1 =>
    if path.isEmpty then (.ok (), fs)
    else
      match fs.ensureDirectory path with
      | .ok fs => (.ok (), fs)
      | .error .noEntry =>
        match Path.parent? path with
        | none => (.error (.other "failed to create whole tree".toList), fs)
        | some parent =>
          match makeDirectoriesWithin fs parent depth with
          | (.error f, fs) => (.error f, fs)
          | (.ok (), fs) =>
            match fs.makeDirectory path with
            | .ok fs => (.ok (), fs)
            | .error f => (if fs.isDirectory path then .ok () else .error f, fs)
      | .error f => (.error f, fs)

/-- Makes a directory and the ones that lead to it.  A path has fewer directories than characters. -/
def makeDirectories (fs : Tree) (path : Text) : Except Fault Unit × Tree :=
  fs.makeDirectoriesWithin path (path.length + 1)

/-- A tree that holds nothing but its working directory. -/
def empty (here : Place) : Tree :=
  { entries := (List.range here.length).map fun n => (here.take (n + 1), .directory), here }

end Tree
end Files
end ColumnBlocks
