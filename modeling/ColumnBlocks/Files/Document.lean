import ColumnBlocks.Files.Job

/-
Reading documents and writing what they were rendered to.
-/
namespace ColumnBlocks
namespace Files

inductive DocumentFault where
  | notFound (path : Text)
  | fault (f : Fault)
deriving DecidableEq, Repr

namespace DocumentFault

def message : DocumentFault → Text
  | notFound path => "File not found: ".toList ++ path
  | fault f => "IO error: ".toList ++ f.message

def messages : DocumentFault → List Text
  | notFound path => [(notFound path).message]
  | fault f => [(fault f).message, f.message]

end DocumentFault

def readDocument (path : Text) : Job (Except DocumentFault Text) :=
  .contains path fun there =>
    if there then
      .read path fun
        | .ok t => .done (.ok t)
        | .error f => .done (.error (.fault f))
    else .done (.error (.notFound path))

/-- The directory that has to be made before something is written at a path. -/
def directoryOf? (path : Text) : Option Text := (Path.parent? path).filter (!·.isEmpty)

/-- Writes a file after making the directory that it lies in. -/
def writeWithDirectory (path content : Text) : Job (Except Fault Unit) :=
  match directoryOf? path with
  | none => .write path content .done
  | some directory =>
    .makeDirectories directory fun
      | .ok () => .write path content .done
      | .error f => .done (.error f)

def writeDocument (path content : Text) : Job (Except DocumentFault Unit) := do
  match ← writeWithDirectory path content with
  | .ok () => return .ok ()
  | .error f => return .error (.fault f)

end Files
end ColumnBlocks
