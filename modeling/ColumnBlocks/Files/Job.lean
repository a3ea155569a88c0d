import ColumnBlocks.Files.Tree

/-
Jobs on files.  A job is given by what it asks for, one request after another, and by how it goes on
with each answer.  So the same job can be carried out on the files of the machine and on a tree of
files in memory, about which statements can be proved.
-/
namespace ColumnBlocks
namespace Files

inductive Job (α : Type) where
  | done (a : α)
  | contains (path : Text) (next : Bool → Job α)
  | read (path : Text) (next : Except Fault Text → Job α)
  | write (path content : Text) (next : Except Fault Unit → Job α)
  /-- Makes a directory and the ones that lead to it. -/
  | makeDirectories (path : Text) (next : Except Fault Unit → Job α)

namespace Job

/-- One job after another. -/
def andThen {α β : Type} (f : α → Job β) : Job α → Job β
  | done a => f a
  | contains path next => .contains path fun b => andThen f (next b)
  | read path next => .read path fun r => andThen f (next r)
  | write path content next => .write path content fun r => andThen f (next r)
  | makeDirectories path next => .makeDirectories path fun r => andThen f (next r)

instance : Monad Job where
  pure := done
  bind j f := andThen f j

def runOn {α : Type} (fs : Tree) : Job α → α × Tree
  | done a => (a, fs)
  | contains path next => runOn fs (next (fs.contains path))
  | read path next => runOn fs (next (fs.read path))
  | write path content next =>
    match fs.write path (.text content) with
    | .ok fs' => runOn fs' (next (.ok ()))
    | .error f => runOn fs (next (.error f))
  | makeDirectories path next =>
    let (r, fs') := fs.makeDirectories path
    runOn fs' (next r)

theorem runOn_andThen {α β : Type} (f : α → Job β) (j : Job α) (fs : Tree) :
    (andThen f j).runOn fs = (f (j.runOn fs).1).runOn (j.runOn fs).2 := by
  induction j generalizing fs with
  | done a => rfl
  | contains path next ih => simp [andThen, runOn, ih]
  | read path next ih => simp [andThen, runOn, ih]
  | write path content next ih =>
    simp only [andThen, runOn]
    split <;> simp [ih]
  | makeDirectories path next ih => simp [andThen, runOn, ih]

end Job
end Files
end ColumnBlocks
