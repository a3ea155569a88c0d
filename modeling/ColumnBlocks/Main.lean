import ColumnBlocks.CommandLine.Help
import ColumnBlocks.CommandLine.Run

/-
The program.  It carries out jobs on the files of the machine, and prints what a command leaves.
-/
namespace ColumnBlocks

namespace Files

/-- What went wrong, from the number that the system gives it. -/
def Fault.ofCode (code : UInt32) (details : String) : Fault :=
  if code == 2 then .noEntry
  else if code == 17 then .entryExists
  else if code == 20 then .notDirectory
  else if code == 21 then .isDirectory
  else if code == 36 then .nameTooLong
  else .other (details.toList ++ " (os error ".toList ++ Text.ofNat code.toNat ++ [')'])

def Fault.ofError : IO.Error → Fault
  | .alreadyExists _ code details | .otherError code details | .resourceBusy code details
  | .resourceVanished code details | .unsupportedOperation code details
  | .hardwareFault code details | .unsatisfiedConstraints code details
  | .illegalOperation code details | .protocolError code details | .timeExpired code details
  | .interrupted _ code details | .noFileOrDirectory _ code details
  | .invalidArgument _ code details | .permissionDenied _ code details
  | .resourceExhausted _ code details | .inappropriateType _ code details
  | .noSuchThing _ code details => .ofCode code details
  | .unexpectedEof => .other "unexpected end of file".toList
  | .userError message => .other message.toList

/-- The answer of the machine to a request. -/
def answer {α : Type} (request : IO α) : IO (Except Fault α) := do
  match ← request.toBaseIO with
  | .ok a => return .ok a
  | .error e => return .error (.ofError e)

/-- The answer to a request about a path.  The system has no names with the character that ends
names. -/
def answerAt {α : Type} (path : Text) (request : String → IO α) : IO (Except Fault α) :=
  if path.contains '\x00' then return .error .zeroInName else answer (request (String.ofList path))

def readText (path : Text) : IO (Except Fault Text) := do
  match ← answerAt path fun p => IO.FS.readBinFile p with
  | .error f => return .error f
  | .ok bytes =>
    match Content.ofBytes bytes with
    | .text t => return .ok t
    | .binary _ => return .error .notText

/-- Carries out a job on the files of the machine. -/
def Job.perform {α : Type} : Job α → IO α
  | .done a => return a
  | .contains path next => do
    let found ← answerAt path fun p => IO.FS.realPath p
    perform (next found.toBool)
  | .read path next => do perform (next (← readText path))
  | .write path content next => do
    perform (next (← answerAt path fun p => IO.FS.writeFile p (String.ofList content)))
  | .makeDirectories path next => do
    let made ← if path.isEmpty then pure (.ok ()) else answerAt path fun p => IO.FS.createDirAll p
    perform (next made)

end Files

/-- The variables of the environment that count for a run: those in the path of its settings. -/
def Variables.current (i : CommandLine.Invocation) : IO Variables := do
  let names := "HOME".toList :: namesIn (i.config.getD [])
  let values ← names.mapM fun name => do
    return (name, (← IO.getEnv (String.ofList name)).map String.toList)
  return { get? := fun name => (values.lookup name).join }

def CommandLine.Outcome.print (o : Outcome) (verbose : Bool) : IO Unit := do
  for e in o.shown verbose do
    IO.eprintln (String.ofList e.line)
  IO.print (String.ofList o.printed)
  IO.eprint (String.ofList o.complaint)

def run (words : List Text) (rs : CommandLine.Readers := {}) : IO UInt32 := do
  match rs.invocation words with
  | .error stop =>
    IO.print (String.ofList stop.output)
    IO.eprint (String.ofList stop.complaint)
    return stop.exitCode.toUInt32
  | .ok i =>
    let o ← (i.run (← Variables.current i) rs).perform
    o.print i.verbose
    return o.exitCode.toUInt32

end ColumnBlocks

def main (args : List String) : IO UInt32 := ColumnBlocks.run (args.map String.toList)
