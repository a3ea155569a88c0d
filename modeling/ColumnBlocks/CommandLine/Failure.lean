import ColumnBlocks.Settings.File

/-
Why a command failed.
-/
namespace ColumnBlocks
namespace CommandLine

inductive Failure where
  | loading (path : Text) (e : Settings.FileFault)
  | saving (path : Text) (e : Settings.FileFault)
  | reading (path : Text) (e : Files.DocumentFault)
  | writing (path : Text) (e : Files.DocumentFault)
  | unknownSetting (name : Text)
deriving DecidableEq, Repr

namespace Failure

/-- What was being done, and the messages of what it was caused by. -/
def messages : Failure → List Text
  | loading path e => ("loading settings from ".toList ++ path) :: e.messages
  | saving path e => ("saving settings to ".toList ++ path) :: e.messages
  | reading path e => ("reading ".toList ++ path) :: e.messages
  | writing path e => ("writing ".toList ++ path) :: e.messages
  | unknownSetting name => [Settings.unknownMessage name]

def message (f : Failure) : Text := Text.join ": ".toList f.messages

end Failure
end CommandLine
end ColumnBlocks
