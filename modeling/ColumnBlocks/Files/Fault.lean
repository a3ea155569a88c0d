import ColumnBlocks.Text.Basic

/-
What can go wrong with a file.  The messages are the ones of the operating system, with its number
of the error where it has one.
-/
namespace ColumnBlocks
namespace Files

inductive Fault where
  | noEntry
  | entryExists
  | notDirectory
  | isDirectory
  | nameTooLong
  /-- A name with the character that ends names. -/
  | zeroInName
  /-- The content is no text. -/
  | notText
  /-- Anything else, with its message. -/
  | other (message : Text)
deriving DecidableEq, Repr

def Fault.message : Fault → Text
  | noEntry => "No such file or directory (os error 2)".toList
  | entryExists => "File exists (os error 17)".toList
  | notDirectory => "Not a directory (os error 20)".toList
  | isDirectory => "Is a directory (os error 21)".toList
  | nameTooLong => "File name too long (os error 36)".toList
  | zeroInName => "file name contained an unexpected NUL byte".toList
  | notText => "stream did not contain valid UTF-8".toList
  | other message => message

end Files
end ColumnBlocks
