import ColumnBlocks.Node.Basic

/-
Plain text of content: what a reader sees, one logical line per line.  A block starts and ends on a
line of its own, but never leaves an empty line behind, so what a node writes depends on one fact
about the text before it: whether that text is at the start of a line.
-/
namespace ColumnBlocks
namespace Node

/-- Whether a text is at the start of a line after `w`, when it was (`atStart`) before. -/
def lineStartAfter (atStart : Bool) (w : Text) : Bool :=
  match w.getLast? with
  | none => atStart
  | some c => c == '\n'

/-- The line feed that brings a text to the start of a line, unless it is there. -/
def newLine (atStart : Bool) : Text := if atStart then [] else ['\n']

mutual

/-- What a node writes after a text that is at the start of a line or not. -/
def write (atStart : Bool) : Node → Text
  | text s => s
  | lineBreak => ['\n']
  | html _ => []
  | paragraph children | column _ _ children => writeBlock atStart children
  | element name _ children =>
    if isBlockElement name then writeBlock atStart children else writeAll atStart children

/-- Content between two line starts. -/
def writeBlock (atStart : Bool) (children : List Node) : Text :=
  let body := writeAll true children
  newLine atStart ++ body ++ newLine (lineStartAfter true body)

def writeAll (atStart : Bool) : List Node → Text
  | [] => []
  | n :: ns => write atStart n ++ writeAll (lineStartAfter atStart (write atStart n)) ns

end

def plainText (n : Node) : Text := write true n

def plainTextAll (ns : List Node) : Text := writeAll true ns

end Node
end ColumnBlocks
