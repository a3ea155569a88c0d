import ColumnBlocks.Marker.Basic
import ColumnBlocks.Node.Basic

/-
Logical lines of content.  A host may render several source lines as one paragraph with breaks
between them, while markers are anchored at line starts; so a paragraph is cut at its breaks.  Each
line remembers the top-level node it was cut from, so that neighbours can be joined again.
-/
namespace ColumnBlocks

/-- A paragraph of one line, or a node that is no paragraph. -/
structure Line where
  source : Nat
  node : Node
deriving Repr, Inhabited

namespace Line

def isParagraph (line : Line) : Bool :=
  match line.node with
  | .paragraph _ => true
  | _ => false

/-- The text at the very start of inline content, looking through elements. -/
def leadingText? : List Node → Option Text
  | .text s :: _ => some s
  | .element _ _ children :: _ => leadingText? children
  | _ => none

/-- The marker a line starts with.  Only paragraphs have one; markup around it does not matter. -/
def marker? (line : Line) : Option Marker :=
  match line.node with
  | .paragraph children => (leadingText? children).bind Marker.ofLine?
  | _ => none

/-- Two rows of segments whose last and first segment are one. -/
def joinSegments : List (List Node) → List (List Node) → List (List Node)
  | [], ss => ss
  | [s], [] => [s]
  | [s], t :: ts => (s ++ t) :: ts
  | s :: s' :: rest, ss => s :: joinSegments (s' :: rest) ss

/-- The copy of an element for one of the segments its content was cut into, none where the
segment is empty. -/
def wrapSegment (name : Text) (attributes : List Attribute) (segment : List Node) : List Node :=
  if segment.isEmpty then [] else [.element name attributes segment]

mutual

def cut : Node → List (List Node)
  | .lineBreak => [[], []]
  | .element name attributes children =>
    if Node.anyBreak children then (cutAll children).map (wrapSegment name attributes)
    else [[.element name attributes children]]
  | .text s => [[.text s]]
  | .html raw => [[.html raw]]
  | .paragraph children => [[.paragraph children]]
  | .column width wrap children => [[.column width wrap children]]

/-- Inline content cut at its breaks.  An element that holds a break is copied around each part of
its content. -/
def cutAll : List Node → List (List Node)
  | [] => [[]]
  | n :: ns => joinSegments (cut n) (cutAll ns)

end

/-- A segment without the line ends at the start of a text that comes first in it.  A text of line
ends only goes altogether. -/
def dropLeadingLineEnds : List Node → List Node
  | .text s :: rest =>
    match s.dropWhile (fun c => c == '\n' || c == '\r') with
    | [] => rest
    | s' => .text s' :: rest
  | segment => segment

def ofNode (source : Nat) : Node → List Line
  | .paragraph children =>
    if Node.anyBreak children then
      (cutAll children).map fun segment => ⟨source, .paragraph (dropLeadingLineEnds segment)⟩
    else [⟨source, .paragraph children⟩]
  | n => [⟨source, n⟩]

/-- The lines of content whose first node has the index `source`. -/
def ofNodesFrom (source : Nat) : List Node → List Line
  | [] => []
  | n :: ns => ofNode source n ++ ofNodesFrom (source + 1) ns

end Line

def splitLines (nodes : List Node) : List Line := Line.ofNodesFrom 0 nodes

/-- The logical lines of content as nodes of their own. -/
def normalize (nodes : List Node) : List Node := (splitLines nodes).map (·.node)

end ColumnBlocks
