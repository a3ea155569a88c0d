import ColumnBlocks.Text.Basic

/-
Paths.  A path is a text; its segments lie between the slashes, and segments that are empty or a
single point stand for nothing, except for a point at the start.
-/
namespace ColumnBlocks
namespace Files
namespace Path

def segments (p : Text) : List Text := p.splitOn '/'

/-- Whether a segment stands for nothing. -/
def isIdle (segment : Text) : Bool := segment.isEmpty || segment == ['.']

/-- The start of a path that is not made of segments: the root, or the point of the directory where
one is. -/
def lead : Text → Text
  | '/' :: _ => ['/']
  | ['.'] => ['.']
  | '.' :: '/' :: _ => ['.']
  | _ => []

/-- The segments behind the start up to the last one that stands for something. -/
def body (p : Text) : List Text :=
  ((segments (p.drop (lead p).length)).reverse.dropWhile isIdle).reverse

def last? (p : Text) : Option Text := (body p).getLast?

/-- The path without its last segment.  The root has none to lose. -/
def parent? (p : Text) : Option Text :=
  let kept := ((body p).dropLast.reverse.dropWhile isIdle).reverse
  if !(body p).isEmpty then some (lead p ++ Text.join ['/'] kept)
  else if lead p == ['.'] then some []
  else none

/-- The name of a file without its extension.  A point at the start of the name begins none. -/
def stem? (p : Text) : Option Text := do
  let name ← last? p
  guard (name != ['.', '.'])
  let back := name.reverse
  match back.drop ((back.takeWhile (· != '.')).length + 1) with
  | [] => return name
  | stem => return stem.reverse

def join (directory name : Text) : Text :=
  if directory.isEmpty || directory.getLast? == some '/' then directory ++ name
  else directory ++ '/' :: name

end Path
end Files
end ColumnBlocks
