import ColumnBlocks.Markdown.Event

/-
Emphasis.  Runs of the marks `*`, `_` and `~` open and close emphasis around the content between
them.  A run that closes takes the innermost run that it fits, and the marks that both have in
common become emphasis; what is left of the opening run stays open, and what is left of the closing
one looks for a further match.  Marks that find no partner are text.
-/
namespace ColumnBlocks
namespace Markdown

structure Mark where
  char : Char
  length : Nat
  opens : Bool
  closes : Bool
  /-- White space at the end of a heading, which stays when the last mark of the run does. -/
  tail : Text := []
deriving DecidableEq, Repr

/-- The text of the last `n` marks of a run. -/
def Mark.textOf (n : Nat) (m : Mark) : List Event :=
  if n = 0 then [] else [.text (List.replicate n m.char ++ m.tail)]

inductive Piece where
  | event (e : Event)
  | mark (m : Mark)
  /-- A break written with a backslash. -/
  | escapedBreak
deriving Repr

namespace Piece

def isMark : Piece → Bool
  | mark _ => true
  | _ => false

/-- Pieces, the last one first, with a backslash in the place of a break that they end with. -/
def endWithBackslash : List Piece → List Piece
  | escapedBreak :: ps => event (.text ['\\']) :: ps
  | ps => ps

end Piece

namespace Emphasis

/-- A run that may still be closed. -/
structure OpenRun where
  mark : Mark
  /-- The marks of the run that are not used. -/
  left : Nat
  /-- The events since the run, the last one first. -/
  content : List Event := []
deriving Repr

/-- Whether a run can open emphasis that the run `m` closes.  Struck text needs runs of one length;
and two runs whose lengths add up to a multiple of three do not fit when one of them could also do
the other thing, unless both lengths are such multiples. -/
def fits (m : Mark) (o : OpenRun) : Bool :=
  let bothWays (m : Mark) : Bool := m.opens && m.closes
  o.mark.char == m.char && (m.char != '~' || o.mark.length == m.length) &&
    ((!bothWays m && !bothWays o.mark) || (m.length + o.mark.length) % 3 != 0 || m.length % 3 == 0)

/-- The events of an open run that finds no partner, the last one first. -/
def OpenRun.asText (o : OpenRun) : List Event := o.content ++ o.mark.textOf o.left

/-- The tags that `n` pairs of marks stand for, from the innermost one outwards. -/
def tags (c : Char) (n : Nat) : List Tag :=
  if c == '~' then (if n = 0 then [] else [.strikethrough])
  else List.replicate (n / 2) .strong ++ List.replicate (n % 2) .emphasis

/-- Events inside tags, the last one first. -/
def wrap (content : List Event) (ts : List Tag) : List Event :=
  ts.foldl (fun es t => .stop :: es ++ [.start t]) content

/-- The open runs, the innermost first, and the events before the outermost of them.  The runs below
`strikeFloor`, counted from the outermost, are closed by no further run of tildes. -/
structure State where
  runs : List OpenRun := []
  before : List Event := []
  strikeFloor : Nat := 0
deriving Repr

namespace State

/-- Adds events, the last one first, to the innermost open run. -/
def add (es : List Event) (s : State) : State :=
  match s.runs with
  | [] => { s with before := es ++ s.before }
  | o :: outer => { s with runs := { o with content := es ++ o.content } :: outer }

def candidates (m : Mark) (s : State) : List OpenRun :=
  if m.char == '~' then s.runs.take (s.runs.length - s.strikeFloor) else s.runs

/-- Closes the runs inside the one that fits, which becomes the innermost, as text. -/
def dropTo (m : Mark) : List OpenRun → List Event → Option (OpenRun × List OpenRun)
  | [], _ => none
  | o :: outer, inner =>
    let o := { o with content := inner ++ o.content }
    if fits m o then some (o, outer) else dropTo m outer o.asText

/-- Uses up to `n` marks of the run `m` to close emphasis, and returns how many are left. -/
def closeWith (m : Mark) (n : Nat) (s : State) : Nat × State :=
  if (s.candidates m).any (fits m) then
    match dropTo m s.runs [] with
    | none => (n, s)
    | some (o, outer) =>
      let used := min n o.left
      let wrapped := wrap o.content (tags m.char used)
      let s := { s with runs := outer, strikeFloor := min s.strikeFloor outer.length }
      let s := if used < o.left then
          { s with runs := { o with left := o.left - used, content := wrapped } :: s.runs }
        else s.add wrapped
      if used = 0 then (n, s)
      else if n = used then (0, s)
      else closeWith m (n - used) s
  else (n, if m.char == '~' then { s with strikeFloor := s.runs.length } else s)
termination_by n

def readMark (m : Mark) (s : State) : State :=
  let (left, s) := if m.closes then s.closeWith m m.length else (m.length, s)
  if left = 0 then s
  else if m.opens then
    { s with
      runs := { mark := m, left } :: s.runs
      strikeFloor := if m.char == '~' then min s.strikeFloor s.runs.length else s.strikeFloor }
  else s.add (m.textOf left)

def read (s : State) : Piece → State
  | .event e => s.add [e]
  | .mark m => s.readMark m
  | .escapedBreak => s.add [.hardBreak]

/-- The events in reading order, when no further marks come. -/
def finish (s : State) : List Event :=
  (s.runs.reverse.foldl (fun es o => o.asText ++ es) s.before).reverse

end State

def resolve (ps : List Piece) : List Event := (ps.foldl State.read {}).finish

end Emphasis
end Markdown
end ColumnBlocks
