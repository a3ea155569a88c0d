import ColumnBlocks.Marker.Basic
import ColumnBlocks.Text.Lines

/-
What to do with a piece of content, decided from the markers in its plain text.
-/
namespace ColumnBlocks

inductive Action where
  /-- A block is open: its content waits for what follows. -/
  | accumulate
  /-- A complete block, to be laid out as columns. -/
  | render
  /-- No block, or a malformed one: the content stays as it is. -/
  | passThrough
deriving DecidableEq, Repr

namespace Action

/-- The decision at the end of a text, from whether an opening and a closing line were seen. -/
def ofSeen (begun ended : Bool) : Action :=
  if begun then (if ended then render else accumulate) else passThrough

/-- Reads the remaining lines.  A second opening or closing line settles the matter. -/
def scan (begun ended : Bool) : List Text → Action
  | [] => ofSeen begun ended
  | line :: rest =>
    match Marker.ofLine? line with
    | some (.opens _) => if begun then passThrough else scan true ended rest
    | some (.closes _) => if ended then passThrough else scan begun true rest
    | _ => scan begun ended rest

end Action

def classify (text : Text) : Action := Action.scan false false (Text.lines text)

end ColumnBlocks
