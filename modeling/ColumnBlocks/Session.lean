import ColumnBlocks.Block.Layout
import ColumnBlocks.Fragment
import ColumnBlocks.Log.Entry
import ColumnBlocks.Marker.Config

/-
A session puts column blocks together.  A host hands over a document in fragments, and a block may
be spread over several of them; the session holds the content of an open block until the fragment
with its `[end]` arrives, and that fragment then receives the whole block.
-/
namespace ColumnBlocks

/-- The class of a fragment laid out as columns. -/
def parentClass : Text := "columns-parent".toList

/-- The class of a fragment whose columns run right to left. -/
def rtlClass : Text := "columns-parent-rtl".toList

structure Session where
  pending : List Fragment := []
deriving Repr, Inhabited

namespace Session

def fresh : Session := {}

def isPending (s : Session) : Bool := !s.pending.isEmpty

def held (s : Session) : List Node := s.pending.flatMap (·.children)

/-- The fragment with the held content in front of its own. -/
def merge (s : Session) (f : Fragment) : Fragment := { f with children := s.held ++ f.children }

def mergeLog (s : Session) : List Log.Entry :=
  if s.isPending then [.merging s.pending.length] else []

/-- What a call leaves: the session, the fragment, what was decided, and what was told. -/
structure Outcome where
  session : Session
  fragment : Fragment
  action : Action
  log : List Log.Entry
deriving Repr

/-- The classes that a laid-out block asks for. -/
def layoutClasses (config : BlockConfig) (env : Environment) (f : Fragment) : Fragment :=
  if env.layoutEnabled then
    let f := f.addClass parentClass
    if config.runsRtl env.settings then f.addClass rtlClass else f
  else f

def layoutWraps (config : BlockConfig) (env : Environment) : Bool :=
  env.layoutEnabled && config.wraps env.settings

def layOut (env : Environment) (f : Fragment) : Fragment × List Log.Entry :=
  let text := f.plainText
  let config := BlockConfig.ofText text
  let wrap := layoutWraps config env
  ({ layoutClasses config env f with children := renderBlock f.children wrap },
    [.layout (columnWidths text) config.text wrap])

/-- Takes the next fragment of a document.  An open block moves into the session and leaves the
fragment empty, a complete block is laid out in the fragment, and anything else stays as it is. -/
def process (s : Session) (env : Environment) (f : Fragment) : Outcome :=
  let merged := s.merge f
  let action := classify merged.plainText
  let log := s.mergeLog ++ [.classified action]
  match action with
  | .accumulate =>
    { session := { pending := [Fragment.ofNodes merged.children] }
      fragment := { merged with children := [] }, action, log }
  | .render =>
    let (fragment, told) := layOut env merged
    { session := fresh, fragment, action, log := log ++ told }
  | .passThrough => { session := fresh, fragment := merged, action, log }

def reset (s : Session) : Session × List Log.Entry :=
  (fresh, if s.isPending then [.discarding s.pending.length] else [])

/-- Ends a document.  The content of a block that was never closed is handed back. -/
def finish (s : Session) : Option Fragment × Session × List Log.Entry :=
  if s.isPending then (some (s.merge {}), fresh, .neverClosed :: s.mergeLog) else (none, s, [])

end Session
end ColumnBlocks
