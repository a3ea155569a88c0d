import ColumnBlocks.Environment
import ColumnBlocks.Marker.Basic
import ColumnBlocks.Text.Lines

/-
The configuration of a block: the text after its `[end]` marker.  Keywords count wherever they
stand in it, also inside other words, so unknown words do no harm.
-/
namespace ColumnBlocks

/-- A configuration without white space around it. -/
structure BlockConfig where
  text : Text
deriving DecidableEq, Repr

namespace BlockConfig

def ofConfigText (t : Text) : BlockConfig := ⟨Text.trim t⟩

/-- The configuration of the first `[end]` line of a text, or the empty one. -/
def ofText (t : Text) : BlockConfig :=
  let config := (Text.lines t).findSome? fun line =>
    match Marker.ofLine? line with
    | some (.closes config) => some (ofConfigText config)
    | _ => none
  config.getD ⟨[]⟩

def isEmpty (c : BlockConfig) : Bool := c.text.isEmpty

def wrap (c : BlockConfig) : Bool := Text.occurs "wrap".toList c.text

def rtl (c : BlockConfig) : Bool := Text.occurs "rtl".toList c.text

def ltr (c : BlockConfig) : Bool := Text.occurs "ltr".toList c.text

/-- Whether the columns run right to left.  The keyword `ltr` wins over everything else. -/
def runsRtl (c : BlockConfig) (s : Settings) : Bool := !c.ltr && (s.rtlByDefault || c.rtl)

def wraps (c : BlockConfig) (s : Settings) : Bool := s.wrapByDefault || c.wrap

end BlockConfig
end ColumnBlocks
