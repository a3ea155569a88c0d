import ColumnBlocks.Markdown.Label
import ColumnBlocks.Markdown.Link

/-
Definitions of links: a label, a colon, a destination, and maybe a title.  A definition may go on
over several lines, and when what follows the destination on a further line is no title, it ends
before that line.
-/
namespace ColumnBlocks
namespace Markdown

structure LinkDefinition where
  label : Text
  target : LinkTarget
deriving DecidableEq, Repr

namespace LinkDefinition

/-- The white space between the parts of a definition, and whether a line ends among it. -/
def space? (next : NextLine) (t : Text) : Option (Text × Bool) :=
  let t := dropBlanks t
  match afterLineEnd? t with
  | none => some (t, false)
  | some rest => do
    let t := dropBlanks (← next rest)
    guard (afterLineEnd? t).isNone
    return (t, true)

/-- A title that `close` ends, as it is written but for the indentation of its lines. -/
def titleRest? (next : NextLine) (close : Char) : Text → Option (Text × Text)
  | [] => none
  | c :: r =>
    let onwards (chars rest : Text) : Option (Text × Text) :=
      if rest.length ≤ r.length then
        (titleRest? next close rest).map fun (t, rest) => (chars ++ t, rest)
      else none
    if c == close then some ([], r)
    else if c == '(' && close == ')' then none
    else if isLineEnd c then
      match (afterLineEnd? (c :: r)).bind next with
      | none => none
      | some line =>
        let line := line.dropWhile isIndent
        if (afterLineEnd? line).isSome then none else onwards ['\n'] line
    else if c == '\\' then
      match r with
      | d :: r' => if isLineEnd d then onwards [c] r else onwards [c, d] r'
      | [] => none
    else onwards [c] r
termination_by t => t.length

def title? (next : NextLine) : Text → Option (Text × Text)
  | [] => none
  | c :: r => do titleRest? next (← Link.titleClose? c) r

/-- What follows the colon of a definition: its target, and what follows that. -/
def target? (next : NextLine) (t : Text) : Option (LinkTarget × Text) := do
  let (t, _) ← space? next t
  let (written, afterDestination) ← Link.destination? t
  guard (afterDestination.length < t.length)
  let destination := Link.unescape false written
  let untitled : LinkTarget × Text := ({ destination }, afterDestination)
  match space? next afterDestination with
  | none => return untitled
  | some (t, newLine) =>
    guard (t.length < afterDestination.length)
    let titled? := do
      let (title, rest) ← title? next t
      guard (atBlankLine rest)
      return (title, rest)
    match titled? with
    | some (title, rest) => return ({ destination, title := Link.unescape false title }, rest)
    | none => if newLine then return untitled else none

end LinkDefinition

/-- What reading inline content takes with it through a document: how many bytes the targets of labels
may still add to it.  A short document could otherwise become very long, because a target is written
out wherever its label stands. -/
abbrev Expanding (α : Type) := StateM Nat α

/-- How much a document may grow: by its own length, and by a fixed number of bytes in any case. -/
def allowance (t : Text) : Nat := max t.byteLength 100000

/-- What the labels of a document stand for.  Labels are held as their keys. -/
structure Labels where
  links : List (Text × LinkTarget) := []
  footnotes : List Text := []
deriving Repr

namespace Labels

def link? (ls : Labels) (label : Text) : Option LinkTarget := ls.links.lookup (labelKey label)

def hasFootnote (ls : Labels) (label : Text) : Bool := ls.footnotes.contains (labelKey label)

def define (ls : Labels) (d : LinkDefinition) : Labels :=
  { ls with links := ls.links ++ [(labelKey d.label, d.target)] }

def addFootnote (ls : Labels) (label : Text) : Labels :=
  { ls with footnotes := labelKey label :: ls.footnotes }

end Labels

/-- A definition, and what follows it. -/
def linkDefinition? (next : NextLine) (t : Text) : Option (LinkDefinition × Text) := do
  let (label, t) ← label? next false (← Text.after? ['['] t)
  let (target, rest) ← LinkDefinition.target? next (← Text.after? [':'] t)
  return ({ label, target }, rest)

end Markdown
end ColumnBlocks
