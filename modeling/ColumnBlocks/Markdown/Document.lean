import ColumnBlocks.Markdown.Fragments
import ColumnBlocks.Markdown.Inline
import ColumnBlocks.Markdown.Reader

/-
From the blocks of a document to its events, and from there to its fragments.
-/
namespace ColumnBlocks
namespace Markdown

def tagEvents (tag : Tag) (content : List Event) : List Event := .start tag :: content ++ [.stop]

def taskEvents (task : Option Bool) : List Event := (task.map Event.taskMarker).toList

namespace Table

def cellEvents (labels : Labels) (cell : Text) : Expanding (List Event) :=
  return tagEvents .tableCell (← Passage.events labels true { text := cell })

/-- The events of a table.  The cells of the head stand directly in it. -/
def events (labels : Labels) (head : List Text) (rows : List (List Text)) :
    Expanding (List Event) := do
  let head ← head.mapM (cellEvents labels)
  let rows ← rows.mapM fun row => do
    return tagEvents .tableRow (← row.mapM (cellEvents labels)).flatten
  return tagEvents .table (tagEvents .tableHead head.flatten ++ rows.flatten)

end Table

mutual

def Block.events (labels : Labels) (inTight : Bool) : Block → Expanding (List Event)
  | .paragraph task source => do
    let content := taskEvents task ++ (← source.events labels false)
    return if inTight then content else tagEvents .paragraph content
  | .heading level task source => do
    return tagEvents (.heading level) (taskEvents task ++ (← source.events labels false))
  | .rule => return [.rule]
  | .code info body =>
    return tagEvents (.codeBlock info) (if body.isEmpty then [] else [.text body])
  | .html raw => return tagEvents .htmlBlock [.html raw]
  | .table head rows => Table.events labels head rows
  | .taskMarker checked => return [.taskMarker checked]
  | .quote content => return tagEvents .blockQuote (← Block.allEvents labels false content)
  | .list first tight items =>
    return tagEvents (.list first) (← Block.allEvents labels tight items)
  | .item content => return tagEvents .item (← Block.allEvents labels inTight content)
  | .footnote label content =>
    return tagEvents (.footnoteDefinition label) (← Block.allEvents labels false content)

def Block.allEvents (labels : Labels) (inTight : Bool) : List Block → Expanding (List Event)
  | [] => return []
  | b :: bs =>
    return (← Block.events labels inTight b) ++ (← Block.allEvents labels inTight bs)

end

def read (t : Text) : List Event :=
  let r := Reader.read t
  (Block.allEvents r.labels false r.blocks.reverse (allowance t)).1

/-- The fragments of a document, however its events are read. -/
def fragments (t : Text) (events : Text → List Event := read) : List Fragment :=
  fragmentsOf (events t)

end Markdown
end ColumnBlocks
