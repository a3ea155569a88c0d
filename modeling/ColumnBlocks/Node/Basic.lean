import ColumnBlocks.Text.Basic

/-
The tree of rendered content.  A host produces it, the column transform changes it, and the HTML
writer prints it.  Inline and block content share one type because a host may nest them freely.
-/
namespace ColumnBlocks

structure Attribute where
  name : Text
  value : Text
deriving DecidableEq, Repr

inductive Node where
  | text (s : Text)
  /-- A line break inside a paragraph. -/
  | lineBreak
  /-- Markup passed through as it is written.  It has no plain text. -/
  | html (raw : Text)
  | paragraph (children : List Node)
  | element (name : Text) (attributes : List Attribute) (children : List Node)
  /-- A column of a laid-out block.  Siblings share the space in the ratio of their widths, and a
  column with `wrap` may flow onto a new line. -/
  | column (width : Nat) (wrap : Bool) (children : List Node)
deriving Repr, Inhabited

namespace Node

/-- The elements that start on a line of their own. -/
def blockElements : List Text :=
  ["blockquote", "div", "h1", "h2", "h3", "h4", "h5", "h6", "hr", "li", "ol", "pre", "table",
    "tbody", "thead", "tr", "ul"].map String.toList

def isBlockElement (name : Text) : Bool := blockElements.contains name

/-- Whether a node is laid out as lines of its own. -/
def isBlock : Node → Bool
  | paragraph _ | column _ _ _ => true
  | element name _ _ => isBlockElement name
  | text _ | lineBreak | html _ => false

mutual

/-- Whether a line break stands anywhere in a node. -/
def hasBreak : Node → Bool
  | lineBreak => true
  | paragraph children | element _ _ children | column _ _ children => anyBreak children
  | text _ | html _ => false

def anyBreak : List Node → Bool
  | [] => false
  | n :: ns => hasBreak n || anyBreak ns

end

def tagged (name : String) (children : List Node) : Node := element name.toList [] children

/-- The value of the first attribute called `name`, for an element. -/
def attribute? (name : Text) : Node → Option Text
  | element _ attributes _ => (attributes.find? (·.name == name)).map (·.value)
  | _ => none

theorem anyBreak_eq_any (ns : List Node) : anyBreak ns = ns.any hasBreak := by
  induction ns with
  | nil => rfl
  | cons n ns ih => simp [anyBreak, ih]

end Node
end ColumnBlocks
