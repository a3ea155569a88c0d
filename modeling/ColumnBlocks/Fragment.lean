import ColumnBlocks.Node.PlainText

/-
A fragment is one piece of a document as a host hands it over, commonly one top-level block.  The
transform changes its children and may add classes to the element around it.
-/
namespace ColumnBlocks

structure Fragment where
  classes : List Text := []
  children : List Node := []
deriving Repr, Inhabited

namespace Fragment

def ofNodes (children : List Node) : Fragment := { children }

/-- An empty fragment has no output. -/
def isEmpty (f : Fragment) : Bool := f.children.isEmpty

def plainText (f : Fragment) : Text := Node.plainTextAll f.children

def hasClass (f : Fragment) (name : Text) : Bool := f.classes.contains name

/-- The fragment with a class, added at the end unless it is there. -/
def addClass (f : Fragment) (name : Text) : Fragment :=
  if f.hasClass name then f else { f with classes := f.classes ++ [name] }

end Fragment
end ColumnBlocks
