import ColumnBlocks.Fragment
import ColumnBlocks.Html.Escape

/-
Nodes and fragments as HTML.
-/
namespace ColumnBlocks
namespace Html

/-- The class of a column that may flow onto a new line. -/
def wrapClass : Text := "columns-wrap".toList

/-- The elements without content and without an end tag. -/
def voidElements : List Text := ["br", "hr", "img", "input"].map String.toList

def isVoid (name : Text) : Bool := voidElements.contains name

def written (a : Attribute) : Text :=
  ' ' :: a.name ++ "=\"".toList ++ escapeValue a.value ++ ['"']

def startTag (name : Text) (as : List Attribute) : Text :=
  '<' :: name ++ as.flatMap written ++ ['>']

def endTag (name : Text) : Text := "</".toList ++ name ++ ['>']

def divName : Text := "div".toList

def paragraphName : Text := "p".toList

/-- The attributes of a column: its class when it wraps, then its share of the width. -/
def columnAttributes (width : Nat) (wrap : Bool) : List Attribute :=
  let style : Attribute := ⟨"style".toList, "flex:".toList ++ Text.ofNat width⟩
  if wrap then [⟨"class".toList, wrapClass⟩, style] else [style]

mutual

def node : Node → Text
  | .text s => escapeText s
  | .lineBreak => startTag "br".toList []
  | .html raw => raw
  | .paragraph children => startTag paragraphName [] ++ nodes children ++ endTag paragraphName
  | .element name as children =>
    if isVoid name then startTag name as else startTag name as ++ nodes children ++ endTag name
  | .column width wrap children =>
    startTag divName (columnAttributes width wrap) ++ nodes children ++ endTag divName

def nodes : List Node → Text
  | [] => []
  | n :: ns => node n ++ nodes ns

end

def fragmentAttributes (f : Fragment) : List Attribute :=
  if f.classes.isEmpty then [] else [⟨"class".toList, Text.join [' '] f.classes⟩]

/-- A fragment as a `div` with its classes.  An empty fragment has no output. -/
def fragment (f : Fragment) : Text :=
  if f.isEmpty then []
  else startTag divName (fragmentAttributes f) ++ nodes f.children ++ endTag divName

/-- The fragments that have output, one to a line. -/
def fragments (fs : List Fragment) : Text :=
  fs.flatMap fun f => if f.isEmpty then [] else fragment f ++ ['\n']

end Html
end ColumnBlocks
