import ColumnBlocks.Fragment
import ColumnBlocks.Markdown.Event

/-
From events to fragments, one for each top-level block of a document.

The containers that have started and not stopped form a stack.  A finished node goes into the
innermost of them, and becomes a fragment of its own when there is none.  Every break inside a
paragraph is a line break, soft ones included, so that a paragraph written over several source
lines keeps one logical line for each.
-/
namespace ColumnBlocks
namespace Markdown

structure Open where
  tag : Tag
  content : List Node := []
deriving Repr

namespace Open

/-- Content with a node added.  A text that follows a text continues it. -/
def addTo (content : List Node) (n : Node) : List Node :=
  match n, content with
  | .text s, .text last :: rest => .text (last ++ s) :: rest
  | n, content => n :: content

def add (o : Open) (n : Node) : Open := { o with content := addTo o.content n }

end Open

/-- What an HTML block keeps of its content. -/
def rawMarkup : Node → Text
  | .html raw | .text raw => raw
  | _ => []

def HeadingLevel.elementName : HeadingLevel → String
  | one => "h1"
  | two => "h2"
  | three => "h3"
  | four => "h4"
  | five => "h5"
  | six => "h6"

def attributeOf (name : String) (value : Text) : Attribute := ⟨name.toList, value⟩

/-- An attribute that stands only when its value is not empty. -/
def optionalAttribute (name : String) (value : Text) : List Attribute :=
  if value.isEmpty then [] else [attributeOf name value]

/-- A code block.  A text after its fence is the language. -/
def codeBlockOf (info : Option Text) (content : List Node) : Node :=
  let attributes :=
    match info with
    | none | some [] => []
    | some language => [attributeOf "class" ("language-".toList ++ language)]
  .tagged "pre" [.element "code".toList attributes content]

/-- An image.  Its content serves as a text in its place. -/
def imageOf (destination title : Text) (content : List Node) : Node :=
  .element "img".toList
    (attributeOf "src" destination :: attributeOf "alt" (content.flatMap Node.plainText) ::
      optionalAttribute "title" title) []

def listOf (first : Option Nat) (content : List Node) : Node :=
  match first with
  | none => .tagged "ul" content
  | some 1 => .tagged "ol" content
  | some n => .element "ol".toList [attributeOf "start" (Text.ofNat n)] content

def Tag.toNode (content : List Node) : Tag → Node
  | paragraph => .paragraph content
  | heading level => .tagged level.elementName content
  | blockQuote => .tagged "blockquote" content
  | codeBlock info => codeBlockOf info content
  | htmlBlock => .html (content.flatMap rawMarkup)
  | list first => listOf first content
  | item => .tagged "li" content
  | footnoteDefinition label =>
    .element "div".toList
      [attributeOf "class" "footnote-definition".toList, attributeOf "id" ("fn-".toList ++ label)]
      content
  | table => .tagged "table" content
  | tableHead => .tagged "thead" content
  | tableRow => .tagged "tr" content
  | tableCell => .tagged "td" content
  | emphasis => .tagged "em" content
  | strong => .tagged "strong" content
  | strikethrough => .tagged "del" content
  | link destination title =>
    .element "a".toList (attributeOf "href" destination :: optionalAttribute "title" title) content
  | image destination title => imageOf destination title content
  | definitionList | definitionTitle | definition | superscript | subscript | metadata =>
    .tagged "div" content

/-- The checkbox of a task. -/
def checkbox (checked : Bool) : Node :=
  let fixed := [attributeOf "type" "checkbox".toList, attributeOf "disabled" []]
  .element "input".toList (fixed ++ if checked then [attributeOf "checked" []] else []) []

def footnoteLink (label : Text) : Node :=
  .tagged "sup" [.element "a".toList [attributeOf "href" ("#fn-".toList ++ label)] [.text label]]

/-- The node of an event that has no content of its own. -/
def Event.leaf? : Event → Option Node
  | text s => some (.text s)
  | code s => some (.tagged "code" [.text s])
  | html raw | inlineHtml raw => some (.html raw)
  | softBreak | hardBreak => some .lineBreak
  | rule => some (.tagged "hr" [])
  | taskMarker checked => some (checkbox checked)
  | footnoteReference label => some (footnoteLink label)
  | inlineMath _ | displayMath _ | start _ | stop => none

/-- A document being built. -/
structure Assembly where
  /-- The containers that have not stopped, the innermost first. -/
  stack : List Open := []
  fragments : List Fragment := []
deriving Repr

namespace Assembly

/-- Hands over a finished node. -/
def emit (a : Assembly) (n : Node) : Assembly :=
  match a.stack with
  | [] => { a with fragments := a.fragments ++ [Fragment.ofNodes [n]] }
  | o :: outer => { a with stack := o.add n :: outer }

end Assembly

/-- The node of a container that stops now. -/
def Open.close (o : Open) : Node := o.tag.toNode o.content.reverse

namespace Assembly

def step (a : Assembly) : Event → Assembly
  | .start tag => { a with stack := { tag } :: a.stack }
  | .stop =>
    match a.stack with
    | [] => a
    | o :: outer => { a with stack := outer }.emit o.close
  | e =>
    match e.leaf? with
    | some n => a.emit n
    | none => a

/-- Stops the containers of `stack` around a finished node, from the innermost outwards. -/
def unwind (fragments : List Fragment) (n : Node) : List Open → List Fragment
  | [] => fragments ++ [Fragment.ofNodes [n]]
  | o :: outer => unwind fragments (o.add n).close outer

/-- The fragments at the end of the events.  Containers left open stop here. -/
def finish (a : Assembly) : List Fragment :=
  match a.stack with
  | [] => a.fragments
  | o :: outer => unwind a.fragments o.close outer

end Assembly

def fragmentsOf (events : List Event) : List Fragment := (events.foldl Assembly.step {}).finish

end Markdown
end ColumnBlocks
