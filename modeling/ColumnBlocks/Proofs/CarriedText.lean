import ColumnBlocks.Proofs.Nesting
import ColumnBlocks.Proofs.PlainText

/-!
# The text in a tree

A tree carries text in two ways: as texts, and in the attribute of an image that stands in its place.
Plain text is the former alone, with line feeds between lines, so what is read as plain text loses the
images in it.
-/

namespace ColumnBlocks

/-! ## Text in a tree -/

namespace Text

def withoutLf (t : Text) : Text := t.filter (· != '\n')

@[simp] theorem withoutLf_append (a b : Text) : withoutLf (a ++ b) = withoutLf a ++ withoutLf b :=
  List.filter_append a b

@[simp] theorem withoutLf_newLine (s : Bool) : withoutLf (Node.newLine s) = [] := by
  cases s <;> rfl

end Text

namespace Node

/-- What stands in the place of an image, for an element that is one. -/
def alternative (name : Text) (attributes : List Attribute) : Text :=
  if name = "img".toList then
    ((attributes.find? (·.name == "alt".toList)).map (·.value)).getD []
  else []

mutual

/-- The text in a node in document order, and with `alts` also what stands in the place of images. -/
def carried (alts : Bool) : Node → Text
  | text s => s
  | lineBreak | html _ => []
  | paragraph children | column _ _ children => carriedAll alts children
  | element name attributes children =>
    (if alts then alternative name attributes else []) ++ carriedAll alts children

def carriedAll (alts : Bool) : List Node → Text
  | [] => []
  | n :: ns => carried alts n ++ carriedAll alts ns

end

theorem carriedAll_append (alts : Bool) (a b : List Node) :
    carriedAll alts (a ++ b) = carriedAll alts a ++ carriedAll alts b := by
  induction a with
  | nil => rw [carriedAll]; rfl
  | cons n ns ih => rw [List.cons_append, carriedAll, carriedAll, ih, List.append_assoc]

theorem carriedAll_singleton (alts : Bool) (n : Node) : carriedAll alts [n] = carried alts n := by
  rw [carriedAll, carriedAll, List.append_nil]

mutual

/-- Plain text is the text in a node, with line feeds between lines. -/
theorem withoutLf_write (s : Bool) (n : Node) :
    Text.withoutLf (write s n) = Text.withoutLf (carried false n) := by
  cases n with
  | text t => rw [write, carried]
  | lineBreak => rw [write, carried]; rfl
  | html raw => rw [write, carried]
  | paragraph children => rw [write, carried, withoutLf_writeBlock]
  | column width wrap children => rw [write, carried, withoutLf_writeBlock]
  | element name attributes children =>
    rw [write, carried]
    show _ = Text.withoutLf (carriedAll false children)
    split
    · exact withoutLf_writeBlock s children
    · exact withoutLf_writeAll s children

theorem withoutLf_writeBlock (s : Bool) (children : List Node) :
    Text.withoutLf (writeBlock s children) = Text.withoutLf (carriedAll false children) := by
  have hchildren := withoutLf_writeAll true children
  simp only [writeBlock, Text.withoutLf_append, Text.withoutLf_newLine, List.nil_append,
    List.append_nil, hchildren]

theorem withoutLf_writeAll (s : Bool) (ns : List Node) :
    Text.withoutLf (writeAll s ns) = Text.withoutLf (carriedAll false ns) := by
  cases ns with
  | nil => rw [writeAll, carriedAll]
  | cons n ns =>
    rw [writeAll, carriedAll, Text.withoutLf_append, Text.withoutLf_append, withoutLf_write,
      withoutLf_writeAll]

end

theorem withoutLf_flatMap_plainText (ns : List Node) :
    Text.withoutLf (ns.flatMap plainText) = Text.withoutLf (carriedAll false ns) := by
  induction ns with
  | nil => rw [carriedAll]; rfl
  | cons n ns ih =>
    rw [List.flatMap_cons, carriedAll, Text.withoutLf_append, Text.withoutLf_append, ih, plainText,
      withoutLf_write]

end Node

def Fragment.carried (f : Fragment) : Text := Node.carriedAll true f.children

namespace Markdown

/-! ## Nodes of a document -/

def Event.payload : Event → Text
  | text s | code s | footnoteReference s => s
  | _ => []

def Tag.isImage : Tag → Bool
  | image _ _ => true
  | _ => false

theorem exists_image {tag : Tag} (h : tag.isImage = true) :
    ∃ destination title, tag = .image destination title := by
  cases tag with
  | image destination title => exact ⟨destination, title, rfl⟩
  | _ => cases h

theorem carriedAll_joinCons (alts : Bool) (n : Node) (ns : List Node) :
    Node.carriedAll alts (joinCons n ns) = Node.carried alts n ++ Node.carriedAll alts ns := by
  unfold joinCons
  split
  · rw [Node.carriedAll, Node.carriedAll, Node.carried, Node.carried, Node.carried,
      List.append_assoc]
  · rw [Node.carriedAll]

theorem carriedAll_joinTexts (alts : Bool) (ns : List Node) :
    Node.carriedAll alts (joinTexts ns) = Node.carriedAll alts ns := by
  induction ns with
  | nil => rfl
  | cons n ns ih => rw [joinTexts_cons, carriedAll_joinCons, ih, Node.carriedAll]

theorem carried_element {name : Text} (hname : name ≠ "img".toList) (alts : Bool)
    (attributes : List Attribute) (content : List Node) :
    Node.carried alts (.element name attributes content) = Node.carriedAll alts content := by
  rw [Node.carried, Node.alternative, if_neg hname, ite_self]
  rfl

theorem carried_leaf? {e : Event} (he : e.isBracket = false) (alts : Bool) :
    Node.carriedAll alts e.leaf?.toList = e.payload := by
  cases e with
  | start tag => cases he
  | stop => cases he
  | _ => simp [Event.leaf?, Event.payload, Node.carriedAll, Node.carried, Node.tagged, checkbox,
      footnoteLink, Node.alternative]

theorem carried_codeBlockOf (info : Option Text) (content : List Node) (alts : Bool) :
    Node.carried alts (codeBlockOf info content) = Node.carriedAll alts content := by
  unfold codeBlockOf
  rw [Node.tagged, carried_element (by decide), Node.carriedAll_singleton,
    carried_element (by decide)]

theorem carried_listOf (first : Option Nat) (content : List Node) (alts : Bool) :
    Node.carried alts (listOf first content) = Node.carriedAll alts content := by
  unfold listOf
  split
  · exact carried_element (by decide) alts _ content
  · exact carried_element (by decide) alts _ content
  · exact carried_element (by decide) alts _ content

/-- Every container hands on the text of its content, but for images and raw markup. -/
theorem carried_toNode {tag : Tag} (himage : tag.isImage = false) (hhtml : tag ≠ .htmlBlock)
    (alts : Bool) (content : List Node) :
    Node.carried alts (tag.toNode content) = Node.carriedAll alts content := by
  cases tag with
  | paragraph => rw [Tag.toNode, Node.carried]
  | heading level => cases level <;> exact carried_element (by decide) alts _ content
  | codeBlock info => exact carried_codeBlockOf info content alts
  | htmlBlock => exact absurd rfl hhtml
  | list first => exact carried_listOf first content alts
  | image destination title => cases himage
  | _ => exact carried_element (by decide) alts _ content

theorem carried_imageOf (destination title : Text) (content : List Node) (alts : Bool) :
    Node.carried alts (imageOf destination title content) =
      if alts then content.flatMap Node.plainText else [] := by
  rw [imageOf, Node.carried, Node.carriedAll, List.append_nil]
  rfl

/-- An image has no plain text, whatever stands in its place. -/
theorem plainText_imageOf (destination title : Text) (content : List Node) :
    (imageOf destination title content).plainText = [] := by
  have hinline : Node.isBlockElement "img".toList = false := by decide
  rw [imageOf, Node.plainText, Node.write, hinline, if_neg Bool.false_ne_true, Node.writeAll]

end Markdown
end ColumnBlocks
