import ColumnBlocks.Proofs.Nesting
import ColumnBlocks.Proofs.Tokens

/-!
# Markup

The HTML of a tree is the row of its tags and texts, each of them written out.  So a reader of HTML
finds the tree in it, and nothing that a document says in its texts or in the values of its attributes
can turn into markup.
-/

namespace ColumnBlocks

open Html (Token)

namespace Html.Token

/-- Tokens between a start tag and its end tag. -/
def around (name : Text) (attributes : List Attribute) (inner : List Token) : List Token :=
  .opens name attributes :: inner ++ [.closes name]

/-- Whether the end tags match the start tags, from the innermost outwards, `outer` being the names of
the elements that are open.  A void element is never open. -/
def nested : List Text → List Token → Bool
  | outer, [] => outer.isEmpty
  | outer, .opens name _ :: ts => nested (if isVoid name then outer else name :: outer) ts
  | [], .closes _ :: _ => false
  | name :: outer, .closes name' :: ts => name == name' && nested outer ts
  | outer, .text _ :: ts => nested outer ts

theorem isNamed_of_mem_around {name : Text} {attributes : List Attribute} {inner : List Token}
    (hname : isName name = true) (hattributes : (attributes.all fun a => isName a.name) = true)
    (hinner : ∀ t ∈ inner, t.isNamed = true) :
    ∀ t ∈ around name attributes inner, t.isNamed = true := by
  intro t ht
  rw [around, List.mem_append, List.mem_cons, List.mem_singleton] at ht
  rcases ht with (rfl | ht) | rfl
  · simp [isNamed, hname, hattributes]
  · exact hinner t ht
  · exact hname

theorem nested_around {name : Text} (hname : isVoid name = false) {inner : List Token}
    (hinner : ∀ outer ts, nested outer (inner ++ ts) = nested outer ts)
    (attributes : List Attribute) (outer : List Text) (ts : List Token) :
    nested outer (around name attributes inner ++ ts) = nested outer ts := by
  rw [around, List.append_assoc, List.cons_append, nested, hinner, hname]
  simp [nested]

theorem nested_joinCons (outer : List Text) (t : Token) (ts : List Token) :
    nested outer (joinCons t ts) = nested outer (t :: ts) := by
  unfold joinCons
  split
  · rw [nested]
  · rw [nested, nested, nested]
  · rfl

theorem nested_cons_congr {ts us : List Token} (h : ∀ outer, nested outer ts = nested outer us)
    (outer : List Text) (t : Token) : nested outer (t :: ts) = nested outer (t :: us) := by
  cases t with
  | opens name attributes => rw [nested, nested, h]
  | text s => rw [nested, nested, h]
  | closes name =>
    cases outer with
    | nil => rw [nested, nested]
    | cons name' outer => rw [nested, nested, h]

theorem nested_joined (outer : List Text) (ts : List Token) :
    nested outer (joined ts) = nested outer ts := by
  induction ts generalizing outer with
  | nil => rfl
  | cons t ts ih =>
    rw [joined, List.foldr_cons, nested_joinCons]
    exact nested_cons_congr ih outer t

end Html.Token

namespace Node

/-! ## The tokens of a tree -/

mutual

def hasRaw : Node → Bool
  | html _ => true
  | paragraph children | element _ _ children | column _ _ children => anyRaw children
  | text _ | lineBreak => false

def anyRaw : List Node → Bool
  | [] => false
  | n :: ns => hasRaw n || anyRaw ns

end

mutual

def isNamed : Node → Bool
  | element name attributes children =>
    Html.isName name && (attributes.all fun a => Html.isName a.name) && areNamed children
  | paragraph children | column _ _ children => areNamed children
  | text _ | lineBreak | html _ => true

def areNamed : List Node → Bool
  | [] => true
  | n :: ns => isNamed n && areNamed ns

end

/-- The attributes of a column: its class if it may wrap, and its share of the width. -/
def columnAttributes (width : Nat) (wrap : Bool) : List Attribute :=
  (if wrap then [⟨"class".toList, "columns-wrap".toList⟩] else []) ++
    [⟨"style".toList, "flex:".toList ++ Text.ofNat width⟩]

mutual

/-- The tags and texts of a node in the order of the document. -/
def tokens : Node → List Token
  | text s => [.text s]
  | lineBreak => [.opens "br".toList []]
  | html _ => []
  | paragraph children => Token.around "p".toList [] (tokensAll children)
  | element name attributes children =>
    if Html.isVoid name then [.opens name attributes]
    else Token.around name attributes (tokensAll children)
  | column width wrap children =>
    Token.around "div".toList (columnAttributes width wrap) (tokensAll children)

def tokensAll : List Node → List Token
  | [] => []
  | n :: ns => tokens n ++ tokensAll ns

end

mutual

theorem html_eq_written {n : Node} (h : n.hasRaw = false) :
    Html.node n = n.tokens.flatMap Token.written := by
  cases n with
  | text s => rw [Html.node, tokens]; simp [Token.written]
  | lineBreak => rw [Html.node, tokens]; simp [Token.written]
  | html raw => rw [hasRaw] at h; cases h
  | paragraph children =>
    rw [hasRaw] at h
    rw [Html.node, tokens, html_eq_writtenAll h]
    simp [Token.around, Token.written, Html.paragraphName]
  | element name attributes children =>
    rw [hasRaw] at h
    rw [Html.node, tokens, html_eq_writtenAll h]
    split <;> simp [Token.around, Token.written]
  | column width wrap children =>
    rw [hasRaw] at h
    have hattributes : Html.columnAttributes width wrap = columnAttributes width wrap := by
      cases wrap <;> rfl
    rw [Html.node, tokens, html_eq_writtenAll h, hattributes]
    simp [Token.around, Token.written, Html.divName]

theorem html_eq_writtenAll {ns : List Node} (h : anyRaw ns = false) :
    Html.nodes ns = (tokensAll ns).flatMap Token.written := by
  cases ns with
  | nil => rw [Html.nodes, tokensAll, List.flatMap_nil]
  | cons n ns =>
    rw [anyRaw, Bool.or_eq_false_iff] at h
    rw [Html.nodes, tokensAll, List.flatMap_append, html_eq_written h.1, html_eq_writtenAll h.2]

end

mutual

theorem isNamed_of_mem_tokens {n : Node} (h : n.isNamed = true) :
    ∀ t ∈ n.tokens, t.isNamed = true := by
  cases n with
  | text s => rw [tokens]; simp [Token.isNamed]
  | lineBreak => rw [tokens]; decide
  | html raw => rw [tokens]; simp
  | paragraph children =>
    rw [isNamed] at h
    rw [tokens]
    exact Token.isNamed_of_mem_around (by decide) rfl (isNamed_of_mem_tokensAll h)
  | element name attributes children =>
    rw [isNamed, Bool.and_eq_true, Bool.and_eq_true] at h
    obtain ⟨⟨hname, hattributes⟩, hchildren⟩ := h
    rw [tokens]
    split
    · intro t ht
      rw [List.mem_singleton.mp ht]
      simp only [Token.isNamed, hname, hattributes, Bool.and_self]
    · exact Token.isNamed_of_mem_around hname hattributes (isNamed_of_mem_tokensAll hchildren)
  | column width wrap children =>
    have hattributes : ((columnAttributes width wrap).all fun a => Html.isName a.name) = true := by
      cases wrap <;> rfl
    rw [isNamed] at h
    rw [tokens]
    exact Token.isNamed_of_mem_around (by decide) hattributes (isNamed_of_mem_tokensAll h)

theorem isNamed_of_mem_tokensAll {ns : List Node} (h : areNamed ns = true) :
    ∀ t ∈ tokensAll ns, t.isNamed = true := by
  cases ns with
  | nil => rw [tokensAll]; simp
  | cons n ns =>
    rw [areNamed, Bool.and_eq_true] at h
    intro t ht
    rw [tokensAll, List.mem_append] at ht
    rcases ht with ht | ht
    · exact isNamed_of_mem_tokens h.1 t ht
    · exact isNamed_of_mem_tokensAll h.2 t ht

end

mutual

/-- A tree is well nested, whatever is open around it and whatever follows it. -/
theorem nested_tokens (n : Node) (outer : List Text) (ts : List Token) :
    Token.nested outer (n.tokens ++ ts) = Token.nested outer ts := by
  cases n with
  | text s => rw [tokens, List.singleton_append, Token.nested]
  | lineBreak =>
    rw [tokens, List.singleton_append, Token.nested]
    rfl
  | html raw => rw [tokens, List.nil_append]
  | paragraph children =>
    rw [tokens]
    exact Token.nested_around (by decide) (nested_tokensAll children) [] outer ts
  | element name attributes children =>
    rw [tokens]
    split
    -- A void element brings neither its content nor an end tag.
    · rename_i hvoid
      rw [List.singleton_append, Token.nested, if_pos hvoid]
    · rename_i hvoid
      exact Token.nested_around (by simpa using hvoid) (nested_tokensAll children) attributes outer ts
  | column width wrap children =>
    rw [tokens]
    exact Token.nested_around (by decide) (nested_tokensAll children)
      (columnAttributes width wrap) outer ts

theorem nested_tokensAll (ns : List Node) (outer : List Text) (ts : List Token) :
    Token.nested outer (tokensAll ns ++ ts) = Token.nested outer ts := by
  cases ns with
  | nil => rw [tokensAll, List.nil_append]
  | cons n ns => rw [tokensAll, List.append_assoc, nested_tokens, nested_tokensAll]

end

end Node

namespace Fragment

def classAttributes (f : Fragment) : List Attribute :=
  if f.classes.isEmpty then [] else [⟨"class".toList, Text.join [' '] f.classes⟩]

/-- The tokens of a fragment: a `div` with its classes around its content, or nothing at all. -/
def tokens (f : Fragment) : List Token :=
  if f.children.isEmpty then []
  else Token.around "div".toList f.classAttributes (Node.tokensAll f.children)

theorem html_eq_written {f : Fragment} (h : Node.anyRaw f.children = false) :
    Html.fragment f = f.tokens.flatMap Token.written := by
  unfold Html.fragment tokens isEmpty
  split
  · rfl
  · rw [Node.html_eq_writtenAll h]
    simp [Token.around, Token.written, Html.divName, Html.fragmentAttributes, classAttributes]

theorem isNamed_of_mem_tokens {f : Fragment} (h : Node.areNamed f.children = true) :
    ∀ t ∈ f.tokens, t.isNamed = true := by
  have hattributes : (f.classAttributes.all fun a => Html.isName a.name) = true := by
    unfold classAttributes
    split <;> rfl
  unfold tokens
  split
  · exact fun t ht => absurd ht List.not_mem_nil
  · exact Token.isNamed_of_mem_around (by decide) hattributes (Node.isNamed_of_mem_tokensAll h)

theorem nested_tokens (f : Fragment) : Token.nested [] f.tokens = true := by
  unfold tokens
  split
  · rfl
  · have hname : Html.isVoid "div".toList = false := by decide
    have h := Token.nested_around hname (Node.nested_tokensAll f.children) f.classAttributes [] []
    rwa [List.append_nil] at h

end Fragment

/-! ## The names in a document -/

namespace Markdown

theorem isNamed_tagged (name : String) (content : List Node) :
    (Node.tagged name content).isNamed = (Html.isName name.toList && Node.areNamed content) := by
  rw [Node.tagged, Node.isNamed, List.all_nil, Bool.and_true]

theorem isNamed_optionalAttribute {name : String} (h : Html.isName name.toList = true)
    (value : Text) : ((optionalAttribute name value).all fun a => Html.isName a.name) = true := by
  unfold optionalAttribute
  split
  · rfl
  · rw [List.all_cons, attributeOf, h, List.all_nil, Bool.and_true]

theorem isNamed_codeBlockOf (info : Option Text) {content : List Node}
    (h : Node.areNamed content = true) : (codeBlockOf info content).isNamed = true := by
  unfold codeBlockOf
  rw [isNamed_tagged, Node.areNamed, Node.isNamed, h]
  split <;> rfl

theorem isNamed_imageOf (destination title : Text) (content : List Node) :
    (imageOf destination title content).isNamed = true := by
  rw [imageOf, Node.isNamed, List.all_cons, List.all_cons, isNamed_optionalAttribute (by decide)]
  rfl

theorem isNamed_listOf (first : Option Nat) {content : List Node}
    (h : Node.areNamed content = true) : (listOf first content).isNamed = true := by
  unfold listOf
  split
  · rw [isNamed_tagged, h]; decide
  · rw [isNamed_tagged, h]; decide
  · rw [Node.isNamed, h]; rfl

theorem isNamed_toNode (tag : Tag) {content : List Node} (h : Node.areNamed content = true) :
    (tag.toNode content).isNamed = true := by
  cases tag with
  | paragraph => rw [Tag.toNode, Node.isNamed, h]
  | htmlBlock => rw [Tag.toNode, Node.isNamed]
  | heading level =>
    rw [Tag.toNode, isNamed_tagged, h]
    cases level <;> decide
  | codeBlock info => exact isNamed_codeBlockOf info h
  | list first => exact isNamed_listOf first h
  | footnoteDefinition label => rw [Tag.toNode, Node.isNamed, h]; rfl
  | link destination title =>
    rw [Tag.toNode, Node.isNamed, h, List.all_cons, isNamed_optionalAttribute (by decide)]
    rfl
  | image destination title => exact isNamed_imageOf destination title content
  | _ => rw [Tag.toNode, isNamed_tagged, h]; decide

theorem isNamed_leaf? {e : Event} {n : Node} (h : e.leaf? = some n) : n.isNamed = true := by
  cases e with
  | taskMarker checked =>
    cases h
    cases checked <;> rfl
  | _ => cases h <;> rfl

theorem areNamed_joinCons (n : Node) (ns : List Node) :
    Node.areNamed (joinCons n ns) = Node.areNamed (n :: ns) := by
  unfold joinCons
  split
  · simp [Node.areNamed, Node.isNamed]
  · rfl

theorem areNamed_joinTexts (ns : List Node) : Node.areNamed (joinTexts ns) = Node.areNamed ns := by
  induction ns with
  | nil => rfl
  | cons n ns ih => rw [joinTexts_cons, areNamed_joinCons, Node.areNamed, Node.areNamed, ih]

mutual

theorem isNamed_node? {i : Item} {n : Node} (h : i.node? = some n) : n.isNamed = true := by
  cases i with
  | leaf e he =>
    rw [Item.node?] at h
    exact isNamed_leaf? h
  | container tag content =>
    rw [Item.node?] at h
    rw [← Option.some.inj h]
    exact isNamed_toNode tag (by rw [areNamed_joinTexts, areNamed_nodes])

theorem areNamed_nodes (is : List Item) : Node.areNamed (Item.nodes is) = true := by
  cases is with
  | nil => rw [Item.nodes, Node.areNamed]
  | cons i is =>
    rw [Item.nodes]
    cases h : i.node? with
    | none => exact areNamed_nodes is
    | some n =>
      rw [Option.toList_some, List.singleton_append, Node.areNamed, isNamed_node? h, areNamed_nodes,
        Bool.and_self]

end

theorem areNamed_fragmentsOf (es : List Event) :
    ∀ f ∈ fragmentsOf es, Node.areNamed f.children = true := by
  obtain ⟨items, hitems⟩ := exists_items es
  intro f hf
  rw [hitems, List.mem_map] at hf
  obtain ⟨n, hn, rfl⟩ := hf
  obtain ⟨i, _, hi⟩ := List.mem_filterMap.mp hn
  rw [Fragment.ofNodes, Node.areNamed, isNamed_node? hi]
  rfl

end Markdown

/-! ## Reading the HTML -/

namespace Html

end Html
end ColumnBlocks
