import ColumnBlocks.Html.Writer
import ColumnBlocks.Proofs.Nesting
import Mathlib.Data.List.Basic
import Mathlib.Data.List.Chain

/-!
# The shape of a document

What is built from events has a shape that trees in general do not have.  There are no columns in it
yet, texts do not stand side by side, and the elements that HTML writes without an end tag are empty.
The writer leaves out the content of such elements, so it leaves out nothing of a document.

The shape is asked of every row of siblings, at every depth.
-/

namespace ColumnBlocks

namespace Node

def isText : Node → Bool
  | text _ => true
  | _ => false

def isColumn : Node → Bool
  | column _ _ _ => true
  | _ => false

/-- Whether a node has content that is not written. -/
def hidesContent : Node → Bool
  | element name _ children => Html.isVoid name && !children.isEmpty
  | _ => false

mutual

/-- The rows of siblings inside a node, at every depth. -/
def rowsIn : Node → List (List Node)
  | paragraph children | element _ _ children | column _ _ children => children :: rowsInAll children
  | text _ | lineBreak | html _ => []

def rowsInAll : List Node → List (List Node)
  | [] => []
  | n :: ns => rowsIn n ++ rowsInAll ns

end

/-- A row of nodes and the rows inside of them. -/
def rows (ns : List Node) : List (List Node) := ns :: rowsInAll ns

def Apart (n m : Node) : Prop := (n.isText && m.isText) = false

structure TidyRow (row : List Node) : Prop where
  columns : ∀ n ∈ row, n.isColumn = false
  texts : row.IsChain Apart
  voids : ∀ n ∈ row, n.hidesContent = false

def AreTidy (ns : List Node) : Prop := ∀ row ∈ rows ns, TidyRow row

/-! ## Rows and nodes -/

/-- What a row takes of one of its nodes to be tidy at every depth. -/
structure IsTidy (n : Node) : Prop where
  column : n.isColumn = false
  void : n.hidesContent = false
  inside : ∀ row ∈ n.rowsIn, TidyRow row

theorem mem_rowsInAll {ns : List Node} {row : List Node} :
    row ∈ rowsInAll ns ↔ ∃ n ∈ ns, row ∈ n.rowsIn := by
  induction ns with
  | nil => simp [rowsInAll]
  | cons n ns ih => rw [rowsInAll, List.mem_append, ih, List.exists_mem_cons_iff]

theorem areTidy_iff {ns : List Node} :
    AreTidy ns ↔ ns.IsChain Apart ∧ ∀ n ∈ ns, n.IsTidy := by
  constructor
  · intro h
    have hrow := h ns List.mem_cons_self
    refine ⟨hrow.texts, fun n hn => ⟨hrow.columns n hn, hrow.voids n hn, ?_⟩⟩
    intro row hmem
    exact h row (List.mem_cons_of_mem ns (mem_rowsInAll.mpr ⟨n, hn, hmem⟩))
  · rintro ⟨htexts, hnodes⟩ row hmem
    rcases List.mem_cons.mp hmem with rfl | hmem
    · exact ⟨fun n hn => (hnodes n hn).column, htexts, fun n hn => (hnodes n hn).void⟩
    · obtain ⟨n, hn, hmem⟩ := mem_rowsInAll.mp hmem
      exact (hnodes n hn).inside row hmem

theorem areTidy_nil : AreTidy [] := areTidy_iff.mpr ⟨List.isChain_nil, by simp⟩

theorem areTidy_singleton {n : Node} (h : n.IsTidy) : AreTidy [n] := by
  refine areTidy_iff.mpr ⟨List.isChain_singleton n, ?_⟩
  intro m hm
  rw [List.mem_singleton.mp hm]
  exact h

theorem areTidy_cons {n : Node} {ns : List Node} (hn : n.IsTidy) (hfirst : ∀ m ∈ ns.head?, Apart n m)
    (h : AreTidy ns) : AreTidy (n :: ns) := by
  obtain ⟨htexts, hnodes⟩ := areTidy_iff.mp h
  refine areTidy_iff.mpr ⟨List.isChain_cons.mpr ⟨hfirst, htexts⟩, ?_⟩
  intro m hm
  rcases List.mem_cons.mp hm with rfl | hm
  · exact hn
  · exact hnodes m hm

theorem AreTidy.tail {n : Node} {ns : List Node} (h : AreTidy (n :: ns)) : AreTidy ns := by
  obtain ⟨htexts, hnodes⟩ := areTidy_iff.mp h
  exact areTidy_iff.mpr ⟨htexts.tail, fun m hm => hnodes m (List.mem_cons_of_mem n hm)⟩

theorem isTidy_text (s : Text) : (text s).IsTidy := ⟨rfl, rfl, by simp [rowsIn]⟩

theorem isTidy_lineBreak : lineBreak.IsTidy := ⟨rfl, rfl, by simp [rowsIn]⟩

theorem isTidy_html (raw : Text) : (html raw).IsTidy := ⟨rfl, rfl, by simp [rowsIn]⟩

theorem isTidy_paragraph {children : List Node} (h : AreTidy children) :
    (paragraph children).IsTidy := by
  refine ⟨rfl, rfl, ?_⟩
  rw [rowsIn]
  exact h

theorem isTidy_element {name : Text} {children : List Node}
    (hname : Html.isVoid name = false ∨ children = []) (attributes : List Attribute)
    (h : AreTidy children) : (element name attributes children).IsTidy := by
  refine ⟨rfl, ?_, ?_⟩
  · rcases hname with hname | rfl
    · rw [hidesContent, hname, Bool.false_and]
    · exact Bool.and_false _
  · rw [rowsIn]
    exact h

theorem isTidy_tagged {name : String} (hname : Html.isVoid name.toList = false)
    {children : List Node} (h : AreTidy children) : (tagged name children).IsTidy :=
  isTidy_element (Or.inl hname) [] h

theorem isTidy_empty (name : Text) (attributes : List Attribute) :
    (element name attributes []).IsTidy :=
  isTidy_element (Or.inr rfl) attributes areTidy_nil

/-! ## What is written -/

mutual

/-- The HTML of a node with the content of every element in it, void or not. -/
def unabridged : Node → Text
  | text s => Html.escapeText s
  | lineBreak => Html.startTag "br".toList []
  | html raw => raw
  | paragraph children =>
    Html.startTag Html.paragraphName [] ++ unabridgedAll children ++ Html.endTag Html.paragraphName
  | element name attributes children =>
    Html.startTag name attributes ++ unabridgedAll children ++
      if Html.isVoid name then [] else Html.endTag name
  | column width wrap children =>
    Html.startTag Html.divName (Html.columnAttributes width wrap) ++ unabridgedAll children ++
      Html.endTag Html.divName

def unabridgedAll : List Node → Text
  | [] => []
  | n :: ns => unabridged n ++ unabridgedAll ns

end

mutual

theorem node_eq_unabridged {n : Node} (h : n.IsTidy) : Html.node n = n.unabridged := by
  obtain ⟨hcolumn, hvoid, hinside⟩ := h
  cases n with
  | text s => rw [Html.node, unabridged]
  | lineBreak => rw [Html.node, unabridged]
  | html raw => rw [Html.node, unabridged]
  | column width wrap children => cases hcolumn
  | paragraph children =>
    rw [rowsIn] at hinside
    rw [Html.node, unabridged, nodes_eq_unabridged hinside]
  | element name attributes children =>
    rw [rowsIn] at hinside
    rw [Html.node, unabridged, nodes_eq_unabridged hinside]
    by_cases hname : Html.isVoid name = true
    · have hempty : children = [] := by simpa [hidesContent, hname] using hvoid
      rw [if_pos hname, if_pos hname, hempty, unabridgedAll]
      simp
    · rw [if_neg hname, if_neg hname]

theorem nodes_eq_unabridged {ns : List Node} (h : AreTidy ns) : Html.nodes ns = unabridgedAll ns := by
  cases ns with
  | nil => rw [Html.nodes, unabridgedAll]
  | cons n ns =>
    have hn : n.IsTidy := (areTidy_iff.mp h).2 n List.mem_cons_self
    rw [Html.nodes, unabridgedAll, node_eq_unabridged hn, nodes_eq_unabridged h.tail]

end

/-- In other trees there may be something that is not written. -/
example : Html.node (.tagged "br" [.text ['a']]) = "<br>".toList ∧
    (tagged "br" [.text ['a']]).unabridged = "<br>a".toList := by
  constructor <;> cbv

end Node

/-! ## What is built from events -/

namespace Markdown

open Node (IsTidy AreTidy)

theorem areTidy_joinCons {n : Node} {ns : List Node} (hn : n.IsTidy) (h : AreTidy ns) :
    AreTidy (joinCons n ns) := by
  unfold joinCons
  split
  · rename_i s t ns
    -- What may follow a text depends only on its being a text.
    have hfirst := (List.isChain_cons.mp (Node.areTidy_iff.mp h).1).1
    exact Node.areTidy_cons (Node.isTidy_text (s ++ t)) hfirst h.tail
  · rename_i htexts
    refine Node.areTidy_cons hn ?_ h
    intro m hm
    obtain ⟨ns', rfl⟩ := List.head?_eq_some_iff.mp hm
    cases n with
    | text s =>
      cases m with
      | text t => exact (htexts s t ns' rfl rfl).elim
      | _ => rfl
    | _ => rfl

theorem areTidy_joinTexts {ns : List Node} (h : ∀ n ∈ ns, n.IsTidy) : AreTidy (joinTexts ns) := by
  induction ns with
  | nil => exact Node.areTidy_nil
  | cons n ns ih =>
    rw [joinTexts_cons]
    exact areTidy_joinCons (h n List.mem_cons_self) (ih fun m hm => h m (List.mem_cons_of_mem n hm))

theorem isTidy_listOf (first : Option Nat) {content : List Node} (h : AreTidy content) :
    (listOf first content).IsTidy := by
  unfold listOf
  split
  · exact Node.isTidy_tagged (by decide) h
  · exact Node.isTidy_tagged (by decide) h
  · exact Node.isTidy_element (Or.inl (by decide)) _ h

theorem isTidy_codeBlockOf (info : Option Text) {content : List Node} (h : AreTidy content) :
    (codeBlockOf info content).IsTidy := by
  apply Node.isTidy_tagged (by decide)
  apply Node.areTidy_singleton
  exact Node.isTidy_element (Or.inl (by decide)) _ h

/-- Of the containers only images are void elements, and their content goes into an attribute. -/
theorem isTidy_toNode (tag : Tag) {content : List Node} (h : AreTidy content) :
    (tag.toNode content).IsTidy := by
  cases tag with
  | paragraph => exact Node.isTidy_paragraph h
  | htmlBlock => exact Node.isTidy_html _
  | heading level => cases level <;> exact Node.isTidy_tagged (by decide) h
  | codeBlock info => exact isTidy_codeBlockOf info h
  | list first => exact isTidy_listOf first h
  | footnoteDefinition label => exact Node.isTidy_element (Or.inl (by decide)) _ h
  | link destination title => exact Node.isTidy_element (Or.inl (by decide)) _ h
  | image destination title => exact Node.isTidy_empty _ _
  | _ => exact Node.isTidy_tagged (by decide) h

theorem isTidy_leaf? {e : Event} {n : Node} (h : e.leaf? = some n) : n.IsTidy := by
  have htext : ∀ s, AreTidy [.text s] := fun s => Node.areTidy_singleton (Node.isTidy_text s)
  cases e with
  | text s => cases h; exact Node.isTidy_text s
  | code s => cases h; exact Node.isTidy_tagged (by decide) (htext s)
  | html raw => cases h; exact Node.isTidy_html raw
  | inlineHtml raw => cases h; exact Node.isTidy_html raw
  | softBreak => cases h; exact Node.isTidy_lineBreak
  | hardBreak => cases h; exact Node.isTidy_lineBreak
  | rule => cases h; exact Node.isTidy_empty _ []
  | taskMarker checked => cases h; exact Node.isTidy_empty _ _
  | footnoteReference label =>
    cases h
    apply Node.isTidy_tagged (by decide)
    apply Node.areTidy_singleton
    exact Node.isTidy_element (Or.inl (by decide)) _ (htext label)
  | _ => cases h

mutual

theorem isTidy_node? {i : Item} {n : Node} (h : i.node? = some n) : n.IsTidy := by
  cases i with
  | leaf e he =>
    rw [Item.node?] at h
    exact isTidy_leaf? h
  | container tag content =>
    rw [Item.node?] at h
    rw [← Option.some.inj h]
    exact isTidy_toNode tag (areTidy_joinTexts (isTidy_of_mem_nodes content))

theorem isTidy_of_mem_nodes (is : List Item) : ∀ n ∈ Item.nodes is, n.IsTidy := by
  cases is with
  | nil => simp [Item.nodes]
  | cons i is =>
    intro n hn
    rw [Item.nodes, List.mem_append, Option.mem_toList] at hn
    rcases hn with hn | hn
    · exact isTidy_node? hn
    · exact isTidy_of_mem_nodes is n hn

end

theorem exists_node_of_mem_fragmentsOf {es : List Event} {f : Fragment} (hf : f ∈ fragmentsOf es) :
    ∃ n : Node, f = .ofNodes [n] ∧ n.IsTidy := by
  obtain ⟨items, hitems⟩ := exists_items es
  rw [hitems] at hf
  obtain ⟨n, hn, rfl⟩ := List.mem_map.mp hf
  obtain ⟨i, _, hi⟩ := List.mem_filterMap.mp hn
  exact ⟨n, rfl, isTidy_node? hi⟩

/-- Whatever the events are, a fragment has no classes and one node, and at every depth of it there is
no column, no text beside a text and no void element with content.  So all of the fragments and of
their content is written. -/
theorem fragmentsOf_shape (es : List Event) :
    (∀ f ∈ fragmentsOf es, f.classes = [] ∧ (∃ n, f.children = [n]) ∧
        ∀ row ∈ Node.rows f.children, Node.TidyRow row) ∧
      Html.fragments (fragmentsOf es) = (fragmentsOf es).flatMap fun f =>
        Html.startTag Html.divName [] ++ Node.unabridgedAll f.children ++
          Html.endTag Html.divName ++ ['\n'] := by
  constructor
  · intro f hf
    obtain ⟨n, rfl, hn⟩ := exists_node_of_mem_fragmentsOf hf
    exact ⟨rfl, ⟨n, rfl⟩, Node.areTidy_singleton hn⟩
  · apply List.flatMap_congr
    intro f hf
    obtain ⟨n, rfl, hn⟩ := exists_node_of_mem_fragmentsOf hf
    have hwritten := Node.nodes_eq_unabridged (Node.areTidy_singleton hn)
    rw [Html.fragment, Fragment.ofNodes, hwritten]
    rfl

end Markdown
end ColumnBlocks
