import ColumnBlocks.Markdown.Document
import ColumnBlocks.Proofs.CarriedText
import Mathlib

/-!
# The text of a document

The fragments of a document carry the text of its events, that of an image in the attribute that
stands in its place.  An image inside an image has no part in that attribute, and so its own text is
lost.  Line feeds do not count, because the content of an image is read as plain text.
-/

namespace ColumnBlocks
namespace Markdown

/-! ## Payloads -/

/-- The payloads of events in reading order, each with the number of images that it stands in, where
the containers `around` are open before the events. -/
def payloads (around : List Tag) : List Event → List (Nat × Text)
  | [] => []
  | .start tag :: es => payloads (tag :: around) es
  | .stop :: es => payloads around.tail es
  | e :: es => (around.countP Tag.isImage, e.payload) :: payloads around es

/-- The payloads that stand in one image at most. -/
def kept (ps : List (Nat × Text)) : Text := (ps.filter (·.1 ≤ 1)).flatMap (·.2)

theorem kept_append (a b : List (Nat × Text)) : kept (a ++ b) = kept a ++ kept b := by
  rw [kept, List.filter_append, List.flatMap_append]
  rfl

theorem payloads_leaf {e : Event} (he : e.isBracket = false) (around : List Tag) (es : List Event) :
    payloads around (e :: es) = (around.countP Tag.isImage, e.payload) :: payloads around es := by
  cases e with
  | start tag => cases he
  | stop => cases he
  | _ => rfl

theorem flatMap_payloads (around : List Tag) (es : List Event) :
    (payloads around es).flatMap (·.2) = es.flatMap Event.payload := by
  induction es generalizing around with
  | nil => rfl
  | cons e es ih =>
    rcases e.start_or_stop_or_leaf with ⟨tag, rfl⟩ | rfl | he
    · exact ih (tag :: around)
    · exact ih around.tail
    · rw [payloads_leaf he, List.flatMap_cons, List.flatMap_cons, ih]

mutual

theorem payloads_events (around : List Tag) (i : Item) (es : List Event) :
    payloads around (i.events ++ es) = payloads around i.events ++ payloads around es := by
  cases i with
  | leaf e he =>
    rw [Item.events, List.singleton_append, payloads_leaf he, payloads_leaf he]
    rfl
  | container tag content =>
    rw [Item.events, List.cons_append, List.cons_append, List.append_assoc]
    show payloads (tag :: around) (Item.eventsAll content ++ .stop :: es) =
      payloads (tag :: around) (Item.eventsAll content ++ [.stop]) ++ _
    rw [payloads_eventsAll, payloads_eventsAll, List.append_assoc]
    rfl

theorem payloads_eventsAll (around : List Tag) (is : List Item) (es : List Event) :
    payloads around (Item.eventsAll is ++ es) =
      payloads around (Item.eventsAll is) ++ payloads around es := by
  cases is with
  | nil => rw [Item.eventsAll]; rfl
  | cons i is =>
    rw [Item.eventsAll, List.append_assoc, payloads_events, payloads_eventsAll, payloads_events,
      List.append_assoc]

end

theorem payloads_container (around : List Tag) (tag : Tag) (content : List Item) :
    payloads around (Item.container tag content).events =
      payloads (tag :: around) (Item.eventsAll content) := by
  rw [Item.events]
  show payloads (tag :: around) (Item.eventsAll content ++ [.stop]) = _
  rw [payloads_eventsAll]
  exact List.append_nil _

mutual

theorem depth_le_events {around : List Tag} (i : Item) {p : Nat × Text}
    (hp : p ∈ payloads around i.events) : around.countP Tag.isImage ≤ p.1 := by
  cases i with
  | leaf e he =>
    rw [Item.events, payloads_leaf he] at hp
    exact Nat.le_of_eq (congrArg Prod.fst (List.mem_singleton.mp hp)).symm
  | container tag content =>
    rw [payloads_container] at hp
    have hle := depth_le_eventsAll content hp
    rw [List.countP_cons] at hle
    exact Nat.le_of_add_right_le hle

theorem depth_le_eventsAll {around : List Tag} (is : List Item) {p : Nat × Text}
    (hp : p ∈ payloads around (Item.eventsAll is)) : around.countP Tag.isImage ≤ p.1 := by
  cases is with
  | nil =>
    rw [Item.eventsAll] at hp
    cases hp
  | cons i is =>
    rw [Item.eventsAll, payloads_events] at hp
    rcases List.mem_append.mp hp with hp | hp
    · exact depth_le_events i hp
    · exact depth_le_eventsAll is hp

end

theorem kept_eventsAll_of_deep {around : List Tag} (is : List Item)
    (h : 2 ≤ around.countP Tag.isImage) : kept (payloads around (Item.eventsAll is)) = [] := by
  have hnone : (payloads around (Item.eventsAll is)).filter (·.1 ≤ 1) = [] := by
    rw [List.filter_eq_nil_iff]
    intro p hp
    have hle := depth_le_eventsAll is hp
    rw [decide_eq_true_eq]
    omega
  rw [kept, hnone]
  rfl

/-! ## Text of a forest -/

/-- Whether what stands in the place of images is seen, which it is outside of images only. -/
def seesImages (around : List Tag) : Bool := around.countP Tag.isImage == 0

theorem ne_htmlBlock_of_container {tag : Tag} {content : List Item}
    (h : Event.start .htmlBlock ∉ (Item.container tag content).events) :
    tag ≠ .htmlBlock ∧ Event.start .htmlBlock ∉ Item.eventsAll content := by
  rw [Item.events, List.cons_append, List.mem_cons, List.mem_append, not_or, not_or] at h
  exact ⟨fun e => h.1 (congrArg Event.start e.symm), h.2.1⟩

/-- An image outside of images hands on the plain text of its content, and one inside an image
nothing. -/
theorem carried_image {around : List Tag} (haround : around.countP Tag.isImage ≤ 1)
    (destination title : Text) {content : List Item}
    (hcontent : (Tag.image destination title :: around).countP Tag.isImage ≤ 1 →
      Text.withoutLf
          (Node.carriedAll (seesImages (.image destination title :: around)) (Item.nodes content)) =
        Text.withoutLf
          (kept (payloads (.image destination title :: around) (Item.eventsAll content)))) :
    Text.withoutLf (Node.carried (seesImages around)
        ((Tag.image destination title).toNode (joinTexts (Item.nodes content)))) =
      Text.withoutLf
        (kept (payloads (.image destination title :: around) (Item.eventsAll content))) := by
  have hcount : (Tag.image destination title :: around).countP Tag.isImage =
      around.countP Tag.isImage + 1 := List.countP_cons_of_pos rfl
  rw [Tag.toNode, carried_imageOf]
  -- The content of an outer image is read as plain text, where no image is seen; an inner image is
  -- read as plain text itself, and its content stands in two images.
  rcases Nat.le_one_iff_eq_zero_or_eq_one.mp haround with hzero | hone
  · have hsees : seesImages around = true := by rw [seesImages, hzero]; rfl
    have hhides : seesImages (.image destination title :: around) = false := by
      rw [seesImages, hcount, hzero]
      rfl
    rw [hsees, if_pos rfl, Node.withoutLf_flatMap_plainText, carriedAll_joinTexts, ← hhides]
    exact hcontent (by omega)
  · have hhides : seesImages around = false := by rw [seesImages, hone]; rfl
    rw [hhides, kept_eventsAll_of_deep content (by omega)]
    rfl

mutual

/-- An item that stands in one image at most hands on the payloads that do so too. -/
theorem carried_node? {around : List Tag} (haround : around.countP Tag.isImage ≤ 1) (i : Item)
    (hhtml : Event.start .htmlBlock ∉ i.events) :
    Text.withoutLf (Node.carriedAll (seesImages around) i.node?.toList) =
      Text.withoutLf (kept (payloads around i.events)) := by
  cases i with
  | leaf e he =>
    have hkept : kept [(around.countP Tag.isImage, e.payload)] = e.payload := by
      simp [kept, haround]
    rw [Item.events, Item.node?, payloads_leaf he, carried_leaf? he]
    exact congrArg Text.withoutLf hkept.symm
  | container tag content =>
    obtain ⟨htag, hcontent⟩ := ne_htmlBlock_of_container hhtml
    rw [payloads_container, Item.node?, Option.toList_some, Node.carriedAll_singleton]
    cases himage : tag.isImage with
    | true =>
      obtain ⟨destination, title, rfl⟩ := exists_image himage
      exact carried_image haround destination title fun hle => carried_nodes hle content hcontent
    | false =>
      have hcount : (tag :: around).countP Tag.isImage = around.countP Tag.isImage :=
        List.countP_cons_of_neg (by simp [himage])
      have hsame : seesImages (tag :: around) = seesImages around := by
        rw [seesImages, hcount]
        rfl
      rw [carried_toNode himage htag, carriedAll_joinTexts, ← hsame]
      exact carried_nodes (hcount ▸ haround) content hcontent

theorem carried_nodes {around : List Tag} (haround : around.countP Tag.isImage ≤ 1)
    (is : List Item) (hhtml : Event.start .htmlBlock ∉ Item.eventsAll is) :
    Text.withoutLf (Node.carriedAll (seesImages around) (Item.nodes is)) =
      Text.withoutLf (kept (payloads around (Item.eventsAll is))) := by
  cases is with
  | nil =>
    rw [Item.nodes, Item.eventsAll]
    rfl
  | cons i is =>
    rw [Item.eventsAll, List.mem_append, not_or] at hhtml
    rw [Item.nodes, Item.eventsAll, Node.carriedAll_append, payloads_events, kept_append,
      Text.withoutLf_append, Text.withoutLf_append, carried_node? haround i hhtml.1,
      carried_nodes haround is hhtml.2]

end

/-! ## Text of a document -/

/-- Stops that stop nothing, and stops at the end, stand for no text. -/
theorem payloads_balance (around : List Tag) (es : List Event) :
    payloads around (balance around.length es) = payloads around es := by
  induction es generalizing around with
  | nil =>
    induction around with
    | nil => rfl
    | cons tag around ih => exact ih
  | cons e es ih =>
    rcases e.start_or_stop_or_leaf with ⟨tag, rfl⟩ | rfl | he
    · exact ih (tag :: around)
    · cases around with
      | nil => exact ih []
      | cons tag around => exact ih around
    · rw [balance_leaf he, payloads_leaf he, payloads_leaf he, ih]

theorem mem_balance {e : Event} {d : Nat} {es : List Event} (h : e ∈ balance d es) :
    e = .stop ∨ e ∈ es := by
  induction es generalizing d with
  | nil => exact Or.inl (List.eq_of_mem_replicate h)
  | cons f es ih =>
    have hrest : ∀ {d}, e ∈ balance d es → e = .stop ∨ e ∈ f :: es :=
      fun h => (ih h).imp_right (List.mem_cons_of_mem f)
    have hcons : ∀ {d}, e ∈ f :: balance d es → e = .stop ∨ e ∈ f :: es := by
      intro d h
      rcases List.mem_cons.mp h with rfl | h
      · exact Or.inr List.mem_cons_self
      · exact hrest h
    rcases f.start_or_stop_or_leaf with ⟨tag, rfl⟩ | rfl | hf
    · exact hcons h
    · cases d with
      | zero => exact hrest h
      | succ d => exact hcons h
    · rw [balance_leaf hf] at h
      exact hcons h

theorem flatMap_carried_ofNodes (ns : List Node) :
    (ns.map fun n => Fragment.ofNodes [n]).flatMap Fragment.carried = Node.carriedAll true ns := by
  induction ns with
  | nil => rw [Node.carriedAll]; rfl
  | cons n ns ih =>
    rw [List.map_cons, List.flatMap_cons, ih, Node.carriedAll]
    exact congrArg (· ++ _) (Node.carriedAll_singleton true n)

/-- Leaving some members out changes nothing exactly if they contribute nothing. -/
theorem flatMap_filter_eq_iff {α β : Type} {p : α → Bool} {f : α → List β} {as : List α} :
    (as.filter p).flatMap f = as.flatMap f ↔ ∀ a ∈ as, p a = false → f a = [] := by
  induction as with
  | nil => simp
  | cons a as ih =>
    rw [List.forall_mem_cons, List.flatMap_cons, ← ih]
    cases hp : p a with
    | true =>
      rw [List.filter_cons_of_pos hp, List.flatMap_cons, List.append_cancel_left_eq]
      simp
    | false =>
      have hle : ((as.filter p).flatMap f).length ≤ (as.flatMap f).length :=
        (List.filter_sublist.flatMap f).length_le
      rw [List.filter_cons_of_neg (by simp [hp])]
      constructor
      -- What is kept of the others is no longer than they are, so there is no room for this one.
      · intro h
        have hlength := congrArg List.length h
        rw [List.length_append] at hlength
        have hnil : f a = [] := List.eq_nil_of_length_eq_zero (by omega)
        rw [hnil] at h
        exact ⟨fun _ => hnil, h⟩
      · rintro ⟨hnil, h⟩
        rw [hnil rfl, h]
        rfl

/-- Apart from line feeds, the fragments of events without raw markup carry, in order, the payloads
that stand in one image at most.  So they carry all payloads exactly if those that stand in an image
inside an image hold no text. -/
theorem fragmentsOf_carried {es : List Event} (h : Event.start .htmlBlock ∉ es) :
    let carried := Text.withoutLf ((fragmentsOf es).flatMap Fragment.carried)
    carried = Text.withoutLf (kept (payloads [] es)) ∧
      (carried = Text.withoutLf (es.flatMap Event.payload) ↔
        ∀ p ∈ payloads [] es, 2 ≤ p.1 → Text.withoutLf p.2 = []) := by
  intro carried
  have hcarried : carried = Text.withoutLf (kept (payloads [] es)) := by
    have hnone : ([] : List Tag).countP Tag.isImage ≤ 1 := Nat.zero_le 1
    obtain ⟨items, hitems⟩ := balanced_iff_exists_items.mp (openAfter_balance 0 es)
    have hhtml : Event.start .htmlBlock ∉ Item.eventsAll items := by
      rw [hitems]
      exact fun hmem => h ((mem_balance hmem).resolve_left Event.noConfusion)
    calc carried
        = Text.withoutLf ((fragmentsOf (Item.eventsAll items)).flatMap Fragment.carried) := by
          rw [hitems, ← fragmentsOf_eq_balance]
      _ = Text.withoutLf (Node.carriedAll true (Item.nodes items)) := by
          rw [fragmentsOf_eventsAll, flatMap_carried_ofNodes, Item.nodes_eq_filterMap]
      _ = Text.withoutLf (kept (payloads [] (Item.eventsAll items))) :=
          carried_nodes hnone items hhtml
      _ = Text.withoutLf (kept (payloads [] es)) := by
          rw [hitems]
          exact congrArg (Text.withoutLf ∘ kept) (payloads_balance [] es)
  refine ⟨hcarried, ?_⟩
  have hsplit : ∀ ps : List (Nat × Text), Text.withoutLf (ps.flatMap (·.2)) =
      ps.flatMap fun p => Text.withoutLf p.2 := fun ps => List.filter_flatMap
  rw [hcarried, ← flatMap_payloads [] es, kept, hsplit, hsplit, flatMap_filter_eq_iff]
  refine forall₂_congr fun p _ => ?_
  rw [decide_eq_false_iff_not, Nat.not_le]
  rfl

/-- Code and emphasis in an image, and an image without text in it. -/
def illustrated : List Event :=
  [.start .paragraph, .text "a ".toList, .start (.image "x".toList []), .start .emphasis,
    .text "b".toList, .stop, .softBreak, .code "c".toList, .start (.image "y".toList []), .softBreak,
    .stop, .stop, .footnoteReference "1".toList, .stop]

theorem fragmentsOf_carried_illustrated :
    Event.start .htmlBlock ∉ illustrated ∧
      Text.withoutLf ((fragmentsOf illustrated).flatMap Fragment.carried) = "a bc1".toList := by
  have hhtml : Event.start .htmlBlock ∉ illustrated := by decide
  have hdeep : ∀ p ∈ payloads [] illustrated, 2 ≤ p.1 → Text.withoutLf p.2 = [] := by decide
  exact ⟨hhtml, (fragmentsOf_carried hhtml).2.mpr hdeep⟩

/-- An image whose content is a text, an image with a text in it, and a text. -/
def nestedImages : List Event :=
  [.start .paragraph, .start (.image "x".toList []), .text "a".toList,
    .start (.image "y".toList []), .text "b".toList, .stop, .text "c".toList, .stop, .stop]

/-- The text of the image inside is lost, and the events are those of a document. -/
theorem nested_image_loses_text :
    read "![a![b](y)c](x)".toList = nestedImages ∧ Balanced nestedImages ∧
      Event.start .htmlBlock ∉ nestedImages ∧
      nestedImages.flatMap Event.payload = "abc".toList ∧
      (fragmentsOf nestedImages).flatMap Fragment.carried = "ac".toList := by
  have hfragments : fragmentsOf nestedImages =
      [.ofNodes [.paragraph [imageOf "x".toList []
        [.text ['a'], imageOf "y".toList [] [.text ['b']], .text ['c']]]]] := rfl
  have htext : ∀ s, (Node.text s).plainText = s := fun s => by rw [Node.plainText, Node.write]
  refine ⟨?_, rfl, by decide, rfl, ?_⟩
  · cbv
  · rw [hfragments]
    simp [Fragment.carried, Fragment.ofNodes, Node.carriedAll, Node.carried, carried_imageOf, htext,
      plainText_imageOf]

end Markdown
end ColumnBlocks
