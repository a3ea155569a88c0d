import ColumnBlocks.Markdown.Fragments

/-!
# Nesting

Events that start and stop containers in pairs describe a forest.  The stack that assembles fragments
from events builds nothing but the nodes of that forest, which are said here by recursion on it; and
where the events do not pair up, it works as if stops that stop nothing were left out and containers
that never stop did so at the end.
-/

namespace ColumnBlocks

namespace Markdown

/-! ## Forests -/

def Event.isBracket : Event → Bool
  | start _ | stop => true
  | _ => false

/-- A container with the items in it, or an event without content of its own. -/
inductive Item where
  | leaf (e : Event) (he : e.isBracket = false)
  | container (tag : Tag) (content : List Item)

/-- Puts a node in front of others.  A text in front of a text becomes one with it. -/
def joinCons : Node → List Node → List Node
  | .text s, .text t :: ns => .text (s ++ t) :: ns
  | n, ns => n :: ns

def joinTexts (ns : List Node) : List Node := ns.foldr joinCons []

namespace Item

mutual

def events : Item → List Event
  | leaf e _ => [e]
  | container tag content => .start tag :: eventsAll content ++ [.stop]

def eventsAll : List Item → List Event
  | [] => []
  | i :: is => events i ++ eventsAll is

end

mutual

/-- The node that an item stands for.  Some events stand for none. -/
def node? : Item → Option Node
  | leaf e _ => e.leaf?
  | container tag content => some (tag.toNode (joinTexts (nodes content)))

def nodes : List Item → List Node
  | [] => []
  | i :: is => (node? i).toList ++ nodes is

end

theorem nodes_eq_filterMap (is : List Item) : nodes is = is.filterMap node? := by
  induction is with
  | nil => rw [nodes, List.filterMap_nil]
  | cons i is ih =>
    rw [nodes, ih]
    cases h : i.node? with
    | none => rw [List.filterMap_cons_none h]; rfl
    | some n => rw [List.filterMap_cons_some h]; rfl

end Item

/-! ## Assembling a forest -/

theorem joinTexts_cons (n : Node) (ns : List Node) : joinTexts (n :: ns) = joinCons n (joinTexts ns) :=
  rfl

theorem joinCons_append (s t : Text) (ns : List Node) :
    joinCons (.text s) (joinCons (.text t) ns) = joinCons (.text (s ++ t)) ns := by
  cases ns with
  | nil => rfl
  | cons n ns => cases n <;> simp [joinCons]

/-- Two neighbours are texts, or they stay apart. -/
theorem texts_or_apart (n m : Node) :
    (∃ s t, n = .text s ∧ m = .text t) ∨
      (∀ content, Open.addTo (n :: content) m = m :: n :: content) ∧
        ∀ ns, joinTexts (n :: m :: ns) = n :: joinTexts (m :: ns) := by
  cases n with
  | text s =>
    cases m with
    | text t => exact Or.inl ⟨s, t, rfl, rfl⟩
    | _ => exact Or.inr ⟨fun _ => rfl, fun _ => rfl⟩
  | _ =>
    refine Or.inr ⟨fun content => ?_, fun ns => rfl⟩
    cases m <;> rfl

/-- The content of a container is built back to front. -/
theorem foldl_addTo_cons (n : Node) (content ns : List Node) :
    (ns.foldl Open.addTo (n :: content)).reverse = content.reverse ++ joinTexts (n :: ns) := by
  induction ns generalizing n content with
  | nil => cases n <;> simp [joinTexts, joinCons]
  | cons m ns ih =>
    rw [List.foldl_cons]
    rcases texts_or_apart n m with ⟨s, t, rfl, rfl⟩ | ⟨hcontent, hjoin⟩
    · rw [joinTexts_cons, joinTexts_cons, joinCons_append]
      exact ih (.text (s ++ t)) content
    · rw [hcontent, ih, hjoin, List.reverse_cons, List.append_assoc, List.singleton_append]

theorem foldl_addTo (ns : List Node) : (ns.foldl Open.addTo []).reverse = joinTexts ns := by
  cases ns with
  | nil => rfl
  | cons n ns =>
    have hfirst : Open.addTo [] n = [n] := by cases n <;> rfl
    rw [List.foldl_cons, hfirst, foldl_addTo_cons]
    rfl

namespace Assembly

variable {a : Assembly}

theorem foldl_emit_open (o : Open) (outer : List Open) (fragments : List Fragment) (ns : List Node) :
    ns.foldl emit { stack := o :: outer, fragments } =
      { stack := { o with content := ns.foldl Open.addTo o.content } :: outer, fragments } := by
  induction ns generalizing o with
  | nil => rfl
  | cons n ns ih => exact ih (o.add n)

theorem foldl_emit_idle (fragments : List Fragment) (ns : List Node) :
    ns.foldl emit { fragments } = { fragments := fragments ++ ns.map fun n => .ofNodes [n] } := by
  induction ns generalizing fragments with
  | nil => simp
  | cons n ns ih =>
    rw [List.foldl_cons, List.map_cons]
    refine (ih (fragments ++ [.ofNodes [n]])).trans ?_
    rw [List.append_assoc, List.singleton_append]

theorem step_leaf {e : Event} (he : e.isBracket = false) (a : Assembly) :
    a.step e = e.leaf?.toList.foldl emit a := by
  cases e with
  | start tag => cases he
  | stop => cases he
  | _ => rfl

mutual

/-- An item that is read leaves nothing behind but its node. -/
theorem foldl_step_events (i : Item) (a : Assembly) :
    i.events.foldl step a = i.node?.toList.foldl emit a := by
  cases i with
  | leaf e he => rw [Item.events, Item.node?, ← step_leaf he]; rfl
  | container tag content =>
    have hcontent : (Item.eventsAll content).foldl step { a with stack := { tag } :: a.stack } =
        { a with stack := { tag, content := (Item.nodes content).foldl Open.addTo [] } :: a.stack } := by
      rw [foldl_step_eventsAll, foldl_emit_open]
    rw [Item.events, Item.node?, ← foldl_addTo, List.cons_append, List.foldl_cons,
      List.foldl_append]
    show step ((Item.eventsAll content).foldl step { a with stack := { tag } :: a.stack }) .stop = _
    rw [hcontent]
    rfl

theorem foldl_step_eventsAll (is : List Item) (a : Assembly) :
    (Item.eventsAll is).foldl step a = (Item.nodes is).foldl emit a := by
  cases is with
  | nil => rw [Item.eventsAll, Item.nodes]; rfl
  | cons i is =>
    rw [Item.eventsAll, Item.nodes, List.foldl_append, List.foldl_append, foldl_step_events,
      foldl_step_eventsAll]

end

/-! ## Stops at the end -/

theorem finish_emit (a : Assembly) (n : Node) : (a.emit n).finish = unwind a.fragments n a.stack := by
  unfold emit
  split
  · rename_i h
    simp [finish, unwind, h]
  · rename_i o outer h
    simp [finish, unwind, h]

/-- The end of the events stops the innermost container, if there is one. -/
theorem finish_stop (a : Assembly) : (a.step .stop).finish = a.finish := by
  cases h : a.stack with
  | nil => simp only [step, h]
  | cons o outer =>
    simp only [step, h]
    rw [finish_emit, finish, h]

theorem finish_stops (d : Nat) (a : Assembly) :
    ((List.replicate d Event.stop).foldl step a).finish = a.finish := by
  induction d generalizing a with
  | zero => rfl
  | succ d ih => rw [List.replicate_succ, List.foldl_cons, ih, finish_stop]

theorem length_stack_emit (a : Assembly) (n : Node) : (a.emit n).stack.length = a.stack.length := by
  unfold emit
  split
  · rfl
  · rename_i o outer h
    rw [h]
    rfl

end Assembly

/-! ## Pairs -/

/-- How many containers are open after some events, `d` being open before them.  None if an event
stops a container where none is open. -/
def openAfter (d : Nat) : List Event → Option Nat
  | [] => some d
  | .start _ :: es => openAfter (d + 1) es
  | .stop :: es =>
    match d with
    | 0 => none
    | d + 1 => openAfter d es
  | _ :: es => openAfter d es

/-- Every start has its stop behind it, and every stop its start before it. -/
def Balanced (es : List Event) : Prop := openAfter 0 es = some 0

/-- The events without the stops that stop nothing, and with a stop at the end for each container that
is still open there, `d` being open before them. -/
def balance (d : Nat) : List Event → List Event
  | [] => List.replicate d .stop
  | .start tag :: es => .start tag :: balance (d + 1) es
  | .stop :: es =>
    match d with
    | 0 => balance 0 es
    | d + 1 => .stop :: balance d es
  | e :: es => e :: balance d es

theorem Event.start_or_stop_or_leaf (e : Event) :
    (∃ tag, e = .start tag) ∨ e = .stop ∨ e.isBracket = false := by
  cases e with
  | start tag => exact Or.inl ⟨tag, rfl⟩
  | stop => exact Or.inr (Or.inl rfl)
  | _ => exact Or.inr (Or.inr rfl)

theorem openAfter_leaf {e : Event} (he : e.isBracket = false) (d : Nat) (es : List Event) :
    openAfter d (e :: es) = openAfter d es := by
  cases e with
  | start tag => cases he
  | stop => cases he
  | _ => rfl

theorem balance_leaf {e : Event} (he : e.isBracket = false) (d : Nat) (es : List Event) :
    balance d (e :: es) = e :: balance d es := by
  cases e with
  | start tag => cases he
  | stop => cases he
  | _ => rfl

theorem openAfter_balance (d : Nat) (es : List Event) : openAfter d (balance d es) = some 0 := by
  induction es generalizing d with
  | nil =>
    induction d with
    | zero => rfl
    | succ d ih => exact ih
  | cons e es ih =>
    rcases e.start_or_stop_or_leaf with ⟨tag, rfl⟩ | rfl | he
    · exact ih (d + 1)
    · cases d with
      | zero => exact ih 0
      | succ d => exact ih d
    · rw [balance_leaf he, openAfter_leaf he, ih]

theorem balance_eq_self {d : Nat} {es : List Event} (h : openAfter d es = some 0) :
    balance d es = es := by
  induction es generalizing d with
  | nil =>
    have hd : d = 0 := Option.some.inj h
    rw [hd]
    rfl
  | cons e es ih =>
    rcases e.start_or_stop_or_leaf with ⟨tag, rfl⟩ | rfl | he
    · exact congrArg (Event.start tag :: ·) (ih h)
    · cases d with
      | zero => cases h
      | succ d => exact congrArg (Event.stop :: ·) (ih h)
    · rw [openAfter_leaf he] at h
      rw [balance_leaf he, ih h]

mutual

theorem openAfter_events (d : Nat) (i : Item) (es : List Event) :
    openAfter d (i.events ++ es) = openAfter d es := by
  cases i with
  | leaf e he => exact openAfter_leaf he d es
  | container tag content =>
    rw [Item.events, List.cons_append, List.cons_append, List.append_assoc]
    exact openAfter_eventsAll (d + 1) content (.stop :: es)

theorem openAfter_eventsAll (d : Nat) (is : List Item) (es : List Event) :
    openAfter d (Item.eventsAll is ++ es) = openAfter d es := by
  cases is with
  | nil => rw [Item.eventsAll, List.nil_append]
  | cons i is => rw [Item.eventsAll, List.append_assoc, openAfter_events, openAfter_eventsAll]

end

/-- Events that stop `d` containers in the end are `d + 1` forests with the stops between them. -/
theorem exists_forests {d : Nat} {es : List Event} (h : openAfter d es = some 0) :
    ∃ (first : List Item) (rest : List (List Item)), rest.length = d ∧
      es = Item.eventsAll first ++ rest.flatMap fun is => .stop :: Item.eventsAll is := by
  induction es generalizing d with
  | nil =>
    have hd : d = 0 := Option.some.inj h
    exact ⟨[], [], hd.symm, by rw [Item.eventsAll]; rfl⟩
  | cons e es ih =>
    rcases e.start_or_stop_or_leaf with ⟨tag, rfl⟩ | rfl | he
    -- The first of the forests behind a start is the content of its container, and the next one goes
    -- on behind it.
    · obtain ⟨content, rest, hlength, hes⟩ := ih h
      obtain ⟨is, rest', rfl⟩ := List.exists_cons_of_length_eq_add_one hlength
      refine ⟨.container tag content :: is, rest', Nat.succ.inj hlength, ?_⟩
      rw [hes, Item.eventsAll, Item.events]
      simp
    · cases d with
      | zero => cases h
      | succ d =>
        obtain ⟨first, rest, hlength, hes⟩ := ih h
        refine ⟨[], first :: rest, congrArg Nat.succ hlength, ?_⟩
        rw [hes, Item.eventsAll]
        simp
    · rw [openAfter_leaf he] at h
      obtain ⟨first, rest, hlength, hes⟩ := ih h
      refine ⟨.leaf e he :: first, rest, hlength, ?_⟩
      rw [hes, Item.eventsAll, Item.events]
      simp

theorem balanced_iff_exists_items {es : List Event} :
    Balanced es ↔ ∃ items, Item.eventsAll items = es := by
  constructor
  · intro h
    obtain ⟨items, rest, hlength, hes⟩ := exists_forests h
    refine ⟨items, ?_⟩
    rw [hes, List.eq_nil_of_length_eq_zero hlength, List.flatMap_nil, List.append_nil]
  · rintro ⟨items, rfl⟩
    have h := openAfter_eventsAll 0 items []
    rwa [List.append_nil] at h

/-! ## Fragments -/

theorem Assembly.length_stack_leaf {e : Event} (he : e.isBracket = false) (a : Assembly) :
    (a.step e).stack.length = a.stack.length := by
  rw [step_leaf he]
  cases e.leaf? with
  | none => rfl
  | some n => exact length_stack_emit a n

theorem Assembly.stack_stop (a : Assembly) :
    a.stack = [] ∧ a.step .stop = a ∨
      a.stack.length = (a.step .stop).stack.length + 1 := by
  cases h : a.stack with
  | nil => exact Or.inl ⟨rfl, by simp only [step, h]⟩
  | cons o outer =>
    refine Or.inr ?_
    simp only [step, h]
    rw [length_stack_emit]
    rfl

/-- Stops that stop nothing change nothing, and containers left open stop at the end. -/
theorem Assembly.finish_balance (es : List Event) (a : Assembly) :
    ((balance a.stack.length es).foldl step a).finish = (es.foldl step a).finish := by
  induction es generalizing a with
  | nil => exact finish_stops a.stack.length a
  | cons e es ih =>
    rcases e.start_or_stop_or_leaf with ⟨tag, rfl⟩ | rfl | he
    · exact ih (a.step (.start tag))
    · rcases a.stack_stop with ⟨hstack, hstop⟩ | hstack
      · rw [List.foldl_cons, hstop, ← ih, hstack]
        rfl
      · rw [hstack]
        exact ih (a.step .stop)
    · rw [balance_leaf he, List.foldl_cons, List.foldl_cons, ← ih, length_stack_leaf he]

theorem fragmentsOf_eventsAll (items : List Item) :
    fragmentsOf (Item.eventsAll items) = (items.filterMap Item.node?).map fun n => .ofNodes [n] := by
  rw [fragmentsOf, Assembly.foldl_step_eventsAll, Assembly.foldl_emit_idle, Item.nodes_eq_filterMap]
  exact List.nil_append _

theorem fragmentsOf_eq_balance (es : List Event) : fragmentsOf es = fragmentsOf (balance 0 es) :=
  (Assembly.finish_balance es {}).symm

/-- Whatever the events are, the fragments are those of a forest. -/
theorem exists_items (es : List Event) :
    ∃ items : List Item, fragmentsOf es = (items.filterMap Item.node?).map fun n => .ofNodes [n] := by
  obtain ⟨items, hitems⟩ := balanced_iff_exists_items.mp (openAfter_balance 0 es)
  exact ⟨items, by rw [fragmentsOf_eq_balance, ← hitems, fragmentsOf_eventsAll]⟩

/-- The fragments of any events are those of balanced events: what stops nothing is left out, and what
never stops does so at the end.  Balanced events are exactly the events of a forest, and the fragments
of a forest are said by recursion on it.  Every item at the top that stands for a node is a fragment of
its own with that node alone, and a container is made from the nodes in it, neighbouring texts being
one. -/
theorem fragmentsOf_balance (es : List Event) :
    fragmentsOf es = fragmentsOf (balance 0 es) ∧ Balanced (balance 0 es) ∧
      (Balanced es → balance 0 es = es) ∧ (Balanced es ↔ ∃ items, Item.eventsAll items = es) ∧
      ∀ items, fragmentsOf (Item.eventsAll items) =
        (items.filterMap Item.node?).map fun n => .ofNodes [n] :=
  ⟨fragmentsOf_eq_balance es, openAfter_balance 0 es, balance_eq_self, balanced_iff_exists_items,
    fragmentsOf_eventsAll⟩

/-- A stop too many in front, and two containers that are left open. -/
example :
    fragmentsOf [.stop, .text ['a'], .start .paragraph, .text ['b'], .inlineMath ['x'], .text ['c'],
        .start .emphasis, .softBreak] =
      [.ofNodes [.text ['a']],
        .ofNodes [.paragraph [.text ['b', 'c'], .tagged "em" [.lineBreak]]]] := rfl

end Markdown
end ColumnBlocks
