import ColumnBlocks.Proofs.Calls
import ColumnBlocks.Proofs.PlainText

/-!
# The text of merged fragments

A reader may think of plain text as one buffer that every node in turn writes to, where a block that
finds the buffer in the middle of a line ends that line first.  So a node may write more or less after
different contents of the buffer.  A fragment whose text ends with a line leaves no trace of this kind,
and the text of merged fragments is made up of theirs.
-/

namespace ColumnBlocks

namespace Node

/-! ## One buffer -/

/-- A buffer with its last line ended. -/
def startLine (out : Text) : Text := out ++ newLine (lineStartAfter true out)

mutual

/-- What a buffer holds when a node has been written to it, `out` being what it held before. -/
def appendTo (out : Text) : Node → Text
  | text s => out ++ s
  | lineBreak => out ++ ['\n']
  | html _ => out
  | paragraph children | column _ _ children => appendBlockTo out children
  | element name _ children =>
    if isBlockElement name then appendBlockTo out children else appendAllTo out children

def appendBlockTo (out : Text) (children : List Node) : Text :=
  startLine (appendAllTo (startLine out) children)

def appendAllTo (out : Text) : List Node → Text
  | [] => out
  | n :: ns => appendAllTo (appendTo out n) ns

end

theorem lineStartAfter_startLine (out : Text) : lineStartAfter true (startLine out) = true := by
  rw [startLine, lineStartAfter_append]
  cases h : lineStartAfter true out with
  | true => rfl
  | false => rfl

mutual

/-- All that a node wants to know about the buffer is whether it is at the start of a line. -/
theorem appendTo_eq (out : Text) (n : Node) :
    appendTo out n = out ++ write (lineStartAfter true out) n := by
  cases n with
  | text s => rw [appendTo, write]
  | lineBreak => rw [appendTo, write]
  | html raw => rw [appendTo, write, List.append_nil]
  | paragraph children => rw [appendTo, write, appendBlockTo_eq]
  | column width wrap children => rw [appendTo, write, appendBlockTo_eq]
  | element name attributes children =>
    rw [appendTo, write]
    split
    · exact appendBlockTo_eq out children
    · exact appendAllTo_eq out children

theorem appendBlockTo_eq (out : Text) (children : List Node) :
    appendBlockTo out children = out ++ writeBlock (lineStartAfter true out) children := by
  have hstart := lineStartAfter_startLine out
  have hchildren := appendAllTo_eq (startLine out) children
  rw [hstart] at hchildren
  rw [appendBlockTo, hchildren, startLine, lineStartAfter_append, hstart, startLine, writeBlock]
  simp only [List.append_assoc]

theorem appendAllTo_eq (out : Text) (ns : List Node) :
    appendAllTo out ns = out ++ writeAll (lineStartAfter true out) ns := by
  cases ns with
  | nil => rw [appendAllTo, writeAll, List.append_nil]
  | cons n ns =>
    rw [appendAllTo, writeAll, appendAllTo_eq, appendTo_eq, lineStartAfter_append,
      List.append_assoc]

end

end Node

/-! ## Fragments -/

/-- Nothing is left over behind the last line feed of a text. -/
def Text.EndsLine (t : Text) : Prop := t = [] ∨ t.getLast? = some '\n'

theorem endsLine_iff {t : Text} : t.EndsLine ↔ Node.lineStartAfter true t = true := by
  unfold Text.EndsLine Node.lineStartAfter
  cases h : t.getLast? with
  | none => simp [List.getLast?_eq_none_iff.mp h]
  | some c =>
    have hne : t ≠ [] := by
      rintro rfl
      cases h
    simp [hne]

theorem standsAlone_iff {n : Node} :
    n.standsAlone = true ↔ n.isBlock = true ∨ ∃ raw, n = .html raw := by
  cases n <;> simp [Node.standsAlone, Node.isBlock]

theorem plainText_flatMap_append {fs : List Fragment} (h : ∀ f ∈ fs, f.plainText.EndsLine)
    (ns : List Node) :
    Node.plainTextAll (fs.flatMap (·.children) ++ ns) =
        fs.flatMap Fragment.plainText ++ Node.plainTextAll ns ∧
      Text.lines (Node.plainTextAll (fs.flatMap (·.children) ++ ns)) =
        (fs.flatMap fun f => Text.lines f.plainText) ++ Text.lines (Node.plainTextAll ns) := by
  induction fs with
  | nil => exact ⟨rfl, rfl⟩
  | cons f fs ih =>
    have hf := endsLine_iff.mp (h f List.mem_cons_self)
    obtain ⟨htext, hlines⟩ := ih fun g hg => h g (List.mem_cons_of_mem f hg)
    have hsplit : Node.plainTextAll ((f :: fs).flatMap (·.children) ++ ns) =
        f.plainText ++ Node.plainTextAll (fs.flatMap (·.children) ++ ns) := by
      rw [List.flatMap_cons, List.append_assoc]
      exact Node.plainTextAll_append hf _
    rw [hsplit]
    constructor
    · rw [htext, List.flatMap_cons, List.append_assoc]
    · rw [Text.lines_append hf, hlines, List.flatMap_cons, List.append_assoc]

/-- The plain text of a fragment is what its nodes write to one buffer.  It falls apart behind a front
part whose own text is empty or ends with a line feed, and such is the text of any row of blocks and
raw markup.  So when the fragments that a session holds are merged in front of another one, the lines
of the merged text are the lines of the parts in order. -/
theorem plainText_merge :
    (∀ f : Fragment, f.plainText = Node.appendAllTo [] f.children) ∧
      (∀ a b : List Node, (Fragment.ofNodes a).plainText.EndsLine →
        (Fragment.ofNodes (a ++ b)).plainText =
          (Fragment.ofNodes a).plainText ++ (Fragment.ofNodes b).plainText) ∧
      (∀ a : List Node, (∀ n ∈ a, n.isBlock = true ∨ ∃ raw, n = .html raw) →
        (Fragment.ofNodes a).plainText.EndsLine) ∧
      ∀ (s : Session) (f : Fragment), (∀ g ∈ s.pending, g.plainText.EndsLine) →
        (s.merge f).plainText = s.pending.flatMap Fragment.plainText ++ f.plainText ∧
          Text.lines (s.merge f).plainText =
            (s.pending ++ [f]).flatMap fun g => Text.lines g.plainText := by
  refine ⟨?_, ?_, ?_, ?_⟩
  · intro f
    rw [Node.appendAllTo_eq]
    rfl
  · intro a b h
    exact Node.plainTextAll_append (endsLine_iff.mp h) b
  · intro a ha
    rw [endsLine_iff]
    exact Node.plainTextAll_lineStart fun n hn => standsAlone_iff.mpr (ha n hn)
  · intro s f h
    obtain ⟨htext, hlines⟩ := plainText_flatMap_append h f.children
    refine ⟨htext, ?_⟩
    rw [List.flatMap_append, List.flatMap_singleton]
    exact hlines

/-- The start of a block, with raw markup behind it. -/
def blockStart : List Node := [.paragraph [.text "[begin]".toList], .html "<hr>".toList]

/-- A session holds the start of a block, and a text that is no block comes behind it. -/
theorem plainText_merge_held :
    (Fragment.ofNodes blockStart).plainText.EndsLine ∧
      (Fragment.ofNodes (blockStart ++ [.text ['a']])).plainText = "[begin]\n".toList ++ ['a'] ∧
      Text.lines
          (Session.merge { pending := [.ofNodes blockStart] } (.ofNodes [.text ['a']])).plainText =
        ["[begin]".toList, ['a']] := by
  have hstand : ∀ n ∈ blockStart, n.isBlock = true ∨ ∃ raw, n = .html raw := by
    simp [blockStart, Node.isBlock]
  obtain ⟨_, happend, hends, hmerge⟩ := plainText_merge
  have hstart := hends blockStart hstand
  have hpending : ∀ g ∈ [Fragment.ofNodes blockStart], g.plainText.EndsLine :=
    List.forall_mem_singleton.mpr hstart
  refine ⟨hstart, ?_, ?_⟩
  · rw [happend blockStart _ hstart]
    cbv
  · rw [(hmerge { pending := [.ofNodes blockStart] } _ hpending).2]
    cbv

/-- Two texts that make a marker only together. -/
example :
    Text.lines (Fragment.ofNodes ([.text "[be".toList] ++ [.text "gin]".toList])).plainText =
      ["[begin]".toList] := by cbv

end ColumnBlocks
