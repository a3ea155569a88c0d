import ColumnBlocks.Node.PlainText
import ColumnBlocks.Text.Lines

/-!
# Plain text, piece by piece

What a node writes depends on the text before it only through one bit: whether that text is at the
start of a line.  So the plain text of a row of nodes falls apart wherever a line ends, and with it
the lines that a reader finds in it.
-/

namespace ColumnBlocks

namespace Node

@[simp] theorem lineStartAfter_nil (s : Bool) : lineStartAfter s [] = s := rfl

@[simp] theorem newLine_true : newLine true = [] := rfl

@[simp] theorem newLine_false : newLine false = ['\n'] := rfl

theorem lineStartAfter_append (s : Bool) (a b : Text) :
    lineStartAfter s (a ++ b) = lineStartAfter (lineStartAfter s a) b := by
  rcases List.eq_nil_or_concat b with rfl | ⟨b, c, rfl⟩
  · rw [List.append_nil, lineStartAfter_nil]
  · simp [lineStartAfter, ← List.append_assoc]

@[simp] theorem lineStartAfter_lf (s : Bool) (a : Text) : lineStartAfter s (a ++ ['\n']) = true := by
  simp [lineStartAfter]

theorem eq_nil_or_lf_of_lineStart {a : Text} (h : lineStartAfter true a = true) :
    a = [] ∨ ∃ a', a = a' ++ ['\n'] := by
  rcases List.eq_nil_or_concat a with rfl | ⟨a, c, rfl⟩
  · exact Or.inl rfl
  · have hc : c = '\n' := by simpa [lineStartAfter] using h
    exact Or.inr ⟨a, by rw [hc, List.concat_eq_append]⟩

/-! ## Rows of nodes -/

theorem writeAll_append (s : Bool) (a b : List Node) :
    writeAll s (a ++ b) = writeAll s a ++ writeAll (lineStartAfter s (writeAll s a)) b := by
  induction a generalizing s with
  | nil => simp [writeAll]
  | cons n ns ih =>
    rw [List.cons_append, writeAll, writeAll, ih, lineStartAfter_append, List.append_assoc]

/-- A row of nodes whose text ends at the start of a line does not influence what follows. -/
theorem plainTextAll_append {a : List Node} (h : lineStartAfter true (plainTextAll a) = true)
    (b : List Node) : plainTextAll (a ++ b) = plainTextAll a ++ plainTextAll b := by
  simp only [plainTextAll] at h ⊢
  rw [writeAll_append, h]

/-- The nodes that begin and end at the start of a line: blocks, and raw markup, which writes
nothing. -/
def standsAlone : Node → Bool
  | html _ => true
  | n => n.isBlock

theorem writeBlock_lineStart (s : Bool) (children : List Node) :
    lineStartAfter s (writeBlock s children) = true := by
  unfold writeBlock
  rw [lineStartAfter_append, lineStartAfter_append]
  have hs : lineStartAfter s (newLine s) = true := by cases s <;> rfl
  rw [hs]
  cases h : lineStartAfter true (writeAll true children) with
  | true => simp
  | false => rfl

theorem write_block {n : Node} (h : n.isBlock = true) :
    ∃ children, ∀ s, write s n = writeBlock s children := by
  cases n with
  | paragraph children => exact ⟨children, fun s => by rw [write]⟩
  | column width wrap children => exact ⟨children, fun s => by rw [write]⟩
  | element name attributes children =>
    have hb : isBlockElement name = true := h
    exact ⟨children, fun s => by rw [write, if_pos hb]⟩
  | text t => simp [isBlock] at h
  | lineBreak => simp [isBlock] at h
  | html raw => simp [isBlock] at h

theorem plainText_lineStart {n : Node} (h : n.standsAlone = true) :
    lineStartAfter true n.plainText = true := by
  unfold plainText
  by_cases hb : n.isBlock = true
  · obtain ⟨children, hw⟩ := write_block hb
    rw [hw, writeBlock_lineStart]
  · cases n with
    | html raw => simp [write]
    | _ => exact absurd h hb

@[simp] theorem plainTextAll_nil : plainTextAll [] = [] := by rw [plainTextAll, writeAll]

theorem plainTextAll_singleton (n : Node) : plainTextAll [n] = plainText n := by
  rw [plainTextAll, writeAll, writeAll, List.append_nil, plainText]

theorem plainTextAll_cons {n : Node} (h : n.standsAlone = true) (ns : List Node) :
    plainTextAll (n :: ns) = plainText n ++ plainTextAll ns := by
  have hn : lineStartAfter true (plainTextAll [n]) = true := by
    rw [plainTextAll_singleton]
    exact plainText_lineStart h
  rw [← List.singleton_append, plainTextAll_append hn, plainTextAll_singleton]

theorem plainTextAll_lineStart {ns : List Node} (h : ∀ n ∈ ns, n.standsAlone = true) :
    lineStartAfter true (plainTextAll ns) = true := by
  induction ns with
  | nil => simp
  | cons n ns ih =>
    have hn := h n List.mem_cons_self
    rw [plainTextAll_cons hn, lineStartAfter_append, plainText_lineStart hn]
    exact ih (fun m hm => h m (List.mem_cons_of_mem n hm))

end Node

/-! ## Lines -/

namespace Text

@[simp] theorem lines_nil : lines [] = [] := rfl

/-- The lines of a text and of what follows it from the start of a line on. -/
theorem lines_append {a : Text} (h : Node.lineStartAfter true a = true) (b : Text) :
    lines (a ++ b) = lines a ++ lines b := by
  rcases Node.eq_nil_or_lf_of_lineStart h with rfl | ⟨a', rfl⟩
  · simp
  · rw [List.append_assoc]
    exact lines_append_lf a' b

theorem linesFrom_line {l : Text} (h : '\n' ∉ l) (held : Text) :
    linesFrom held (l ++ ['\n']) = [closeLine (l.reverse ++ held)] := by
  induction l generalizing held with
  | nil => simp [linesFrom]
  | cons c l ih =>
    have hc : c ≠ '\n' := fun e => h (e ▸ List.mem_cons_self)
    rw [List.cons_append, linesFrom, if_neg hc,
      ih (fun hl => h (List.mem_cons_of_mem c hl)), List.reverse_cons, List.append_assoc,
      List.singleton_append]

/-- A line that is written out with a line feed is read back as it is, unless it ends with a carriage
return. -/
theorem lines_line {l : Text} (hlf : '\n' ∉ l) (hcr : '\r' ∉ l) : lines (l ++ ['\n']) = [l] := by
  rw [lines, linesFrom_line hlf, List.append_nil]
  have hr : '\r' ∉ l.reverse := by simpa using hcr
  cases h : l.reverse with
  | nil => simp [closeLine, List.reverse_eq_nil_iff.mp h]
  | cons c r =>
    have hc : c ≠ '\r' := fun e => hr (by rw [h, e]; exact List.mem_cons_self)
    have hl : l = (c :: r).reverse := by rw [← h, List.reverse_reverse]
    rw [hl]
    unfold closeLine
    split
    · rename_i e
      exact absurd (List.cons.inj e).1 hc
    · rfl

theorem lines_flatMap {ls : List Text} (h : ∀ l ∈ ls, '\n' ∉ l ∧ '\r' ∉ l) :
    lines (ls.flatMap (· ++ ['\n'])) = ls := by
  induction ls with
  | nil => rfl
  | cons l ls ih =>
    obtain ⟨hlf, hcr⟩ := h l List.mem_cons_self
    rw [List.flatMap_cons, lines_append (Node.lineStartAfter_lf true l), lines_line hlf hcr,
      ih (fun m hm => h m (List.mem_cons_of_mem l hm)), List.singleton_append]

end Text

namespace Node

/-- The lines of a row of nodes that stand alone are the lines of its nodes. -/
theorem lines_plainTextAll {ns : List Node} (h : ∀ n ∈ ns, n.standsAlone = true) :
    Text.lines (plainTextAll ns) = ns.flatMap fun n => Text.lines n.plainText := by
  induction ns with
  | nil => simp
  | cons n ns ih =>
    have hn := h n List.mem_cons_self
    rw [plainTextAll_cons hn, Text.lines_append (plainText_lineStart hn), List.flatMap_cons,
      ih (fun m hm => h m (List.mem_cons_of_mem n hm))]

end Node
end ColumnBlocks
