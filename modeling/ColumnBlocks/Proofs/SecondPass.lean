import ColumnBlocks.Proofs.Calls
import ColumnBlocks.Proofs.MarkerLines
import ColumnBlocks.Proofs.Partition

/-!
# A second pass

What a second pass makes of the columns of a block depends on the markers that their text still shows.
Putting lines together to a paragraph does not add or take away any, so these are exactly the markers
in the text of the content lines.  A paragraph has lost its marker lines, but nothing else has.
-/

namespace ColumnBlocks

/-! ## Counting in a row of nodes -/

namespace Node

variable {lead : Text}

theorem countStarts_writeBlock (hlead : lead.IsLead) (ns : List Node) :
    Text.countStarts lead (writeBlock true ns) = Text.countStarts lead (plainTextAll ns) := by
  rw [writeBlock, newLine_true, List.nil_append, Text.countStarts_newLine hlead]
  rfl

theorem countStarts_paragraph (hlead : lead.IsLead) (ns : List Node) :
    Text.countStarts lead (paragraph ns).plainText = Text.countStarts lead (plainTextAll ns) := by
  rw [plainText, write, countStarts_writeBlock hlead]

theorem countStarts_column (hlead : lead.IsLead) (width : Nat) (wrap : Bool) (ns : List Node) :
    Text.countStarts lead (column width wrap ns).plainText =
      Text.countStarts lead (plainTextAll ns) := by
  rw [plainText, write, countStarts_writeBlock hlead]

/-- A break ends the line before it. -/
theorem countStarts_lineBreak (hlead : lead.IsLead) (a b : List Node) :
    Text.countStarts lead (plainTextAll (a ++ .lineBreak :: b)) =
      Text.countStarts lead (plainTextAll a) + Text.countStarts lead (plainTextAll b) := by
  have htext : plainTextAll (a ++ .lineBreak :: b) = (plainTextAll a ++ ['\n']) ++ plainTextAll b := by
    rw [plainTextAll, writeAll_append, writeAll, write, List.append_assoc]
    rfl
  rw [htext, Text.countStarts_append (lineStartAfter_lf true _), Text.countStarts_lf hlead]

/-- A block starts a line of its own, whatever stands before it. -/
theorem countStarts_block (hlead : lead.IsLead) {n : Node} (hn : n.isBlock = true)
    (a b : List Node) :
    Text.countStarts lead (plainTextAll (a ++ n :: b)) =
      Text.countStarts lead (plainTextAll a) + Text.countStarts lead (plainTextAll (n :: b)) := by
  obtain ⟨children, hwrite⟩ := write_block hn
  let before := lineStartAfter true (plainTextAll a)
  have hstart : lineStartAfter true (plainTextAll a ++ newLine before) = true := by
    rw [lineStartAfter_append]
    show lineStartAfter before (newLine before) = true
    cases before <;> rfl
  have hline : ∀ s, writeAll s (n :: b) = newLine s ++ plainTextAll (n :: b) := by
    intro s
    rw [plainTextAll, writeAll, writeAll, hwrite, hwrite, writeBlock_lineStart,
      writeBlock_lineStart]
    simp [writeBlock]
  have htext : plainTextAll (a ++ n :: b) =
      (plainTextAll a ++ newLine before) ++ plainTextAll (n :: b) := by
    rw [plainTextAll, writeAll_append, hline, List.append_assoc]
    rfl
  rw [htext, Text.countStarts_append hstart, Text.countStarts_newLine hlead]

/-! ## Splitting at breaks -/

theorem eq_lineBreak_of_isLineBreak {n : Node} (h : n.isLineBreak = true) : n = .lineBreak := by
  cases n with
  | lineBreak => rfl
  | _ => cases h

theorem countStarts_splitOnP (hlead : lead.IsLead) {ns t : List Node} {ts : List (List Node)}
    (h : ns.splitOnP isLineBreak = t :: ts) (a : List Node) :
    Text.countStarts lead (plainTextAll (a ++ ns)) =
      Text.countStarts lead (plainTextAll (a ++ t)) +
        (ts.map fun u => Text.countStarts lead (plainTextAll u)).sum := by
  -- The row `a` is what has been read of the first piece.
  induction ns generalizing a t ts with
  | nil =>
    obtain ⟨rfl, rfl⟩ : [] = t ∧ [] = ts := by simpa [List.splitOnP_nil] using h
    simp
  | cons n ns ih =>
    obtain ⟨u, us, hu⟩ := List.exists_cons_of_ne_nil (List.splitOnP_ne_nil isLineBreak ns)
    cases hn : n.isLineBreak with
    | true =>
      have hbreak := eq_lineBreak_of_isLineBreak hn
      rw [List.splitOnP_cons_eq_if_modifyHead, if_pos hn, hu] at h
      obtain ⟨rfl, rfl⟩ := List.cons.inj h
      have hrest := ih hu []
      rw [List.nil_append, List.nil_append] at hrest
      rw [hbreak, countStarts_lineBreak hlead, hrest, List.append_nil, List.map_cons, List.sum_cons]
    | false =>
      obtain ⟨rfl, rfl⟩ :=
        List.cons.inj ((ColumnBuilder.splitOnP_cons_of_not hn hu).symm.trans h)
      have hrest := ih hu (a ++ [n])
      rw [List.append_assoc, List.append_assoc] at hrest
      exact hrest

theorem standsAlone_of_mem_map_paragraph (ps : List (List Node)) :
    ∀ n ∈ ps.map paragraph, n.standsAlone = true := by
  intro n hn
  obtain ⟨p, _, rfl⟩ := List.mem_map.mp hn
  rfl

/-- A paragraph shows the markers of the lines that it is split into. -/
theorem countStarts_unfolded_paragraph (hlead : lead.IsLead) (children : List Node) :
    Text.countStarts lead (plainTextAll (unfolded (paragraph children))) =
      Text.countStarts lead (paragraph children).plainText := by
  obtain ⟨t, ts, ht⟩ := List.exists_cons_of_ne_nil (List.splitOnP_ne_nil isLineBreak children)
  have hpieces := countStarts_splitOnP hlead ht []
  rw [List.nil_append, List.nil_append] at hpieces
  have heach : ((t :: ts).map paragraph).map (fun n => Text.countStarts lead n.plainText) =
      (t :: ts).map fun u => Text.countStarts lead (plainTextAll u) := by
    rw [List.map_map]
    exact List.map_congr_left fun u _ => countStarts_paragraph hlead u
  rw [unfolded, ht, countStarts_plainTextAll (standsAlone_of_mem_map_paragraph _), heach,
    countStarts_paragraph hlead, hpieces, List.map_cons, List.sum_cons]

/-- The same holds for the paragraphs of a row, whatever stands before them. -/
theorem countStarts_unfolded (hlead : lead.IsLead) (a ns : List Node) :
    Text.countStarts lead (plainTextAll (a ++ ns.flatMap unfolded)) =
      Text.countStarts lead (plainTextAll (a ++ ns)) := by
  induction ns generalizing a with
  | nil => rfl
  | cons n ns ih =>
    cases n with
    | paragraph children =>
      obtain ⟨t, ts, ht⟩ := List.exists_cons_of_ne_nil (List.splitOnP_ne_nil isLineBreak children)
      have hlines : unfolded (paragraph children) = paragraph t :: ts.map paragraph := by
        rw [unfolded, ht, List.map_cons]
      have halone : ∀ n ∈ unfolded (paragraph children), n.standsAlone = true :=
        standsAlone_of_mem_map_paragraph _
      have hone : ∀ n ∈ [paragraph children], n.standsAlone = true :=
        standsAlone_of_mem_map_paragraph [children]
      have hrest : Text.countStarts lead (plainTextAll (ns.flatMap unfolded)) =
          Text.countStarts lead (plainTextAll ns) := ih []
      calc Text.countStarts lead (plainTextAll (a ++ (paragraph children :: ns).flatMap unfolded))
          = Text.countStarts lead (plainTextAll a) + Text.countStarts lead
              (plainTextAll (unfolded (paragraph children) ++ ns.flatMap unfolded)) := by
            rw [List.flatMap_cons, hlines, List.cons_append, countStarts_block hlead rfl]
        _ = Text.countStarts lead (plainTextAll a) +
              Text.countStarts lead (plainTextAll ([paragraph children] ++ ns)) := by
            rw [countStarts_plainTextAll_append halone, countStarts_unfolded_paragraph hlead, hrest,
              countStarts_plainTextAll_append hone, plainTextAll_singleton]
        _ = Text.countStarts lead (plainTextAll (a ++ paragraph children :: ns)) := by
            rw [List.singleton_append, countStarts_block hlead rfl]
    | _ =>
      -- Any other node is as it was, and becomes part of what stands before the rest.
      rw [List.append_cons a _ ns, ← ih, List.append_assoc]
      rfl

end Node

/-! ## What the columns say -/

namespace Line

/-- The plain text of the content lines among some lines. -/
def text (ls : List Line) : Text := Node.plainTextAll ((ls.filter isContent).map (·.node))

theorem countStarts_content {lead : Text} (hlead : lead.IsLead) {ls : List Line}
    (h : ∀ l ∈ ls, Unbroken l.inline) :
    Text.countStarts lead (Node.plainTextAll (content ls)) = Text.countStarts lead (text ls) := by
  have hsplit := Node.countStarts_unfolded hlead [] (content ls)
  rw [List.nil_append, List.nil_append, content_unfolded h] at hsplit
  exact hsplit.symm

theorem standsAlone_of_mem_ofNodesFrom {nodes : List Node}
    (h : ∀ n ∈ nodes, n.standsAlone = true) {source : Nat} {l : Line}
    (hl : l ∈ ofNodesFrom source nodes) : l.node.standsAlone = true := by
  induction nodes generalizing source with
  | nil => exact absurd hl List.not_mem_nil
  | cons n ns ih =>
    rw [ofNodesFrom, List.mem_append] at hl
    rcases hl with hl | hl
    · have hn := h n List.mem_cons_self
      cases n with
      | paragraph children =>
        rw [ofNode] at hl
        split at hl
        · obtain ⟨segment, _, rfl⟩ := List.mem_map.mp hl
          rfl
        · rw [List.mem_singleton.mp hl]
          rfl
      | _ =>
        rw [ofNode, List.mem_singleton] at hl
        · rw [hl]
          exact hn
        · simp
    · exact ih (fun m hm => h m (List.mem_cons_of_mem n hm)) hl

end Line

/-- The texts of the columns of a block, from the lines that are left to each of them. -/
def columnTexts (nodes : List Node) : List Text := (stretches (splitLines nodes)).map Line.text

theorem countStarts_renderBlock {lead : Text} (hlead : lead.IsLead) (nodes : List Node)
    (wrap : Bool) :
    Text.countStarts lead (Node.plainTextAll (renderBlock nodes wrap)) =
      ((columnTexts nodes).map (Text.countStarts lead)).sum := by
  let columns := ColumnBuilder.fill { width := 1 } (splitLines nodes)
  have hcontent := fill_stretches 1 (splitLines nodes)
  have halone : ∀ n ∈ renderBlock nodes wrap, n.standsAlone = true := by
    intro n hn
    obtain ⟨b, _, rfl⟩ := List.mem_map.mp hn
    rfl
  have hbuild : ∀ b : ColumnBuilder, Text.countStarts lead (b.build wrap).plainText =
      Text.countStarts lead (Node.plainTextAll b.content) :=
    fun b => Node.countStarts_column hlead b.width wrap b.content
  calc Text.countStarts lead (Node.plainTextAll (renderBlock nodes wrap))
      = (columns.map fun b => Text.countStarts lead (Node.plainTextAll b.content)).sum := by
        rw [Node.countStarts_plainTextAll halone, renderBlock, List.map_map]
        exact congrArg List.sum (List.map_congr_left fun b _ => hbuild b)
    _ = (((stretches (splitLines nodes)).map Line.content).map
          fun ns => Text.countStarts lead (Node.plainTextAll ns)).sum := by
        rw [← hcontent, List.map_map]
        rfl
    _ = ((columnTexts nodes).map (Text.countStarts lead)).sum := by
        rw [columnTexts, List.map_map, List.map_map]
        refine congrArg List.sum (List.map_congr_left ?_)
        intro s hs
        exact Line.countStarts_content hlead (unbroken_of_mem_stretches hs)

/-- Where nothing but blocks is laid out, the lines of a column are counted one by one. -/
theorem countStarts_columnTexts {nodes : List Node} (h : ∀ n ∈ nodes, n.standsAlone = true)
    (lead : Text) :
    ((columnTexts nodes).map (Text.countStarts lead)).sum =
      (((splitLines nodes).filter Line.isContent).map
        fun l => Text.countStarts lead l.node.plainText).sum := by
  let count := fun l : Line => Text.countStarts lead l.node.plainText
  have hstretch : ∀ s ∈ stretches (splitLines nodes),
      Text.countStarts lead (Line.text s) = ((s.filter Line.isContent).map count).sum := by
    intro s hs
    have halone : ∀ n ∈ (s.filter Line.isContent).map (·.node), n.standsAlone = true := by
      intro n hn
      obtain ⟨l, hl, rfl⟩ := List.mem_map.mp hn
      have hflat : l ∈ (stretches (splitLines nodes)).flatten.filter Line.isContent :=
        List.mem_filter.mpr ⟨List.mem_flatten.mpr ⟨s, hs, List.mem_of_mem_filter hl⟩,
          (List.mem_filter.mp hl).2⟩
      rw [flatten_stretches_filter] at hflat
      exact Line.standsAlone_of_mem_ofNodesFrom h (List.mem_of_mem_filter hflat)
    rw [Line.text, Node.countStarts_plainTextAll halone, List.map_map]
    rfl
  calc ((columnTexts nodes).map (Text.countStarts lead)).sum
      = ((stretches (splitLines nodes)).map fun s => ((s.filter Line.isContent).map count).sum).sum := by
        rw [columnTexts, List.map_map]
        exact congrArg List.sum (List.map_congr_left hstretch)
    _ = (((stretches (splitLines nodes)).flatten.filter Line.isContent).map count).sum := by
        rw [List.filter_flatten, List.map_flatten, List.sum_flatten, List.map_map, List.map_map]
        rfl
    _ = (((splitLines nodes).filter Line.isContent).map count).sum := by
        rw [flatten_stretches_filter]

namespace Session

/-! ## The second pass -/

/-- A second pass over a block that was laid out decides by the markers in the text of its content
lines, column by column.  It leaves the fragment and the session alone exactly if these are not the
markers of an open or a complete block.  If the block consisted of blocks and raw markup only, every
content line counts on its own. -/
theorem process_again {s : Session} (hidle : s.isPending = false) {env : Environment}
    {f : Fragment} (h : (s.process env f).action = .render) (env' : Environment) :
    let first := s.process env f
    let again := first.session.process env' first.fragment
    let openings := ((columnTexts f.children).map Marker.openings).sum
    let closings := ((columnTexts f.children).map Marker.closings).sum
    let kept := (splitLines f.children).filter Line.isContent
    again.action = Action.ofCounts openings closings ∧
      ((again.action = .passThrough ∧ again.fragment = first.fragment ∧
          again.session.isPending = false) ↔ ¬(openings = 1 ∧ closings ≤ 1)) ∧
      ((∀ n ∈ f.children, n.standsAlone = true) →
        openings = (kept.map fun l => Marker.openings l.node.plainText).sum ∧
          closings = (kept.map fun l => Marker.closings l.node.plainText).sum) := by
  intro first again openings closings kept
  have hs : s = fresh := eq_fresh hidle
  subst hs
  obtain ⟨hsession, hfragment⟩ := process_render h
  have hchildren : first.fragment.children =
      renderBlock f.children (layoutWraps (BlockConfig.ofText f.plainText) env) := by
    rw [show first.fragment = _ from hfragment, layOut_children]
    rfl
  have hmerge : first.session.merge first.fragment = first.fragment := by
    rw [show first.session = fresh from hsession, merge_fresh]
  have haction : again.action = Action.ofCounts openings closings := by
    rw [process_action, hmerge, classify_eq_ofCounts, Fragment.plainText, hchildren,
      Marker.openings, Marker.closings, countStarts_renderBlock Marker.isLead_beginText,
      countStarts_renderBlock Marker.isLead_endText]
    rfl
  refine ⟨haction, ?_, ?_⟩
  · rw [← Action.ofCounts_eq_passThrough, ← haction]
    constructor
    · exact fun hpass => hpass.1
    · intro hpass
      obtain ⟨hidle', hsame⟩ := process_passThrough hpass
      refine ⟨hpass, hsame.trans hmerge, ?_⟩
      rw [show again.session = fresh from hidle']
      rfl
  · intro halone
    exact ⟨countStarts_columnTexts halone Marker.beginText,
      countStarts_columnTexts halone Marker.endText⟩

/-- A block with a list in it, whose items are no paragraphs. -/
def listedBlock : Fragment := .ofNodes
  [.paragraph [.text "[begin]2".toList, .lineBreak, .text "a".toList],
    .element "ul".toList [] [.element "li".toList [] [.text "[col] b".toList]],
    .paragraph [.text "[end] wrap".toList]]

theorem process_again_listed :
    let first := fresh.process {} listedBlock
    let again := first.session.process { platform := .mobile } first.fragment
    first.action = .render ∧ again.action = .passThrough ∧ again.fragment = first.fragment ∧
      again.session.isPending = false := by
  intro first again
  have hrender : (fresh.process {} listedBlock).action = .render := by cbv
  have hopenings : ((columnTexts listedBlock.children).map Marker.openings).sum = 0 := by cbv
  have hunmarked : ¬(((columnTexts listedBlock.children).map Marker.openings).sum = 1 ∧
      ((columnTexts listedBlock.children).map Marker.closings).sum ≤ 1) := by
    rw [hopenings]
    omega
  exact ⟨hrender, (process_again rfl hrender { platform := .mobile }).2.1.mpr hunmarked⟩

/-- A quotation of a whole block. -/
def quotedBlock : Fragment := .ofNodes
  [.element "blockquote".toList []
    [.paragraph [.text "[begin]".toList, .lineBreak, .text "a".toList, .lineBreak,
      .text "[end]".toList]]]

/-- A block of which only the opening is quoted. -/
def halfQuotedBlock : Fragment := .ofNodes
  [.element "blockquote".toList [] [.paragraph [.text "[begin]".toList]],
    .paragraph [.text "[end]".toList]]

/-- Markers inside other nodes stay in the columns.  A second pass lays out a block again that is all
in a quotation, and it takes the columns away when only the opening is. -/
theorem second_pass_changes_columns :
    ((fresh.process {} quotedBlock).action = .render ∧
        (fresh.process {} (fresh.process {} quotedBlock).fragment).action = .render) ∧
      (fresh.process {} halfQuotedBlock).action = .render ∧
        (fresh.process {} (fresh.process {} halfQuotedBlock).fragment).action = .accumulate ∧
        (fresh.process {} halfQuotedBlock).fragment.isEmpty = false ∧
        (fresh.process {} (fresh.process {} halfQuotedBlock).fragment).fragment.isEmpty = true := by
  have hquoted : (fresh.process {} quotedBlock).fragment.children =
      [.column 1 false quotedBlock.children] := by cbv
  have hhalf : (fresh.process {} halfQuotedBlock).fragment.children =
      [.column 1 false (halfQuotedBlock.children.take 1)] := by cbv
  have hagain : (fresh.process {} (fresh.process {} quotedBlock).fragment).action = .render := by
    rw [process_action, merge_fresh, Fragment.plainText, hquoted]
    cbv
  have htaken : (fresh.process {} (fresh.process {} halfQuotedBlock).fragment).action =
      .accumulate := by
    rw [process_action, merge_fresh, Fragment.plainText, hhalf]
    cbv
  refine ⟨⟨?_, hagain⟩, ?_, htaken, ?_, ?_⟩
  · cbv
  · cbv
  · rw [Fragment.isEmpty, hhalf]
    rfl
  · rw [Fragment.isEmpty, (process_accumulate htaken).2]
    rfl

end Session
end ColumnBlocks
