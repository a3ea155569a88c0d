import ColumnBlocks.Proofs.Calls
import ColumnBlocks.Proofs.Partition
import ColumnBlocks.Proofs.Script

/-!
# Writing a block and laying it out

The lines of a script are put into paragraphs and the paragraphs into fragments, in any way.  A
session that takes these fragments one after another waits until the last of them and lays out the
columns of the script.
-/

namespace ColumnBlocks

/-! ## Paragraphs in columns -/

theorem Node.unfolded_ofLines {ls : List Text} (hne : ls ≠ []) :
    (ofLines ls).unfolded = ls.map fun l => .paragraph [.text l] := by
  have hsplit : ([.lineBreak].intercalate (ls.map fun l => [.text l])).splitOnP isLineBreak =
      ls.map fun l => [.text l] := by
    refine splitOnP_intercalate rfl (by simpa using hne) ?_
    intro piece hpiece n hn
    obtain ⟨l, _, rfl⟩ := List.mem_map.mp hpiece
    rw [List.mem_singleton.mp hn]
    rfl
  rw [ofLines, unfolded, hsplit, List.map_map]
  rfl

theorem unfolded_runs (as : List (Nat × Text)) :
    ((runs as).map Node.ofLines).flatMap Node.unfolded =
      as.map fun a => .paragraph [.text a.2] := by
  have hrun : ∀ ls ∈ runs as, (Node.ofLines ls).unfolded = ls.map fun l => .paragraph [.text l] := by
    intro ls hls
    obtain ⟨run, hmem, rfl⟩ := List.mem_map.mp hls
    have hne : run ≠ [] := List.ne_nil_of_mem_splitBy hmem
    exact Node.unfolded_ofLines (by simpa using hne)
  rw [List.flatMap_map, List.flatMap_congr hrun, ← List.map_flatMap, List.flatMap_id', flatten_runs,
    List.map_map]
  rfl

/-- The columns of a script hold its lines, column by column and in order. -/
theorem Script.columns_unfolded {s : Script} {ps : List (List Text)} (h : ps.flatten = s.lines)
    (wrap : Bool) :
    (s.columns ps wrap).map (fun c => c.columnChildren.flatMap Node.unfolded) =
      s.parts.map fun p => p.lines.map fun l => .paragraph [.text l] := by
  have hdeal := map_deal (by rw [map_numbered, h] : (numbered 0 ps).map Prod.snd = s.lines)
  have hlength := length_deal s.parts (numbered 0 ps)
  calc (s.columns ps wrap).map (fun c => c.columnChildren.flatMap Node.unfolded)
      = List.zipWith (fun _ c => ((runs c).map Node.ofLines).flatMap Node.unfolded) s.parts
          (deal s.parts (numbered 0 ps)) := List.map_zipWith
    _ = ((s.parts.zip (deal s.parts (numbered 0 ps))).map Prod.snd).map
          fun c => ((runs c).map Node.ofLines).flatMap Node.unfolded := by
        rw [List.map_map, ← List.map_uncurry_zip_eq_zipWith]
        rfl
    _ = (deal s.parts (numbered 0 ps)).map
          fun c => (c.map Prod.snd).map fun l => .paragraph [.text l] := by
        rw [List.map_snd_zip (by omega)]
        refine List.map_congr_left ?_
        intro c _
        rw [unfolded_runs, List.map_map]
        rfl
    _ = s.parts.map fun p => p.lines.map fun l => .paragraph [.text l] := by
        have hlines := congrArg (List.map (List.map fun l => Node.paragraph [.text l])) hdeal
        rw [List.map_map, List.map_map] at hlines
        exact hlines

namespace Session

/-! ## Fragments of a script -/

/-- Content that consists of the first paragraphs of a script is kept, and with the last of them it is
laid out. -/
theorem process_paragraphs {script : Script} {s : Session} {f : Fragment} {ps : List (List Text)}
    {rest : List Text} (hmerge : (s.merge f).children = ps.map Node.ofLines)
    (h : script.lines = ps.flatten ++ rest) (hne : ps ≠ []) (hps : ∀ ls ∈ ps, ls ≠ [])
    (env : Environment) :
    (s.process env f).action = (if rest.isEmpty then .render else .accumulate) ∧
      Text.lines (s.merge f).plainText = ps.flatten := by
  have hlines := Script.isLine_of_paragraphs h hps
  have htext : Text.lines (s.merge f).plainText = ps.flatten := by
    rw [Fragment.plainText, hmerge, Node.lines_ofLines hlines]
  have hflat : Text.lines (s.merge f).plainText ≠ [] := by
    obtain ⟨ls, hls⟩ := List.exists_mem_of_ne_nil ps hne
    rw [htext]
    exact List.flatten_ne_nil_iff.mpr ⟨ls, hls, hps ls hls⟩
  have hshown : script.lines = Text.lines (s.merge f).plainText ++ rest := by rw [htext, h]
  refine ⟨?_, htext⟩
  rw [process_action]
  exact Script.classify_of_lines hshown hflat

theorem run_paragraphs {script : Script} {pages : List (List (List Text))}
    {calls : List (Environment × Fragment)} {s : Session} {held : List (List Text)}
    (hcalls : calls.map (·.2.children) = pages.map (List.map Node.ofLines))
    (hpages : ∀ page ∈ pages, page ≠ [] ∧ ∀ ls ∈ page, ls ≠ []) (hne : pages ≠ [])
    (hs : s.held = held.map Node.ofLines) (hheld : ∀ ls ∈ held, ls ≠ [])
    (h : script.lines = (held ++ pages.flatten).flatten) :
    (s.run (calls.map fun c => .process c.1 c.2)).1 = fresh ∧
      LaidOut (s.run (calls.map fun c => .process c.1 c.2)).2 calls fun env =>
        renderBlock ((held ++ pages.flatten).map Node.ofLines)
          (layoutWraps (BlockConfig.ofConfigText script.config) env) := by
  -- On the fragments that are left: each one adds its paragraphs to the held ones, and the session
  -- can tell the last of them because no other prefix of the script has the closing line.
  induction pages generalizing calls s held with
  | nil => exact absurd rfl hne
  | cons page pages ih =>
    obtain ⟨⟨env, f⟩, cs, rfl, hf, hcs⟩ := List.map_eq_cons_iff.mp hcalls
    obtain ⟨hpage, hparagraphs⟩ := hpages page List.mem_cons_self
    have hmerge : (s.merge f).children = (held ++ page).map Node.ofLines := by
      have hf : f.children = page.map Node.ofLines := hf
      rw [merge_children, hs, hf, List.map_append]
    have hall : ∀ ls ∈ held ++ page, ls ≠ [] := by
      intro ls hls
      rcases List.mem_append.mp hls with hls | hls
      · exact hheld ls hls
      · exact hparagraphs ls hls
    have hsome : held ++ page ≠ [] := List.append_ne_nil_of_right_ne_nil held hpage
    have hrest : script.lines = (held ++ page).flatten ++ pages.flatten.flatten := by
      rw [h, List.flatten_cons, ← List.append_assoc, List.flatten_append]
    obtain ⟨haction, htext⟩ := process_paragraphs hmerge hrest hsome hall env
    by_cases hlast : pages = []
    · subst hlast
      obtain rfl : cs = [] := List.map_eq_nil_iff.mp hcs
      have hconfig : BlockConfig.ofText (s.merge f).plainText =
          BlockConfig.ofConfigText script.config := by
        refine Script.ofText_lines ?_
        rw [htext, hrest, List.flatten_nil, List.flatten_nil, List.append_nil]
      have hlaid := laidOut_render haction
      rw [hconfig, hmerge] at hlaid
      rw [List.flatten_cons, List.flatten_nil, List.append_nil]
      exact hlaid
    · have hmore : pages.flatten.flatten ≠ [] := by
        obtain ⟨next, hnext⟩ := List.exists_mem_of_ne_nil pages hlast
        obtain ⟨hnextne, hls⟩ := hpages next (List.mem_cons_of_mem page hnext)
        obtain ⟨ls, hmem⟩ := List.exists_mem_of_ne_nil next hnextne
        have hflat : ls ∈ pages.flatten := List.mem_flatten.mpr ⟨next, hnext, hmem⟩
        exact List.flatten_ne_nil_iff.mpr ⟨ls, hflat, hls ls hmem⟩
      have hkeep : (s.process env f).action = .accumulate := by
        rw [haction, if_neg (by simpa using hmore)]
      have hnext : (s.process env f).session.held = (held ++ page).map Node.ofLines := by
        rw [(process_accumulate hkeep).1, held_ofNodes, hmerge]
      have hlines : script.lines = ((held ++ page) ++ pages.flatten).flatten := by
        rw [hrest, ← List.flatten_append]
      obtain ⟨hfresh, hlaid⟩ :=
        ih hcs (fun q hq => hpages q (List.mem_cons_of_mem page hq)) hlast hnext hall hlines
      rw [List.append_assoc, ← List.flatten_cons] at hlaid
      exact ⟨hfresh, laidOut_accumulate hkeep hlaid⟩

/-- Writing a block down and processing it gives the block back.  The lines of a script are put into
paragraphs and the paragraphs into fragments, and a fresh session takes the fragments under any
environments.  It keeps all of them but the last, which receives the columns of the script: with their
widths, with exactly their lines, in the paragraphs that the lines were in, and with the wrap flag that
the configuration and the last environment decide on. -/
theorem run_script (script : Script) {pages : List (List (List Text))}
    {calls : List (Environment × Fragment)} (hlines : pages.flatten.flatten = script.lines)
    (hpages : ∀ page ∈ pages, page ≠ [] ∧ ∀ ls ∈ page, ls ≠ [])
    (hcalls : calls.map (·.2.children) = pages.map (List.map Node.ofLines)) :
    let columns := fun env => script.columns pages.flatten (script.wraps env)
    (fresh.run (calls.map fun c => .process c.1 c.2)).1 = fresh ∧
      LaidOut (fresh.run (calls.map fun c => .process c.1 c.2)).2 calls columns ∧
      ∀ env, (columns env).map Node.columnWidth? = script.parts.map (fun p => some p.width) ∧
        (columns env).map (fun c => c.columnChildren.flatMap Node.unfolded) =
          script.parts.map fun p => p.lines.map fun l => .paragraph [.text l] := by
  intro columns
  have hne : pages ≠ [] := by
    rintro rfl
    exact absurd hlines.symm (List.cons_ne_nil _ _)
  have hparagraphs : ∀ ls ∈ pages.flatten, ls ≠ [] := by
    intro ls hls
    obtain ⟨page, hpage, hmem⟩ := List.mem_flatten.mp hls
    exact (hpages page hpage).2 ls hmem
  have hheld : fresh.held = ([] : List (List Text)).map Node.ofLines := rfl
  obtain ⟨hfresh, hlaid⟩ := run_paragraphs hcalls hpages hne hheld (by simp) hlines.symm
  have hcolumns : (fun env => renderBlock (([] ++ pages.flatten).map Node.ofLines)
      (layoutWraps (BlockConfig.ofConfigText script.config) env)) = columns := by
    funext env
    have hwraps : layoutWraps (BlockConfig.ofConfigText script.config) env = script.wraps env := by
      rw [layoutWraps, BlockConfig.wraps, BlockConfig.wrap_ofConfigText]
      rfl
    rw [hwraps, List.nil_append, Script.renderBlock_ofLines hlines hparagraphs]
  rw [hcolumns] at hlaid
  refine ⟨hfresh, hlaid, ?_⟩
  intro env
  exact ⟨Script.columns_widths script pages.flatten (script.wraps env),
    Script.columns_unfolded hlines (script.wraps env)⟩

def pair : Script where
  first :=
    { width := 2
      lines := ["a".toList, "b".toList]
      width_range := by decide
      isLine := by decide
      plain := by decide }
  others :=
    [{ width := 3
       lines := ["c".toList]
       width_range := by decide
       isLine := by decide
       plain := by decide }]
  config := " wrap".toList
  config_lf := by decide
  config_cr := by decide

/-- The lines of the block in two fragments, the second of which has two paragraphs. -/
def pairPages : List (List (List Text)) :=
  [[["[begin]2".toList, "a".toList]],
    [["b".toList, "[col]3".toList], ["c".toList, "[end] wrap".toList]]]

def pairCalls : List (Environment × Fragment) :=
  pairPages.map fun page => ({}, .ofNodes (page.map Node.ofLines))

theorem run_pair :
    LaidOut (fresh.run (pairCalls.map fun c => .process c.1 c.2)).2 pairCalls
        (fun env => pair.columns pairPages.flatten (pair.wraps env)) ∧
      pair.columns pairPages.flatten true =
        [.column 2 true [.paragraph [.text "a".toList], .paragraph [.text "b".toList]],
          .column 3 true [.paragraph [.text "c".toList]]] := by
  have hlines : pairPages.flatten.flatten = pair.lines := by decide
  have hpages : ∀ page ∈ pairPages, page ≠ [] ∧ ∀ ls ∈ page, ls ≠ [] := by decide
  have hcalls : pairCalls.map (·.2.children) = pairPages.map (List.map Node.ofLines) := rfl
  refine ⟨(run_script pair hlines hpages hcalls).2.1, ?_⟩
  rfl

end Session
end ColumnBlocks
