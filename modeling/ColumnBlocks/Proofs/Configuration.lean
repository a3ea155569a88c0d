import ColumnBlocks.Proofs.Classification
import Mathlib.Data.List.Infix

/-!
# Configuration of a block

The configuration is the text behind the first closing marker, and the white space around it has no
influence on the keywords in it.
-/

namespace ColumnBlocks

namespace Text

theorem occurs_iff {w t : Text} : occurs w t = true ↔ w <:+: t := by
  induction t with
  | nil => simp [occurs]
  | cons c t ih =>
    rw [occurs, Bool.or_eq_true, ih, List.isPrefixOf_iff_prefix, List.infix_cons_iff]

/-- A word is not lost with characters that are not in it. -/
theorem infix_dropWhile {w t : Text} {p : Char → Bool} (hne : w ≠ []) (hw : ∀ c ∈ w, p c = false) :
    w <:+: t.dropWhile p ↔ w <:+: t := by
  induction t with
  | nil => rfl
  | cons c t ih =>
    by_cases hc : p c = true
    · have hstart : ¬w <+: c :: t := by
        intro h
        cases w with
        | nil => exact hne rfl
        | cons d w =>
          have hdc : d = c := (List.cons_prefix_cons.mp h).1
          have hd := hw d List.mem_cons_self
          rw [hdc, hc] at hd
          exact Bool.noConfusion hd
      rw [List.dropWhile_cons_of_pos hc, ih, List.infix_cons_iff]
      simp [hstart]
    · rw [List.dropWhile_cons_of_neg hc]

theorem occurs_trim {w : Text} (hne : w ≠ []) (hw : ∀ c ∈ w, isSpace c = false) (t : Text) :
    occurs w (trim t) = occurs w t := by
  have hne' : w.reverse ≠ [] := by simpa using hne
  have hw' : ∀ c ∈ w.reverse, isSpace c = false := fun c hc => hw c (List.mem_reverse.mp hc)
  have hiff : w <:+: trim t ↔ w <:+: t := by
    rw [trim, trimEnd, ← List.reverse_infix, List.reverse_reverse, infix_dropWhile hne' hw',
      List.reverse_infix, trimStart, infix_dropWhile hne hw]
  rw [Bool.eq_iff_iff, occurs_iff, occurs_iff, hiff]

end Text

namespace Marker

def config? : Marker → Option Text
  | closes config => some config
  | opens _ | divides _ => none

end Marker

namespace BlockConfig

theorem ofText_eq (t : Text) :
    ofText t = (((Marker.shown t).findSome? Marker.config?).map ofConfigText).getD ⟨[]⟩ := by
  rw [ofText, List.map_findSome?, ← List.head?_filterMap, ← List.head?_filterMap, Marker.shown,
    List.filterMap_filterMap]
  congr 3
  funext l
  cases h : Marker.ofLine? l with
  | none => rfl
  | some m => cases m <;> rfl

theorem wrap_ofConfigText (t : Text) :
    (ofConfigText t).wrap = Text.occurs "wrap".toList t := by
  have hword : ("wrap".toList.all fun c => !Text.isSpace c) = true := rfl
  refine Text.occurs_trim (by simp) ?_ t
  intro c hc
  simpa using List.all_eq_true.mp hword c hc

end BlockConfig
end ColumnBlocks
