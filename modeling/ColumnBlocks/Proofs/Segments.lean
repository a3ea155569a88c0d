import ColumnBlocks.Block.Line
import Mathlib.Data.List.Basic

/-!
# Segments

Inline content is cut at its breaks into segments.  Whatever is read off a segment node by node and
put together in order is read off the whole content too, with something that separates for each
break.  Content that has a node never comes down to a single empty segment.
-/

namespace ColumnBlocks
namespace Line

section Joining

variable {β : Type} {f : List Node → List β}

theorem joinSegments_ne_nil {a : List (List Node)} (ha : a ≠ []) (b : List (List Node)) :
    joinSegments a b ≠ [] := by
  cases a with
  | nil => exact absurd rfl ha
  | cons s rest =>
    cases rest with
    | nil => cases b <;> exact List.cons_ne_nil _ _
    | cons s' rest => exact List.cons_ne_nil _ _

theorem intercalate_joinSegments (hf : ∀ s t, f (s ++ t) = f s ++ f t) (sep : β)
    (a b : List (List Node)) :
    [sep].intercalate ((joinSegments a b).map f) =
      [sep].intercalate (a.map f) ++ [sep].intercalate (b.map f) := by
  induction a, b using joinSegments.induct with
  | case1 b => simp [joinSegments]
  | case2 s => simp [joinSegments]
  | case3 s t ts =>
    rw [joinSegments, List.map_singleton, List.intercalate_singleton, List.map_cons, hf]
    cases ts with
    | nil => simp
    | cons t' ts =>
      simp only [List.map_cons, List.intercalate_cons_cons, List.append_assoc]
  | case4 s s' rest b ih =>
    have hjoined : (joinSegments (s' :: rest) b).map f ≠ [] := by
      simpa using joinSegments_ne_nil (List.cons_ne_nil s' rest) b
    have hrest : (s' :: rest).map f ≠ [] := by simp
    rw [joinSegments, List.map_cons, List.intercalate_cons_of_ne_nil hjoined, ih, List.map_cons (a := s),
      List.intercalate_cons_of_ne_nil hrest, List.append_assoc (f s ++ [sep])]

/-- What holds of segments and is kept where two of them meet holds of the joined ones. -/
theorem forall_mem_joinSegments {P : List Node → Prop} (hP : ∀ s t, P s → P t → P (s ++ t))
    {a b : List (List Node)} (ha : ∀ s ∈ a, P s) (hb : ∀ s ∈ b, P s) :
    ∀ s ∈ joinSegments a b, P s := by
  induction a, b using joinSegments.induct with
  | case1 b => exact hb
  | case2 s => exact ha
  | case3 s t ts =>
    intro u hu
    rcases List.mem_cons.mp hu with rfl | hu
    · exact hP s t (ha s List.mem_cons_self) (hb t List.mem_cons_self)
    · exact hb u (List.mem_cons_of_mem t hu)
  | case4 s s' rest b ih =>
    intro u hu
    rcases List.mem_cons.mp hu with rfl | hu
    · exact ha u List.mem_cons_self
    · exact ih (fun v hv => ha v (List.mem_cons_of_mem s hv)) hb u hu

theorem eq_of_joinSegments {a b : List (List Node)} (ha : a ≠ []) (h : joinSegments a b = [[]]) :
    a = [[]] := by
  cases a with
  | nil => exact absurd rfl ha
  | cons s rest =>
    cases rest with
    | nil =>
      cases b with
      | nil => exact h
      | cons t ts =>
        have hst : s ++ t = [] := (List.cons.inj h).1
        rw [(List.append_eq_nil_iff.mp hst).1]
    | cons s' rest =>
      have hrest : joinSegments (s' :: rest) b = [] := (List.cons.inj h).2
      exact absurd hrest (joinSegments_ne_nil (List.cons_ne_nil s' rest) b)

end Joining

/-! ## Segments of content -/

theorem wrapSegment_nil (name : Text) (attributes : List Attribute) :
    wrapSegment name attributes [] = [] := rfl

theorem wrapSegment_of_ne {name : Text} {attributes : List Attribute} {s : List Node}
    (hs : s ≠ []) : wrapSegment name attributes s = [.element name attributes s] := by
  rw [wrapSegment, if_neg]
  simpa using hs

mutual

theorem cut_ne_nil (n : Node) : cut n ≠ [] := by
  cases n with
  | element name attributes children =>
    rw [cut]
    split
    · intro h
      exact cutAll_ne_nil children (List.map_eq_nil_iff.mp h)
    · exact List.cons_ne_nil _ _
  | _ => simp [cut]

theorem cutAll_ne_nil (ns : List Node) : cutAll ns ≠ [] := by
  cases ns with
  | nil => simp [cutAll]
  | cons n ns =>
    rw [cutAll]
    exact joinSegments_ne_nil (cut_ne_nil n) _

end

mutual

/-- A node is no empty segment. -/
theorem cut_ne_empty (n : Node) : cut n ≠ [[]] := by
  cases n with
  | element name attributes children =>
    rw [cut]
    split
    · rename_i hb
      intro h
      obtain ⟨s, hcut, hs⟩ := List.map_eq_singleton_iff.mp h
      have hempty : s = [] := by
        by_contra hne
        rw [wrapSegment_of_ne hne] at hs
        exact List.cons_ne_nil _ _ hs
      rw [hempty] at hcut
      rw [eq_nil_of_cutAll hcut] at hb
      exact absurd hb (by decide)
    · simp
  | _ => simp [cut]

theorem eq_nil_of_cutAll {ns : List Node} (h : cutAll ns = [[]]) : ns = [] := by
  cases ns with
  | nil => rfl
  | cons n ns =>
    rw [cutAll] at h
    exact absurd (eq_of_joinSegments (cut_ne_nil n) h) (cut_ne_empty n)

end

end Line
end ColumnBlocks
