import ColumnBlocks.Block.Action
import ColumnBlocks.Block.Layout
import ColumnBlocks.Marker.Config

/-!
# Markers of a text

The classification of a text, the widths it asks for and its configuration look at nothing but the
markers at the starts of its lines.  The scan with its two flags and early exits is a count: a text is
a complete block exactly if it shows one opening and one closing marker.
-/

namespace ColumnBlocks

namespace Marker

/-- The markers at the starts of the lines of a text. -/
def shown (t : Text) : List Marker := (Text.lines t).filterMap ofLine?

def isOpening : Marker → Bool
  | opens _ => true
  | divides _ | closes _ => false

def isDivider : Marker → Bool
  | divides _ => true
  | opens _ | closes _ => false

def isClosing : Marker → Bool
  | closes _ => true
  | opens _ | divides _ => false

/-- The width a marker asks for.  A closing marker asks for none. -/
def asked : Marker → Option Nat
  | opens w | divides w => some w
  | closes _ => none

end Marker

namespace Action

/-- The decision on a text with `opening` opening and `closing` closing markers. -/
def ofCounts (opening closing : Nat) : Action :=
  if opening = 1 then
    if closing = 0 then accumulate else if closing = 1 then render else passThrough
  else passThrough

theorem ofCounts_eq_render {opening closing : Nat} :
    ofCounts opening closing = render ↔ opening = 1 ∧ closing = 1 := by
  unfold ofCounts
  split
  · split
    · simp_all
    · split <;> simp_all
  · simp_all

theorem ofCounts_eq_accumulate {opening closing : Nat} :
    ofCounts opening closing = accumulate ↔ opening = 1 ∧ closing = 0 := by
  unfold ofCounts
  split
  · split
    · simp_all
    · split <;> simp_all
  · simp_all

theorem ofCounts_eq_passThrough {opening closing : Nat} :
    ofCounts opening closing = passThrough ↔ ¬(opening = 1 ∧ closing ≤ 1) := by
  unfold ofCounts
  split
  · split
    · simp_all
    · split
      · simp_all
      · rename_i hopening hzero hone
        have hmore : ¬closing ≤ 1 := by omega
        simp [hmore]
  · simp_all

theorem ofSeen_eq (begun ended : Bool) : ofSeen begun ended = ofCounts begun.toNat ended.toNat := by
  cases begun <;> cases ended <;> rfl

theorem ofCounts_of_two {opening closing : Nat} (h : 2 ≤ opening ∨ 2 ≤ closing) :
    ofCounts opening closing = passThrough := by
  unfold ofCounts
  split
  · have hc : 2 ≤ closing := by omega
    rw [if_neg (by omega), if_neg (by omega)]
  · rfl

/-- The flags of a scan count the markers that were read before. -/
theorem scan_eq (begun ended : Bool) (ls : List Text) :
    scan begun ended ls =
      ofCounts (begun.toNat + (ls.filterMap Marker.ofLine?).countP Marker.isOpening)
        (ended.toNat + (ls.filterMap Marker.ofLine?).countP Marker.isClosing) := by
  induction ls generalizing begun ended with
  | nil => rw [scan, ofSeen_eq]; rfl
  | cons l ls ih =>
    rw [scan]
    split
    · rename_i w h
      rw [List.filterMap_cons_some h, List.countP_cons, List.countP_cons]
      cases begun with
      | true =>
        have hw : (Marker.opens w).isOpening = true := rfl
        rw [if_pos rfl, hw, ofCounts_of_two (Or.inl (by simp; omega))]
      | false =>
        rw [if_neg Bool.false_ne_true, ih]
        simp [Marker.isOpening, Marker.isClosing, Nat.add_comm]
    · rename_i c h
      rw [List.filterMap_cons_some h, List.countP_cons, List.countP_cons]
      cases ended with
      | true =>
        have hc : (Marker.closes c).isClosing = true := rfl
        rw [if_pos rfl, hc, ofCounts_of_two (Or.inr (by simp; omega))]
      | false =>
        rw [if_neg Bool.false_ne_true, ih]
        simp [Marker.isOpening, Marker.isClosing, Nat.add_comm]
    · rename_i hopens hcloses
      rw [ih]
      cases h : Marker.ofLine? l with
      | none => rw [List.filterMap_cons_none h]
      | some m =>
        rw [List.filterMap_cons_some h, List.countP_cons, List.countP_cons]
        cases m with
        | opens w => exact absurd h (hopens w)
        | closes c => exact absurd h (hcloses c)
        | divides w => rfl

end Action

theorem classify_eq (t : Text) :
    classify t = Action.ofCounts ((Marker.shown t).countP Marker.isOpening)
      ((Marker.shown t).countP Marker.isClosing) := by
  rw [classify, Action.scan_eq]
  simp [Marker.shown]

theorem classify_eq_render {t : Text} :
    classify t = .render ↔ (Marker.shown t).countP Marker.isOpening = 1 ∧
      (Marker.shown t).countP Marker.isClosing = 1 := by
  rw [classify_eq, Action.ofCounts_eq_render]

theorem columnWidths_eq (t : Text) : columnWidths t = (Marker.shown t).filterMap Marker.asked := by
  rw [columnWidths, Marker.shown, List.filterMap_filterMap]
  congr 1
  funext l
  cases h : Marker.ofLine? l with
  | none => rfl
  | some m => cases m <;> rfl

end ColumnBlocks
