import ColumnBlocks.Marker.Basic
import Mathlib.Data.List.Basic
import Mathlib.Data.List.TakeWhile

/-!
# Decimal numbers

A width hint that starts with a decimal number is read as that number.
-/

namespace ColumnBlocks

namespace Text

theorem isDigit_bounds {c : Char} (h : c.isDigit = true) : 48 ≤ c.toNat ∧ c.toNat ≤ 57 := by
  have hc := Char.isDigit_iff_toNat.mp h
  exact hc

theorem isDecimalDigit_of_isDigit {c : Char} (h : c.isDigit = true) : isDecimalDigit c = true := by
  have hc := isDigit_bounds h
  have hzero : 0x30 ∈ zeros := by simp [zeros]
  refine List.any_eq_true.mpr ⟨0x30, hzero, ?_⟩
  rw [Bool.and_eq_true, decide_eq_true_eq, decide_eq_true_eq]
  omega

theorem isSpace_of_isDigit {c : Char} (h : c.isDigit = true) : isSpace c = false := by
  have hc := isDigit_bounds h
  rw [Bool.eq_false_iff]
  intro hs
  simp only [isSpace, Bool.or_eq_true, Bool.and_eq_true, decide_eq_true_eq, beq_iff_eq] at hs
  omega

theorem digitValue?_of_isDigit {c : Char} (h : c.isDigit = true) :
    digitValue? c = some (c.toNat - '0'.toNat) := by
  have hc := isDigit_bounds h
  have hle : '0' ≤ c ∧ c ≤ '9' := by
    constructor
    · exact Char.le_def.mpr (UInt32.le_iff_toNat_le.mpr hc.1)
    · exact Char.le_def.mpr (UInt32.le_iff_toNat_le.mpr hc.2)
  rw [digitValue?, if_pos hle]

theorem decimalFrom?_of_digits {t : Text} (h : ∀ c ∈ t, c.isDigit = true) (n : Nat) :
    decimalFrom? n t = some (Nat.ofDigitChars 10 t n) := by
  induction t generalizing n with
  | nil => rw [decimalFrom?, Nat.ofDigitChars_nil]
  | cons c t ih =>
    have hrest : ∀ d ∈ t, d.isDigit = true := fun d hd => h d (List.mem_cons_of_mem c hd)
    rw [decimalFrom?, digitValue?_of_isDigit (h c List.mem_cons_self)]
    show decimalFrom? (n * 10 + (c.toNat - '0'.toNat)) t = _
    rw [ih hrest, Nat.ofDigitChars_cons, Nat.mul_comm]

theorem isDigit_of_mem_ofNat {n : Nat} {c : Char} (h : c ∈ ofNat n) : c.isDigit = true :=
  Nat.isDigit_of_mem_toDigits (by omega) (by omega) h

theorem decimal?_ofNat (n : Nat) : decimal? (ofNat n) = some n := by
  have hdigits : ∀ c ∈ ofNat n, c.isDigit = true := fun c hc => isDigit_of_mem_ofNat hc
  have hread : decimalFrom? 0 (ofNat n) = some n := by
    rw [decimalFrom?_of_digits hdigits, ofNat, Nat.ofDigitChars_ten_toDigits]
  cases h : ofNat n with
  | nil => exact absurd h Nat.toDigits_ne_nil
  | cons c t =>
    rw [← hread, h]
    rfl

end Text

namespace Marker

/-- A width in range that is written behind a marker is read back. -/
theorem width_ofNat {n : Nat} (h : 1 ≤ n ∧ n ≤ maxWidth) : width (Text.ofNat n) = n := by
  have hdigits : ∀ c ∈ Text.ofNat n, c.isDigit = true := fun c hc => Text.isDigit_of_mem_ofNat hc
  have hsigned : unsigned? (Text.trimStart (Text.ofNat n)) = some (Text.ofNat n) := by
    cases ht : Text.ofNat n with
    | nil => rfl
    | cons c t =>
      have hc : c.isDigit = true := hdigits c (by rw [ht]; exact List.mem_cons_self)
      have hstart : Text.trimStart (c :: t) = c :: t := by
        rw [Text.trimStart, List.dropWhile_cons_of_neg (by simp [Text.isSpace_of_isDigit hc])]
      rw [hstart]
      unfold unsigned?
      split
      · rename_i e
        rw [(List.cons.inj e).1] at hc
        exact absurd hc (by decide)
      · rename_i e
        rw [(List.cons.inj e).1] at hc
        exact absurd hc (by decide)
      · rfl
  have htake : (Text.ofNat n).takeWhile Text.isDecimalDigit = Text.ofNat n :=
    List.takeWhile_eq_self_iff.mpr fun c hc => Text.isDecimalDigit_of_isDigit (hdigits c hc)
  have hread : width? (Text.ofNat n) = some n := by
    simp only [width?, hsigned, Option.bind_eq_bind, Option.bind_some, htake, Text.decimal?_ofNat,
      if_pos h]
  rw [width, hread]
  rfl

theorem ofLine?_begin (hint : Text) : ofLine? (beginText ++ hint) = some (opens (width hint)) := rfl

theorem ofLine?_col (hint : Text) : ofLine? (colText ++ hint) = some (divides (width hint)) := rfl

theorem ofLine?_end (config : Text) : ofLine? (endText ++ config) = some (closes config) := rfl

/-- A line is content unless it starts with the text of a marker. -/
theorem ofLine?_eq_none {line : Text} :
    ofLine? line = none ↔ ¬beginText <+: line ∧ ¬colText <+: line ∧ ¬endText <+: line := by
  have hafter : ∀ lead, Text.after? lead line = none ↔ ¬lead <+: line := by
    intro lead
    rw [Option.eq_none_iff_forall_not_mem]
    constructor
    · rintro h ⟨rest, hrest⟩
      exact h rest (List.isPrefixOf?_eq_some_iff_append_eq.mpr hrest)
    · intro h rest hrest
      exact h ⟨rest, List.isPrefixOf?_eq_some_iff_append_eq.mp hrest⟩
  rw [← hafter, ← hafter, ← hafter]
  unfold ofLine?
  cases Text.after? beginText line with
  | some hint => simp
  | none =>
    cases Text.after? colText line with
    | some hint => simp
    | none => simp

end Marker
end ColumnBlocks
