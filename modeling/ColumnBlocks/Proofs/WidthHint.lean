import ColumnBlocks.Proofs.Decimal
import ColumnBlocks.Proofs.OwnWidths
import Mathlib

/-!
# Width hints

A width hint is cut into blanks, a sign, digits and a rest, each as long as it can be, in exactly one
way, and its width is the number that the digits write.  It is one where there is no such number or
the number is no width.
-/

namespace ColumnBlocks

namespace Text

/-! ## Digits -/

theorem digitValue?_eq_none {c : Char} (h : c.isDigit = false) : digitValue? c = none := by
  have hrange : ¬('0' ≤ c ∧ c ≤ '9') := by
    rintro ⟨hlow, hhigh⟩
    have hdigit : c.isDigit = true :=
      Char.isDigit_iff_toNat.mpr ⟨UInt32.le_iff_toNat_le.mp hlow, UInt32.le_iff_toNat_le.mp hhigh⟩
    rw [h] at hdigit
    cases hdigit
  rw [digitValue?, if_neg hrange]

theorem decimalFrom?_eq_none {t : Text} (h : t.all Char.isDigit = false) (n : Nat) :
    decimalFrom? n t = none := by
  induction t generalizing n with
  | nil => cases h
  | cons c t ih =>
    rw [decimalFrom?]
    cases hc : c.isDigit with
    | false => rw [digitValue?_eq_none hc]
    | true =>
      rw [List.all_cons, hc, Bool.true_and] at h
      rw [digitValue?_of_isDigit hc]
      exact ih h _

/-- A row of characters writes a decimal number exactly if it is one of ASCII digits. -/
theorem decimal?_eq (t : Text) :
    decimal? t =
      if t ≠ [] ∧ t.all Char.isDigit = true then some (Nat.ofDigitChars 10 t 0) else none := by
  cases t with
  | nil => rfl
  | cons c t =>
    show decimalFrom? 0 (c :: t) = _
    cases hall : (c :: t).all Char.isDigit with
    | true =>
      rw [if_pos ⟨List.cons_ne_nil c t, rfl⟩, decimalFrom?_of_digits (List.all_eq_true.mp hall)]
    | false => rw [if_neg (by simp), decimalFrom?_eq_none hall]

theorem ofDigitChars_zeros (zeros : Nat) (t : Text) :
    Nat.ofDigitChars 10 (List.replicate zeros '0' ++ t) 0 = Nat.ofDigitChars 10 t 0 := by
  induction zeros with
  | zero => rfl
  | succ zeros ih =>
    rw [List.replicate_succ, List.cons_append, Nat.ofDigitChars_cons]
    exact ih

end Text

namespace Marker

/-! ## The parts of a hint -/

inductive Sign where
  | absent
  | plus
  | minus
deriving DecidableEq, Repr

def Sign.text : Sign → Text
  | absent => []
  | plus => ['+']
  | minus => ['-']

/-- The sign that a text starts with, and what follows it. -/
def Sign.take : Text → Sign × Text
  | '+' :: r => (plus, r)
  | '-' :: r => (minus, r)
  | t => (absent, t)

theorem Sign.text_take (t : Text) : (take t).1.text ++ (take t).2 = t := by
  unfold take
  split <;> rfl

theorem Sign.take_of_ne {t : Text} (h : ∀ c ∈ t.head?, c ≠ '+' ∧ c ≠ '-') :
    take t = (absent, t) := by
  unfold take
  split
  · exact absurd rfl (h '+' rfl).1
  · exact absurd rfl (h '-' rfl).2
  · rfl

theorem Sign.ne_of_take {t : Text} (h : (take t).1 = .absent) :
    ∀ c ∈ (take t).2.head?, c ≠ '+' ∧ c ≠ '-' := by
  unfold take at h ⊢
  split at h
  · cases h
  · cases h
  · rename_i hplus hminus
    intro c hc
    obtain ⟨r, rfl⟩ := List.head?_eq_some_iff.mp hc
    exact ⟨fun e => hplus r (by rw [e]), fun e => hminus r (by rw [e])⟩

theorem Sign.take_text {s : Sign} {t : Text} (h : s = .absent → ∀ c ∈ t.head?, c ≠ '+' ∧ c ≠ '-') :
    take (s.text ++ t) = (s, t) := by
  cases s with
  | absent => exact take_of_ne (h rfl)
  | plus => rfl
  | minus => rfl

theorem unsigned?_eq (t : Text) :
    unsigned? t = if (Sign.take t).1 = .minus then none else some (Sign.take t).2 := by
  unfold Sign.take
  split
  · rfl
  · rfl
  · rename_i hplus hminus
    unfold unsigned?
    split
    · exact absurd rfl (hminus _)
    · exact absurd rfl (hplus _)
    · rfl

/-- A width hint in parts.  Each part is as long as what follows it allows. -/
@[ext] structure Hint where
  blanks : Text
  sign : Sign
  digits : Text
  rest : Text
  blanks_space : ∀ c ∈ blanks, Text.isSpace c = true
  blanks_longest : ∀ c ∈ (sign.text ++ (digits ++ rest)).head?, Text.isSpace c = false
  sign_taken : sign = .absent → ∀ c ∈ (digits ++ rest).head?, c ≠ '+' ∧ c ≠ '-'
  digits_decimal : ∀ c ∈ digits, Text.isDecimalDigit c = true
  digits_longest : ∀ c ∈ rest.head?, Text.isDecimalDigit c = false

namespace Hint

def text (h : Hint) : Text := h.blanks ++ (h.sign.text ++ (h.digits ++ h.rest))

/-- The number that the digits write. -/
def value (h : Hint) : Nat := Nat.ofDigitChars 10 h.digits 0

/-- Whether the digits are a number that can be a width. -/
def IsWidth (h : Hint) : Prop :=
  h.sign ≠ .minus ∧ (h.digits ≠ [] ∧ h.digits.all Char.isDigit = true) ∧
    1 ≤ h.value ∧ h.value ≤ 2 ^ 32 - 1

instance (h : Hint) : Decidable h.IsWidth := inferInstanceAs (Decidable (_ ∧ _))

theorem trimStart_text (h : Hint) : Text.trimStart h.text = h.sign.text ++ (h.digits ++ h.rest) :=
  (Text.takeWhile_dropWhile_append h.blanks_space h.blanks_longest).2

theorem takeWhile_digits (h : Hint) :
    (h.digits ++ h.rest).takeWhile Text.isDecimalDigit = h.digits :=
  (Text.takeWhile_dropWhile_append h.digits_decimal h.digits_longest).1

theorem unsigned?_text (h : Hint) :
    unsigned? (Text.trimStart h.text) =
      if h.sign = .minus then none else some (h.digits ++ h.rest) := by
  rw [h.trimStart_text, unsigned?_eq, Sign.take_text h.sign_taken]

theorem width_text (h : Hint) : width h.text = if h.IsWidth then h.value else 1 := by
  have hmax : maxWidth = 2 ^ 32 - 1 := rfl
  rw [width, width?, h.unsigned?_text]
  by_cases hsign : h.sign = .minus
  · have hnot : ¬h.IsWidth := fun hw => hw.1 hsign
    rw [if_pos hsign, if_neg hnot]
    rfl
  · rw [if_neg hsign]
    show ((Text.decimal? ((h.digits ++ h.rest).takeWhile Text.isDecimalDigit)).bind fun n =>
      if 1 ≤ n ∧ n ≤ maxWidth then some n else none).getD 1 = _
    rw [h.takeWhile_digits, Text.decimal?_eq, hmax]
    by_cases hdigits : h.digits ≠ [] ∧ h.digits.all Char.isDigit = true
    · rw [if_pos hdigits, Option.bind_some]
      show (if 1 ≤ h.value ∧ h.value ≤ 2 ^ 32 - 1 then some h.value else none).getD 1 = _
      by_cases hrange : 1 ≤ h.value ∧ h.value ≤ 2 ^ 32 - 1
      · have hwidth : h.IsWidth := ⟨hsign, hdigits, hrange⟩
        rw [if_pos hwidth, if_pos hrange]
        rfl
      · have hnot : ¬h.IsWidth := fun hw => hrange hw.2.2
        rw [if_neg hnot, if_neg hrange]
        rfl
    · have hnot : ¬h.IsWidth := fun hw => hdigits hw.2.1
      rw [if_neg hdigits, if_neg hnot]
      rfl

/-! ## Cutting a hint -/

theorem eq_false_of_head?_dropWhile {p : Char → Bool} {t : Text} :
    ∀ c ∈ (t.dropWhile p).head?, p c = false := by
  intro c hc
  have hnot := List.head?_dropWhile_not p t
  rw [Option.mem_def.mp hc] at hnot
  exact hnot

/-- The parts of a text, each taken from what the one before leaves. -/
def ofText (t : Text) : Hint :=
  let body := t.dropWhile Text.isSpace
  let after := (Sign.take body).2
  have hafter : after.takeWhile Text.isDecimalDigit ++ after.dropWhile Text.isDecimalDigit = after :=
    List.takeWhile_append_dropWhile
  { blanks := t.takeWhile Text.isSpace
    sign := (Sign.take body).1
    digits := after.takeWhile Text.isDecimalDigit
    rest := after.dropWhile Text.isDecimalDigit
    blanks_space := fun c hc => List.mem_takeWhile_imp hc
    blanks_longest := by
      rw [hafter, Sign.text_take]
      exact eq_false_of_head?_dropWhile
    sign_taken := by
      rw [hafter]
      exact Sign.ne_of_take
    digits_decimal := fun c hc => List.mem_takeWhile_imp hc
    digits_longest := eq_false_of_head?_dropWhile }

theorem text_ofText (t : Text) : (ofText t).text = t := by
  let after := (Sign.take (t.dropWhile Text.isSpace)).2
  show t.takeWhile Text.isSpace ++ ((Sign.take (t.dropWhile Text.isSpace)).1.text ++
    (after.takeWhile Text.isDecimalDigit ++ after.dropWhile Text.isDecimalDigit)) = t
  rw [List.takeWhile_append_dropWhile, Sign.text_take, List.takeWhile_append_dropWhile]

theorem text_injective {h h' : Hint} (heq : h.text = h'.text) : h = h' := by
  have hspan := Text.takeWhile_dropWhile_append h.blanks_space h.blanks_longest
  have hspan' := Text.takeWhile_dropWhile_append h'.blanks_space h'.blanks_longest
  have hblanks : h.blanks = h'.blanks := by
    rw [← hspan.1, ← hspan'.1]
    exact congrArg (List.takeWhile Text.isSpace) heq
  have hbody : h.sign.text ++ (h.digits ++ h.rest) = h'.sign.text ++ (h'.digits ++ h'.rest) := by
    rw [← hspan.2, ← hspan'.2]
    exact congrArg (List.dropWhile Text.isSpace) heq
  have htake := congrArg Sign.take hbody
  rw [Sign.take_text h.sign_taken, Sign.take_text h'.sign_taken] at htake
  obtain ⟨hsign, hafter⟩ := Prod.mk.inj htake
  have hcut := Text.takeWhile_dropWhile_append h.digits_decimal h.digits_longest
  have hcut' := Text.takeWhile_dropWhile_append h'.digits_decimal h'.digits_longest
  have hdigits : h.digits = h'.digits := by rw [← hcut.1, ← hcut'.1, hafter]
  have hrest : h.rest = h'.rest := by rw [← hcut.2, ← hcut'.2, hafter]
  exact Hint.ext hblanks hsign hdigits hrest

end Hint

/-! ## Reading a width -/

/-- A number behind blanks, a sign and zeros is the number of a hint. -/
theorem exists_hint_of_number (n : Nat) {blanks rest : Text} (sign : Sign) (zeros : Nat)
    (hblanks : ∀ c ∈ blanks, Text.isSpace c = true)
    (hrest : ∀ c ∈ rest.head?, Text.isDecimalDigit c = false) :
    ∃ h : Hint, h.text = blanks ++ (sign.text ++ (List.replicate zeros '0' ++ Text.ofNat n ++ rest)) ∧
      h.sign = sign ∧ h.digits ≠ [] ∧ h.digits.all Char.isDigit = true ∧ h.value = n := by
  let digits := List.replicate zeros '0' ++ Text.ofNat n
  have hdigits : ∀ c ∈ digits, c.isDigit = true := by
    intro c hc
    rcases List.mem_append.mp hc with hc | hc
    · rw [List.eq_of_mem_replicate hc]
      rfl
    · exact Text.isDigit_of_mem_ofNat hc
  have hne : digits ≠ [] := List.append_ne_nil_of_right_ne_nil _ Nat.toDigits_ne_nil
  have hhead : ∀ c ∈ (digits ++ rest).head?, c.isDigit = true := by
    intro c hc
    rw [List.head?_append_of_ne_nil _ hne] at hc
    exact hdigits c (List.mem_of_mem_head? hc)
  refine ⟨{
    blanks := blanks
    sign := sign
    digits := digits
    rest := rest
    blanks_space := hblanks
    blanks_longest := ?_
    sign_taken := ?_
    digits_decimal := fun c hc => Text.isDecimalDigit_of_isDigit (hdigits c hc)
    digits_longest := hrest }, rfl, rfl, hne, List.all_eq_true.mpr hdigits, ?_⟩
  · intro c hc
    cases sign with
    | absent => exact Text.isSpace_of_isDigit (hhead c hc)
    | plus =>
      rw [← Option.some.inj hc]
      decide
    | minus =>
      rw [← Option.some.inj hc]
      decide
  · rintro - c hc
    have hdigit := hhead c hc
    constructor
    · rintro rfl
      cases hdigit
    · rintro rfl
      cases hdigit
  · exact (Text.ofDigitChars_zeros zeros _).trans Nat.ofDigitChars_ten_toDigits

/-- A hint has its parts in exactly one way.  Its width is the number of its digits where no minus
stands before them, all of them are ASCII and the number is from one to `2 ^ 32 - 1`, and one in every
other case.  So no hint, and no column of a block, has a width outside of that range, and every number
in it is read from behind any blanks, a plus and zeros, whatever follows it but a digit. -/
theorem width_of_parts (t : Text) :
    (∃! h : Hint, h.text = t) ∧
      (∀ h : Hint, h.text = t → width t = if h.IsWidth then h.value else 1) ∧
      (1 ≤ width t ∧ width t ≤ 2 ^ 32 - 1) ∧
      (∀ nodes wrap, ∀ n ∈ renderBlock nodes wrap,
        ∃ w, n.columnWidth? = some w ∧ 1 ≤ w ∧ w ≤ 2 ^ 32 - 1) ∧
      ∀ (n : Nat) (blanks rest : Text) (sign : Sign) (zeros : Nat), 1 ≤ n ∧ n ≤ 2 ^ 32 - 1 →
        (∀ c ∈ blanks, Text.isSpace c = true) → sign ≠ .minus →
        (∀ c ∈ rest.head?, Text.isDecimalDigit c = false) →
        t = blanks ++ (sign.text ++ (List.replicate zeros '0' ++ Text.ofNat n ++ rest)) →
        width t = n := by
  have hvalue : ∀ h : Hint, h.text = t → width t = if h.IsWidth then h.value else 1 := by
    rintro h rfl
    exact h.width_text
  refine ⟨?_, hvalue, width_bounds t, renderBlock_width_bounds, ?_⟩
  · have htext := Hint.text_ofText t
    exact ⟨Hint.ofText t, htext, fun h hh => Hint.text_injective (hh.trans htext.symm)⟩
  · intro n blanks rest sign zeros hn hblanks hsign hrest ht
    obtain ⟨h, htext, hs, hne, hdigits, hnumber⟩ :=
      exists_hint_of_number n sign zeros hblanks hrest
    have hwidth : h.IsWidth := by
      refine ⟨?_, ⟨hne, hdigits⟩, ?_⟩
      · rw [hs]
        exact hsign
      · rw [hnumber]
        exact hn
    rw [hvalue h (htext.trans ht.symm), if_pos hwidth, hnumber]

theorem width_of_parts_padded : width "\u00a0 +007rem".toList = 7 := by
  have hblanks : ("\u00a0 ".toList.all Text.isSpace) = true := by decide
  refine (width_of_parts _).2.2.2.2 7 "\u00a0 ".toList "rem".toList .plus 2 ?_ ?_ ?_ ?_ ?_
  · decide
  · exact List.all_eq_true.mp hblanks
  · decide
  · intro c hc
    obtain rfl : 'r' = c := Option.some.inj hc
    decide
  · decide

/-- A number that does not fit into 32 bits, and one that runs on into digits of another script. -/
example : width "4294967296".toList = 1 ∧ width "3٣".toList = 1 := by decide +kernel

end Marker
end ColumnBlocks
