import ColumnBlocks.Html.Token
import ColumnBlocks.Html.Writer
import Mathlib.Data.List.Chain

/-!
# Tokens written and read

Tokens that are written one after the other are read back one by one, whatever the texts and the
values of the attributes are, because neither an escaped text nor an escaped value holds a character
that could end it.  Only texts side by side cannot be told apart.
-/

namespace ColumnBlocks
namespace Html

/-! ## Escapes -/

theorem decode_of_ne {c : Char} (hc : c ≠ '&') (t : Text) : decode (c :: t) = c :: decode t := by
  rw [decode] <;> simp [hc]

theorem escapeTextChar_of_ne {c : Char} (hamp : c ≠ '&') (hlt : c ≠ '<') (hgt : c ≠ '>') :
    escapeTextChar c = [c] := by
  unfold escapeTextChar
  split
  · exact absurd rfl hamp
  · exact absurd rfl hlt
  · exact absurd rfl hgt
  · rfl

theorem decode_escapeTextChar (c : Char) (t : Text) :
    decode (escapeTextChar c ++ t) = c :: decode t := by
  by_cases hamp : c = '&'
  · subst hamp; rfl
  · by_cases hlt : c = '<'
    · subst hlt; rfl
    · by_cases hgt : c = '>'
      · subst hgt; rfl
      · rw [escapeTextChar_of_ne hamp hlt hgt]
        exact decode_of_ne hamp t

theorem decode_escapeValueChar (c : Char) (t : Text) :
    decode (escapeValueChar c ++ t) = c :: decode t := by
  unfold escapeValueChar
  split
  · rfl
  · exact decode_escapeTextChar _ t

theorem decode_escapeText (t : Text) : decode (escapeText t) = t := by
  induction t with
  | nil => rfl
  | cons c t ih => rw [escapeText, List.flatMap_cons, decode_escapeTextChar, ← escapeText, ih]

theorem decode_escapeValue (t : Text) : decode (escapeValue t) = t := by
  induction t with
  | nil => rfl
  | cons c t ih => rw [escapeValue, List.flatMap_cons, decode_escapeValueChar, ← escapeValue, ih]

/-- An escaped character is itself, or it is written with the characters of entities. -/
theorem eq_or_of_mem_escapeTextChar {c d : Char} (h : d ∈ escapeTextChar c) :
    d = c ∧ c ≠ '<' ∨ d ∈ "&;ampltg".toList := by
  unfold escapeTextChar at h
  split at h
  · have hsubset : "&amp;".toList ⊆ "&;ampltg".toList := by decide
    exact Or.inr (hsubset h)
  · have hsubset : "&lt;".toList ⊆ "&;ampltg".toList := by decide
    exact Or.inr (hsubset h)
  · have hsubset : "&gt;".toList ⊆ "&;ampltg".toList := by decide
    exact Or.inr (hsubset h)
  · rename_i hlt _
    exact Or.inl ⟨List.mem_singleton.mp h, hlt⟩

theorem ne_of_mem_escapeText {t : Text} {d : Char} (h : d ∈ escapeText t) : d ≠ '<' := by
  obtain ⟨c, _, hd⟩ := List.mem_flatMap.mp h
  rcases eq_or_of_mem_escapeTextChar hd with ⟨rfl, hlt⟩ | hentity
  · exact hlt
  · rintro rfl
    exact absurd hentity (by decide)

theorem ne_of_mem_escapeValue {t : Text} {d : Char} (h : d ∈ escapeValue t) : d ≠ '"' := by
  obtain ⟨c, _, hd⟩ := List.mem_flatMap.mp h
  unfold escapeValueChar at hd
  split at hd
  · rintro rfl
    exact absurd hd (by decide)
  · rename_i hquote
    rcases eq_or_of_mem_escapeTextChar hd with ⟨rfl, _⟩ | hentity
    · exact hquote
    · rintro rfl
      exact absurd hentity (by decide)

theorem escapeText_ne_nil {t : Text} (h : t ≠ []) : escapeText t ≠ [] := by
  cases t with
  | nil => exact absurd rfl h
  | cons c t =>
    intro hnil
    have hdecode := decode_escapeText (c :: t)
    rw [hnil] at hdecode
    cases hdecode

/-! ## Names and attributes -/

theorem length_lt_append {w : Text} (hw : w ≠ []) (rest : Text) :
    rest.length < (w ++ rest).length := by
  rw [List.length_append]
  exact Nat.lt_add_of_pos_left (List.length_pos_iff.mpr hw)

theorem name?_append {name : Text} (hname : isName name = true) {rest : Text}
    (hrest : ∀ c ∈ rest.head?, isNameChar c = false) : name? (name ++ rest) = some (name, rest) := by
  simp only [isName, Bool.and_eq_true, Bool.not_eq_true', List.all_eq_true] at hname
  obtain ⟨htake, hdrop⟩ := Text.takeWhile_dropWhile_append hname.2 hrest
  simp [name?, htake, hdrop, hname.1]

/-- A name starts with no white space, and with nothing else that is looked for in front of it. -/
theorem exists_cons_of_isName {name : Text} (hname : isName name = true) :
    ∃ c r, name = c :: r ∧ isNameChar c = true := by
  cases name with
  | nil => cases hname
  | cons c r =>
    simp only [isName, List.isEmpty_cons, Bool.not_false, Bool.true_and, List.all_cons,
      Bool.and_eq_true] at hname
    exact ⟨c, r, rfl, hname.1⟩

theorem isBlank_of_isNameChar {c : Char} (h : isNameChar c = true) : isBlank c = false := by
  simp only [isNameChar, Bool.and_eq_true, Bool.not_eq_true'] at h
  exact h.1

theorem attribute?_append {a : Attribute} (ha : isName a.name = true) (rest : Text) :
    attribute? (a.name ++ (['=', '"'] ++ (escapeValue a.value ++ '"' :: rest))) = some (a, rest) := by
  have hname : name? (a.name ++ (['=', '"'] ++ (escapeValue a.value ++ '"' :: rest))) =
      some (a.name, ['=', '"'] ++ (escapeValue a.value ++ '"' :: rest)) := by
    refine name?_append ha ?_
    intro c hc
    obtain rfl : '=' = c := Option.some.inj hc
    rfl
  have hvalue : ∀ c ∈ escapeValue a.value, (c != '"') = true := by
    intro c hc
    simpa using ne_of_mem_escapeValue hc
  have hend : ∀ c ∈ ('"' :: rest).head?, (c != '"') = false := by simp
  obtain ⟨htake, hdrop⟩ := Text.takeWhile_dropWhile_append hvalue hend
  have hequals : Text.after? ['=', '"'] (['=', '"'] ++ (escapeValue a.value ++ '"' :: rest)) =
      some (escapeValue a.value ++ '"' :: rest) :=
    List.isPrefixOf?_eq_some_iff_append_eq.mpr rfl
  have hquote : Text.after? ['"'] ('"' :: rest) = some rest :=
    List.isPrefixOf?_eq_some_iff_append_eq.mpr rfl
  simp only [attribute?, hname, Option.bind_eq_bind, Option.bind_some, hequals, htake, hdrop, hquote,
    decode_escapeValue, Option.pure_def]

theorem attributeStep_written {a : Attribute} (ha : isName a.name = true) (before : List Attribute)
    (rest : Text) : attributeStep before (written a ++ rest) = .more (before ++ [a]) rest := by
  have hblank : (written a ++ rest).dropWhile isBlank =
      a.name ++ (['=', '"'] ++ (escapeValue a.value ++ '"' :: rest)) := by
    obtain ⟨c, r, hname, hc⟩ := exists_cons_of_isName ha
    have hspace : isBlank ' ' = true := rfl
    simp [written, hname, hspace, isBlank_of_isNameChar hc]
  rw [attributeStep, hblank, attribute?_append ha]

theorem iterate_attributeStep {as : List Attribute} (has : ∀ a ∈ as, isName a.name = true)
    (before : List Attribute) (rest : Text) :
    Text.iterate attributeStep before (as.flatMap written ++ '>' :: rest) =
      (before ++ as, '>' :: rest) := by
  induction as generalizing before with
  | nil =>
    have hstop : attributeStep before ('>' :: rest) = .stop before ('>' :: rest) := rfl
    rw [List.flatMap_nil, List.nil_append, Text.iterate_stop hstop, List.append_nil]
  | cons a as ih =>
    have hstep := attributeStep_written (has a List.mem_cons_self) before
      (as.flatMap written ++ '>' :: rest)
    have hlength := length_lt_append (List.cons_ne_nil ' ' _ : written a ≠ [])
      (as.flatMap written ++ '>' :: rest)
    rw [List.flatMap_cons, List.append_assoc, Text.iterate_more hstep hlength,
      ih (fun b hb => has b (List.mem_cons_of_mem a hb)), List.append_assoc, List.singleton_append]

/-! ## Tokens -/

namespace Token

def isText : Token → Bool
  | text _ => true
  | opens _ _ | closes _ => false

def written : Token → Text
  | opens name as => startTag name as
  | closes name => endTag name
  | text s => escapeText s

def isNamed : Token → Bool
  | opens name as => isName name && as.all fun a => isName a.name
  | closes name => isName name
  | text _ => true

/-- Tokens that a reader can tell from what is beside them. -/
structure Apart (ts : List Token) : Prop where
  named : ∀ t ∈ ts, t.isNamed = true
  ne_empty : ∀ t ∈ ts, t ≠ text []
  texts : ts.IsChain fun t u => (t.isText && u.isText) = false

end Token

theorem startTag?_append {name : Text} {as : List Attribute} (hname : isName name = true)
    (has : ∀ a ∈ as, isName a.name = true) (rest : Text) :
    startTag? (name ++ (as.flatMap written ++ '>' :: rest)) = some (.opens name as, rest) := by
  have hend : ∀ c ∈ (as.flatMap written ++ '>' :: rest).head?, isNameChar c = false := by
    intro c hc
    cases as with
    | nil =>
      obtain rfl : '>' = c := Option.some.inj hc
      rfl
    | cons a as =>
      obtain rfl : ' ' = c := Option.some.inj hc
      rfl
  have hafter : afterTag? ('>' :: rest) = some rest := rfl
  simp only [startTag?, name?_append hname hend, iterate_attributeStep has, hafter,
    Option.bind_eq_bind, Option.bind_some, List.nil_append, Option.pure_def]

theorem endTag?_append {name : Text} (hname : isName name = true) (rest : Text) :
    endTag? (name ++ '>' :: rest) = some (.closes name, rest) := by
  have hend : ∀ c ∈ ('>' :: rest).head?, isNameChar c = false := by
    intro c hc
    obtain rfl : '>' = c := Option.some.inj hc
    rfl
  have hafter : afterTag? ('>' :: rest) = some rest := rfl
  simp only [endTag?, name?_append hname hend, hafter, Option.bind_eq_bind, Option.bind_some,
    Option.pure_def]

theorem token?_opens {name : Text} {as : List Attribute} (hname : isName name = true)
    (has : ∀ a ∈ as, isName a.name = true) (rest : Text) :
    token? (startTag name as ++ rest) = some (.opens name as, rest) := by
  have htag := startTag?_append hname has rest
  obtain ⟨c, r, rfl, hc⟩ := exists_cons_of_isName hname
  have hslash : c ≠ '/' := by
    rintro rfl
    exact absurd hc (by decide)
  have htext : startTag (c :: r) as ++ rest =
      '<' :: c :: (r ++ (as.flatMap written ++ '>' :: rest)) := by simp [startTag]
  rw [htext, token?]
  · exact htag
  · intro r' h
    exact hslash (List.cons.inj h).1

theorem token?_closes {name : Text} (hname : isName name = true) (rest : Text) :
    token? (endTag name ++ rest) = some (.closes name, rest) := by
  have htext : endTag name ++ rest = '<' :: '/' :: (name ++ '>' :: rest) := by simp [endTag]
  rw [htext, token?, endTag?_append hname]

theorem token?_text {s : Text} (hs : s ≠ []) {rest : Text} (hrest : ∀ c ∈ rest.head?, c = '<') :
    token? (escapeText s ++ rest) = some (.text s, rest) := by
  have hbody : ∀ c ∈ escapeText s, (c != '<') = true := by
    intro c hc
    simpa using ne_of_mem_escapeText hc
  have hend : ∀ c ∈ rest.head?, (c != '<') = false := by
    intro c hc
    rw [hrest c hc]
    rfl
  obtain ⟨htake, hdrop⟩ := Text.takeWhile_dropWhile_append hbody hend
  have hresult : some (Token.text (decode ((escapeText s ++ rest).takeWhile (· != '<'))),
      (escapeText s ++ rest).dropWhile (· != '<')) = some (.text s, rest) := by
    rw [htake, hdrop, decode_escapeText]
  cases h : escapeText s with
  | nil => exact absurd h (escapeText_ne_nil hs)
  | cons c w =>
    have hc : c ≠ '<' := ne_of_mem_escapeText (by rw [h]; exact List.mem_cons_self)
    rw [← hresult, h, List.cons_append, token?]
    · exact List.cons_ne_nil c (w ++ rest)
    · intro r hr
      exact hc (List.cons.inj hr).1
    · intro r hr
      exact hc (List.cons.inj hr).1

namespace Token

theorem written_ne_nil {t : Token} (ht : t ≠ text []) : t.written ≠ [] := by
  cases t with
  | opens name as => exact List.cons_ne_nil _ _
  | closes name => exact List.cons_ne_nil _ _
  | text s =>
    refine escapeText_ne_nil ?_
    rintro rfl
    exact ht rfl

/-- Behind a text there is a tag, or nothing. -/
theorem head?_flatMap_written {t : Token} {ts : List Token} (ht : t.isText = true)
    (h : (t :: ts).IsChain fun t u => (t.isText && u.isText) = false) :
    ∀ c ∈ (ts.flatMap written).head?, c = '<' := by
  intro c hc
  cases ts with
  | nil => cases hc
  | cons u us =>
    have hu := (List.isChain_cons_cons.mp h).1
    rw [ht, Bool.true_and] at hu
    cases u with
    | text s => cases hu
    | opens name as => exact (Option.some.inj hc).symm
    | closes name => exact (Option.some.inj hc).symm

theorem token?_written {t : Token} {ts : List Token} (h : Apart (t :: ts)) :
    token? ((t :: ts).flatMap written) = some (t, ts.flatMap written) := by
  have hnamed := h.named t List.mem_cons_self
  rw [List.flatMap_cons]
  cases t with
  | opens name as =>
    simp only [isNamed, Bool.and_eq_true, List.all_eq_true] at hnamed
    exact token?_opens hnamed.1 hnamed.2 (ts.flatMap written)
  | closes name => exact token?_closes hnamed (ts.flatMap written)
  | text s =>
    refine token?_text ?_ (head?_flatMap_written rfl h.texts)
    rintro rfl
    exact h.ne_empty (text []) List.mem_cons_self rfl

theorem Apart.tail {t : Token} {ts : List Token} (h : Apart (t :: ts)) : Apart ts where
  named u hu := h.named u (List.mem_cons_of_mem t hu)
  ne_empty u hu := h.ne_empty u (List.mem_cons_of_mem t hu)
  texts := h.texts.tail

theorem iterate_tokenStep {ts : List Token} (h : Apart ts) (before : List Token) :
    Text.iterate tokenStep before (ts.flatMap written) = (before ++ ts, []) := by
  induction ts generalizing before with
  | nil =>
    have hstop : tokenStep before [] = .stop before [] := rfl
    rw [List.flatMap_nil, Text.iterate_stop hstop, List.append_nil]
  | cons t ts ih =>
    have hstep : tokenStep before ((t :: ts).flatMap written) =
        .more (before ++ [t]) (ts.flatMap written) := by rw [tokenStep, token?_written h]
    have hlength := length_lt_append (written_ne_nil (h.ne_empty t List.mem_cons_self))
      (ts.flatMap written)
    rw [Text.iterate_more hstep hlength, ih h.tail, List.append_assoc, List.singleton_append]

/-- Tokens that are written one after the other are read back one by one. -/
theorem tokens?_flatMap_written {ts : List Token} (h : Apart ts) :
    tokens? (ts.flatMap written) = some ts := by
  rw [tokens?, iterate_tokenStep h]
  rfl

/-! ## Texts side by side -/

/-- Puts a token in front of others.  An empty text is nothing, and a text in front of a text becomes
one with it. -/
def joinCons : Token → List Token → List Token
  | text [], ts => ts
  | text s, text t :: ts => text (s ++ t) :: ts
  | t, ts => t :: ts

def joined (ts : List Token) : List Token := ts.foldr joinCons []

theorem escapeText_append (s t : Text) : escapeText (s ++ t) = escapeText s ++ escapeText t := by
  rw [escapeText, List.flatMap_append]
  rfl

theorem flatMap_written_joinCons (t : Token) (ts : List Token) :
    (joinCons t ts).flatMap written = t.written ++ ts.flatMap written := by
  unfold joinCons
  split
  · rfl
  · rw [List.flatMap_cons, List.flatMap_cons, written, escapeText_append, List.append_assoc]
    rfl
  · rw [List.flatMap_cons]

theorem flatMap_written_joined (ts : List Token) :
    (joined ts).flatMap written = ts.flatMap written := by
  induction ts with
  | nil => rfl
  | cons t ts ih =>
    rw [joined, List.foldr_cons, flatMap_written_joinCons, ← joined, ih, List.flatMap_cons]

theorem apart_nil : Apart [] where
  named _ ht := absurd ht List.not_mem_nil
  ne_empty _ ht := absurd ht List.not_mem_nil
  texts := List.isChain_nil

theorem Apart.cons {t : Token} {ts : List Token} (hnamed : t.isNamed = true) (hne : t ≠ text [])
    (hhead : ∀ u ∈ ts.head?, (t.isText && u.isText) = false) (h : Apart ts) : Apart (t :: ts) where
  named u hu := by
    rcases List.mem_cons.mp hu with rfl | hu
    · exact hnamed
    · exact h.named u hu
  ne_empty u hu := by
    rcases List.mem_cons.mp hu with rfl | hu
    · exact hne
    · exact h.ne_empty u hu
  texts := List.isChain_cons.mpr ⟨hhead, h.texts⟩

theorem apart_joinCons {t : Token} {ts : List Token} (ht : t.isNamed = true) (h : Apart ts) :
    Apart (joinCons t ts) := by
  unfold joinCons
  split
  · exact h
  · rename_i s u us _
    have hu : u ≠ [] := by
      rintro rfl
      exact h.ne_empty (text []) List.mem_cons_self rfl
    have hne : text (s ++ u) ≠ text [] := by simp [hu]
    exact h.tail.cons rfl hne (List.isChain_cons.mp h.texts).1
  · rename_i hempty htexts
    refine h.cons ht hempty ?_
    intro u hu
    cases t with
    | opens name as => rfl
    | closes name => rfl
    | text s =>
      obtain ⟨us, rfl⟩ := List.head?_eq_some_iff.mp hu
      cases u with
      | text v => exact (htexts s v us rfl rfl).elim
      | opens name as => rfl
      | closes name => rfl

theorem apart_joined {ts : List Token} (h : ∀ t ∈ ts, t.isNamed = true) : Apart (joined ts) := by
  induction ts with
  | nil => exact apart_nil
  | cons t ts ih =>
    exact apart_joinCons (h t List.mem_cons_self) (ih fun u hu => h u (List.mem_cons_of_mem t hu))

/-- Any tokens are read back but for the seams between their texts. -/
theorem tokens?_written {ts : List Token} (h : ∀ t ∈ ts, t.isNamed = true) :
    tokens? (ts.flatMap written) = some (joined ts) := by
  rw [← flatMap_written_joined]
  exact tokens?_flatMap_written (apart_joined h)

end Token
end Html
end ColumnBlocks
