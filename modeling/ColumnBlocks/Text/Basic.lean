/-
Text is the list of its characters throughout the library.  Every operation reads a text from its
front or writes one piece after another, and both recurse on a list.
-/
namespace ColumnBlocks

abbrev Text := List Char

namespace Text

/-- What follows `lead` in a text that starts with it. -/
def after? (lead t : Text) : Option Text := lead.isPrefixOf? t

/-- Whether `w` stands somewhere in a text. -/
def occurs (w : Text) : Text → Bool
  | [] => w.isEmpty
  | c :: r => w.isPrefixOf (c :: r) || occurs w r

/-- Texts one after another with `between` after each but the last. -/
def join (between : Text) : List Text → Text
  | [] => []
  | [t] => t
  | t :: u :: ts => t ++ between ++ join between (u :: ts)

def byteLength (t : Text) : Nat := (String.ofList t).utf8ByteSize

def ofNat (n : Nat) : Text := Nat.toDigits 10 n

def ofBool (b : Bool) : Text := if b then "true".toList else "false".toList

/-- A longest run of characters is found again where it is written out. -/
theorem takeWhile_dropWhile_append {p : Char → Bool} {w rest : Text} (hw : ∀ c ∈ w, p c = true)
    (hrest : ∀ c ∈ rest.head?, p c = false) :
    (w ++ rest).takeWhile p = w ∧ (w ++ rest).dropWhile p = rest := by
  rw [List.takeWhile_append_of_pos hw, List.dropWhile_append_of_pos hw]
  cases rest with
  | nil => simp
  | cons c rest =>
    have hc : p c = false := hrest c rfl
    simp [hc]

end Text
end ColumnBlocks
