import ColumnBlocks.Text.Basic

/-
Reading a text step by step.  A step takes something from the front of the text and hands on what
remains; the reading ends when a step says so, and in any case when a step takes nothing, which is
why it always ends.
-/
namespace ColumnBlocks
namespace Text

inductive Step (σ : Type) where
  /-- Go on with the rest of the text. -/
  | more (state : σ) (rest : Text)
  /-- Stop, and leave the rest of the text unread. -/
  | stop (state : σ) (rest : Text)

/-- Repeats a step from a state on.  The result is the last state and what was left unread. -/
def iterate {σ : Type} (step : σ → Text → Step σ) (state : σ) (t : Text) : σ × Text :=
  match step state t with
  | .stop state rest => (state, rest)
  | .more state rest =>
    if rest.length < t.length then iterate step state rest else (state, rest)
termination_by t.length

theorem iterate_more {σ : Type} {step : σ → Text → Step σ} {state state' : σ} {t rest : Text}
    (h : step state t = .more state' rest) (hrest : rest.length < t.length) :
    iterate step state t = iterate step state' rest := by
  rw [iterate, h]
  exact if_pos hrest

theorem iterate_stop {σ : Type} {step : σ → Text → Step σ} {state state' : σ} {t rest : Text}
    (h : step state t = .stop state' rest) : iterate step state t = (state', rest) := by
  rw [iterate, h]

/-- The part of `t` before its end `rest`. -/
def upTo (rest t : Text) : Text := t.take (t.length - rest.length)

end Text
end ColumnBlocks
