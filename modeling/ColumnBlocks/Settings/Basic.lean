import ColumnBlocks.Text.Basic

/-
The settings of column rendering.  A setting also has a name, under which it is stored in a file
and addressed on the command line.
-/
namespace ColumnBlocks

structure Settings where
  /-- Columns run right to left unless a block says `ltr`. -/
  rtlByDefault : Bool := false
  /-- Columns wrap without the keyword `wrap`. -/
  wrapByDefault : Bool := false
  /-- The layout applies on mobile platforms too. -/
  renderOnMobile : Bool := true
deriving DecidableEq, Repr, Inhabited

inductive Setting where
  | rtlByDefault
  | wrapByDefault
  | renderOnMobile
deriving DecidableEq, Repr

namespace Setting

/-- All settings, in the order in which they are stored and shown. -/
def all : List Setting := [rtlByDefault, wrapByDefault, renderOnMobile]

def name : Setting → Text
  | rtlByDefault => "rtl_by_default".toList
  | wrapByDefault => "wrap_by_default".toList
  | renderOnMobile => "render_on_mobile".toList

def ofName? (name : Text) : Option Setting := all.find? (·.name == name)

theorem ofName?_name (k : Setting) : ofName? k.name = some k := by cases k <;> decide

theorem name_of_ofName? {name : Text} {k : Setting} (h : ofName? name = some k) : k.name = name := by
  simpa using List.find?_some h

theorem name_injective {j k : Setting} (h : j.name = k.name) : j = k := by
  have hj := ofName?_name j
  rw [h, ofName?_name] at hj
  exact (Option.some.inj hj).symm

end Setting

namespace Settings

def get (s : Settings) : Setting → Bool
  | .rtlByDefault => s.rtlByDefault
  | .wrapByDefault => s.wrapByDefault
  | .renderOnMobile => s.renderOnMobile

def set (s : Settings) (k : Setting) (v : Bool) : Settings :=
  match k with
  | .rtlByDefault => { s with rtlByDefault := v }
  | .wrapByDefault => { s with wrapByDefault := v }
  | .renderOnMobile => { s with renderOnMobile := v }

theorem get_set (s : Settings) (j k : Setting) (v : Bool) :
    (s.set k v).get j = if j = k then v else s.get j := by
  cases j <;> cases k <;> rfl

/-- Settings are determined by their values. -/
theorem ext_get {s t : Settings} (h : ∀ k, s.get k = t.get k) : s = t := by
  cases s; cases t
  simp only [Settings.mk.injEq]
  exact ⟨h .rtlByDefault, h .wrapByDefault, h .renderOnMobile⟩

/-- One line `name = value` per setting. -/
def printed (s : Settings) : Text :=
  Setting.all.flatMap fun k => k.name ++ " = ".toList ++ Text.ofBool (s.get k) ++ ['\n']

end Settings
end ColumnBlocks
