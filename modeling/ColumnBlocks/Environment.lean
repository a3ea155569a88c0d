import ColumnBlocks.Settings.Basic

/-
What the transform asks of its host: the settings and the kind of device.  Both are looked at on
every call, so a host may change them between two fragments.
-/
namespace ColumnBlocks

inductive Platform where
  | desktop
  | mobile
deriving DecidableEq, Repr, Inhabited

def Platform.isDesktop : Platform → Bool
  | desktop => true
  | mobile => false

structure Environment where
  settings : Settings := {}
  platform : Platform := .desktop
deriving DecidableEq, Repr, Inhabited

/-- Columns are laid out on a desktop, and on a mobile device when the settings say so. -/
def Environment.layoutEnabled (env : Environment) : Bool :=
  env.platform.isDesktop || env.settings.renderOnMobile

end ColumnBlocks
