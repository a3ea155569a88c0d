import ColumnBlocks.Text.Basic

/-
What the command line asks for.
-/
namespace ColumnBlocks
namespace CommandLine

/-- A document to render, with what holds for this run only. -/
structure Rendering where
  file : Text
  output : Option Text := none
  mobile : Bool := false
  /-- The output is a complete page. -/
  standalone : Bool := false
  rtl : Bool := false
  wrap : Bool := false
deriving DecidableEq, Repr

inductive Command where
  | render (r : Rendering)
  | showSettings
  | changeSetting (name : Text) (value : Bool)
  | showPath
deriving DecidableEq, Repr

structure Invocation where
  verbose : Bool := false
  config : Option Text := none
  command : Command
deriving DecidableEq, Repr

end CommandLine
end ColumnBlocks
