import ColumnBlocks.Block.Action
import ColumnBlocks.Text.Quoted

/-
What the program tells about its work.  An entry says what happened; its level and its message are
functions of that.
-/
namespace ColumnBlocks
namespace Log

inductive Level where
  | trace
  | debug
  | info
  | warn
  | error
deriving DecidableEq, Repr

namespace Level

def name : Level → Text
  | trace => "TRACE".toList
  | debug => "DEBUG".toList
  | info => "INFO".toList
  | warn => "WARN".toList
  | error => "ERROR".toList

/-- The order of importance. -/
def rank : Level → Nat
  | trace => 0
  | debug => 1
  | info => 2
  | warn => 3
  | error => 4

end Level

inductive Entry where
  | classified (action : Action)
  | merging (count : Nat)
  | discarding (count : Nat)
  | layout (widths : List Nat) (config : Text) (wrap : Bool)
  | neverClosed
  | rendered (count : Nat)
  | configPath (path : Text)
  | renderedTo (input output : Text)
  | saved (setting : Text) (value : Bool) (path : Text)
  | failed (message : Text)
deriving DecidableEq, Repr

namespace Entry

def level : Entry → Level
  | classified _ | merging _ => .trace
  | discarding _ | layout _ _ _ | rendered _ | configPath _ => .debug
  | renderedTo _ _ | saved _ _ _ => .info
  | neverClosed => .warn
  | failed _ => .error

def actionName : Action → Text
  | .accumulate => "Accumulate".toList
  | .render => "Render".toList
  | .passThrough => "PassThrough".toList

def message : Entry → Text
  | classified action => "Fragment classified as ".toList ++ actionName action
  | merging n => "Merging ".toList ++ Text.ofNat n ++ " pending fragment(s)".toList
  | discarding n => "Discarding ".toList ++ Text.ofNat n ++ " pending fragment(s)".toList
  | layout widths config wrap =>
    "Rendering column block: widths [".toList ++
      Text.join ", ".toList (widths.map Text.ofNat) ++ "], config ".toList ++
      Text.quoted config ++ ", wrap ".toList ++ Text.ofBool wrap
  | neverClosed =>
    "Column block was never closed with [end]; emitting it unchanged".toList
  | rendered n => "Rendered ".toList ++ Text.ofNat n ++ " fragment(s)".toList
  | configPath path => "Config path: ".toList ++ path
  | renderedTo input output => "Rendered ".toList ++ input ++ " to ".toList ++ output
  | saved setting value path =>
    "Saved ".toList ++ setting ++ " = ".toList ++ Text.ofBool value ++ " to ".toList ++ path
  | failed message => message

def line (e : Entry) : Text := e.level.name ++ ' ' :: e.message

end Entry
end Log
end ColumnBlocks
