import ColumnBlocks.Text.Basic

/-
Values of a TOML document.  A table remembers how it came about, because that decides what may
still be added to it: a table written as a value is complete, one under a header is extended by
further headers only, and one that a dotted key opened is extended by dotted keys.
-/
namespace ColumnBlocks
namespace Toml

inductive Origin where
  /-- The document itself, or a table under its own header. -/
  | header
  /-- A table that the header of one of its parts implies. -/
  | implied
  /-- A table that a dotted key opens. -/
  | dotted
  /-- A table written as a value. -/
  | inline
deriving DecidableEq, Repr

inductive Value where
  | string (s : Text)
  | integer (n : Int)
  /-- A number with a fraction or an exponent, or one that is none, as it is written. -/
  | float (written : Text)
  | boolean (b : Bool)
  /-- A date, a time, or both, as it is written. -/
  | dateTime (written : Text)
  | array (vs : List Value)
  /-- The tables under headers of one name, the last one apart. -/
  | tables (earlier : List (List (Text × Value))) (last : List (Text × Value))
  | table (origin : Origin) (entries : List (Text × Value))
deriving Repr, Inhabited

/-- The entries of a table, in the order in which they are written. -/
abbrev Entries := List (Text × Value)

namespace Entries

def get? (es : Entries) (key : Text) : Option Value := es.lookup key

/-- The entries with a new value for a key that is there. -/
def replace (es : Entries) (key : Text) (v : Value) : Entries :=
  es.map fun (k, w) => if k == key then (k, v) else (k, w)

/-- Changes the table at the end of a path.  Tables that are missing on the way are opened, by a
dotted key or by a header; of the tables under one name the last is meant. -/
def change (dotted : Bool) (f : Origin → Entries → Option (Origin × Entries)) (origin : Origin)
    (es : Entries) : List Text → Option (Origin × Entries)
  | [] => f origin es
  | key :: path => do
    match es.get? key with
    | none =>
      let (o, sub) ← change dotted f (if dotted then .dotted else .implied) [] path
      return (origin, es ++ [(key, .table o sub)])
    | some (.table o sub) =>
      guard (o != .inline && !(dotted && o == .header))
      let (o, sub) ← change dotted f o sub path
      return (origin, es.replace key (.table o sub))
    | some (.tables earlier last) =>
      let (_, last) ← change dotted f .header last path
      return (origin, es.replace key (.tables earlier last))
    | some _ => none

/-- Adds a value under a key that is new. -/
def insert? (es : Entries) (key : Text) (v : Value) : Option Entries :=
  if (es.get? key).isSome then none else some (es ++ [(key, v)])

/-- Adds a value under a dotted key, whose last part is apart.  A key with several parts adds only
to a table that such a key has opened. -/
def assign? (origin : Origin) (es : Entries) (path : List Text) (key : Text) (v : Value) :
    Option (Origin × Entries) :=
  change true (fun o sub => do
    guard (path.isEmpty || o == .dotted)
    return (o, ← sub.insert? key v)) origin es path

/-- Opens the table of a header. -/
def openTable? (es : Entries) (path : List Text) (key : Text) : Option Entries :=
  (change false (fun o sub =>
    match sub.get? key with
    | none => some (o, sub ++ [(key, .table .header [])])
    | some (.table .implied inner) => some (o, sub.replace key (.table .header inner))
    | some _ => none) .header es path).map (·.2)

/-- Opens a further table under a header in double brackets. -/
def openFurther? (es : Entries) (path : List Text) (key : Text) : Option Entries :=
  (change false (fun o sub =>
    match sub.get? key with
    | none => some (o, sub ++ [(key, .tables [] [])])
    | some (.tables earlier last) => some (o, sub.replace key (.tables (earlier ++ [last]) []))
    | some _ => none) .header es path).map (·.2)

end Entries
end Toml
end ColumnBlocks
