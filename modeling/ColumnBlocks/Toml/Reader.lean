import ColumnBlocks.Toml.DateTime
import ColumnBlocks.Toml.Number
import ColumnBlocks.Toml.Quoted
import ColumnBlocks.Toml.Value

/-
From text to a TOML document.  A document is a row of lines, each of them a header, a key with its
value, or nothing but a comment; only values may run over several lines.
-/
namespace ColumnBlocks
namespace Toml

/-! ## Space, comments and keys -/

def dropBlanks (t : Text) : Text := t.dropWhile isBlank

/-- What follows a comment, when there is one. -/
def dropComment : Text → Text
  | '#' :: r => r.dropWhile isPlain
  | t => t

/-- What follows the rest of a line that holds nothing but a comment. -/
def afterLine? (t : Text) : Option Text :=
  match dropComment (dropBlanks t) with
  | [] => some []
  | t => afterNewline? t

/-- What follows white space, ends of lines and comments. -/
def dropFiller (t : Text) : Text :=
  (Text.iterate (fun (_ : Unit) t =>
    match dropComment (dropBlanks t) with
    | [] => .stop () []
    | t => match afterNewline? t with
      | some rest => .more () rest
      | none => .stop () t) () t).2

def isKeyChar (c : Char) : Bool := c.isAlphanum || c == '_' || c == '-'

def simpleKey? (t : Text) : Option (Text × Text) :=
  match lineString? t with
  | some r => some r
  | none =>
    let key := t.takeWhile isKeyChar
    if key.isEmpty then none else some (key, t.drop key.length)

/-- How many parts a key may have, and how deep arrays and tables may nest in a value. -/
def maxDepth : Nat := 80

/-- The parts of a key that points separate, from its first part on. -/
def key? (t : Text) : Option (List Text × Text) :=
  let step (parts : List Text) (t : Text) : Text.Step (List Text) :=
    match dropBlanks t with
    | '.' :: r =>
      match simpleKey? (dropBlanks r) with
      | some (part, rest) => .more (part :: parts) rest
      | none => .stop [] t
    | rest => .stop parts rest
  do
    let (part, rest) ← simpleKey? t
    let (parts, rest) := Text.iterate step [part] rest
    guard (!parts.isEmpty && parts.length ≤ maxDepth)
    return (parts.reverse, rest)

/-- A path and its last part. -/
def splitLast (parts : List Text) : List Text × Text := (parts.dropLast, parts.getLastD [])

/-! ## Values -/

def endsScalar (c : Char) : Bool :=
  isBlank c || c == '\n' || c == '\r' || "#,[]\x7b\x7d=\"'".toList.contains c

/-- The characters of a value without brackets or quotation marks.  A blank may stand between a date
and a time. -/
def scalarText (t : Text) : Text :=
  let first := t.takeWhile (!endsScalar ·)
  match t.drop first.length with
  | ' ' :: c :: r =>
    if c.isDigit && DateTime.afterDate? first == some [] then
      first ++ ' ' :: (c :: r).takeWhile (!endsScalar ·)
    else first
  | _ => first

def scalar? (t : Text) : Option (Value × Text) := do
  let written := scalarText t
  let rest := t.drop written.length
  if written == "true".toList then return (.boolean true, rest)
  else if written == "false".toList then return (.boolean false, rest)
  else
    match Number.integer? written with
    | some n => return (.integer n, rest)
    | none =>
      if Number.isFloat written then return (.float written, rest)
      else if isDateTime written then return (.dateTime written, rest)
      else none

/-- Reads an element of an array and the comma after it. -/
def arrayStep (element : Text → Option (Value × Text)) (s : List Value × Bool) (t : Text) :
    Text.Step (List Value × Bool) :=
  match dropFiller t with
  | ']' :: r => .stop (s.1, true) r
  | t =>
    match element t with
    | none => .stop s t
    | some (v, rest) =>
      match dropFiller rest with
      | ',' :: r => .more (v :: s.1, false) r
      | ']' :: r => .stop (v :: s.1, true) r
      | rest => .stop s rest

/-- A key, the equals sign and the value after it, with what `dropSpace` takes between them. -/
def assignment? (dropSpace : Text → Text) (value : Text → Option (Value × Text)) (t : Text) :
    Option (List Text × Value × Text) := do
  let (key, t) ← key? t
  let (v, rest) ← value (dropSpace (← Text.after? ['='] (dropSpace t)))
  return (key, v, rest)

/-- Reads an entry of a table that is written as a value, and the comma after it. -/
def inlineStep (value : Text → Option (Value × Text)) (s : Entries × Bool) (t : Text) :
    Text.Step (Entries × Bool) :=
  match dropFiller t with
  | '\x7d' :: r => .stop (s.1, true) r
  | t =>
    let added? := do
      let (key, v, rest) ← assignment? dropFiller value t
      let (path, key) := splitLast key
      let (_, es) ← s.1.assign? .inline path key v
      return (es, rest)
    match added? with
    | none => .stop s t
    | some (es, rest) =>
      match dropFiller rest with
      | ',' :: r => .more (es, false) r
      | '\x7d' :: r => .stop (es, true) r
      | rest => .stop s rest

/-- A value in which arrays and tables nest at most `depth` deep. -/
def value? : Nat → Text → Option (Value × Text)
  | depth, '[' :: r =>
    match depth with
    | 0 => none
    | depth + 1 =>
      match Text.iterate (arrayStep (value? depth)) ([], false) r with
      | ((vs, true), rest) => some (.array vs.reverse, rest)
      | _ => none
  | depth, '\x7b' :: r =>
    match depth with
    | 0 => none
    | depth + 1 =>
      match Text.iterate (inlineStep (value? depth)) ([], false) r with
      | ((es, true), rest) => some (.table .inline es, rest)
      | _ => none
  | _, t =>
    match string? t with
    | some (s, rest) => some (.string s, rest)
    | none => scalar? t

/-! ## The document -/

structure Reader where
  root : Entries := []
  /-- The path of the table to which keys are added. -/
  current : List Text := []
  valid : Bool := true

def header? (closing t : Text) : Option (List Text × Text × Text) := do
  let (key, rest) ← key? (dropBlanks t)
  let (path, key) := splitLast key
  return (path, key, ← Text.after? closing (dropBlanks rest))

def Reader.line? (r : Reader) (t : Text) : Option (Reader × Text) :=
  match t with
  | '[' :: '[' :: t => do
    let (path, key, rest) ← header? [']', ']'] t
    return ({ r with root := ← r.root.openFurther? path key, current := path ++ [key] }, rest)
  | '[' :: t => do
    let (path, key, rest) ← header? [']'] t
    return ({ r with root := ← r.root.openTable? path key, current := path ++ [key] }, rest)
  | t => do
    let (key, v, rest) ← assignment? dropBlanks (value? maxDepth) t
    let (path, key) := splitLast key
    let (_, root) ← Entries.change false (fun o es => es.assign? o path key v) .header r.root r.current
    return ({ r with root }, rest)

def Reader.step (r : Reader) (t : Text) : Text.Step Reader :=
  match dropFiller t with
  | [] => .stop r []
  | t =>
    match do let (r, rest) ← r.line? t; return (r, ← afterLine? rest) with
    | some (r, rest) => .more r rest
    | none => .stop { r with valid := false } t

/-- The entries of a document, when it is well formed.  A byte order mark at its start is skipped. -/
def read? (t : Text) : Option Entries :=
  let t := (Text.after? ['\uFEFF'] t).getD t
  let (r, _) := Text.iterate Reader.step {} t
  if r.valid then some r.root else none

end Toml
end ColumnBlocks
