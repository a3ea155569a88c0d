import ColumnBlocks.Text.Iterate
import ColumnBlocks.Text.Ranges

/-
Strings between quotation marks.  Basic strings have escapes and literal strings have none, and both
come on one line or, between three marks, on several.
-/
namespace ColumnBlocks
namespace Toml

def isBlank (c : Char) : Bool := c == ' ' || c == '\t'

/-- What follows the end of a line. -/
def afterNewline? : Text → Option Text
  | '\n' :: r => some r
  | '\r' :: '\n' :: r => some r
  | _ => none

/-- Whether a character may stand in a comment or a string.  Of the control characters only the tab
may. -/
def isPlain (c : Char) : Bool := c == '\t' || (' ' ≤ c && c != '\x7f')

namespace Quoted

/-! ## Escapes -/

def codePoint? (n : Nat) (t : Text) : Option (Char × Text) := do
  let digits := t.take n
  guard (digits.length == n && digits.all fun c => (Text.hexValue? c).isSome)
  let point := Text.hexNumber digits
  guard (decide point.isValidChar)
  return (Char.ofNat point, t.drop n)

/-- The character of an escape, from what follows the backslash. -/
def escape? : Text → Option (Char × Text)
  | 'b' :: r => some ('\x08', r)
  | 't' :: r => some ('\t', r)
  | 'n' :: r => some ('\n', r)
  | 'f' :: r => some ('\x0c', r)
  | 'r' :: r => some ('\r', r)
  | 'e' :: r => some ('\x1b', r)
  | '"' :: r => some ('"', r)
  | '\\' :: r => some ('\\', r)
  | 'x' :: r => codePoint? 2 r
  | 'u' :: r => codePoint? 4 r
  | 'U' :: r => codePoint? 8 r
  | _ => none

/-! ## Strings on one line -/

/-- A string read in part: its characters, the last one first, and whether it is complete. -/
structure Partial where
  chars : Text := []
  complete : Bool := false

def Partial.push (p : Partial) (c : Char) : Partial := { p with chars := c :: p.chars }

def Partial.close (p : Partial) : Partial := { p with complete := true }

def basicStep (p : Partial) (t : Text) : Text.Step Partial :=
  match t with
  | [] => .stop p t
  | '"' :: r => .stop p.close r
  | '\\' :: r =>
    match escape? r with
    | some (c, rest) => .more (p.push c) rest
    | none => .stop p t
  | c :: r => if isPlain c then .more (p.push c) r else .stop p t

def literalStep (p : Partial) (t : Text) : Text.Step Partial :=
  match t with
  | [] => .stop p t
  | '\x27' :: r => .stop p.close r
  | c :: r => if isPlain c then .more (p.push c) r else .stop p t

/-! ## Strings on several lines -/

/-- White space and ends of lines. -/
def dropSpace (t : Text) : Text :=
  (Text.iterate (fun (_ : Unit) t =>
    match t with
    | c :: r => if isBlank c then .more () r else
        match afterNewline? t with
        | some rest => .more () rest
        | none => .stop () t
    | [] => .stop () t) () t).2

/-- What follows a backslash at the end of a line: the first character of a further line. -/
def afterFold? (t : Text) : Option Text :=
  (afterNewline? (t.dropWhile isBlank)).map dropSpace

/-- Reads a row of quotation marks.  Three of them close the string, and up to two more before these
belong to it. -/
def marksStep (quote : Char) (p : Partial) (t : Text) : Text.Step Partial :=
  let n := (t.takeWhile (· == quote)).length
  if n < 3 then .more { p with chars := List.replicate n quote ++ p.chars } (t.drop n)
  else
    let inner := min (n - 3) 2
    .stop { chars := List.replicate inner quote ++ p.chars, complete := true } (t.drop (inner + 3))

def multilineBasicStep (p : Partial) (t : Text) : Text.Step Partial :=
  match t with
  | [] => .stop p t
  | '"' :: _ => marksStep '"' p t
  | '\\' :: r =>
    match afterFold? r with
    | some rest => .more p rest
    | none =>
      match escape? r with
      | some (c, rest) => .more (p.push c) rest
      | none => .stop p t
  | c :: r =>
    if isPlain c then .more (p.push c) r
    else
      match afterNewline? t with
      | some rest => .more (p.push '\n') rest
      | none => .stop p t

def multilineLiteralStep (p : Partial) (t : Text) : Text.Step Partial :=
  match t with
  | [] => .stop p t
  | '\x27' :: _ => marksStep '\x27' p t
  | c :: r =>
    if isPlain c then .more (p.push c) r
    else
      match afterNewline? t with
      | some rest => .more (p.push '\n') rest
      | none => .stop p t

def run? (step : Partial → Text → Text.Step Partial) (t : Text) : Option (Text × Text) :=
  match Text.iterate step {} t with
  | (p, rest) => if p.complete then some (p.chars.reverse, rest) else none

/-- A line end directly after the opening marks does not count. -/
def afterOpening (t : Text) : Text := (afterNewline? t).getD t

end Quoted

def lineString? : Text → Option (Text × Text)
  | '"' :: r => Quoted.run? Quoted.basicStep r
  | '\x27' :: r => Quoted.run? Quoted.literalStep r
  | _ => none

def string? : Text → Option (Text × Text)
  | '"' :: '"' :: '"' :: r => Quoted.run? Quoted.multilineBasicStep (Quoted.afterOpening r)
  | '\x27' :: '\x27' :: '\x27' :: r =>
    Quoted.run? Quoted.multilineLiteralStep (Quoted.afterOpening r)
  | t => lineString? t

end Toml
end ColumnBlocks
