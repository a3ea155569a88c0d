import ColumnBlocks.Markdown.Container
import ColumnBlocks.Markdown.Entity

/-
The parts of a link: its destination, its title, and both of them in parentheses after the text of
the link.  They may go on over several lines, behind the marks of the containers `ks`.
-/
namespace ColumnBlocks
namespace Markdown

structure LinkTarget where
  destination : Text
  title : Text := []
deriving DecidableEq, Repr

def LinkTarget.byteLength (target : LinkTarget) : Nat :=
  target.destination.byteLength + target.title.byteLength

namespace Link

/-- A text with its escapes and character references replaced.  In a table the bar is written with
a backslash before it, and a backslash before that one is none of its own. -/
def unescape (inTable : Bool) : Text → Text
  | [] => []
  | '\\' :: '\\' :: '|' :: r =>
    if inTable then '|' :: unescape inTable r else '\\' :: '|' :: unescape inTable r
  | '\\' :: c :: r =>
    if Text.isAsciiPunctuation c then c :: unescape inTable r
    else '\\' :: unescape inTable (c :: r)
  | '&' :: r =>
    match entity? r with
    | some (chars, rest) =>
      if rest.length ≤ r.length then chars ++ unescape inTable rest else chars
    | none => '&' :: unescape inTable r
  | '\r' :: r => unescape inTable r
  | c :: r => c :: unescape inTable r
termination_by t => t.length

/-! ## Destinations -/

/-- A destination between angle brackets, from after the first, as it is written. -/
def bracketed? : Text → Option (Text × Text)
  | [] => none
  | '>' :: rest => some ([], rest)
  | '\\' :: c :: r =>
    if Text.isAsciiPunctuation c then (bracketed? r).map fun (d, rest) => ('\\' :: c :: d, rest)
    else (bracketed? (c :: r)).map fun (d, rest) => ('\\' :: d, rest)
  | c :: r =>
    if isLineEnd c || c == '<' then none
    else (bracketed? r).map fun (d, rest) => (c :: d, rest)
termination_by t => t.length

/-- Parentheses may nest this deep in a destination. -/
def depth : Nat := 33

/-- A destination without brackets around it.  Parentheses in it are balanced, and `nest` of them
are open. -/
def bare? (nest : Nat) : Text → Option (Text × Text)
  | [] => if nest = 0 then some ([], []) else none
  | '\\' :: c :: r =>
    if Text.isAsciiPunctuation c then
      (bare? nest r).map fun (d, rest) => ('\\' :: c :: d, rest)
    else (bare? nest (c :: r)).map fun (d, rest) => ('\\' :: d, rest)
  | '(' :: r =>
    if nest < depth then (bare? (nest + 1) r).map fun (d, rest) => ('(' :: d, rest)
    else none
  | ')' :: r =>
    match nest with
    | 0 => some ([], ')' :: r)
    | nest + 1 => (bare? nest r).map fun (d, rest) => (')' :: d, rest)
  | c :: r =>
    if c ≤ ' ' then (if nest = 0 then some ([], c :: r) else none)
    else (bare? nest r).map fun (d, rest) => (c :: d, rest)
termination_by t => t.length

/-- A destination as it is written, and what follows it. -/
def destination? : Text → Option (Text × Text)
  | '<' :: r => bracketed? r
  | t => bare? 0 t

/-! ## Titles -/

/-- The character that closes a title. -/
def titleClose? : Char → Option Char
  | '"' => some '"'
  | '\x27' => some '\x27'
  | '(' => some ')'
  | _ => none

/-- The line that a title goes on with.  A character that is escaped at its very start stands there
without the backslash. -/
def titleLine (ks : List Container) (t : Text) : Text :=
  match Container.contentStart ks t with
  | '\\' :: c :: r => if Text.isAsciiPunctuation c then c :: r else '\\' :: c :: r
  | t => t

/-- A title that `close` ends, from after its opening: its characters, and what follows it.  A title
in parentheses holds no further opening one, and lines lose their indentation. -/
def titleRest? (ks : List Container) (inTable : Bool) (close : Char) : Text → Option (Text × Text)
  | [] => none
  | c :: r =>
    let onwards (chars rest : Text) : Option (Text × Text) :=
      if rest.length ≤ r.length then
        (titleRest? ks inTable close rest).map fun (t, rest) => (chars ++ t, rest)
      else none
    if c == close then some ([], r)
    else if c == '(' && close == ')' then none
    else if c == '\n' || (c == '\r' && r.head? != some '\n') then onwards ['\n'] (titleLine ks r)
    else if c == '&' then
      match entity? r with
      | some (chars, rest) => onwards chars rest
      | none => onwards ['&'] r
    else if c == '\\' then
      match r with
      | '\\' :: '|' :: r' =>
        if inTable then onwards ['|'] r' else onwards ['\\'] ('|' :: r')
      | d :: r' => if Text.isAsciiPunctuation d then onwards [d] r' else onwards ['\\'] r
      | [] => none
    else onwards [c] r
termination_by t => t.length

def title? (ks : List Container) (inTable : Bool) : Text → Option (Text × Text)
  | [] => none
  | c :: r => do titleRest? ks inTable (← titleClose? c) r

/-! ## Targets in parentheses -/

/-- The white space between the parts of a link: blanks, one line end at most, and blanks. -/
def separator (ks : List Container) (t : Text) : Text :=
  let t := dropBlanks t
  match t with
  | [] => []
  | _ => dropBlanks (((afterLineEnd? t).map (Container.lineStart ks)).getD t)

/-- The target in parentheses after the text of a link. -/
def inlineTarget? (ks : List Container) (inTable : Bool) : Text → Option (LinkTarget × Text)
  | '(' :: r => do
    let (destination, r) ← destination? (separator ks r)
    let r := separator ks r
    let (title, r) :=
      match title? ks inTable r with
      | some (title, rest) => (title, separator ks rest)
      | none => ([], r)
    let rest ← Text.after? [')'] r
    return ({ destination := unescape inTable destination, title }, rest)
  | _ => none

end Link
end Markdown
end ColumnBlocks
