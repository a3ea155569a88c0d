import ColumnBlocks.Node.Basic
import ColumnBlocks.Text.Iterate

/-
Tokens of HTML, which are tags and the text between them, and a reader that takes a text apart into
tokens.  It knows start tags with attributes in double quotes, end tags, text, and the entities of the
four characters that HTML has a use for.  Everything else is refused, such as comments, declarations
and attributes without quotation marks.
-/
namespace ColumnBlocks
namespace Html

inductive Token where
  | opens (name : Text) (attributes : List Attribute)
  | closes (name : Text)
  | text (s : Text)
deriving DecidableEq, Repr

/-- A text with the characters that its entities stand for.  An ampersand that begins no entity stands
for itself. -/
def decode : Text → Text
  | [] => []
  | '&' :: 'a' :: 'm' :: 'p' :: ';' :: r => '&' :: decode r
  | '&' :: 'l' :: 't' :: ';' :: r => '<' :: decode r
  | '&' :: 'g' :: 't' :: ';' :: r => '>' :: decode r
  | '&' :: 'q' :: 'u' :: 'o' :: 't' :: ';' :: r => '"' :: decode r
  | c :: r => c :: decode r

def isBlank (c : Char) : Bool := [' ', '\t', '\n', '\r', '\x0c'].contains c

/-- What can stand in a name: neither white space nor a character that delimits tags, attributes,
entities, comments or declarations. -/
def isNameChar (c : Char) : Bool :=
  !isBlank c && !(['<', '>', '"', '\x27', '=', '/', '&', '!', '?'].contains c)

def isName (t : Text) : Bool := !t.isEmpty && t.all isNameChar

def name? (t : Text) : Option (Text × Text) :=
  let name := t.takeWhile isNameChar
  if name.isEmpty then none else some (name, t.dropWhile isNameChar)

def attribute? (t : Text) : Option (Attribute × Text) := do
  let (name, r) ← name? t
  let r ← Text.after? ['=', '"'] r
  let rest ← Text.after? ['"'] (r.dropWhile (· != '"'))
  return (⟨name, decode (r.takeWhile (· != '"'))⟩, rest)

def attributeStep (as : List Attribute) (t : Text) : Text.Step (List Attribute) :=
  match attribute? (t.dropWhile isBlank) with
  | some (a, rest) => .more (as ++ [a]) rest
  | none => .stop as t

def afterTag? (t : Text) : Option Text := Text.after? ['>'] (t.dropWhile isBlank)

def startTag? (t : Text) : Option (Token × Text) := do
  let (name, r) ← name? t
  let (as, r) := Text.iterate attributeStep [] r
  let rest ← afterTag? r
  return (.opens name as, rest)

def endTag? (t : Text) : Option (Token × Text) := do
  let (name, r) ← name? t
  let rest ← afterTag? r
  return (.closes name, rest)

/-- The token at the start of a text, and what follows it.  Text goes on to the next tag. -/
def token? : Text → Option (Token × Text)
  | [] => none
  | '<' :: '/' :: r => endTag? r
  | '<' :: r => startTag? r
  | t => some (.text (decode (t.takeWhile (· != '<'))), t.dropWhile (· != '<'))

def tokenStep (ts : List Token) (t : Text) : Text.Step (List Token) :=
  match token? t with
  | some (token, rest) => .more (ts ++ [token]) rest
  | none => .stop ts t

/-- The tokens of a text, if it consists of tokens. -/
def tokens? (t : Text) : Option (List Token) :=
  let (ts, rest) := Text.iterate tokenStep [] t
  if rest.isEmpty then some ts else none

end Html
end ColumnBlocks
