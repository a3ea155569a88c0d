import ColumnBlocks.Markdown.Chars

/-
Links in angle brackets: an address with a scheme, or a mail address.  The functions are given what
follows the `<`, and return the address and what follows the `>`.
-/
namespace ColumnBlocks
namespace Markdown
namespace Autolink

def isSchemeChar (c : Char) : Bool := c.isAlphanum || c == '.' || c == '-' || c == '+'

/-- A scheme has between two and 32 characters, the first of them a letter. -/
def isScheme (t : Text) : Bool :=
  2 ≤ t.length && t.length ≤ 32 && (t.head?.map Char.isAlpha).getD false

def isAddressChar (c : Char) : Bool := c != '>' && c != '<' && ' ' < c

def address? (t : Text) : Option (Text × Text) :=
  let scheme := t.takeWhile isSchemeChar
  match t.drop scheme.length with
  | ':' :: r =>
    let path := r.takeWhile isAddressChar
    match r.drop path.length with
    | '>' :: rest => if isScheme scheme then some (scheme ++ ':' :: path, rest) else none
    | _ => none
  | _ => none

/-- The characters of the local part of a mail address. -/
def isLocalChar (c : Char) : Bool :=
  c.isAlphanum || ".!#$%&'*+/=?^_\x60\x7b|\x7d~-".toList.contains c

/-- A label of a host name: letters, digits and inner hyphens, at most 63 of them. -/
def isHostLabel (t : Text) : Bool :=
  !t.isEmpty && t.length ≤ 63 && t.head? != some '-' && t.getLast? != some '-' &&
    t.all fun c => c.isAlphanum || c == '-'

def mail? (t : Text) : Option (Text × Text) :=
  let person := t.takeWhile isLocalChar
  match t.drop person.length with
  | '@' :: r =>
    let host := r.takeWhile fun c => c.isAlphanum || c == '-' || c == '.'
    match r.drop host.length with
    | '>' :: rest =>
      if !person.isEmpty && (host.splitOn '.').all isHostLabel then
        some (person ++ '@' :: host, rest)
      else none
    | _ => none
  | _ => none

end Autolink

def autolink? (t : Text) : Option (Text × Text) := (Autolink.address? t).or (Autolink.mail? t)

end Markdown
end ColumnBlocks
