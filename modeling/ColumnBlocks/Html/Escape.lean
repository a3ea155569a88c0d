import ColumnBlocks.Text.Basic

/-
Escapes of HTML.  In text the characters that open a tag or an entity are escaped, and in the value
of an attribute also the quotation mark around it.
-/
namespace ColumnBlocks
namespace Html

def escapeTextChar : Char → Text
  | '&' => "&amp;".toList
  | '<' => "&lt;".toList
  | '>' => "&gt;".toList
  | c => [c]

def escapeValueChar : Char → Text
  | '"' => "&quot;".toList
  | c => escapeTextChar c

def escapeText (t : Text) : Text := t.flatMap escapeTextChar

def escapeValue (t : Text) : Text := t.flatMap escapeValueChar

end Html
end ColumnBlocks
