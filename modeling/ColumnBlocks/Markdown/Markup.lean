import ColumnBlocks.Markdown.Container
import ColumnBlocks.Text.Iterate

/-
Raw HTML in Markdown: which tags, comments and declarations can stand among inline content, and
which lines start a block of HTML.  All functions are given what follows a `<`, and the ones that
read a construct return what follows it.  A tag may go on over several lines when it is given the
containers that these stand in, and then goes on behind their marks.
-/
namespace ColumnBlocks
namespace Markdown
namespace Markup

/-! ## Tags -/

/-- What follows the end of a line inside a tag. -/
def nextLine? (lines : Option (List Container)) (t : Text) : Option Text := do
  let ks ← lines
  match t with
  | [] => none
  | _ => return Container.lineStart ks (← afterLineEnd? t)

/-- Reads blanks and the end of a line. -/
def spaceStep (lines : Option (List Container)) (_ : Unit) (t : Text) : Text.Step Unit :=
  let t := dropBlanks t
  match nextLine? lines t with
  | some rest => .more () rest
  | none => .stop () t

/-- What follows the white space inside a tag. -/
def afterSpace (lines : Option (List Container)) (t : Text) : Text :=
  (Text.iterate (spaceStep lines) () t).2

def isAttributeStart (c : Char) : Bool := c.isAlpha || c == '_' || c == ':'

def isAttributeChar (c : Char) : Bool :=
  c.isAlphanum || c == '_' || c == '.' || c == ':' || c == '-'

/-- The characters that end a value without quotation marks. -/
def endsValue (c : Char) : Bool :=
  c == '\x27' || c == '"' || c == ' ' || c == '=' || c == '>' || c == '<' || c == '\x60' ||
    isLineEnd c

/-- Reads a line of a quoted value, up to the quotation mark when it stands there. -/
def quotedStep (lines : Option (List Container)) (quote : Char) (_ : Bool) (t : Text) :
    Text.Step Bool :=
  let t := t.dropWhile fun c => c != quote && !isLineEnd c
  match nextLine? lines t with
  | some rest => .more false rest
  | none =>
    match t with
    | c :: r => if c == quote then .stop true r else .stop false t
    | [] => .stop false t

/-- What follows a quoted value, from after its opening quotation mark. -/
def afterQuoted? (lines : Option (List Container)) (quote : Char) (t : Text) : Option Text :=
  match Text.iterate (quotedStep lines quote) false t with
  | (true, rest) => some rest
  | (false, _) => none

def afterValue? (lines : Option (List Container)) : Text → Option Text
  | '"' :: r => afterQuoted? lines '"' r
  | '\x27' :: r => afterQuoted? lines '\x27' r
  | c :: r => if endsValue c then none else some ((c :: r).dropWhile fun c => !endsValue c)
  | [] => none

def afterAttribute? (lines : Option (List Container)) : Text → Option Text
  | c :: r => do
    guard (isAttributeStart c)
    let t := r.dropWhile isAttributeChar
    match afterSpace lines t with
    | '=' :: value => afterValue? lines (afterSpace lines value)
    | _ => some t
  | [] => none

/-- One attribute with the white space before it, for the attributes of an open tag. -/
def attributeStep (lines : Option (List Container)) (_ : Bool) (t : Text) : Text.Step Bool :=
  match afterSpace lines t with
  | [] => .stop false t
  | c :: r =>
    if c == '/' || c == '>' then .stop true (c :: r)
    else if r.length + 1 == t.length then .stop false t
    else
      match afterAttribute? lines (c :: r) with
      | some rest => .more false rest
      | none => .stop false t

/-- What follows the end of a tag. -/
def afterTagEnd? (t : Text) : Option Text := Text.after? ['>'] t

/-- What follows a tag. -/
def afterTag? (lines : Option (List Container)) : Text → Option Text
  | '/' :: c :: r => do
    guard c.isAlpha
    afterTagEnd? (dropBlanks (r.dropWhile fun c => c.isAlphanum || c == '-'))
  | c :: r => do
    guard c.isAlpha
    match Text.iterate (attributeStep lines) false
        (r.dropWhile fun c => c.isAlphanum || c == '-') with
    | (true, '/' :: rest) | (true, rest) => afterTagEnd? rest
    | _ => none
  | [] => none

/-- Reads one line, and the marks of the containers before the next one. -/
def bareStep (ks : List Container) (read t : Text) : Text.Step Text :=
  let line := lineOf t
  match afterLineEnd? (t.drop line.length) with
  | none | some [] => .stop (read ++ t) []
  | some rest => .more (read ++ Text.upTo rest t) (Container.lineStart ks rest)

/-- Lines without the marks of the containers before them. -/
def bare (ks : List Container) (t : Text) : Text := (Text.iterate (bareStep ks) [] t).1

/-! ## Comments and declarations -/

/-- What follows the first place where `w` stands. -/
def afterFirst? (w : Text) : Text → Option Text
  | [] => Text.after? w []
  | c :: r =>
    match Text.after? w (c :: r) with
    | some rest => some rest
    | none => afterFirst? w r

/-- What follows a comment, from after its opening.  The shortest comments end at once. -/
def afterComment? : Text → Option Text
  | '>' :: r => some r
  | '-' :: '>' :: r => some r
  | t => afterFirst? "-->".toList t

/-- What follows literal character data, from after its opening. -/
def afterCharacterData? (t : Text) : Option Text :=
  match t.dropWhile (· != ']') with
  | ']' :: r => afterTagEnd? (r.dropWhile (· == ']'))
  | _ => none

/-- What follows a comment, a declaration, an instruction or literal character data. -/
def afterSpecial? : Text → Option Text
  | '?' :: r => afterFirst? "?>".toList r
  | '!' :: '-' :: '-' :: r => afterComment? r
  | '!' :: '[' :: r =>
    match Text.after? "CDATA[".toList r with
    | some data => afterCharacterData? data
    | none => none
  | '!' :: c :: r => if c.isAlpha then afterFirst? ['>'] r else none
  | _ => none

/-- A piece of markup among inline content, and what follows it.  A tag is read without the marks of
the containers before its lines, and everything else as it stands, marks included. -/
def inline? (ks : List Container) (t : Text) : Option (Text × Text) :=
  match t with
  | '?' :: _ | '!' :: _ => (afterSpecial? t).map fun rest => (Text.upTo rest t, rest)
  | _ => (afterTag? (some ks) t).map fun rest => (bare ks (Text.upTo rest t), rest)

/-! ## Blocks -/

/-- The elements whose content is taken literally up to their end tag. -/
def literalElements : List (Text × Text) :=
  [("pre", "</pre>"), ("style", "</style>"), ("script", "</script>"),
    ("textarea", "</textarea>")].map fun (name, close) => (name.toList, close.toList)

/-- The elements of which any tag starts a block. -/
def blockElements : List Text :=
  ["address", "article", "aside", "base", "basefont", "blockquote", "body", "caption", "center",
    "col", "colgroup", "dd", "details", "dialog", "dir", "div", "dl", "dt", "fieldset",
    "figcaption", "figure", "footer", "form", "frame", "frameset", "h1", "h2", "h3", "h4", "h5",
    "h6", "head", "header", "hr", "html", "iframe", "legend", "li", "link", "main", "menu",
    "menuitem", "nav", "noframes", "ol", "optgroup", "option", "p", "param", "search", "section",
    "summary", "table", "tbody", "td", "tfoot", "th", "thead", "title", "tr", "track",
    "ul"].map String.toList

def lower (t : Text) : Text := t.map Char.toLower

/-- The closing text of the literal element that starts here. -/
def literalElementEnd? (t : Text) : Option Text :=
  let name := lower (t.takeWhile Char.isAlpha)
  match t.drop name.length with
  | [] => literalElements.lookup name
  | c :: _ => if isWhite c || c == '>' then literalElements.lookup name else none

/-- The text that closes a block of HTML, when the block goes on to that text. -/
def closingText? (t : Text) : Option Text :=
  match literalElementEnd? t, t with
  | some close, _ => some close
  | none, '!' :: '-' :: '-' :: _ => some "-->".toList
  | none, '?' :: _ => some "?>".toList
  | none, '!' :: r =>
    if (Text.after? "[CDATA[".toList r).isSome then some "]]>".toList
    else if (r.takeWhile Char.isAlpha).isEmpty then none
    else some ">".toList
  | none, _ => none

/-- Whether a tag of a block element starts here. -/
def startsBlockElement (t : Text) : Bool :=
  let t := match t with
    | '/' :: r => r
    | t => t
  let name := t.takeWhile Char.isAlphanum
  blockElements.contains (lower name) &&
    match t.drop name.length with
    | [] => true
    | '/' :: '>' :: _ => true
    | c :: _ => isIndent c || isLineEnd c || c == '>'

def isTagLine (t : Text) : Bool :=
  match afterTag? none t with
  | some rest => atBlankLine rest
  | none => false

/-- Whether a block of HTML that starts here can follow a paragraph directly. -/
def interrupts (t : Text) : Bool := (closingText? t).isSome || startsBlockElement t

end Markup
end Markdown
end ColumnBlocks
