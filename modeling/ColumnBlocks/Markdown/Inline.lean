import ColumnBlocks.Markdown.Autolink
import ColumnBlocks.Markdown.CodeSpan
import ColumnBlocks.Markdown.Definition
import ColumnBlocks.Markdown.Emphasis
import ColumnBlocks.Markdown.Markup
import ColumnBlocks.Markdown.Passage
import ColumnBlocks.Text.Space

/-
Inline content.  A passage is read once from left to right.  A bracket that opens waits for the one
that closes it, which may make a link of what stands between them; when it does, the emphasis inside
the link is found at once, and marks inside and outside never meet.
-/
namespace ColumnBlocks
namespace Markdown
namespace Inline

structure Context where
  labels : Labels
  /-- The containers that the lines stand in. -/
  containers : List Container := []
  inTable : Bool := false
  /-- What stands behind the text. -/
  tail : LineTail := .nothing

structure Bracket where
  image : Bool
  /-- A link may start here.  Links do not contain links. -/
  active : Bool := true
  /-- What follows the bracket. -/
  source : Text
  /-- The pieces before the bracket, the last one first. -/
  before : List Piece
deriving Repr

/-- What was read last, as far as the end of a heading depends on it. -/
inductive Latest where
  | text
  /-- A run of marks, which may become emphasis or stay text. -/
  | marks
  /-- Something of its own: code, a reference to a character, or what a label stands for. -/
  | settled
  /-- Something that ends inside text: markup, an address, or the target of a link. -/
  | insideText
deriving DecidableEq, Repr

structure State where
  /-- The open brackets, the innermost first. -/
  brackets : List Bracket := []
  /-- The pieces since the innermost open bracket, the last one first. -/
  pieces : List Piece := []
  /-- The character before the position, unless a line starts there. -/
  previous : Option Char := none
  /-- A line starts at the position. -/
  atLineStart : Bool := true
  latest : Latest := .text
  /-- A character was read that can stand for more than itself. -/
  special : Bool := false
  /-- How many bytes the targets of labels may still have. -/
  allowance : Nat
deriving Repr

def textPiece (t : Text) : Piece := .event (.text t)

/-- An opening bracket as text. -/
def Bracket.opening (b : Bracket) : Piece := textPiece (if b.image then ['!', '['] else ['['])

namespace State

def put (latest : Latest) (p : Piece) (s : State) : State :=
  { s with pieces := p :: s.pieces, latest }

def putText (t : Text) (s : State) : State := s.put .text (textPiece t)

/-- Notes that a character was read that can stand for more than itself. -/
def mindful (s : State) : State := { s with special := true }

def openBracket (s : State) (image : Bool) (source : Text) : State :=
  { s.mindful with
    brackets := { image, source, before := s.pieces } :: s.brackets
    pieces := []
    latest := .text }

/-- Pieces with the ones before them, when their brackets turn out to be text. -/
def flatten (pieces : List Piece) : List Bracket → List Piece
  | [] => pieces
  | b :: outer => flatten (pieces ++ b.opening :: b.before) outer

end State

/-! ## Emphasis marks -/

def isMark (c : Char) : Bool := c == '*' || c == '_' || c == '~'

/-- A run of marks between two characters.  Marks open before a character that is not white space
and close after one; at the edges of a word of letters both hold for `*` and `~~`, and for the
others the side away from the word counts. -/
def markBetween (previous next : Option Char) (c : Char) (n : Nat) : Mark :=
  let outward (d : Char) : Bool := Text.isSpace d || Text.isPunctuation d
  let opens :=
    match previous, next with
    | _, none => false
    | none, some d => !Text.isSpace d
    | some p, some d =>
      !Text.isSpace d &&
        ((c == '*' && !Text.isPunctuation d) || (c == '~' && 1 < n) ||
          (c == '~' && p == '~' && !Text.isPunctuation d) || outward p)
  let closes :=
    match previous, next with
    | none, _ => false
    | some p, none => !Text.isSpace p
    | some p, some d =>
      !Text.isSpace p &&
        (((c == '*' || (c == '~' && 1 < n)) && !Text.isPunctuation p) || (c == '~' && p == '~') ||
          outward d)
  { char := c, length := n, opens, closes }

def readMarks (s : State) (c : Char) (t : Text) : State × Text :=
  let (n, rest) := run c t
  let m := markBetween s.previous rest.head? c n
  if (m.opens || m.closes) && (c != '~' || n ≤ 2) then (s.mindful.put .marks (.mark m), rest)
  else (s.putText (List.replicate n c), rest)

/-! ## Brackets -/

/-- What a closing bracket makes of the content since the opening one. -/
inductive Meaning where
  /-- A link whose target is written out. -/
  | direct (target : LinkTarget) (rest : Text)
  /-- A link whose target a label stands for. -/
  | reference (target : LinkTarget) (rest : Text)
  | footnote (label : Text)
  | none

/-- The meaning with a reference left out when targets of labels may have no more bytes. -/
def Meaning.within (allowance : Nat) : Meaning → Meaning
  | .reference target rest => if allowance = 0 then .none else .reference target rest
  | m => m

/-- The label of a link or a footnote, from after its opening bracket. -/
def anyLabel? (ctx : Context) (t : Text) : Option (Bool × Text × Text) :=
  let footnote? := match t with
    | '^' :: c :: r =>
      if c == ']' then Option.none else label? (fun _ => .none) ctx.inTable (c :: r)
    | _ => Option.none
  match footnote? with
  | some (label, rest) => some (true, label, rest)
  | .none =>
    (label? (fun t => some (Container.lineStart ctx.containers t)) ctx.inTable t).map
      fun (label, rest) => (false, label, rest)

def byLabel (ctx : Context) (label after : Text) : Meaning :=
  (ctx.labels.link? label).elim .none (.reference · after)

/-- What the content between the brackets itself stands for, when it is a label.  The text `rest`
follows the closing bracket, and `after` what belongs to a link.  A label has no white space behind
it that is a part of the heading. -/
def ownMeaning (ctx : Context) (b : Bracket) (rest after : Text) : Meaning :=
  let covered := match ctx.tail with
    | .blanks _ => rest.isEmpty
    | _ => false
  match if covered then Option.none else anyLabel? ctx b.source with
  | .none => .none
  | some (isFootnote, label, labelEnd) =>
    if labelEnd.length != rest.length then .none
    else if isFootnote then (if ctx.labels.hasFootnote label then .footnote label else .none)
    else byLabel ctx label after

/-- What the content between brackets becomes, from what follows the closing one: a target in
parentheses, a label in brackets, an empty pair of brackets, or nothing of that.  The bracket of the
label may be escaped. -/
def meaning (ctx : Context) (b : Bracket) (rest : Text) : Meaning :=
  match Link.inlineTarget? ctx.containers ctx.inTable rest with
  | some (target, rest) => .direct target rest
  | .none =>
    match rest with
    | '[' :: ']' :: after | '\\' :: '[' :: ']' :: after => ownMeaning ctx b rest after
    | '[' :: r | '\\' :: '[' :: r =>
      match anyLabel? ctx r with
      | some (false, label, after) => byLabel ctx label after
      | _ => ownMeaning ctx b rest rest
    | _ => ownMeaning ctx b rest rest

/-- The events of a link or an image around its content. -/
def linkEvents (image : Bool) (target : LinkTarget) (content : List Event) : List Event :=
  let tag := if image then Tag.image target.destination target.title
    else Tag.link target.destination target.title
  .start tag :: content ++ [.stop]

/-- Makes a link of the content since a bracket.  A backslash at the end of the last line is no
break when there are marks to look at. -/
def State.closeLink (s : State) (b : Bracket) (outer : List Bracket) (target : LinkTarget)
    (latest : Latest) : State :=
  let content := if s.pieces.any Piece.isMark then Piece.endWithBackslash s.pieces else s.pieces
  let events := linkEvents b.image target (Emphasis.resolve content.reverse)
  { s with
    brackets := if b.image then outer
      else outer.map fun b => { b with active := b.active && b.image }
    pieces := events.reverse.map Piece.event ++ b.before
    latest }

def closeBracket (ctx : Context) (s : State) (rest : Text) : State × Text :=
  let s := s.mindful
  match s.brackets with
  | [] => (s.putText [']'], rest)
  | b :: outer =>
    match if b.active then (meaning ctx b rest).within s.allowance else .none with
    | .none =>
      ({ s with
          brackets := outer
          pieces := textPiece [']'] :: (s.pieces ++ b.opening :: b.before)
          latest := .text }, rest)
    | .footnote label =>
      let before := if b.image then textPiece ['!'] :: b.before else b.before
      ({ s with
          brackets := []
          pieces := .event (.footnoteReference label) :: State.flatten before outer
          latest := .settled }, rest)
    | .direct target rest => (s.closeLink b outer target .insideText, rest)
    | .reference target rest =>
      let s := { s with allowance := s.allowance - target.byteLength }
      (s.closeLink b outer target .settled, rest)

/-! ## Breaks and escapes -/

/-- Breaks the line at the end of one. -/
def breakLine (ctx : Context) (s : State) (p : Piece) (t : Text) : State × Text :=
  ({ s.put .text p with atLineStart := true },
    Container.contentStart ctx.containers ((afterLineEnd? t).getD []))

/-- Reads a row of backticks after `read`, and the code that it opens. -/
def readBackticks (ctx : Context) (s : State) (t : Text) : State × Text :=
  let (n, rest) := run '\x60' t
  match if n = 0 then none else codeSpan? ctx.containers ctx.inTable n rest with
  | some (code, rest) => (s.mindful.put .settled (.event (.code code)), rest)
  | none => (s.mindful.putText (List.replicate n '\x60'), rest)

def readEscape (ctx : Context) (s : State) (t : Text) : State × Text :=
  match t with
  | [] => (s.putText ['\\'], [])
  | '\\' :: '|' :: r =>
    if ctx.inTable then (s.putText ['|'], r) else (s.putText ['\\'], '|' :: r)
  | c :: r =>
    if isLineEnd c then breakLine ctx s .escapedBreak (c :: r)
    else if c == '\x60' then readBackticks ctx (s.putText [c]) r
    else if Text.isAsciiPunctuation c then (s.putText [c], r)
    else (s.putText ['\\'], c :: r)

/-- Reads blanks.  Two or more of them at the end of a line break it, and at the end of the passage
they count only before a closing row of marks. -/
def readBlanks (ctx : Context) (s : State) (t : Text) : State × Text :=
  let rest := dropBlanks t
  let blanks := Text.upTo rest t
  match rest with
  | [] => (if ctx.tail == .marks then s.putText blanks else s, [])
  | c :: _ =>
    if isLineEnd c then
      breakLine ctx s (.event (if 2 ≤ blanks.length then .hardBreak else .softBreak)) rest
    else (s.putText blanks, rest)

/-! ## Angle brackets -/

/-- What remains of the line at whose marks a text stops, when it stops there: `t` goes over the
line ends, and `rest` is its end. -/
def afterMarks? (ks : List Container) (t rest : Text) : Option Text :=
  let read := Text.upTo rest t
  let line := (read.reverse.takeWhile fun c => !isLineEnd c).length
  let content := Container.contentStart ks (t.drop (read.length - line))
  if line < read.length && content.length ≤ rest.length then some content else none

def readAngle (ctx : Context) (s : State) (t : Text) : State × Text :=
  let s := if t.head? == some '\\' then s else s.mindful
  match autolink? t with
  | some (address, rest) =>
    let events := linkEvents false { destination := address } [.text address]
    (events.foldl (fun s e => s.put .insideText (.event e)) s, rest)
  | none =>
    match Markup.inline? ctx.containers t with
    | some (raw, rest) =>
      let s := s.put .insideText (.event (.inlineHtml ('<' :: raw)))
      match afterMarks? ctx.containers t rest with
      | some rest => ({ s with atLineStart := true }, rest)
      | none => (s, rest)
    | none => (s.putText ['<'], t)

/-! ## The passage -/

/-- The characters at which text may end. -/
def isSpecial (c : Char) : Bool :=
  isWhite c || isMark c || "\\\x60<&![]".toList.contains c

def readOne (ctx : Context) (s : State) : Text → State × Text
  | [] => (s, [])
  | '!' :: '[' :: r => (s.openBracket true r, r)
  | c :: r =>
    if isMark c then readMarks s c (c :: r)
    else if isBlank c then readBlanks ctx s (c :: r)
    else if isLineEnd c then breakLine ctx s (.event .softBreak) (c :: r)
    else
      match c with
      | '\\' => readEscape ctx s r
      | '\x60' => readBackticks ctx s (c :: r)
      | '<' => readAngle ctx s r
      | '&' =>
        match entity? r with
        | some (chars, rest) => (s.put .settled (textPiece chars), rest)
        | none => (s.putText [c], r)
      | '[' => (s.openBracket false r, r)
      | ']' => closeBracket ctx s r
      | _ =>
        let word := r.takeWhile (!isSpecial ·)
        (s.putText (c :: word), r.drop word.length)

def step (ctx : Context) (s : State) (t : Text) : Text.Step State :=
  if t.isEmpty then .stop s t
  else
    let (s', rest) := readOne ctx { s with atLineStart := false } t
    let previous :=
      if s'.atLineStart then none else (Text.upTo rest t).getLast?.or s.previous
    .more { s' with previous } rest

/-- Adds what stands behind the text.  White space stays with a text before it, and where a closing
row of marks was taken away an empty text stays, unless the row was cut from a text of which the
rest is used. -/
def State.finish (tail : LineTail) (s : State) : State :=
  match tail with
  | .nothing => s
  | .marks => if s.latest == .insideText then s else s.putText []
  | .blanks t =>
    match s.latest, s.pieces with
    | .settled, _ => s
    | .marks, .mark m :: ps => { s with pieces := .mark { m with tail := t } :: ps }
    | _, _ => s.putText t

/-- The events of a passage, and what is left of the allowance. -/
def read (ctx : Context) (t : Text) (allowance : Nat) : List Event × Nat :=
  let (s, _) := Text.iterate (step ctx) { allowance } t
  let s := s.finish ctx.tail
  let pieces := State.flatten s.pieces s.brackets
  let pieces := if s.special then Piece.endWithBackslash pieces else pieces
  (Emphasis.resolve pieces.reverse, s.allowance)

end Inline

def Passage.events (labels : Labels) (inTable : Bool) (p : Passage) : Expanding (List Event) :=
  modifyGet (Inline.read { labels, containers := p.containers, inTable, tail := p.tail } p.text)

end Markdown
end ColumnBlocks
