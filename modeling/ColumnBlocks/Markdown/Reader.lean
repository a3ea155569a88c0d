import ColumnBlocks.Markdown.Block
import ColumnBlocks.Markdown.Definition
import ColumnBlocks.Markdown.Interruption
import ColumnBlocks.Markdown.Literal

/-
From text to blocks, line by line.  The containers that are open form a stack; a line first says in
which of them it stands, may then open further ones, and what remains of it opens a leaf, which may
take further lines.
-/
namespace ColumnBlocks
namespace Markdown

/-- A container that is open, with its blocks so far, the last one first. -/
structure Frame where
  container : Container
  content : List Block := []
deriving Repr

/-- The block of a container that closes now. -/
def Frame.toBlock (f : Frame) : Block :=
  let content := f.content.reverse
  match f.container with
  | .quote => .quote content
  | .list _ first tight => .list first tight content
  | .item _ => .item content
  | .footnote label => .footnote label content

/-- The frame with its list loose, when it is the one of a list. -/
def Frame.loosen (f : Frame) : Frame :=
  match f.container with
  | .list mark first _ => { f with container := .list mark first false }
  | _ => f

/-- Whether the frame is the one of a list whose paragraphs are not set apart. -/
def Frame.isTightList (f : Frame) : Bool :=
  match f.container with
  | .list _ _ tight => tight
  | _ => false

structure Reader where
  /-- The open containers, the innermost first. -/
  frames : List Frame := []
  /-- The finished blocks of the document, the last one first. -/
  blocks : List Block := []
  /-- The line before was blank, so that a list is loose if it goes on. -/
  afterBlank : Bool := false
  /-- An item has opened without content, and nothing has come after it. -/
  emptyItem : Bool := false
  labels : Labels := {}
deriving Repr

namespace Reader

/-! ## The stack -/

def containers (r : Reader) : List Container := (r.frames.map (·.container)).reverse

def put (b : Block) (r : Reader) : Reader :=
  match r.frames with
  | [] => { r with blocks := b :: r.blocks }
  | f :: outer => { r with frames := { f with content := b :: f.content } :: outer }

def enter (k : Container) (r : Reader) : Reader :=
  { r with frames := { container := k } :: r.frames }

def leave (r : Reader) : Reader :=
  match r.frames with
  | [] => r
  | f :: outer => { r with frames := outer }.put f.toBlock

/-- Closes the innermost `n` containers. -/
def leaveMany (n : Nat) (r : Reader) : Reader := n.repeat leave r

/-! ## Lists -/

/-- Closes all but the outermost `n` containers.  An item without content counts no longer when a
tight list is among them. -/
def closeTo (n : Nat) (r : Reader) : Reader :=
  let closed := r.frames.take (r.frames.length - n)
  { r.leaveMany closed.length with emptyItem := r.emptyItem && !closed.any Frame.isTightList }

def inList (r : Reader) : Bool :=
  match r.frames with
  | { container := .list _ _ _, .. } :: _ => true
  | _ => false

/-- Makes the list loose in which the innermost container is an item, after a blank line. -/
def loosenOuter (r : Reader) : Reader :=
  if r.afterBlank then
    match r.frames with
    | f :: g :: outer => { r with frames := f :: g.loosen :: outer, afterBlank := false }
    | _ => { r with afterBlank := false }
  else r

/-- Closes a list that does not go on. -/
def finishList (r : Reader) : Reader :=
  { (if r.inList then r.leave else r).loosenOuter with emptyItem := false }

/-- Makes room for an item: in the innermost container, when that is a list with the same marks, and
otherwise in a new list. -/
def continueList (m : ListMark) (r : Reader) : Reader :=
  match r.frames with
  | { container := .list mark first tight, content } :: outer =>
    if mark == m.mark then
      { r with
        frames := { container := .list mark first (tight && !r.afterBlank), content } :: outer
        afterBlank := false
        emptyItem := false }
    else { r.finishList.enter (.list m.mark m.number true) with afterBlank := false }
  | _ => { r.finishList.enter (.list m.mark m.number true) with afterBlank := false }

/-! ## Opening containers -/

inductive Opening where
  /-- A container opens, and the line goes on inside it. -/
  | inside (r : Reader) (c : Cursor)
  /-- A container opens, and that was all of the line. -/
  | lineRead (r : Reader) (rest : Text)
  /-- The item of a task opens, and what follows its box is a paragraph. -/
  | task (r : Reader) (checked : Bool) (rest : Text)
  | nothing

/-- A footnote ends the one before it. -/
def openFootnote (label : Text) (r : Reader) : Reader :=
  let r := r.finishList
  let r := match r.frames with
    | { container := .footnote _, .. } :: _ => r.leave
    | _ => r
  { r.enter (.footnote label) with labels := r.labels.addFootnote label }

/-- Opens an item whose marker, with `outer` columns before it, ends at `c`.  The lines of the item
are indented as far as its content, and one column more than the marker where that is blank or
indented code. -/
def openItem (outer : Nat) (m : ListMark) (c : Cursor) (r : Reader) : Opening :=
  let r := r.continueList m
  let indent := outer + m.width + 1
  match afterBlankLine? c.rest with
  | some rest => .lineRead { r.enter (.item indent) with emptyItem := true } rest
  | none =>
    let (missing, content) := c.indent 4
    let (indent, c) := if missing = 0 then (indent, c) else (indent + (4 - missing), content)
    let r := r.enter (.item indent)
    let (_, box) := c.indent 3
    match taskMark? box.rest with
    | none => .inside r c
    | some (checked, rest) =>
      match afterBlankLine? rest with
      | some rest => .lineRead { r.put (.taskMarker checked) with emptyItem := true } rest
      | none => .task r checked (rest.dropWhile isIndent)

/-- Opens one container at a position, when one opens there. -/
def openOne (r : Reader) (c : Cursor) : Opening :=
  let (missing, c) := c.indent 4
  if missing = 0 then .nothing
  else
    match footnoteLabel? c.rest with
    | some (label, rest) => .inside (r.openFootnote label) { rest := dropBlanks rest }
    | none =>
      match listMark? c.rest with
      | some (m, rest) =>
        match Container.indented? 1 { c with rest, column := c.column + m.width } with
        | some c => r.openItem (4 - missing) m c
        | none => .nothing
      | none =>
        match Container.afterQuoteMark? c with
        | some c => .inside (r.finishList.enter .quote) c
        | none => .nothing

/-- Opens containers as long as some open. -/
def openAll (r : Reader) (c : Cursor) : Opening :=
  match r.openOne c with
  | .nothing => .inside r c
  | .lineRead r rest => .lineRead r rest
  | .task r checked rest => .task r checked rest
  | .inside r c' => if c'.rest.length < c.rest.length then openAll r c' else .inside r c'
termination_by c.rest.length

/-! ## Leaves -/

/-- A paragraph being read: its source so far, and the level when it turns out to be a heading. -/
structure Lines where
  source : Text := []
  level : Option HeadingLevel := none

/-- Reads one line of a paragraph, and looks whether the paragraph goes on. -/
def paragraphStep (ks : List Container) (p : Lines) (t : Text) : Text.Step Lines :=
  let rest := afterLine t
  let p := { p with source := p.source ++ Text.upTo rest t }
  let (n, c) := Container.enterAll { rest } ks
  let (missing, at4) := c.indent 4
  let level? := if missing != 0 && n == ks.length then underline? at4.rest else none
  match level? with
  | some (level, rest) => .stop { p with level := some level } rest
  | none =>
    if (continuation? ks rest).isNone || at4.skipIndent.atLineEnd then .stop p rest
    else .more p rest

/-- Reads one row of a table.  The table ends before a line that has no cells. -/
def rowStep (ks : List Container) (columns : Nat) (rows : List (List Text)) (t : Text) :
    Text.Step (List (List Text)) :=
  match Container.inside? ks t with
  | none => .stop rows t
  | some c =>
    let t' := c.skipIndent.rest
    if Interruption.withoutTable true true t' || (Table.cells (lineOf t')).isEmpty then .stop rows t
    else .more (Table.row columns (lineOf t') :: rows) (afterLine t')

/-- The number of columns of a table whose head is the line at `t`, and what follows the line below
it. -/
def tableHead? (ks : List Container) (t : Text) : Option (Nat × Text) := do
  guard (!Table.endsWithEscape (lineOf t))
  let c ← Container.inside? ks (afterLine t)
  let columns ← Table.ruleColumns? (lineOf c.rest)
  guard (Table.headColumns? (lineOf t) == some columns)
  return (columns, afterLine c.rest)

/-- A paragraph, after the checkbox of a task when it has one, or the heading or the table that it
turns out to be.  The checkbox of a table is lost. -/
def readParagraph (r : Reader) (task : Option Bool) (t : Text) : Reader × Text :=
  let r := r.finishList
  let ks := r.containers
  match tableHead? ks t with
  | some (columns, rest) =>
    let (rows, rest) := Text.iterate (rowStep ks columns) [] rest
    (r.put (.table (Table.row columns (lineOf t)) rows.reverse), rest)
  | none =>
    let (p, rest) := Text.iterate (paragraphStep ks) {} t
    let source : Passage := { text := withoutLineEnd p.source, containers := ks }
    let b := match p.level with
      | none => Block.paragraph task source
      | some level => .heading level task source
    (r.put b, rest)

def readIndentedCode (r : Reader) (c : Cursor) : Reader × Text :=
  let r := r.finishList
  let (code, rest) := Literal.indented r.containers c
  ({ r.put (.code none code.body) with afterBlank := !code.blanks.isEmpty }, rest)

/-- A text without the white space at its end. -/
def trimWhite (t : Text) : Text := (t.reverse.dropWhile isWhite).reverse

def readFencedCode (r : Reader) (f : Fence) (indent : Nat) (t : Text) : Reader × Text :=
  let r := r.finishList
  let line := dropBlanks t
  let info := (cutLine line).1
  let (body, rest) := Literal.fenced r.containers f indent (line.drop info.length)
  (r.put (.code (some (Link.unescape false (trimWhite info))) body), rest)

def readHtml (r : Reader) (e : Literal.HtmlEnd) (indent : Nat) (t : Text) : Reader × Text :=
  let r := r.finishList
  let (raw, rest) := Literal.html r.containers e indent t
  (r.put (.html raw), rest)

def readHeading (r : Reader) (level : HeadingLevel) (t : Text) : Reader × Text :=
  (r.finishList.put (.heading level none (headingPassage t)), afterLine t)

/-- The next line of a definition, which must not end a paragraph nor make a heading of it. -/
def definitionLine (r : Reader) : NextLine := fun t => do
  let c ← continuation? r.containers t
  guard (underline? c.rest).isNone
  return c.rest

/-- Reads definitions, and the paragraph after them when they are followed by one. -/
def readDefinitions (r : Reader) (t : Text) : Reader × Text :=
  match linkDefinition? r.definitionLine t with
  | none => r.readParagraph none t
  | some (d, rest) =>
    let r := { r with labels := r.labels.define d }
    let rest := (afterBlankLine? rest).getD rest
    match continuation? r.containers rest with
    | none => (r.finishList, rest)
    | some c =>
      let content := c.skipIndent.rest
      if atBlankLine content then (r.finishList, rest)
      else if content.length < t.length then readDefinitions r content
      else (r.finishList, rest)
termination_by t.length

/-- A blank line.  An item ends when it begins with two of them. -/
def readBlank (r : Reader) : Reader :=
  match r.frames with
  | { container := .quote, .. } :: _ => r
  | { container := .item _, .. } :: _ =>
    { (if r.emptyItem then r.leave else r) with afterBlank := true }
  | _ => { r with afterBlank := true }

/-- The leaf that opens at a position. -/
def readLeaf (r : Reader) (c : Cursor) : Reader × Text :=
  match afterBlankLine? c.rest with
  | some rest => (r.readBlank, rest)
  | none =>
    let (missing, at4) := c.indent 4
    let t := at4.rest
    let indent := 4 - missing
    if missing = 0 then r.readIndentedCode at4
    else
      let html? := match t with
        | '<' :: markup => Literal.htmlEnd? markup
        | _ => none
      match html? with
      | some e => r.readHtml e (max c.spare indent) t
      | none =>
        if isRule t then (r.finishList.put .rule, afterLine t)
        else
          match headingMark? t with
          | some (level, rest) => r.readHeading level rest
          | none =>
            match fence? t with
            | some (f, rest) => r.readFencedCode f indent rest
            | none => r.readDefinitions t

/-! ## The document -/

/-- Reads what starts at the beginning of a line. -/
def step (r : Reader) (t : Text) : Text.Step Reader :=
  if t.isEmpty then .stop r t
  else
    let (n, c) := Container.enterAll { rest := t } r.containers
    match (r.closeTo n).openAll c with
    | .lineRead r rest => .more r rest
    | .task r checked rest =>
      let (r, rest) := r.readParagraph (some checked) rest
      .more r rest
    | .inside r c =>
      let (r, rest) := r.readLeaf c
      .more r rest
    | .nothing => .stop r t

def read (t : Text) : Reader :=
  let (r, _) := Text.iterate step {} t
  r.leaveMany r.frames.length

end Reader
end Markdown
end ColumnBlocks
