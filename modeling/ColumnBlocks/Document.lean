import ColumnBlocks.Html.Writer
import ColumnBlocks.Markdown.Document
import ColumnBlocks.Session

/-
A full pass over a document: every fragment goes through the session in order, and what the session
still holds at the end is appended.  The pass starts with an empty session, so nothing of an earlier
one can leak into it.
-/
namespace ColumnBlocks

/-- The fragments of a document after a pass. -/
structure Document where
  fragments : List Fragment
deriving Repr

namespace Document

def visible (d : Document) : List Fragment := d.fragments.filter (!·.isEmpty)

def html (d : Document) : Text := Html.fragments d.fragments

end Document

namespace Session

def processAll (s : Session) (env : Environment) :
    List Fragment → Session × List Fragment × List Log.Entry
  | [] => (s, [], [])
  | f :: fs =>
    let o := s.process env f
    let (s, rest, log) := processAll o.session env fs
    (s, o.fragment :: rest, o.log ++ log)

def renderFragments (s : Session) (env : Environment) (fs : List Fragment) :
    Session × Document × List Log.Entry :=
  let (s, dropped) := s.reset
  let (s, fragments, told) := s.processAll env fs
  let (rest?, s, flushed) := s.finish
  let fragments := fragments ++ rest?.toList
  (s, { fragments }, dropped ++ told ++ flushed ++ [.rendered fragments.length])

/-- A pass over a Markdown document, however its events are read. -/
def renderMarkdown (s : Session) (env : Environment) (markdown : Text)
    (events : Text → List Markdown.Event := Markdown.read) : Session × Document × List Log.Entry :=
  s.renderFragments env (Markdown.fragments markdown events)

end Session

def renderMarkdownToHtml (env : Environment) (markdown : Text) : Text :=
  (Session.fresh.renderMarkdown env markdown).2.1.html

end ColumnBlocks
