import ColumnBlocks.Html.Escape

/-
A complete page around rendered content, with the styles that lay out its columns.
-/
namespace ColumnBlocks
namespace Html

/-- The styles for the classes of column blocks, one rule after another. -/
def stylesheet : Text :=
  let rule (selector : String) (properties : List String) : Text :=
    selector.toList ++ [' ', '\x7b', '\n'] ++
      properties.flatMap (fun p => "  ".toList ++ p.toList ++ [';', '\n']) ++ ['\x7d', '\n']
  rule ".columns-parent" ["display: flex", "gap: 1.5em"] ++
    rule ".columns-parent-rtl" ["flex-direction: row-reverse"] ++
    rule ".columns-parent > div" ["min-width: 0"] ++
    rule ".columns-parent:has(> .columns-wrap)" ["flex-wrap: wrap"] ++
    rule ".columns-wrap" ["min-width: 15em"]

def page (title body : Text) : Text :=
  "<!DOCTYPE html>\n<html>\n<head>\n<meta charset=\"utf-8\">\n<title>".toList ++ escapeText title ++
    "</title>\n<style>\n".toList ++ stylesheet ++ "</style>\n</head>\n<body>\n".toList ++ body ++
    "</body>\n</html>\n".toList

end Html
end ColumnBlocks
