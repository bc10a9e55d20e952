import CriticalCss.Text.Unicode.Category
/-!
# Positions in a text

A byte offset into a text is reported as a line, a column and a snippet of the
line with a caret under the column, the way parse errors are shown.

Lines end at a line feed, a carriage return (with a following line feed it is
one line end) and at the separators U+2028 and U+2029. Columns count
characters from 1. The snippet shows at most sixty characters of the line,
elided with `...` at the front, the rear or both so that the column stays in
view, and it shows characters that have no visible form as `·`.

## Main definitions

* `Position`: line, column and snippet of an offset.
* `Position.ofOffset`: the position of a byte offset in a text.
* `Position.render`: the two lines of the snippet with its caret.
-/

namespace CriticalCss.Text

/-- Characters that end a line for the purpose of counting lines. -/
def endsLine (c : Char) : Bool :=
  c == '\n' || c == '\r' || c == '\u2028' || c == '\u2029'

/-- The line of an offset, the characters of that line before it (last first)
and the text from it on. `budget` counts the bytes still to walk; a step that
would go past it into the middle of a character or of a CR LF pair stops. -/
def walkTo (line : Nat) (before : List Char) (budget : Nat) : List Char → Nat × List Char × List Char
  | [] => (line, before, [])
  | c :: cs =>
    if budget = 0 then (line, before, c :: cs)
    else
      let pair := c == '\r' && cs.head? == some '\n'
      let n := if pair then 2 else c.utf8Size
      if 1 < n && budget < n then (line, before, c :: cs)
      else if pair then walkTo (line + 1) [] (budget - n) cs.tail
      else if endsLine c then walkTo (line + 1) [] (budget - n) cs
      else walkTo line (c :: before) (budget - n) cs
termination_by l => l.length
decreasing_by all_goals simp only [List.length_cons, List.length_tail]; omega

/-- A position in a text: line and column from 1, the line's text and the
column within it. -/
structure Position where
  line : Nat
  column : Nat
  lineText : List Char
deriving Repr

/-- The position of a byte offset in a text. -/
def Position.ofOffset (s : String) (offset : Nat) : Position :=
  let (line, before, rest) := walkTo 1 [] offset s.toList
  let after := rest.takeWhile (fun c => c != '\n' && c != '\r')
  { line, column := before.length + 1, lineText := before.reverse ++ after }

/-- Pads a number on the left with blanks to five places. -/
def padFive (n : Nat) : String :=
  let s := toString n
  String.ofList (List.replicate (5 - s.length) ' ') ++ s

/-- The snippet under an error message: the line number and the line, elided
to stay within sixty characters around the column, then a caret under the
column. -/
def Position.render (p : Position) : String :=
  let rs := p.lineText
  let len := rs.length
  let limit := 60
  let margin := 20
  let (front, shown, rear, col) :=
    if limit < len then
      if p.column ≤ limit - margin then ("", rs.take (limit - 3), "...", p.column)
      else if len - margin - 3 ≤ p.column then
        ("...", rs.drop (len - 2 * margin - 4), "", p.column + 2 * margin + 7 - len)
      else ("...", (rs.drop (p.column - margin - 1)).take (2 * margin + 1), "...", margin + 4)
    else ("", rs, "", p.column)
  let shown := shown.map (fun c => if isGraphic c then c else '·')
  padFive p.line ++ ": " ++ front ++ String.ofList shown ++ rear ++ "\n" ++
    String.ofList (List.replicate (6 + col) ' ') ++ "^"

end CriticalCss.Text
