import CriticalCss.Css.Event
import CriticalCss.Css.Minify.Declaration

/-!
# Compact style sheets

A style sheet is compacted event by event: at-rules and selectors are written
with the blanks the reader keeps, declarations with their compact values,
custom properties with their raw values trimmed, and comments dropped unless
they start with `/*!`. A `;` is written only between two items of a block,
never before its `}`; blocks the input leaves open are closed.

Selectors keep their case in class names and lose it in element names and
pseudo-classes; a quoted attribute value that is an identifier loses its
quotes.

## Main definitions

* `minifySelector`: the compact text of selector tokens.
* `minifyComment`: what is kept of a comment.
* `minifyStyleSheet`: the compact text of a style sheet.
-/

namespace CriticalCss.Css

/-- The compact text of selector tokens. -/
def minifySelector (parts : List Token) : String :=
  let step (acc : String × Bool × Bool) (t : Token) : String × Bool × Bool :=
    let (out, inAttr, isClass) := acc
    if !inAttr then
      match t.kind with
      | .ident => (out ++ (if isClass then t.text else lowerAscii t.text), false, false)
      | .delim => (out ++ t.text, false, if t.text == "." then true else isClass)
      | .leftBracket => (out ++ t.text, true, isClass)
      | _ => (out ++ t.text, false, isClass)
    else
      match t.kind with
      | .string =>
        let inner := String.ofList (t.text.toList.drop 1).dropLast
        if 2 < t.text.length && isIdentText inner then (out ++ inner, true, isClass)
        else (out ++ t.text, true, isClass)
      | .rightBracket => (out ++ t.text, false, isClass)
      | .ident =>
        if t.text == "i" || t.text == "I" then (out ++ " " ++ t.text, true, isClass)
        else (out ++ t.text, true, isClass)
      | _ => (out ++ t.text, true, isClass)
  (parts.foldl step ("", false, false)).1

/-- A run of blanks written as one space, or as a line break when it holds one. -/
def collapseBlanks (cs : List Char) : List Char :=
  let rec go : List Char → List Char
    | [] => []
    | c :: rest =>
      if isTrimBlank c then
        let run := (c :: rest).takeWhile isTrimBlank
        let sep := if run.any (fun d => d == '\n' || d == '\r') then '\n' else ' '
        sep :: go ((c :: rest).drop run.length)
      else c :: go rest
  termination_by l => l.length
  decreasing_by
    all_goals simp only [List.length_cons, List.length_drop]
    · have : 0 < (List.takeWhile isTrimBlank (c :: rest)).length := by
        simp [List.takeWhile, *]
      omega
    · omega
  go cs

/-- Characters split before their last `n` bytes; a character that the cut
falls inside goes to the first part. -/
def splitLastBytes (n : Nat) (cs : List Char) : List Char × List Char :=
  let rec go : List Char → Nat → List Char → List Char × List Char
    | [], _, tail => ([], tail)
    | c :: rest, budget, tail =>
      if c.utf8Size ≤ budget then go rest (budget - c.utf8Size) (c :: tail)
      else ((c :: rest).reverse, tail)
  go cs.reverse n []

/-- What is kept of a comment: a `/*!` comment of more than five bytes with
the blanks between `/*!` and its last two bytes collapsed and trimmed; other
comments are dropped. The last two bytes are `*/` unless the comment is cut
short by the end of the input. -/
def minifyComment (text : String) : String :=
  let cs := text.toList
  if 5 < text.utf8ByteSize && cs.take 3 == ['/', '*', '!'] then
    let (inner, tail) := splitLastBytes 2 (cs.drop 3)
    "/*!" ++ String.ofList (trimBlanks (collapseBlanks inner)) ++ String.ofList tail
  else ""

/-- The prelude of an `@import` with its `url(...)` written as a string. -/
def importPrelude (prelude : List Token) : List Token :=
  match prelude with
  | [blank, u] =>
    let cs := u.text.toList
    if u.kind == .url && 4 < cs.length && cs.getLast? == some ')' then
      match cs.drop 4 with
      | q :: _ =>
        if q == '"' || q == '\'' then [blank, ⟨.string, String.ofList ((cs.drop 4).dropLast)⟩]
        else
          let inner := trimBlanks ((cs.drop 4).dropLast)
          [blank, ⟨.string, String.ofList ('"' :: inner ++ ['"'])⟩]
      | [] => prelude
    else prelude
  | _ => prelude

/-- The text of tokens as they are. -/
def tokensText (toks : List Token) : String :=
  String.join (toks.map (·.text))

/-- The compact text of an event, and whether a `;` is due before the next
item. `sheet` compacts a style sheet held in a data address. -/
def minifyEvent (sheet : String → String) : Event → Option String × Bool
  | .atRule name prelude =>
    let prelude := if name == "@import" then importPrelude prelude else prelude
    (some (name ++ tokensText prelude), true)
  | .beginAtRule name prelude => (some (name ++ tokensText prelude ++ "\x7b"), false)
  | .selectors parts => (some (minifySelector parts ++ ","), false)
  | .beginRule parts => (some (minifySelector parts ++ "\x7b"), false)
  | .declaration name value => (some (minifyDeclaration sheet name value), true)
  | .customProperty name value =>
    let trimmed := trimBlanks value.toList
    let v := if !value.isEmpty && trimmed.isEmpty then " " else String.ofList trimmed
    (some (name ++ ":" ++ v), true)
  | .comment text => (some (minifyComment text), false)
  | .skip t => (some t.text, false)
  | _ => (none, false)

/-- The tokens an error passes on, without a final `;`, and whether there
was one. -/
def splitFinalSemicolon (written : List Token) : List Token × Bool :=
  match written.getLast? with
  | some t => if t.kind == .semicolon then (written.dropLast, true) else (written, false)
  | none => (written, false)

/-- The compact text of events, with a `;` due before the next item or not.
The tokens of a broken construct are written as they are, a `;` that ends
them kept due for the next item. -/
def minifyEvents (sheet : String → String) : List Event → Bool → String
  | [], _ => ""
  | .finish :: _, _ => ""
  | .endAtRule :: rest, _ | .endRule :: rest, _ => "\x7d" ++ minifyEvents sheet rest false
  | .error _ _ written :: rest, due =>
    let (written, ends) := splitFinalSemicolon written
    (if due then ";" else "") ++ tokensText written ++ minifyEvents sheet rest (due || ends)
  | e :: rest, due =>
    match minifyEvent sheet e with
    | (some text, due') => (if due then ";" else "") ++ text ++ minifyEvents sheet rest due'
    | (none, _) => minifyEvents sheet rest due

/-- The compact text of a style sheet, with data addresses nested at most
`depth` deep compacted too. -/
def minifyStyleSheetWithin : Nat → String → String
  | 0, s => s
  | depth + 1, s => minifyEvents (minifyStyleSheetWithin depth) (events s) false

/-- The compact text of a style sheet. A style sheet in a data address is
shorter than the text around it, so the length of the text bounds how deep
they can nest. -/
def minifyStyleSheet (s : String) : String :=
  minifyStyleSheetWithin (s.utf8ByteSize + 1) s

end CriticalCss.Css
