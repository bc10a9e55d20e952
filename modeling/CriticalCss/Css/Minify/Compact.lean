import CriticalCss.Text.Space

/-!
# Whitespace compaction

A light compaction of a style sheet that never fails: it works on the text,
not on tokens, by a fixed sequence of replacement passes.

1. Comments `/* ... */` are removed; runs of blanks become one space.
2. Spaces are removed before any of `!{};:>+()],` and after any of
   `!{}:;>+([,`, except that a colon preceded by a space in a selector (from
   the start or a `}` to the next `{`) keeps its space, so that `a :hover`
   stays a descendant selector. `and(` gets its space back.
3. A `;` is added before each `}` that lacks one.
4. A zero with a unit among `% em ex px in cm mm pt pc` after a blank or a
   colon loses the unit; a value of only zeros becomes `0`;
   `background-position:0` becomes `0 0`; a `0.` after a blank or colon loses
   its zero.
5. `rgb(r,g,b)` becomes `#rrggbb`; a lower-case `#aabbcc` whose digits come in
   pairs becomes `#abc`, unless a quote, `=` or blank comes right before it.
   The character before a six-digit color belongs to its match, so a color
   right after another is left as it is.
6. Semicolons before a `}` are removed, and blanks at the ends trimmed.

The box model hack `"\"}\""` is kept as it is through all of this. Each
pass reads the text from left to right and goes on after what it replaced,
so replaced text is not read again by the same pass.

## Main definitions

* `compactCss`: the compacted text.
-/

namespace CriticalCss.Css

open CriticalCss.Text

/-- The blanks of the passes: tab, line feed, form feed, carriage return and
space. -/
def isRuleBlank (c : Char) : Bool :=
  c == ' ' || c == '\t' || c == '\n' || c == '\x0c' || c == '\r'

/-- Whether `*/` occurs in a text. -/
def hasCommentEnd : List Char → Bool
  | '*' :: '/' :: _ => true
  | _ :: rest => hasCommentEnd rest
  | [] => false

mutual

/-- The text without its comments; a comment that is never closed stays. -/
def removeComments : List Char → List Char
  | [] => []
  | '/' :: '*' :: rest =>
    if hasCommentEnd rest then skipComment rest else '/' :: '*' :: rest
  | c :: rest => c :: removeComments rest

/-- The text after the end of a comment, without its comments. -/
def skipComment : List Char → List Char
  | '*' :: '/' :: rest => removeComments rest
  | _ :: rest => skipComment rest
  | [] => []

end

/-- Runs of blanks written as one space. -/
def collapseRuleBlanks : Bool → List Char → List Char
  | _, [] => []
  | inRun, c :: rest =>
    if isRuleBlank c then
      if inRun then collapseRuleBlanks true rest else ' ' :: collapseRuleBlanks true rest
    else c :: collapseRuleBlanks false rest

/-- Every occurrence of a nonempty `pat` replaced by `rep`, left to right. -/
def replaceAll (pat rep : List Char) (cs : List Char) : List Char :=
  match pat with
  | [] => cs
  | p :: ps =>
    let rec go : List Char → List Char
      | [] => []
      | c :: rest =>
        if c == p && ps.isPrefixOf rest then rep ++ go (rest.drop ps.length)
        else c :: go rest
    termination_by l => l.length
    decreasing_by
      all_goals simp only [List.length_cons, List.length_drop]
      all_goals omega
    go cs

/-- The text of the box model hack. -/
def boxModelHack : List Char := "\"\\\"\x7d\\\"\"".toList

/-- A stand-in for the box model hack while the passes run. -/
def boxModelMark : List Char := "___BMH___".toList

/-- A stand-in for a colon that keeps the blank before it. -/
def colonMark : List Char := "___PSEUDOCLASSCOLON___".toList

/-- The length of a selector from `cs` on, up to and with its `{`, when a
colon preceded by a blank comes in it before any `{`, after at least one other
character. -/
def guardedSelector (cs : List Char) : Option Nat :=
  let head := cs.takeWhile fun c => c != '\x7b' && c != ':'
  let rest := cs.drop head.length
  if rest.head? == some ':' && 2 ≤ head.length && (head.getLast?.map isRuleBlank) == some true then
    let upToBrace := rest.takeWhile (· != '\x7b')
    if upToBrace.length < rest.length then some (head.length + upToBrace.length + 1) else none
  else none

/-- The text with the colons of guarded selectors replaced by `colonMark`; a
selector starts at the beginning or after a `}`. -/
def protectColons (cs : List Char) : List Char :=
  let mark (part : List Char) : List Char := replaceAll [':'] colonMark part
  let rec go (atStart : Bool) : List Char → List Char
    | [] => []
    | c :: rest =>
      match (if atStart then guardedSelector (c :: rest) else none) with
      | some n => mark ((c :: rest).take n) ++ go false ((c :: rest).drop (max n 1))
      | none =>
        if c == '\x7d' then
          match guardedSelector rest with
          | some n => c :: mark (rest.take n) ++ go false (rest.drop n)
          | none => c :: go false rest
        else c :: go false rest
  termination_by l => l.length
  decreasing_by
    all_goals simp only [List.length_cons, List.length_drop]
    all_goals omega
  go true cs

/-- The text without the blanks right before a character that `set` holds. -/
def dropBlanksBefore (set : Char → Bool) : List Char → List Char
  | [] => []
  | c :: rest =>
    if isRuleBlank c && ((rest.dropWhile isRuleBlank).head?.map set) == some true then
      dropBlanksBefore set rest
    else c :: dropBlanksBefore set rest

/-- The text without the blanks right after a character that `set` holds;
`skipping` tells that such a character came last. -/
def dropBlanksAfter (set : Char → Bool) : Bool → List Char → List Char
  | _, [] => []
  | skipping, c :: rest =>
    if skipping && isRuleBlank c then dropBlanksAfter set true rest
    else c :: dropBlanksAfter set (set c) rest

/-- Whether a character is a word character: an ASCII letter, digit or `_`. -/
def isWordChar (c : Char) : Bool :=
  c.isAlphanum || c == '_'

/-- The text with a space put back into each `and(` that starts a word. -/
def spaceAndParen : Bool → List Char → List Char
  | _, [] => []
  | afterWord, 'a' :: 'n' :: 'd' :: '(' :: rest =>
    if afterWord then 'a' :: spaceAndParen true ('n' :: 'd' :: '(' :: rest)
    else 'a' :: 'n' :: 'd' :: ' ' :: '(' :: spaceAndParen false rest
  | _, c :: rest => c :: spaceAndParen (isWordChar c) rest

/-- The text with a `;` before each `}` that follows neither `;` nor `}`. -/
def addSemicolons : List Char → List Char
  | c :: '\x7d' :: rest =>
    if c != ';' && c != '\x7d' then c :: ';' :: '\x7d' :: addSemicolons rest
    else c :: addSemicolons ('\x7d' :: rest)
  | c :: rest => c :: addSemicolons rest
  | [] => []

/-- The length of a unit that a zero drops, at the front of a text, in any
case; zero when there is none. -/
def zeroUnitAt : List Char → Nat
  | '%' :: _ => 1
  | a :: b :: _ =>
    if ["em", "ex", "px", "in", "cm", "mm", "pt", "pc"].contains
        (String.ofList [a.toLower, b.toLower]) then 2 else 0
  | _ => 0

/-- The text with the unit of each zero after a blank or a colon dropped. -/
def dropZeroUnits : List Char → List Char
  | [] => []
  | c :: rest =>
    if isRuleBlank c || c == ':' then
      let (sign, afterSign) : List Char × List Char := match rest with
        | s :: r => if s == '+' || s == '-' then ([s], r) else ([], rest)
        | [] => ([], [])
      match afterSign with
      | '0' :: tail =>
        let u := zeroUnitAt tail
        if 0 < u then c :: sign ++ '0' :: dropZeroUnits (rest.drop (sign.length + 1 + u))
        else c :: dropZeroUnits rest
      | _ => c :: dropZeroUnits rest
    else c :: dropZeroUnits rest
termination_by l => l.length
decreasing_by
  all_goals simp only [List.length_cons, List.length_drop]
  all_goals omega

/-- The length of one or more `0 ` and a final `0;` at the front of a text. -/
def zeroListAt (reps : Nat) : List Char → Option Nat
  | '0' :: ' ' :: rest => (zeroListAt (reps + 1) rest).map (· + 2)
  | '0' :: ';' :: _ => if 0 < reps then some 2 else none
  | _ => none

/-- The text with each `:0 0 ... 0;` written `:0;`. -/
def collapseZeroLists : List Char → List Char
  | [] => []
  | c :: rest =>
    if c == ':' then
      match zeroListAt 0 rest with
      | some n => ':' :: '0' :: ';' :: collapseZeroLists (rest.drop n)
      | none => c :: collapseZeroLists rest
    else c :: collapseZeroLists rest
termination_by l => l.length
decreasing_by
  all_goals simp only [List.length_cons, List.length_drop]
  all_goals omega

/-- The text with the zeros before the point of a number after a blank or a
colon dropped. -/
def dropLeadingZeros : List Char → List Char
  | [] => []
  | c :: rest =>
    if c == ':' || isRuleBlank c then
      let zeros := (rest.takeWhile (· == '0')).length
      match rest.drop zeros with
      | '.' :: d :: more =>
        if 0 < zeros && d.isDigit then
          let digits := (d :: more).takeWhile Char.isDigit
          c :: '.' :: digits ++ dropLeadingZeros (rest.drop (zeros + 1 + digits.length))
        else c :: dropLeadingZeros rest
      | _ => c :: dropLeadingZeros rest
    else c :: dropLeadingZeros rest
termination_by l => l.length
decreasing_by
  all_goals simp only [List.length_cons, List.length_drop]
  all_goals omega

/-- Two or more lower-case hexadecimal digits of a number. -/
def hexPadded (n : Nat) : List Char :=
  let ds := Nat.toDigits 16 n
  if ds.length < 2 then List.replicate (2 - ds.length) '0' ++ ds else ds

/-- The runs of digits of a text. -/
def digitRuns : List Char → List (List Char)
  | [] => []
  | c :: rest =>
    if c.isDigit then
      match digitRuns rest with
      | run :: runs => if rest.head?.map Char.isDigit == some true then (c :: run) :: runs
        else [c] :: run :: runs
      | [] => [[c]]
    else digitRuns rest

/-- The value of a run of digits, when it fits a signed 64-bit integer. -/
def runValue (ds : List Char) : Option Nat :=
  let v := ds.foldl (fun acc d => acc * 10 + (d.toNat - '0'.toNat)) 0
  if v < Nat.pow 2 63 then some v else none

/-- An `rgb(...)` of digits, commas and blanks at the front of a text: its
length, and the hexadecimal color of its numbers. -/
def rgbAt (cs : List Char) : Option (Nat × List Char) :=
  match cs with
  | 'r' :: 'g' :: 'b' :: rest =>
    let blanks := (rest.takeWhile isRuleBlank).length
    match rest.drop blanks with
    | '(' :: inner =>
      let run := inner.takeWhile fun c => c.isDigit || c == ',' || isRuleBlank c
      if 0 < run.length && (inner.drop run.length).head? == some ')' then
        match (digitRuns run).mapM runValue with
        | some vs => some (3 + blanks + 1 + run.length + 1, '#' :: vs.flatMap hexPadded)
        | none => none
      else none
    | _ => none
  | _ => none

/-- The text with each `rgb(...)` of numbers written in hexadecimal. -/
def rgbToHex : List Char → List Char
  | [] => []
  | c :: rest =>
    match rgbAt (c :: rest) with
    | some (n, hex) => hex ++ rgbToHex (rest.drop (n - 1))
    | none => c :: rgbToHex rest
termination_by l => l.length
decreasing_by
  all_goals simp only [List.length_cons, List.length_drop]
  all_goals omega

/-- Whether a character is a lower-case hexadecimal digit. -/
def isLowerHex (c : Char) : Bool :=
  c.isDigit || ('a' ≤ c && c ≤ 'f')

/-- Whether a character is a hexadecimal digit in either case. -/
def isCaseHex (c : Char) : Bool :=
  isLowerHex c || ('A' ≤ c && c ≤ 'F')

/-- The text with each six-digit lower-case color whose digits come in pairs
written with three, unless a quote, `=` or blank comes right before it. A
six-digit color in any case is passed over as a whole, together with the
character before it, so that character cannot start the next one. -/
def compressHex : List Char → List Char
  | [] => []
  | c :: rest =>
    if c != '"' && c != '\'' && c != '=' && !isRuleBlank c then
      let blanks := rest.takeWhile isRuleBlank
      match rest.drop blanks.length with
      | '#' :: h =>
        let hex := h.take 6
        if hex.length == 6 && hex.all isCaseHex then
          let tail := rest.drop (blanks.length + 7)
          match hex with
          | [a, b, c2, d, e, f] =>
            if hex.all isLowerHex && a == b && c2 == d && e == f then
              c :: blanks.take 1 ++ ['#', a, c2, e] ++ compressHex tail
            else c :: blanks ++ '#' :: hex ++ compressHex tail
          | _ => c :: compressHex rest
        else c :: compressHex rest
      | _ => c :: compressHex rest
    else c :: compressHex rest
termination_by l => l.length
decreasing_by
  all_goals simp only [List.length_cons, List.length_drop]
  all_goals omega

/-- The text without the semicolons right before a `}`. -/
def dropSemicolonsBeforeBrace : List Char → List Char
  | [] => []
  | c :: rest =>
    if c == ';' && (rest.dropWhile (· == ';')).head? == some '\x7d' then dropSemicolonsBeforeBrace rest
    else c :: dropSemicolonsBeforeBrace rest

/-- The compacted text of a style sheet. -/
def compactCss (s : String) : String :=
  let cs := removeComments s.toList
  let cs := collapseRuleBlanks false cs
  let cs := replaceAll boxModelHack boxModelMark cs
  let cs := protectColons cs
  let cs := dropBlanksBefore (fun c => "!\x7b\x7d;:>+()],".toList.contains c) cs
  let cs := replaceAll colonMark [':'] cs
  let cs := dropBlanksAfter (fun c => "!\x7b\x7d:;>+([,".toList.contains c) false cs
  let cs := spaceAndParen false cs
  let cs := addSemicolons cs
  let cs := dropZeroUnits cs
  let cs := collapseZeroLists cs
  let cs := replaceAll "background-position:0;".toList "background-position:0 0;".toList cs
  let cs := dropLeadingZeros cs
  let cs := rgbToHex cs
  let cs := compressHex cs
  let cs := replaceAll boxModelMark boxModelHack cs
  let cs := dropSemicolonsBeforeBrace cs
  trimSpace (String.ofList cs)

end CriticalCss.Css
