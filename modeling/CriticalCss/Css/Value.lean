import CriticalCss.Text.Space

/-!
# References inside values

Declaration values refer to other resources with `url(...)` and to custom
properties with `var(--name ...)`. This module finds those references in value
text, replaces url targets, and recognizes large inline base64 payloads.

A url reference is `url`, optional blanks, `(`, optional blanks, then either a
quoted target (the quotes may differ, the target holds no quote) followed by
optional blanks and `)`, or an unquoted target holding no `)` or quote followed
by `)`; the unquoted target is trimmed. References are found left to right
without overlapping.

A variable reference is `var(` in any case, optional blanks, and a name made of
`--` and at least one character that is not a blank, a comma or `)`.

## Main definitions

* `containsText`: whether a text occurs in another.
* `urlReferences`: the url targets in a text.
* `replaceUrls`: the text with url targets replaced.
* `hasLargeBase64`: a value embedding a base64 data url over 1000 bytes.
* `variableReferences`: the custom property names referred to by `var(`.
-/

namespace CriticalCss.Css

open CriticalCss.Text

/-- Whether the characters `pat` start some suffix of `cs`. -/
def occursIn (pat : List Char) : List Char → Bool
  | [] => pat.isEmpty
  | c :: cs => pat.isPrefixOf (c :: cs) || occursIn pat cs

/-- Whether a nonempty `pat` occurs in `s` as a contiguous part. -/
def containsText (s pat : String) : Bool :=
  !pat.isEmpty && occursIn pat.toList s.toList

/-- The number of leading characters satisfying `p`. -/
def leadingCount (p : Char → Bool) : List Char → Nat
  | [] => 0
  | c :: cs => if p c then leadingCount p cs + 1 else 0

/-- Whether a character is a quote. -/
def isQuote (c : Char) : Bool := c == '"' || c == '\''

/-- A url reference at the front of a text: its length and its target. -/
def urlAt (cs : List Char) : Option (Nat × String) :=
  match cs with
  | 'u' :: 'r' :: 'l' :: r0 =>
    let w1 := leadingCount isAsciiSpace r0
    match r0.drop w1 with
    | '(' :: r2 =>
      let w2 := leadingCount isAsciiSpace r2
      let r3 := r2.drop w2
      let head := 3 + w1 + 1 + w2
      let quoted : Option (Nat × String) := match r3 with
        | q :: r4 =>
          if isQuote q then
            let k := leadingCount (!isQuote ·) r4
            match r4.drop k with
            | q2 :: r6 =>
              if isQuote q2 then
                let w3 := leadingCount isAsciiSpace r6
                match r6.drop w3 with
                | ')' :: _ => some (head + 1 + k + 1 + w3 + 1, String.ofList (r4.take k))
                | _ => none
              else none
            | [] => none
          else none
        | [] => none
      match quoted with
      | some (n, target) =>
        if target.isEmpty then some (n, "") else some (n, target)
      | none =>
        let k := leadingCount (fun c => c != ')' && !isQuote c) r3
        match r3.drop k with
        | ')' :: _ => some (head + k + 1, trimSpace (String.ofList (r3.take k)))
        | _ => none
    | _ => none
  | _ => none

/-- Url references found left to right: for each, the text before it, its
source text and its target; then the text after the last one. -/
def urlSplit (cs : List Char) : List (List Char × List Char × String) × List Char :=
  let rec go (before : List Char) : List Char → List (List Char × List Char × String) × List Char
    | [] => ([], before.reverse)
    | c :: rest =>
      match urlAt (c :: rest) with
      | some (n, target) =>
        let (found, tail) := go [] (rest.drop (n - 1))
        ((before.reverse, (c :: rest).take n, target) :: found, tail)
      | none => go (c :: before) rest
  termination_by l => l.length
  decreasing_by all_goals simp only [List.length_cons, List.length_drop]; omega
  go [] cs

/-- The url targets of a text, in order. -/
def urlReferences (text : String) : List String :=
  (urlSplit text.toList).1.map (·.2.2)

/-- Escapes backslashes and double quotes for a double-quoted string: each is
written after a backslash. -/
def escapeDoubleQuoted (s : String) : String :=
  String.ofList (s.toList.flatMap fun c =>
    if c == '\\' then ['\\', '\\'] else if c == '"' then ['\\', '"'] else [c])

/-- The text with each url reference whose target `resolve` changes written
as `url("target")`; references with an empty target are kept. -/
def replaceUrls (text : String) (resolve : String → String) : String :=
  if !containsText text "url" then text
  else
    let (found, tail) := urlSplit text.toList
    let part (p : List Char × List Char × String) : String :=
      let (before, source, target) := p
      let resolved := resolve target
      String.ofList before ++
        (if target.isEmpty || resolved == target then String.ofList source
         else "url(\"" ++ escapeDoubleQuoted resolved ++ "\")")
    String.join (found.map part) ++ String.ofList tail

/-- Whether a character matches `c` ignoring case, by simple case folding of
ASCII letters and of the long s and Kelvin sign. -/
def foldEq (x c : Char) : Bool :=
  x.toLower == c.toLower ||
    (c.toLower == 's' && x.toNat == 0x17f) || (c.toLower == 'k' && x.toNat == 0x212a)

/-- Strips a word from the front of a text, ignoring case. -/
def stripFolded : List Char → List Char → Option (List Char)
  | [], rest => some rest
  | _ :: _, [] => none
  | w :: ws, c :: cs => if foldEq c w then stripFolded ws cs else none

/-- A base64 data url: `data:` in any case, and `;base64` right before the
first comma. -/
def isBase64DataUrl (ref : String) : Bool :=
  match stripFolded "data:".toList ref.toList with
  | some rest =>
    let head := rest.takeWhile (· != ',')
    (rest.drop head.length).head? == some ',' &&
      (stripFolded ";base64".toList.reverse head.reverse).isSome
  | none => false

/-- The longest base64 payload kept inline, in bytes of its reference. -/
def maxBase64Length : Nat := 1000

/-- Whether a value embeds a base64 data url longer than `maxBase64Length`. -/
def hasLargeBase64 (value : String) : Bool :=
  (urlReferences value).any fun ref => maxBase64Length < ref.utf8ByteSize && isBase64DataUrl ref

/-- A variable reference at the front of a text: its length and the name. -/
def varAt (cs : List Char) : Option (Nat × String) :=
  match stripFolded "var(".toList cs with
  | some r0 =>
    let w := leadingCount isAsciiSpace r0
    match r0.drop w with
    | '-' :: '-' :: r1 =>
      let k := leadingCount (fun c => !isAsciiSpace c && c != ',' && c != ')') r1
      if k == 0 then none else some (4 + w + 2 + k, "--" ++ String.ofList (r1.take k))
    | _ => none
  | none => none

/-- The custom property names referred to by `var(` in a text, left to right. -/
def variableReferences (cs : List Char) : List String :=
  match cs with
  | [] => []
  | c :: rest =>
    match varAt (c :: rest) with
    | some (n, name) => name :: variableReferences (rest.drop (n - 1))
    | none => variableReferences rest
termination_by cs.length
decreasing_by all_goals simp only [List.length_cons, List.length_drop]; omega

end CriticalCss.Css
