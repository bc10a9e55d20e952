import CriticalCss.Css.Sheet.Walk
import CriticalCss.Css.Vendor
import CriticalCss.Css.Lexer
import CriticalCss.Text.Case

/-!
# Font families

Style rules name font families in `font-family` declarations and in the
family part of the `font` shorthand. A `@font-face` rule is needed only when
it declares a family some remaining rule uses; the faces kept lose their `src`
descriptors, which only download the font.

Family names are compared in lower case. Generic families and the CSS-wide
keywords are not names of faces. An entry of a family list that holds anything
but strings and identifiers (a function, a number) is not a name.

## Main definitions

* `fontFamilies`: the names in a family list.
* `shorthandFamilies`: the family part of a `font` value.
* `StyleSheet.usedFontFamilies`: the families style rules use.
* `StyleSheet.pruneFonts`: the sheet keeping only faces of used families.
-/

namespace CriticalCss.Css

open CriticalCss.Text

/-- Generic families and the CSS-wide keywords. -/
def genericFamilies : List String :=
  ["serif", "sans-serif", "monospace", "cursive", "fantasy", "system-ui", "ui-serif",
   "ui-sans-serif", "ui-monospace", "ui-rounded", "emoji", "math", "fangsong",
   "inherit", "initial", "unset", "revert", "revert-layer", "default"]

/-- The keywords that give a font size. -/
def fontSizeKeywords : List String :=
  ["xx-small", "x-small", "small", "medium", "large", "x-large", "xx-large", "xxx-large",
   "smaller", "larger"]

/-- A string's text without its surrounding quotes, if it has a matching pair. -/
def unquote (s : String) : String :=
  match s.toList with
  | q :: rest@(_ :: _) =>
    if (q == '"' || q == '\'') && rest.getLast? == some q then String.ofList rest.dropLast
    else s
  | _ => s

/-- The state of reading a family list: names so far, the words of the
current entry, whether the entry is not a name, and the depth of functions. -/
structure FamilyList where
  names : Array String := #[]
  words : Array String := #[]
  bad : Bool := false
  depth : Nat := 0

/-- Ends an entry, keeping its lower-case name unless generic. -/
def FamilyList.flush (s : FamilyList) : FamilyList :=
  let names :=
    if !s.bad && !s.words.isEmpty then
      let name := lower (" ".intercalate s.words.toList)
      if genericFamilies.contains name then s.names else s.names.push name
    else s.names
  { s with names, words := #[], bad := false }

/-- Takes one token of a family list. -/
def FamilyList.step (s : FamilyList) (t : Token) : FamilyList :=
  if 0 < s.depth then
    match t.kind with
    | .function | .leftParen => { s with depth := s.depth + 1 }
    | .rightParen => { s with depth := s.depth - 1 }
    | _ => s
  else
    match t.kind with
    | .string => { s with words := s.words.push (unquote t.text) }
    | .ident => { s with words := s.words.push t.text }
    | .comma => s.flush
    | .whitespace | .comment => s
    | .function | .leftParen => { s with depth := s.depth + 1, bad := true }
    | _ => { s with bad := true }

/-- The lower-case, non-generic family names of a comma separated family list. -/
def fontFamilies (toks : List Token) : List String :=
  (toks.foldl FamilyList.step {}).flush.names.toList

/-- The tokens after the first blank or comment run following `i`. -/
def afterNextSignificant (toks : List Token) (i : Nat) : Option (List Token) :=
  let rest := toks.drop i
  match rest.dropWhile (fun t => t.kind == .whitespace || t.kind == .comment) with
  | _ :: tail => some tail
  | [] => none

/-- The family part of a `font` shorthand: the tokens after the font size and
the optional `/` line height. A value with no size, such as a system font
keyword, has none. -/
def shorthandFamilies (toks : List Token) : List Token :=
  let rec go (i : Nat) (size : Option Nat) (depth : Int) : List Token → Option (List Token) × Option Nat
    | [] => (none, size)
    | t :: rest =>
      if t.kind == .comma && depth == 0 then (none, size)
      else
        match t.kind with
        | .function | .leftParen => go (i + 1) size (depth + 1) rest
        | .rightParen => go (i + 1) size (depth - 1) rest
        | .dimension | .percentage | .number =>
          go (i + 1) (if depth == 0 then some i else size) depth rest
        | .ident =>
          go (i + 1) (if depth == 0 && fontSizeKeywords.contains (lower t.text) then some i else size)
            depth rest
        | .delim =>
          if depth == 0 && t.text == "/" then
            (some ((afterNextSignificant toks (i + 1)).getD []), size)
          else go (i + 1) size depth rest
        | _ => go (i + 1) size depth rest
  match go 0 none 0 toks with
  | (some fam, _) => fam
  | (none, some size) => toks.drop (size + 1)
  | (none, none) => []

/-- The value tokens of a text. -/
def valueTokens (value : String) : List Token :=
  (tokenize value).map (·.token)

/-- The families a declaration inside a style rule names. -/
def declarationFamilies (sc : Scope) (d : Declaration) : List String :=
  if !sc.inRule then []
  else match baseName d.property with
    | "font-family" => fontFamilies (valueTokens d.value)
    | "font" => fontFamilies (shorthandFamilies (valueTokens d.value))
    | _ => []

/-- The lower-case families named by declarations of style rules, without
repeats, in order of first use. -/
def StyleSheet.usedFontFamilies (s : StyleSheet) : List String :=
  ((itemsDeclarations {} s.items).flatMap fun (sc, d) => declarationFamilies sc d).eraseDups

/-- A `@font-face` rule stays when it has `src` and `font-family`
descriptors and one of its families is in the whitelist; it loses its `src`
descriptors. The families are those of its last `font-family` descriptor. -/
def keepFontFace (whitelist : String → Bool) (_ : Scope) : Item → Option Item
  | .atRule name prelude block items =>
    if baseName name != "font-face" then some (.atRule name prelude block items)
    else
      let isDecl (p : String) : Item → Bool
        | .declaration d => d.property == p
        | _ => false
      let hasSrc := items.any (isDecl "src")
      let families := match (items.filter (isDecl "font-family")).getLast? with
        | some (.declaration d) => fontFamilies (valueTokens d.value)
        | _ => []
      let hasFamily := items.any (isDecl "font-family")
      if hasSrc && hasFamily && families.any whitelist then
        some (.atRule name prelude block (items.filter (!isDecl "src" ·)))
      else none
  | it => some it

/-- The sheet with only the font faces of whitelisted families, without their
`src` descriptors. -/
def StyleSheet.pruneFonts (s : StyleSheet) (whitelist : String → Bool) : StyleSheet :=
  { s with items := filterItems (keepFontFace whitelist) {} s.items }

end CriticalCss.Css
