import CriticalCss.Css.Lexer
import CriticalCss.Text.Case
import CriticalCss.Text.Space

/-!
# Selectors as page queries

A selector is turned into a query that a freshly loaded, static page can
answer: pseudo-elements (`::x`, and the legacy single-colon `:before`,
`:after`, `:first-line`, `:first-letter`), pseudo-classes that depend on user
interaction or history (`:hover`, `:focus`, `:visited`, ...) and vendor
pseudo-classes (`:-moz-...`) are removed, arguments included. A compound
selector left with nothing gets `*`; an empty query is `*`.

## Main definitions

* `queryFor`: the query of a selector.
-/

namespace CriticalCss.Probe

open CriticalCss.Css CriticalCss.Text

/-- Pseudo-classes that depend on interaction or history. -/
def ignoredPseudoClasses : List String :=
  ["hover", "active", "focus", "focus-within", "focus-visible", "visited", "target",
   "target-within", "autofill", "user-valid", "user-invalid", "playing", "paused", "fullscreen",
   "picture-in-picture", "modal", "popover-open"]

/-- Pseudo-elements that may be written with a single colon. -/
def legacyPseudoElements : List String := ["before", "after", "first-line", "first-letter"]

/-- The index of the `)` closing the function at `start`, or the last index. -/
def closingParen (toks : List Token) (start : Nat) : Nat :=
  let rec go (i : Nat) (depth : Int) : List Token → Nat
    | [] => toks.length - 1
    | t :: rest =>
      match t.kind with
      | .function | .leftParen => go (i + 1) (depth + 1) rest
      | .rightParen => if depth - 1 == 0 then i else go (i + 1) (depth - 1) rest
      | _ => go (i + 1) depth rest
  go start 0 (toks.drop start)

/-- Whether the query so far ends where a compound selector starts. -/
def needsUniversal (soFar : String) : Bool :=
  match soFar.toList.getLast? with
  | none => true
  | some c => c == ' ' || c == '\t' || c == '\n' || c == '>' || c == '+' || c == '~' ||
      c == ',' || c == '('

/-- Builds the query from token `i` on; each round takes at least one token. -/
def queryLoop (toks : Array Token) : Nat → Nat → String → String
  | 0, _, acc => acc
  | fuel + 1, i, acc =>
    if h : i < toks.size then
      let t := toks[i]
      if t.kind != .colon then queryLoop toks fuel (i + 1) (acc ++ t.text)
      else
        let element := toks[i + 1]?.any (·.kind == .colon)
        let j := if element then i + 2 else i + 1
        match toks[j]? with
        | some nameTok =>
          if nameTok.kind != .ident && nameTok.kind != .function then
            queryLoop toks fuel (i + 1) (acc ++ t.text)
          else
            let stop := if nameTok.kind == .function then closingParen toks.toList j else j
            let rawName := nameTok.text
            let name := lower (if rawName.endsWith "(" then String.ofList rawName.toList.dropLast
              else rawName)
            if !element && !legacyPseudoElements.contains name &&
                !ignoredPseudoClasses.contains name && !name.startsWith "-" then
              let kept := String.join ((toks.toList.drop i).take (stop + 1 - i) |>.map (·.text))
              queryLoop toks fuel (stop + 1) (acc ++ kept)
            else
              let acc := if needsUniversal acc then acc.push '*' else acc
              queryLoop toks fuel (stop + 1) acc
        | none => queryLoop toks fuel (i + 1) (acc ++ t.text)
    else acc

/-- The query of a selector for a static page. -/
def queryFor (selector : String) : String :=
  let toks := ((tokenize selector).map (·.token)).toArray
  let q := trimSpace (queryLoop toks (toks.size + 1) 0 "")
  if q.isEmpty then "*" else q

end CriticalCss.Probe
