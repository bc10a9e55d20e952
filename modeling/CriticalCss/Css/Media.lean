import CriticalCss.Css.Lexer
import CriticalCss.Text.Case

/-!
# Media queries

An `@media` prelude is a comma separated list of queries. Each query may name
media types (`all`, `print`, `screen`, `speech`), each possibly negated by a
`not` right before it. A query matters for rendering a page on a screen when
it names no type, when it names `screen` or `all` without negation, or, naming
neither, when every type it names is negated.

Identifiers inside parentheses are media features and are not examined.

## Main definitions

* `MediaQuery`: the text of one query and the types it names.
* `MediaQuery.useful`: whether the query can apply to a screen.
* `parseMediaQueries`: the queries of a prelude.
* `usefulMediaQueries`: the texts of the useful queries.
-/

namespace CriticalCss.Css

open CriticalCss.Text

/-- The media types a query may name. -/
def mediaTypes : List String := ["all", "print", "screen", "speech"]

/-- One query of a media prelude: its text with blanks normalized, and each
media type it names with `false` when a `not` stands right before it. -/
structure MediaQuery where
  raw : String
  types : List (String × Bool)
deriving Repr, DecidableEq

/-- Sets the value of a key in a list of pairs, keeping the first position of
the key. -/
def setKey (kvs : List (String × Bool)) (k : String) (v : Bool) : List (String × Bool) :=
  if kvs.any (·.1 == k) then kvs.map (fun p => if p.1 == k then (k, v) else p)
  else kvs ++ [(k, v)]

/-- The value of a key in a list of pairs. -/
def getKey? (kvs : List (String × Bool)) (k : String) : Option Bool :=
  (kvs.find? (·.1 == k)).map (·.2)

/-- Whether a query can apply when a page is shown on a screen. -/
def MediaQuery.useful (q : MediaQuery) : Bool :=
  if q.types.isEmpty then true
  else match getKey? q.types "screen" with
    | some v => v
    | none =>
      match getKey? q.types "all" with
      | some v => v
      | none => q.types.all (!·.2)

/-- The state of splitting a prelude: queries so far, the current query's
tokens and types, whether the last identifier was `not`, and the depth of
parentheses. -/
structure MediaSplit where
  queries : Array MediaQuery := #[]
  current : Array Token := #[]
  types : List (String × Bool) := []
  negated : Bool := false
  depth : Nat := 0

/-- Ends the current query, keeping it if its text is not empty. -/
def MediaSplit.flush (s : MediaSplit) : MediaSplit :=
  let raw := joinText s.current.toList
  { s with
    queries := if raw.isEmpty then s.queries else s.queries.push ⟨raw, s.types⟩
    current := #[], types := [], negated := false }

/-- Takes one token of a prelude. -/
def MediaSplit.step (s : MediaSplit) (t : Token) : MediaSplit :=
  match t.kind with
  | .function | .leftParen => { s with depth := s.depth + 1, current := s.current.push t }
  | .rightParen => { s with depth := s.depth - 1, current := s.current.push t }
  | .comma => if s.depth == 0 then s.flush else { s with current := s.current.push t }
  | .ident =>
    if 0 < s.depth then { s with current := s.current.push t }
    else
      let id := lower t.text
      let types := if mediaTypes.contains id then setKey s.types id (!s.negated) else s.types
      { s with types, negated := id == "not", current := s.current.push t }
  | _ => { s with current := s.current.push t }

/-- The queries of a media prelude, split at the commas outside parentheses. -/
def parseMediaQueries (prelude : String) : List MediaQuery :=
  (((tokenize prelude).map (·.token)).foldl MediaSplit.step {}).flush.queries.toList

/-- The texts of the queries of a prelude that can apply to a screen. -/
def usefulMediaQueries (prelude : String) : List String :=
  ((parseMediaQueries prelude).filter (·.useful)).map (·.raw)

end CriticalCss.Css
