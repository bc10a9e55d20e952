import CriticalCss.Css.Sheet.Walk
import CriticalCss.Css.Value
import CriticalCss.Text.Case
import CriticalCss.Url.Resolve

/-!
# Absolute references

A style sheet copied out of its location keeps working when its relative
`url(...)` references are made absolute against the place it came from. Only
declaration values and `@import` preludes are changed; same-document
references (`#...`) and `data:` urls stay as they are, and so do references
that are not urls.

## Main definitions

* `BaseUrlError`: the base location is not a url.
* `absoluteReference`: one reference read against the base.
* `StyleSheet.absolutifyUrls`: every reference of a sheet read against the base.
-/

namespace CriticalCss.Css

open CriticalCss.Text
open CriticalCss.Url

/-- The base location of a sheet that is not a url. -/
structure BaseUrlError where
  base : String
  cause : Url.ParseError
deriving Repr

/-- The message of an unreadable base location. -/
def BaseUrlError.message (e : BaseUrlError) : String :=
  "unable to parse base url " ++ quote e.base ++ ": " ++ e.cause.message

/-- The text of a reference read against a base: unchanged for same-document
references, `data:` urls and references that are not urls. -/
def absoluteReference (base : Url) (ref : String) : String :=
  if ref.startsWith "#" || (lower ref).startsWith "data:" then ref
  else
    match Url.parse ref with
    | .error _ => ref
    | .ok u => (base.resolve u).render

/-- An item with its references made absolute. -/
def absolutifyItem (resolve : String → String) (_ : Scope) : Item → Option Item
  | .declaration d => some (.declaration { d with value := replaceUrls d.value resolve })
  | .atRule "import" prelude block items =>
    some (.atRule "import" (replaceUrls prelude resolve) block items)
  | it => some it

/-- The sheet with its references made absolute against `base`. -/
def StyleSheet.absolutifyUrls (s : StyleSheet) (base : String) : Except BaseUrlError StyleSheet :=
  match Url.parse base with
  | .error e => .error ⟨base, e⟩
  | .ok b => .ok { s with items := filterItems (absolutifyItem (absoluteReference b)) {} s.items }

end CriticalCss.Css
