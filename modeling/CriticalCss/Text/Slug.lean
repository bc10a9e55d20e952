import CriticalCss.Text.Space
import CriticalCss.Text.Transliterate
/-!
# Slugs

A slug is a text made safe for a file name or an address: the text is
trimmed, `&` becomes `and` and `@` becomes `at`, it is spelled in ASCII and
put in lower case, every character other than a letter, a digit, `-` and `_`
becomes `-`, runs of `-` become one, and `-` and `_` are trimmed from both
ends.

## Main definitions

* `slug`: the slug of a text.
-/

namespace CriticalCss.Text

/-- Whether a character is kept in a slug. -/
def isSlugChar (c : Char) : Bool :=
  c.isAlphanum || c == '-' || c == '_'

/-- Runs of `-` collapsed to one. -/
def collapseDashes : List Char → List Char
  | '-' :: '-' :: rest => collapseDashes ('-' :: rest)
  | c :: rest => c :: collapseDashes rest
  | [] => []

/-- The slug of a text. -/
def slug (s : String) : String :=
  let words := (trimSpace s).toList.flatMap fun c =>
    if c == '&' then "and".toList else if c == '@' then "at".toList else [c]
  let ascii := (transliterate (String.ofList words)).toList.map Char.toLower
  let safe := collapseDashes (ascii.map fun c => if isSlugChar c then c else '-')
  let trim (cs : List Char) := cs.dropWhile fun c => c == '-' || c == '_'
  String.ofList (trim (trim safe).reverse).reverse

end CriticalCss.Text
