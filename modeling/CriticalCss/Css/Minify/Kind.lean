import CriticalCss.Text.Case
import CriticalCss.Css.Minify.Sheet
import CriticalCss.Css.Minify.Compact

/-!
# Minifier kinds

The generated style sheet is compacted by one of three minifiers, named in the
configuration: `tdewolff`, the full minifier that shortens tokens and values;
`cssmin`, the light one that only compacts text; and `none`, which keeps the
text. A kind is stored as its number, 0, 1 or 2 in that order; other numbers
name no minifier.

## Main definitions

* `MinifierKind`: the three kinds.
* `MinifierKind.parse`: a kind from its name, in any case.
* `kindText`: the name of a kind number.
* `minifierFor`: the minifier of a kind number.
-/

namespace CriticalCss.Css

open CriticalCss.Text

/-- A kind of minifier. -/
inductive MinifierKind where
  /-- Shortens tokens and values. -/
  | full
  /-- Compacts the text: comments and blanks. -/
  | whitespace
  /-- Keeps the text. -/
  | identity
deriving DecidableEq, Repr, Inhabited

namespace MinifierKind

/-- The kinds in the order of their numbers. -/
def all : List MinifierKind := [.full, .whitespace, .identity]

/-- The number of a kind. -/
def code : MinifierKind → Int
  | .full => 0
  | .whitespace => 1
  | .identity => 2

/-- The name of a kind. -/
def name : MinifierKind → String
  | .full => "tdewolff"
  | .whitespace => "cssmin"
  | .identity => "none"

/-- The kind of a number, if any. -/
def ofCode? (n : Int) : Option MinifierKind :=
  all.find? (·.code == n)

/-- A kind from its name, in any case. -/
def parse (text : String) : Except String MinifierKind :=
  match all.find? (·.name == text) with
  | some k => .ok k
  | none =>
    match all.find? (·.name == lower text) with
    | some k => .ok k
    | none => .error (text ++ " is not a valid MinifierKind")

/-- Compacts a style sheet. -/
def run : MinifierKind → String → String
  | .full => minifyStyleSheet
  | .whitespace => compactCss
  | .identity => id

end MinifierKind

/-- The name of a kind number; a number that is no kind is written with it. -/
def kindText (n : Int) : String :=
  match MinifierKind.ofCode? n with
  | some k => k.name
  | none => "MinifierKind(" ++ toString n ++ ")"

/-- The minifier of a kind number. -/
def minifierFor (n : Int) : Except String MinifierKind :=
  match MinifierKind.ofCode? n with
  | some k => .ok k
  | none => .error ("unsupported minifier " ++ kindText n)

end CriticalCss.Css
