import CriticalCss.Css.Minify.Property
/-!
# Compact declarations

A declaration is written as its property, a colon and its value. A value
that is a plain list is shortened token by token and then by the rules of
its property, and written with a blank between two components only where
one is needed: none after a comma, `/`, a function or a `url(...)`, and none
before a comma or `/`. A final `!important` is kept apart and written last.

## Main definitions

* `writeComponents`: the text of a list of components.
* `shortenAlphaFilter`: an old opacity filter in its short form.
* `minifyDeclaration`: the compact text of a declaration.
-/

namespace CriticalCss.Css

/-- Whether a component separates: a comma or `/`. -/
def Component.separates : Component → Bool
  | .token t => isSeparator t
  | _ => false

/-- Whether no blank is needed after a component: a separator, a function
or a `url(...)`, which all end in a character that ends them. -/
def Component.closes (c : Component) : Bool :=
  c.separates || (c matches .function _ _) || c.isKind .url

/-- The components of a value with a blank between two where it is needed. -/
def writeComponents (cs : List Component) : String :=
  (cs.foldl (fun (acc : String × Bool) c =>
    let pre := if acc.2 || c.separates then "" else " "
    (acc.1 ++ pre ++ c.text, c.closes)) ("", true)).1

/-- The value tokens without a final `!important`, and whether it was there. -/
def splitImportantTokens (value : List Token) : List Token × Bool :=
  match value.reverse with
  | imp :: bang :: rest =>
    if 2 < value.length && bang.kind == .delim && bang.text == "!" && imp.text == "important" then
      (rest.reverse, true)
    else (value, false)
  | _ => (value, false)

/-- An old opacity filter value `progid:DXImageTransform.Microsoft.Alpha(Opacity=…)`,
as its eleven tokens, written `alpha(opacity=…)`. The word `opacity` is put
in lower case once the tokens before it match, even when the rest does not. -/
def shortenAlphaFilter (value : List Token) : List Token :=
  match value with
  | [t0, t1, t2, t3, t4, t5, t6, t7, t8, t9, t10] =>
    if t0.text == "progid" && t1.kind == .colon && t2.text == "DXImageTransform" &&
        t3.text.startsWith "." && t4.text == "Microsoft" && t5.text.startsWith "." &&
        t6.text == "Alpha(" then
      let t7 : Token := { t7 with text := lowerAscii t7.text }
      if t7.text == "opacity" && t8.text.startsWith "=" && t10.text.startsWith ")" then
        [⟨.function, "alpha("⟩, t7, t8, t9, t10]
      else [t0, t1, t2, t3, t4, t5, t6, t7, t8, t9, t10]
    else value
  | _ => value

/-- The compact text of a declaration from its property and value tokens.
`sheet` compacts a style sheet held in a data address. -/
def minifyDeclaration (sheet : String → String) (prop : String) (value : List Token) : String :=
  let head := prop ++ ":"
  if value.isEmpty then head
  else
    let (value, important) := splitImportantTokens value
    let value := if prop == "filter" then shortenAlphaFilter value else value
    let tail := if important then "!important" else ""
    match components value with
    | none => head ++ String.join (value.map (·.text)) ++ tail
    | some cs =>
      let cs := minifyComponents sheet prop false cs
      let cs := if cs.isEmpty then cs else minifyProperty prop cs
      head ++ writeComponents cs ++ tail

end CriticalCss.Css
