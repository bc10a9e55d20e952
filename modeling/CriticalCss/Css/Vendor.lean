/-!
# Vendor prefixes

Property and at-rule names may carry one vendor prefix such as `-webkit-` or
`-moz-`. Custom property names, which start with `--`, carry none.

## Main definitions

* `baseName`: a name without its vendor prefix.
-/

namespace CriticalCss.Css

/-- A name without one vendor prefix: a name `-x-rest` becomes `rest`. Names
that start with `--`, and names with no second hyphen, are kept. -/
def baseName (name : String) : String :=
  match name.toList with
  | '-' :: c :: rest =>
    if c == '-' then name
    else
      match (c :: rest).dropWhile (· != '-') with
      | '-' :: tail => String.ofList tail
      | _ => name
  | _ => name

end CriticalCss.Css
