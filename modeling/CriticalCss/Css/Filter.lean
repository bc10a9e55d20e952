import CriticalCss.Css.Prune
import CriticalCss.Regex.Match

/-!
# Exclusion filters from patterns

The configuration lists patterns of property names and of at-rule names to
exclude. A declaration or at-rule goes when any pattern matches some part of
its name. A filter with no patterns keeps everything.

## Main definitions

* `FilterConfig`: the configured patterns.
* `FilterError`: a pattern that does not compile.
* `FilterConfig.build`: the filters of a configuration.
* `Filters.excludingValues`: filters that also drop declarations by value.
-/

namespace CriticalCss.Css

open CriticalCss.Regex

/-- The exclusion patterns of a configuration. -/
structure FilterConfig where
  excludeProperties : List String := []
  excludeAtRules : List String := []
deriving Repr, DecidableEq

/-- A filter pattern that does not compile. -/
inductive FilterError where
  | property (e : SyntaxError)
  | atRule (e : SyntaxError)
  | value (e : SyntaxError)
deriving Repr

/-- The message of a filter problem. -/
def FilterError.message : FilterError → String
  | .property e => "bad property filter: " ++ e.message
  | .atRule e => "bad at-rule filter: " ++ e.message
  | .value e => "bad value filter: " ++ e.message

/-- Compiles patterns in order, stopping at the first bad one. -/
def compileAll : List String → Except SyntaxError (List Regex)
  | [] => .ok []
  | p :: ps => do
    let re ← Regex.compile p
    let rest ← compileAll ps
    return re :: rest

/-- Whether some pattern matches some part of a text. -/
def matchesAny (res : List Regex) (s : String) : Bool :=
  res.any (·.matchesIn s)

/-- The filters of a configuration: a predicate is present only when it has
patterns. -/
def FilterConfig.build (c : FilterConfig) : Except FilterError Filters := do
  let props ← (compileAll c.excludeProperties).mapError .property
  let atRules ← (compileAll c.excludeAtRules).mapError .atRule
  return {
    properties := if props.isEmpty then none else some fun name _ => !matchesAny props name
    atRules := if atRules.isEmpty then none else some fun name => !matchesAny atRules name }

/-- Filters that also drop declarations whose value some pattern matches. -/
def Filters.excludingValues (f : Filters) (patterns : List String) : Except FilterError Filters := do
  let res ← (compileAll patterns).mapError .value
  if res.isEmpty then return f
  let keepValue (name value : String) : Bool :=
    (f.properties.map (· name value)).getD true && !matchesAny res value
  return { f with properties := some keepValue }

end CriticalCss.Css
