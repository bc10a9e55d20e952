import CriticalCss.Css.Prune

/-!
# Custom properties

A custom property (`--name`) is needed when some declaration value refers to it
with `var(`, in a fallback or in another custom property included. Definitions
no value refers to can be removed; the rules they leave empty go too.

## Main definitions

* `StyleSheet.usedVariables`: the names referred to by `var(`.
* `StyleSheet.pruneUnusedVariables`: the sheet without other definitions, and
  how many were removed.
-/

namespace CriticalCss.Css

open CriticalCss.Text

/-- Whether a declaration defines a custom property. -/
def Declaration.isCustom (d : Declaration) : Bool :=
  d.property.startsWith "--"

/-- The custom property names referred to in the values of a sheet, without
repeats, in order of first reference. -/
def StyleSheet.usedVariables (s : StyleSheet) : List String :=
  ((itemsDeclarations {} s.items).flatMap fun (_, d) =>
    if containsText (lower d.value) "var(" then variableReferences d.value.toList else []).eraseDups

/-- The sheet without the custom property definitions not in `used`, and the
number removed; when any was removed, emptied rules and groups go too. -/
def StyleSheet.pruneUnusedVariables (s : StyleSheet) (used : String → Bool) : StyleSheet × Nat :=
  let unused (d : Declaration) : Bool := d.isCustom && !used d.property
  let removed := ((itemsDeclarations {} s.items).filter fun (_, d) => unused d).length
  let items := filterItems (keepDeclarations fun _ d => !unused d) {} s.items
  ({ s with items := if 0 < removed then pruneEmpty isGrouping items else items }, removed)

end CriticalCss.Css
