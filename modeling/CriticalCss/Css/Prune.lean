import CriticalCss.Css.Sheet.Walk
import CriticalCss.Css.Selector
import CriticalCss.Css.Media
import CriticalCss.Css.Value
import CriticalCss.Text.Case

/-!
# Pruning a style sheet to its critical part

Given the selectors that match content above the fold, the critical part of a
sheet keeps only what renders them:

1. `@media` blocks keep their queries that can apply to a screen, and go when
   none can;
2. `@keyframes`, `@charset` and `@import` go;
3. style rules keep their critical selectors, the selection pseudo-elements
   never among them, and go when none is left; a rule declaring `grid-area`
   is kept whole; grouping blocks left without rules go;
4. declarations of animations, transitions, cursors, pointer events, tap
   highlight colours and user selection go;
5. declarations embedding base64 data urls over 1000 bytes go;
6. comments go;
7. style rules left empty go, and grouping blocks left without rules.

Names are compared without vendor prefix. User filters remove declarations
and at-rules before pruning.

## Main definitions

* `Filters`: user predicates on declarations and at-rules.
* `StyleSheet.applyFilters`: the sheet without what the filters reject.
* `StyleSheet.pruned`: the critical part of a sheet.
* `isExcludedProperty`: the properties pruning always removes.
-/

namespace CriticalCss.Css

open CriticalCss.Text

/-- The property families that never belong to the critical part. -/
def excludedProperties : List String :=
  ["animation", "transition", "cursor", "pointer-events", "tap-highlight-color", "user-select"]

/-- At-rules removed from the critical part whatever their prefix. -/
def droppedAtRules : List String := ["keyframes", "charset", "import"]

/-- At-rules that group rules, and go when no rule is left inside. -/
def groupingAtRules : List String := ["media", "supports", "layer", "container", "document"]

/-- Whether an at-rule name groups rules, vendor prefix aside. -/
def isGrouping (name : String) : Bool :=
  groupingAtRules.contains (baseName name)

/-- Properties whose lower-case name, without vendor prefix, contains one of
`excludedProperties`; custom properties never are. -/
def isExcludedProperty (name : String) : Bool :=
  if name.startsWith "--" then false
  else
    let base := baseName (lower name)
    excludedProperties.any (containsText base ·)

/-- User predicates: a declaration stays when `properties` holds of its
property and value, an at-rule when `atRules` holds of its name. A missing
predicate keeps everything. -/
structure Filters where
  properties : Option (String → String → Bool) := none
  atRules : Option (String → Bool) := none

/-- The decision of filters on one item. -/
def Filters.keep (f : Filters) (_ : Scope) : Item → Option Item
  | .declaration d =>
    match f.properties with
    | some p => if p d.property d.value then some (.declaration d) else none
    | none => some (.declaration d)
  | .atRule name prelude block items =>
    match f.atRules with
    | some p => if p name then some (.atRule name prelude block items) else none
    | none => some (.atRule name prelude block items)
  | it => some it

/-- The sheet without the declarations and at-rules the filters reject. -/
def StyleSheet.applyFilters (s : StyleSheet) (f : Filters) : StyleSheet :=
  if f.properties.isNone && f.atRules.isNone then s
  else { s with items := filterItems f.keep {} s.items }

/-- `@media` blocks keep the queries that can apply to a screen. -/
def keepMedia (_ : Scope) : Item → Option Item
  | .atRule name prelude block items =>
    if baseName name != "media" || prelude.isEmpty then some (.atRule name prelude block items)
    else
      match usefulMediaQueries prelude with
      | [] => none
      | useful => some (.atRule name (",".intercalate useful) block items)
  | it => some it

/-- Drops `@keyframes`, `@charset` and `@import`. -/
def keepAtRule (_ : Scope) : Item → Option Item
  | .atRule name prelude block items =>
    if droppedAtRules.contains (baseName name) then none else some (.atRule name prelude block items)
  | it => some it

/-- Whether a block declares a property directly. -/
def declares (items : List Item) (property : String) : Bool :=
  items.any fun
    | .declaration d => d.property == property
    | _ => false

/-- Style rules outside `@keyframes` keep their critical selectors. -/
def keepCritical (critical : String → Bool) (sc : Scope) : Item → Option Item
  | .rule selectors items =>
    if sc.atRule.any isKeyframes then some (.rule selectors items)
    else if declares items "grid-area" then
      if selectors.isEmpty then none else some (.rule selectors items)
    else
      match selectors.filter (fun s => !isExcludedSelector s && critical s) with
      | [] => none
      | kept => some (.rule kept items)
  | it => some it

/-- Drops comments. -/
def keepNonComment (_ : Scope) : Item → Option Item
  | .comment _ => none
  | it => some it

/-- The critical part of a sheet for a set of critical selectors. -/
def StyleSheet.pruned (s : StyleSheet) (critical : String → Bool) : StyleSheet :=
  let items := filterItems keepMedia {} s.items
  let items := filterItems keepAtRule {} items
  let items := pruneGroups isGrouping (filterItems (keepCritical critical) {} items)
  let items := filterItems (keepDeclarations fun _ d => !isExcludedProperty d.property) {} items
  let items := filterItems (keepDeclarations fun _ d => !hasLargeBase64 d.value) {} items
  let items := filterItems keepNonComment {} items
  { s with items := pruneEmpty isGrouping items }

end CriticalCss.Css
