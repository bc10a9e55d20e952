import CriticalCss.Css.Sheet

/-!
# Walking the item tree

An item sits in a scope: the closest enclosing at-rule, and whether a style
rule encloses it. Filters decide for each item whether it stays, possibly
changing it; declarations are collected with their scope.

A filter works from the leaves up: the items of a block are filtered before the
block itself is decided on. The decisions made here look only at an item's own
fields and at the declarations directly in its block, which no filter of a
block removes before the block is decided, so the outcome is that of deciding
each item before its block.

## Main definitions

* `Scope`: where an item sits.
* `filterItems`: the items a decision keeps, with their blocks filtered.
* `declarationsIn`: the declarations of a tree with their scopes.
* `pruneEmptyGroups`, `pruneEmptyRules`: removal of emptied blocks.
-/

namespace CriticalCss.Css

/-- Where an item sits: the name of the closest enclosing at-rule, and whether
a style rule encloses it. -/
structure Scope where
  atRule : Option String := none
  inRule : Bool := false
deriving Repr

mutual

/-- An item after filtering its block, if `keep` keeps it. -/
def Item.filterWith (keep : Scope → Item → Option Item) (sc : Scope) : Item → Option Item
  | .rule selectors items =>
    keep sc (.rule selectors (filterItems keep { sc with inRule := true } items))
  | .atRule name prelude block items =>
    keep sc (.atRule name prelude block (filterItems keep { sc with atRule := some name } items))
  | it => keep sc it

/-- The items that `keep` keeps, each with its block filtered. -/
def filterItems (keep : Scope → Item → Option Item) (sc : Scope) : List Item → List Item
  | [] => []
  | it :: rest =>
    match it.filterWith keep sc with
    | some it' => it' :: filterItems keep sc rest
    | none => filterItems keep sc rest

end

/-- A decision that keeps every item but the declarations `keep` rejects. -/
def keepDeclarations (keep : Scope → Declaration → Bool) (sc : Scope) : Item → Option Item
  | .declaration d => if keep sc d then some (.declaration d) else none
  | it => some it

mutual

/-- The declarations of an item with their scopes, parents first. -/
def Item.declarationsIn (sc : Scope) : Item → List (Scope × Declaration)
  | .rule _ items => itemsDeclarations { sc with inRule := true } items
  | .atRule name _ _ items => itemsDeclarations { sc with atRule := some name } items
  | .declaration d => [(sc, d)]
  | .comment _ => []

/-- The declarations of a list of items with their scopes. -/
def itemsDeclarations (sc : Scope) : List Item → List (Scope × Declaration)
  | [] => []
  | it :: rest => it.declarationsIn sc ++ itemsDeclarations sc rest

end

/-- Whether a block holds a style rule or an at-rule. -/
def hasRules (items : List Item) : Bool :=
  items.any fun
    | .rule _ _ => true
    | .atRule _ _ _ _ => true
    | _ => false

mutual

/-- An item with emptied grouping blocks removed below it, if it stays:
a block of a grouping at-rule without rules is removed, innermost first. -/
def Item.pruneGroups (isGrouping : String → Bool) : Item → Option Item
  | .rule selectors items => some (.rule selectors (pruneGroups isGrouping items))
  | .atRule name prelude true items =>
    let items := pruneGroups isGrouping items
    if isGrouping name && !hasRules items then none else some (.atRule name prelude true items)
  | it => some it

/-- Items with emptied grouping blocks removed, innermost first. -/
def pruneGroups (isGrouping : String → Bool) : List Item → List Item
  | [] => []
  | it :: rest =>
    match it.pruneGroups isGrouping with
    | some it' => it' :: pruneGroups isGrouping rest
    | none => pruneGroups isGrouping rest

/-- An item with empty style rules removed below it, if it stays: a style rule
with an empty block goes, and so does a grouping block left without rules. -/
def Item.pruneEmpty (isGrouping : String → Bool) : Item → Option Item
  | .rule selectors items =>
    let items := pruneEmpty isGrouping items
    if items.isEmpty then none else some (.rule selectors items)
  | .atRule name prelude true items =>
    let items := pruneEmpty isGrouping items
    if isGrouping name && !hasRules items then none else some (.atRule name prelude true items)
  | it => some it

/-- Items with empty style rules and emptied grouping blocks removed,
innermost first. -/
def pruneEmpty (isGrouping : String → Bool) : List Item → List Item
  | [] => []
  | it :: rest =>
    match it.pruneEmpty isGrouping with
    | some it' => it' :: pruneEmpty isGrouping rest
    | none => pruneEmpty isGrouping rest

end

end CriticalCss.Css
