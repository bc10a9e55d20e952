import CriticalCss.Css.Sheet
import CriticalCss.Css.Vendor
import CriticalCss.Css.Value

/-!
# Selectors of a style sheet

The selectors that can be probed on a page: those of style rules outside
`@keyframes` blocks, except the selection pseudo-elements, which never belong
to the critical part of a sheet.

## Main definitions

* `isExcludedSelector`: a selector that names `:selection` or `:-moz-selection`.
* `StyleSheet.selectors`: the probe-able selectors in document order.
-/

namespace CriticalCss.Css

/-- Selectors naming the selection pseudo-element, with one or two colons and
an optional `-moz-` prefix. -/
def isExcludedSelector (selector : String) : Bool :=
  containsText selector ":selection" || containsText selector ":-moz-selection"

/-- Whether an at-rule name is `keyframes`, vendor prefix aside. -/
def isKeyframes (name : String) : Bool :=
  baseName name == "keyframes"

mutual

/-- The probe-able selectors of an item, parents first; `inKeyframes` tells
whether the closest enclosing at-rule is a `@keyframes`. -/
def Item.selectors (inKeyframes : Bool) : Item → List String
  | .rule selectors items =>
    (if inKeyframes then [] else selectors.filter (!isExcludedSelector ·)) ++
      itemsSelectors inKeyframes items
  | .atRule name _ _ items => itemsSelectors (isKeyframes name) items
  | _ => []

/-- The probe-able selectors of a list of items. -/
def itemsSelectors (inKeyframes : Bool) : List Item → List String
  | [] => []
  | it :: rest => it.selectors inKeyframes ++ itemsSelectors inKeyframes rest

end

/-- The selectors of style rules outside `@keyframes`, in document order,
without the selection pseudo-elements. -/
def StyleSheet.selectors (s : StyleSheet) : List String :=
  itemsSelectors false s.items

end CriticalCss.Css
