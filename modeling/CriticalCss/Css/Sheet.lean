import CriticalCss.Css.Token

/-!
# Style sheets as item trees

A style sheet is a list of items: style rules with their selector lists,
at-rules with an optional block, declarations and comments. Blocks hold items
again. This module gives the tree, its compact text, and the walks that count
and list its parts.

The compact text writes selectors joined by commas, a `;` between a
declaration and the item after it (comments aside), `!important` right after a
value, and an at-rule as `@name prelude` followed by `;` or its block.

## Main definitions

* `Declaration`, `Item`: the tree.
* `Item.render`, `renderItems`: the compact text.
* `ParseError`: a problem the reader recovered from, with its position.
* `StyleSheet`: the source text, the items and the parse errors.
* `StyleSheet.css`, `StyleSheet.ruleCount`.
-/

namespace CriticalCss.Css

/-- A declaration: a property (lower case unless custom), its value without
`!important`, and whether it was important. -/
structure Declaration where
  property : String
  value : String
  important : Bool := false
deriving DecidableEq, Repr, Inhabited

/-- An item of a style sheet or of a block. -/
inductive Item where
  /-- A style rule: its selectors, one per list entry, and its block. -/
  | rule (selectors : List String) (items : List Item)
  /-- An at-rule: its lower-case name without `@`, its prelude, whether it has
  a block, and the block's items. -/
  | atRule (name : String) (prelude : String) (block : Bool) (items : List Item)
  | declaration (d : Declaration)
  /-- A comment, with its `/*` and `*/`. -/
  | comment (text : String)
deriving Repr, Inhabited

/-- The compact text of a declaration. -/
def Declaration.render (d : Declaration) : String :=
  d.property ++ ":" ++ d.value ++ (if d.important then "!important" else "")

/-- Whether an item is a declaration. -/
def Item.isDeclaration : Item → Bool
  | .declaration _ => true
  | _ => false

mutual

/-- The compact text of an item. -/
def Item.render : Item → String
  | .rule selectors items => ",".intercalate selectors ++ "\x7b" ++ renderItems false items ++ "\x7d"
  | .atRule name prelude block items =>
    "@" ++ name ++ (if prelude.isEmpty then "" else " " ++ prelude) ++
      (if block then "\x7b" ++ renderItems false items ++ "\x7d" else ";")
  | .declaration d => d.render
  | .comment text => text

/-- The compact text of a list of items; `afterDeclaration` tells whether the
last item written, comments aside, was a declaration, which puts a `;` before
the next one. -/
def renderItems (afterDeclaration : Bool) : List Item → String
  | [] => ""
  | .comment text :: rest => text ++ renderItems afterDeclaration rest
  | it :: rest =>
    (if afterDeclaration then ";" else "") ++ it.render ++ renderItems it.isDeclaration rest

end

/-- A problem the reader recovered from: line and column (from 1) and message. -/
structure ParseError where
  line : Nat
  column : Nat
  message : String
deriving DecidableEq, Repr

/-- The text of a recovered parse problem. -/
def ParseError.text (e : ParseError) : String :=
  "css parse error at line " ++ toString e.line ++ ", column " ++ toString e.column ++ ": " ++
    e.message

/-- A parsed style sheet: the text it was read from, its items and the
problems met while reading it. -/
structure StyleSheet where
  source : String
  items : List Item
  errors : List ParseError := []
deriving Repr

mutual

/-- The number of style rules in an item, nested ones included. -/
def Item.ruleCount : Item → Nat
  | .rule _ items => 1 + itemsRuleCount items
  | .atRule _ _ _ items => itemsRuleCount items
  | _ => 0

/-- The number of style rules in a list of items, nested ones included. -/
def itemsRuleCount : List Item → Nat
  | [] => 0
  | it :: rest => it.ruleCount + itemsRuleCount rest

end

namespace StyleSheet

/-- The compact text of the sheet. -/
def css (s : StyleSheet) : String :=
  renderItems false s.items

/-- The number of style rules, nested ones included. -/
def ruleCount (s : StyleSheet) : Nat :=
  itemsRuleCount s.items

end StyleSheet

end CriticalCss.Css
