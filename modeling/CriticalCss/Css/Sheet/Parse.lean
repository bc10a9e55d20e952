import CriticalCss.Css.Event
import CriticalCss.Css.Sheet
import CriticalCss.Text.Position
import CriticalCss.Text.Space
import CriticalCss.Text.Case

/-!
# Parsing a style sheet

The events of a style sheet are assembled into its item tree. A block opened
by an event collects the items up to its end event, or up to the end of the
input. Selector groups wait for the `{` that begins their rule, and an error
drops the group in progress.

Errors are recorded with their line and column and reading goes on, until 256
errors come in a row: then the sheet is given up, and the last error is
reported with a snippet of its line.

A declaration whose value ends in `!important` (any case, blanks allowed
around the `!`) is marked important and loses that suffix.

## Main definitions

* `ParseFailure`: reading was given up.
* `splitImportant`: a value and its importance.
* `StyleSheet.parse`: the tree of a text, or the failure.
-/

namespace CriticalCss.Css

open CriticalCss.Text

/-- Reading a sheet was given up after too many errors in a row; `last` is the
last error with its position and snippet. -/
structure ParseFailure where
  last : String
deriving Repr

/-- The message of a failed reading. -/
def ParseFailure.text (f : ParseFailure) : String :=
  "unable to parse css, too many errors, last one: " ++ f.last

/-- The number of errors in a row after which reading is given up. -/
def maxStrikes : Nat := 256

/-- Strips the ASCII letters of `word` (reversed, in lower case) from the
front of reversed text, ignoring case. -/
def stripWordRev : List Char → List Char → Option (List Char)
  | [], rest => some rest
  | _ :: _, [] => none
  | w :: ws, c :: cs => if c.toLower == w then stripWordRev ws cs else none

/-- A value without a final `!important` (any case, ASCII blanks around `!`
and at the end allowed), trimmed, and whether it had one. -/
def splitImportant (value : String) : String × Bool :=
  let rev := (value.toList.reverse.dropWhile isAsciiSpace)
  match stripWordRev "important".toList.reverse rev with
  | some rest =>
    match rest.dropWhile isAsciiSpace with
    | '!' :: before => (trimSpace (String.ofList before.reverse), true)
    | _ => (value, false)
  | none => (value, false)

/-- A declaration from a property and its value text. -/
def mkDeclaration (property value : String) : Declaration :=
  let (v, important) := splitImportant value
  { property, value := v, important }

/-- The name of an at-rule from its keyword: lower case, without `@`. -/
def atRuleName (keyword : String) : String :=
  lower (if keyword.startsWith "@" then String.ofList (keyword.toList.drop 1) else keyword)

/-- What an open block becomes when it is closed. -/
inductive FrameKind where
  | sheet
  | rule (selectors : List String)
  | atRule (name : String) (prelude : String)

/-- An open block: its kind, its items so far and the selector tokens waiting
for a `{`. -/
structure Frame where
  kind : FrameKind
  items : Array Item := #[]
  pending : Array Token := #[]

/-- The item a closed block becomes in its parent. -/
def Frame.toItem? (f : Frame) : Option Item :=
  match f.kind with
  | .sheet => none
  | .rule selectors => some (.rule selectors f.items.toList)
  | .atRule name prelude => some (.atRule name prelude true f.items.toList)

/-- The state of assembling a tree. -/
structure Assembly where
  /-- Open blocks, innermost first, the sheet last. -/
  frames : List Frame := [{ kind := .sheet }]
  errors : Array ParseError := #[]
  strikes : Nat := 0

namespace Assembly

/-- Changes the innermost open block. -/
def modifyTop (a : Assembly) (f : Frame → Frame) : Assembly :=
  match a.frames with
  | top :: rest => { a with frames := f top :: rest }
  | [] => { a with frames := [f { kind := .sheet }] }

/-- Adds an item to the innermost open block. -/
def add (a : Assembly) (it : Item) : Assembly :=
  a.modifyTop fun f => { f with items := f.items.push it }

/-- Closes the innermost block, adding it to its parent. -/
def close (a : Assembly) : Assembly :=
  match a.frames with
  | top :: parent :: rest =>
    match top.toItem? with
    | some it => { a with frames := { parent with items := parent.items.push it } :: rest }
    | none => a
  | _ => a

/-- Whether the innermost block is ended by an event. -/
def endedBy (a : Assembly) (e : Event) : Bool :=
  match a.frames, e with
  | { kind := .rule _, .. } :: _, .endRule => true
  | { kind := .atRule _ _, .. } :: _, .endAtRule => true
  | _, _ => false

/-- Takes one event that is not an error or the end of the input. -/
def step (a : Assembly) (e : Event) : Assembly :=
  match e with
  | .comment text => a.add (.comment text)
  | .atRule name prelude => a.add (.atRule (atRuleName name) (joinText prelude) false [])
  | .beginAtRule name prelude =>
    { a with frames := { kind := .atRule (atRuleName name) (joinText prelude) } :: a.frames }
  | .selectors parts =>
    a.modifyTop fun f => { f with pending := (f.pending ++ parts.toArray).push ⟨.comma, ","⟩ }
  | .beginRule parts =>
    match a.frames with
    | top :: rest =>
      let selectors := splitSelectors (top.pending ++ parts.toArray).toList
      { a with frames := { kind := .rule selectors } :: { top with pending := #[] } :: rest }
    | [] => a
  | .declaration name value => a.add (.declaration (mkDeclaration (lower name) (joinText value)))
  | .customProperty name value => a.add (.declaration (mkDeclaration name (trimSpace value)))
  | .endAtRule | .endRule => if a.endedBy e then a.close else a
  | _ => a

/-- Closes every open block. -/
def finish (a : Assembly) : List Item :=
  let rec go : List Frame → List Item
    | [] => []
    | [f] => f.items.toList
    | f :: parent :: rest =>
      match f.toItem? with
      | some it => go ({ parent with items := parent.items.push it } :: rest)
      | none => go (parent :: rest)
  termination_by l => l.length
  go a.frames

end Assembly

/-- The text of an error with its position and snippet. -/
def positionedMessage (source : String) (message : String) (offset : Nat) : String :=
  let p := Position.ofOffset source offset
  message ++ " on line " ++ toString p.line ++ " and column " ++ toString p.column ++ "\n" ++
    p.render

/-- Assembles events into a tree; an error in a row of `maxStrikes` gives up. -/
def assemble (source : String) : List Event → Assembly → Except ParseFailure Assembly
  | [], a => .ok a
  | e :: es, a =>
    match e with
    | .finish => .ok a
    | .error message offset _ =>
      let p := Position.ofOffset source offset
      let a := { a with errors := a.errors.push ⟨p.line, p.column, message⟩,
                        strikes := a.strikes + 1 }
      if maxStrikes ≤ a.strikes then .error ⟨positionedMessage source message offset⟩
      else assemble source es (a.modifyTop fun f => { f with pending := #[] })
    | _ => assemble source es ({ a with strikes := 0 }.step e)

/-- Parses a style sheet. Problems are recorded and reading goes on; it fails
only after `maxStrikes` errors in a row. -/
def StyleSheet.parse (source : String) : Except ParseFailure StyleSheet := do
  let a ← assemble source (events source) {}
  return { source, items := a.finish, errors := a.errors.toList }

end CriticalCss.Css
