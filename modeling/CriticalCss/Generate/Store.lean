import CriticalCss.Generate.Event
import CriticalCss.Css.Sheet.Parse
import CriticalCss.Css.Absolute
import CriticalCss.Css.Selector
import CriticalCss.Css.Prune
import CriticalCss.Css.Variable
import CriticalCss.Css.Font

/-!
# The stylesheets of a run

The stylesheets that the pages of a run include, each read once. A
stylesheet is fetched the first time its url is added; a text that was seen
before under another url is not read again but shares the first one's file,
which then knows both urls. Every file knows the pages that include it.
Files are listed in the order their first url was discovered, even when
fetches finish in another order.

A stylesheet that cannot be fetched or read is remembered as failed and never
fetched again; the failure is kept as a warning, not held against the page.
A canceled fetch stops the run.

## Main definitions

* `SheetFile`: one distinct stylesheet text, parsed.
* `Store`: the files, the failures and the recovered parse problems.
* `Store.add`, `Store.addAll`: adding the stylesheets of a page.
* `Store.selectorPages`: for each selector, the pages whose stylesheets hold it.
* `Store.prunedSheetsOf`, `Store.prunedSheets`: the critical part of every stylesheet.
-/

namespace CriticalCss.Generate

open CriticalCss.Css
open CriticalCss.Text

/-- A distinct stylesheet text with its tree, the pages that include it and
the urls it was found at, in order of discovery. -/
structure SheetFile where
  text : String
  sheet : StyleSheet
  pages : List String
  urls : List String
  /-- The position of the earliest discovered of its urls. -/
  order : Nat
deriving Repr

/-- Appends an element to a list unless it is there. -/
def appendNew {α : Type} [BEq α] (xs : List α) (x : α) : List α :=
  if xs.contains x then xs else xs ++ [x]

/-- The failure of a url that is not one. -/
def urlFailure (e : Url.ParseError) : Failure :=
  .urlError "parse" e.text (.plain e.cause.message)

/-- The failure of a stylesheet that could not be read. -/
def parseFailure (f : ParseFailure) : Failure :=
  .wrapped "unable to parse css, too many errors, last one: " (.plain f.last)

/-- The failure of a stylesheet location that is not a url. -/
def baseFailure (e : BaseUrlError) : Failure :=
  .wrapped ("unable to parse base url " ++ quote e.base ++ ": ") (urlFailure e.cause)

/-- The stylesheets of a run. -/
structure Store where
  /-- Every url added, in order of discovery. -/
  discovered : List String := []
  /-- The files in order of creation. -/
  files : List SheetFile := []
  /-- The urls that failed, with their failure. -/
  failed : List (String × Failure) := []
  /-- The failures in order. -/
  errors : List Failure := []
  /-- The recovered parse problems, each with its url. -/
  parseErrors : List Failure := []
deriving Repr, Inhabited

namespace Store

/-- Remembers the position of a url in order of discovery. -/
def reserve (s : Store) (url : String) : Store :=
  { s with discovered := appendNew s.discovered url }

/-- The position of a url in order of discovery. -/
def orderOf (s : Store) (url : String) : Nat :=
  s.discovered.idxOf url

/-- The file a url was found to hold, by its index. -/
def fileOf? (s : Store) (url : String) : Option Nat :=
  s.files.findIdx? (·.urls.contains url)

/-- The store with one file changed. -/
def modifyFile (s : Store) (i : Nat) (f : SheetFile → SheetFile) : Store :=
  { s with files := s.files.modify i f }

/-- Records that a page includes the file at index `i`. -/
def addPageAt (s : Store) (i : Nat) (page : String) : Store :=
  s.modifyFile i fun f => { f with pages := appendNew f.pages page }

/-- Records that the file at index `i` was also found at `url`. -/
def addUrlAt (s : Store) (i : Nat) (url : String) : Store :=
  let order := s.orderOf url
  s.modifyFile i fun f => { f with urls := appendNew f.urls url, order := min f.order order }

/-- Records the failure of a url, keeping the first one. -/
def fail (s : Store) (url : String) (cause : Failure) : Store :=
  if (s.failed.lookup url).isSome then s
  else
    let f := Failure.fetchFailed url cause
    { s with failed := s.failed ++ [(url, f)], errors := s.errors ++ [f] }

/-- Files the text fetched from a url: an existing file with the same text
gains the url, otherwise the text is read into a new file. Returns the index
of the file, or none when the text could not be read, and what happened, in
order. -/
def load (s : Store) (url text : String) : Store × Option Nat × List Event :=
  match s.files.findIdx? (·.text == text) with
  | some i =>
    let first := ((s.files[i]?).bind (·.urls.head?)).getD url
    (s.addUrlAt i url, some i, [.duplicate url first])
  | none =>
    match StyleSheet.parse text with
    | .error f => (s.fail url (parseFailure f), none, [.sheetFailed url (parseFailure f)])
    | .ok sheet =>
      let recovered := if sheet.errors.isEmpty then []
        else [Event.parsedWithProblems text.utf8ByteSize sheet.errors.length]
      match sheet.absolutifyUrls url with
      | .error e => (s.fail url (baseFailure e), none, recovered ++ [.sheetFailed url (baseFailure e)])
      | .ok sheet =>
        let file : SheetFile :=
          { text, sheet, pages := [], urls := [url], order := s.orderOf url }
        let problems := sheet.errors.map fun e => Failure.wrapped (url ++ ": ") (.plain e.text)
        ({ s with files := s.files ++ [file], parseErrors := s.parseErrors ++ problems },
         some s.files.length,
         recovered ++ [.sheetFiled url text.utf8ByteSize sheet.ruleCount sheet.errors.length])

/-- Records that a page includes the stylesheet at a url, fetching it when the
url is new, and tells what happened to `note`. The result is an error only
when the run was canceled. -/
def add {m : Type → Type} [Monad m] (fetch : String → m (Except Failure String))
    (note : Event → m Unit) (s : Store) (page url : String) : m (Except Failure Store) := do
  let s := s.reserve url
  if (s.failed.lookup url).isSome then return .ok s
  match s.fileOf? url with
  | some i => return .ok (s.addPageAt i page)
  | none =>
    match ← fetch url with
    | .error .canceled => return .error .canceled
    | .error e =>
      note (.sheetFailed url e)
      return .ok (s.fail url e)
    | .ok text =>
      let (s, i?, events) := s.load url text
      events.forM note
      return .ok (match i? with
        | some i => s.addPageAt i page
        | none => s)

/-- Adds one stylesheet of a page to a store, keeping the first failure that
stopped an addition. -/
def addStep {m : Type → Type} [Monad m] (fetch : String → m (Except Failure String))
    (note : Event → m Unit) (page : String) (acc : Store × Option Failure) (url : String) :
    m (Store × Option Failure) := do
  match ← add fetch note acc.1 page url with
  | .ok s => return (s, acc.2)
  | .error e => return (acc.1, acc.2 <|> some e)

/-- Adds the stylesheets of a page one after the other, after reserving their
positions in document order. A canceled fetch does not stop the others; the
first such failure is the result. -/
def addAll {m : Type → Type} [Monad m] (fetch : String → m (Except Failure String))
    (note : Event → m Unit) (s : Store) (page : String) (urls : List String) :
    m (Except Failure Store) := do
  let s := urls.foldl reserve s
  let (s, stop) ← urls.foldlM (addStep fetch note page) (s, none)
  return match stop with
    | some e => .error e
    | none => .ok s

/-- Inserts a file into a list sorted by position, after those of equal
position. -/
def insertByOrder (f : SheetFile) : List SheetFile → List SheetFile
  | [] => [f]
  | g :: gs => if f.order < g.order then f :: g :: gs else g :: insertByOrder f gs

/-- The files in order of discovery of their urls. -/
def sorted (s : Store) : List SheetFile :=
  s.files.foldl (fun acc f => insertByOrder f acc) []

/-- Adds pages to the set of a selector. -/
def addSelectorPages (acc : List (String × List String)) (sel : String) (pages : List String) :
    List (String × List String) :=
  match acc.lookup sel with
  | some _ => acc.map fun (k, ps) => if k == sel then (k, pages.foldl appendNew ps) else (k, ps)
  | none => acc ++ [(sel, pages.foldl appendNew [])]

/-- For each selector of the stylesheets, the pages that include one of the
stylesheets holding it. -/
def selectorPages (s : Store) : List (String × List String) :=
  s.sorted.foldl (fun acc f =>
    f.sheet.selectors.foldl (fun acc sel => addSelectorPages acc sel f.pages) acc) []

/-- The store with filters applied to every stylesheet. -/
def applyFilters (s : Store) (f : Filters) : Store :=
  { s with files := s.files.map fun file => { file with sheet := file.sheet.applyFilters f } }

/-- The number of rounds of removing unused custom properties. -/
def maxVariableRounds : Nat := 10

/-- Removes the custom properties that no sheet refers to, again while that
removes some and the set of referred names changes, for at most `rounds`
rounds. -/
def pruneVariables : Nat → Int → List StyleSheet → List StyleSheet
  | 0, _, sheets => sheets
  | rounds + 1, prevUsed, sheets =>
    let used := (sheets.flatMap StyleSheet.usedVariables).eraseDups
    if (used.length : Int) == prevUsed then sheets
    else
      let results := sheets.map fun sh => sh.pruneUnusedVariables (used.contains ·)
      let removed := (results.map (·.2)).foldr (· + ·) 0
      let sheets := results.map (·.1)
      if removed == 0 then sheets else pruneVariables rounds used.length sheets

/-- The rounds `pruneVariables` makes, numbered from `round`: each with the
number of names still used and of declarations removed. -/
def variableRounds : Nat → Nat → Int → List StyleSheet → List (Nat × Nat × Nat)
  | 0, _, _, _ => []
  | rounds + 1, round, prevUsed, sheets =>
    let used := (sheets.flatMap StyleSheet.usedVariables).eraseDups
    if (used.length : Int) == prevUsed then []
    else
      let results := sheets.map fun sh => sh.pruneUnusedVariables (used.contains ·)
      let removed := (results.map (·.2)).foldr (· + ·) 0
      (round, used.length, removed) ::
        (if removed == 0 then [] else variableRounds rounds (round + 1) used.length (results.map (·.1)))

/-- The rounds of removing unused custom properties that `prunedSheets`
makes, as events. -/
def pruneEvents (s : Store) (critical : String → Bool) : List Event :=
  (variableRounds maxVariableRounds 0 (-1) (s.sorted.map fun f => f.sheet.pruned critical)).map
    fun (round, used, removed) => .variablesPruned round used removed

/-- The critical part of every stylesheet of some files in order: the
critical rules, the custom properties still referred to, the fonts still used,
and no sheet without rules. -/
def prunedSheetsOf (files : List SheetFile) (critical : String → Bool) : List StyleSheet :=
  let sheets := files.map fun f => f.sheet.pruned critical
  let sheets := pruneVariables maxVariableRounds (-1) sheets
  let fonts := (sheets.flatMap StyleSheet.usedFontFamilies).eraseDups
  let sheets := sheets.map fun sh => sh.pruneFonts (fonts.contains ·)
  sheets.filter fun sh => sh.ruleCount != 0

/-- The critical part of every stylesheet in order of discovery. -/
def prunedSheets (s : Store) (critical : String → Bool) : List StyleSheet :=
  prunedSheetsOf s.sorted critical

/-- The failure recorded for a url, if any. -/
def failureOf (s : Store) (url : String) : Option Failure :=
  s.failed.lookup url

end Store

end CriticalCss.Generate
