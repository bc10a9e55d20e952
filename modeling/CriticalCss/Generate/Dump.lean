import CriticalCss.Generate.Run

/-!
# Trace dump

The trace of a run written as an indented tree, two spaces a level: the run
id, the valid pages, the stylesheets with their sizes, urls and pages, each
selector with the pages including it, and the critical selectors. Sets are
written in natural order.

## Main definitions

* `Trace.dump`: the text of a trace.
-/

namespace CriticalCss.Generate

open CriticalCss.Text

/-- A line at a depth. -/
def treeLine (depth : Nat) (text : String) : String :=
  String.join (List.replicate depth "  ") ++ text ++ "\n"

/-- A labelled set at a depth: the label with the size, then the elements in
natural order one level deeper. -/
def treeSet (depth : Nat) (label : String) (set : List String) : String :=
  treeLine depth (label ++ " (" ++ toString set.length ++ ")") ++
    String.join ((naturalSort set).map (treeLine (depth + 1)))

/-- The text of a trace. -/
def Trace.dump (t : Trace) : String :=
  let run := treeLine 0 ("run: " ++ (if t.runId.isEmpty then "" else quote t.runId))
  let pages := treeLine 0 ("valid pages (" ++ toString t.validUrls.length ++ ")") ++
    String.join (t.validUrls.map (treeLine 1))
  let files := treeLine 0 ("stylesheets (" ++ toString t.files.length ++ ")") ++
    String.join (t.files.zipIdx.map fun (f, i) =>
      treeLine 1 ("#" ++ toString i ++ ": " ++ toString f.text.utf8ByteSize ++ " bytes, " ++
        toString f.sheet.ruleCount ++ " rules, " ++ toString f.sheet.errors.length ++
        " parse errors") ++
      treeLine 2 ("urls: " ++ ", ".intercalate f.urls) ++
      treeLine 2 ("pages: " ++ ", ".intercalate f.pages))
  let selectors := treeLine 0 ("selectors (" ++ toString t.selectorPages.length ++ ")") ++
    String.join ((naturalSortOn (·.1) t.selectorPages).map fun (s, ps) => treeSet 1 s ps)
  run ++ pages ++ files ++ selectors ++ treeSet 0 "critical" t.critical

end CriticalCss.Generate
