import CriticalCss.Template.Function.Core
import CriticalCss.Template.Function.Numbers
import CriticalCss.Template.Function.Encodings
import CriticalCss.Template.Function.Dates
/-!
# The functions a template may call

Two tables are consulted in turn: the helper library (texts, numbers,
lists and maps, encodings, patterns, addresses, paths and dates) first,
then the core functions. The helpers take their arguments in the order
that suits pipelines: the value worked on comes last, so
`{{ .Host | trunc 3 }}` is `trunc 3 .Host`.

## Main definitions

* `helperFunctions`: the helper library.
* `lookupFunction`: the function a name stands for, and whether it is a
  core one.
-/

namespace CriticalCss.Template

/-- The helper library. -/
def helperFunctions : List (String × Function) :=
  dateFunctions ++ stringFunctions ++ numberFunctions ++ listFunctions ++ mapFunctions ++ valueFunctions ++
    encodingFunctions

/-- The function a name stands for, and whether it is a core function; the
helpers come first. -/
def lookupFunction (name : String) : Option (Function × Bool) :=
  match helperFunctions.lookup name with
  | some f => some (f, false)
  | none => (coreFunctions.lookup name).map (·, true)

/-- Whether a name stands for a function. -/
def isFunctionName (name : String) : Bool :=
  (lookupFunction name).isSome

end CriticalCss.Template
