import CriticalCss.Probe.Basic
import CriticalCss.Probe.Query
/-!
# Page scripts and their results

The probe learns about a page by running scripts in it: one that waits for
the page to load, one that reads the response status, one that lists the
linked stylesheets, and two that keep the selectors, given with their query
forms, that match some element or some element above the fold.

A script returns a JSON value. The probe reads it into the type it expects;
a value of another shape is refused with the reason a JSON reader gives:
`json: cannot unmarshal string into Go value of type []string`, and for a
part inside a list or record, with its path, `json: cannot unmarshal number
into Go struct field .0.href of type string`. A null stands for an empty
value. Record keys are matched without regard to case, and unknown keys are
passed over. The first misfit is the one reported.

A status is read as a whole number: a number is cut to its integer part,
anything else counts as zero.

## Main definitions

* `Script`, `ScriptValue`.
* `ScriptValue.toTexts`, `ScriptValue.toIncludes`, `ScriptValue.toStatus`.
-/

namespace CriticalCss.Probe

/-- The scripts the probe runs in a page. -/
inductive Script where
  /-- Waits until the page has loaded. -/
  | load
  /-- The HTTP status the page was served with, or zero. -/
  | status
  /-- The stylesheets the page links. -/
  | includes
  /-- The selectors that match some element. -/
  | matchAny
  /-- The selectors that match some element above the fold. -/
  | aboveFold
  deriving DecidableEq, Repr, Inhabited

/-- The name a page description uses for a script. -/
def Script.kind : Script → String
  | .load => "load"
  | .status => "status"
  | .includes => "includes"
  | .matchAny => "match"
  | .aboveFold => "above"

/-- A JSON value returned by a script; a number is `mantissa / 10 ^ exponent`. -/
inductive ScriptValue where
  | null
  | bool (b : Bool)
  | number (mantissa : Int) (exponent : Nat)
  | string (s : String)
  | array (items : List ScriptValue)
  | object (fields : List (String × ScriptValue))
  deriving Repr, Inhabited

/-- The JSON name of the shape of a value. -/
def ScriptValue.shape : ScriptValue → String
  | .null => "null"
  | .bool _ => "bool"
  | .number .. => "number"
  | .string _ => "string"
  | .array _ => "array"
  | .object _ => "object"

/-- The type name of a list of texts. -/
def textsType : String := "[]string"

/-- The type name of a linked stylesheet record. -/
def includeType : String :=
  "struct \x7b Href string \"json:\\\"href\\\"\"; Media string \"json:\\\"media\\\"\" \x7d"

/-- The reason a value does not fit a type, at a path inside the whole. -/
def misfit (v : ScriptValue) (path : List String) (type : String) : String :=
  if path.isEmpty then "json: cannot unmarshal " ++ v.shape ++ " into Go value of type " ++ type
  else "json: cannot unmarshal " ++ v.shape ++ " into Go struct field ." ++ ".".intercalate path ++
    " of type " ++ type

/-- A value read as a text at a path: a null is empty. -/
def ScriptValue.toText (v : ScriptValue) (path : List String) : Except String String :=
  match v with
  | .string s => .ok s
  | .null => .ok ""
  | _ => .error (misfit v path "string")

/-- The first failure of a list of readings, or their values. -/
def firstFailure {α : Type} : List (Except String α) → Except String (List α)
  | [] => .ok []
  | .error e :: _ => .error e
  | .ok a :: rest => (firstFailure rest).map (a :: ·)

/-- A value read as a list of texts; a null is the empty list. -/
def ScriptValue.toTexts (v : ScriptValue) : Except String (List String) :=
  match v with
  | .null => .ok []
  | .array items => firstFailure (items.zipIdx.map fun (x, i) => x.toText [toString i])
  | _ => .error (misfit v [] textsType)

/-- Whether two keys are the same without regard to ASCII case. -/
def sameKey (a b : String) : Bool := a.toLower == b.toLower

/-- The fields of a record read into a stylesheet link, the last of equal
keys winning. -/
def readInclude (path : List String) : Include → List (String × ScriptValue) → Except String Include
  | inc, [] => .ok inc
  | inc, (k, v) :: rest =>
    if sameKey k "href" then
      match v.toText (path ++ ["href"]) with
      | .ok s => readInclude path { inc with href := if v matches .null then inc.href else s } rest
      | .error e => .error e
    else if sameKey k "media" then
      match v.toText (path ++ ["media"]) with
      | .ok s => readInclude path { inc with media := if v matches .null then inc.media else s } rest
      | .error e => .error e
    else readInclude path inc rest

/-- A value read as a list of stylesheet links; a null is the empty list
and a null item an empty link. -/
def ScriptValue.toIncludes (v : ScriptValue) : Except String (List Include) :=
  match v with
  | .null => .ok []
  | .array items => firstFailure (items.zipIdx.map fun (x, i) =>
      match x with
      | .null => .ok { href := "" }
      | .object fields => readInclude [toString i] { href := "" } fields
      | _ => .error (misfit x [toString i] includeType))
  | _ => .error (misfit v [] ("[]" ++ includeType))

/-- The least value of a signed 64-bit word, which an integer part out of
range becomes. -/
def wordFloor : Int := -9223372036854775808

/-- A value read as a status: a number cut to its integer part, anything
else zero. -/
def ScriptValue.toStatus : ScriptValue → Int
  | .number m e =>
    let n := m.tdiv (Int.pow 10 e)
    if n < wordFloor || n > -wordFloor - 1 then wordFloor else n
  | _ => 0

/-- The pairs of selectors and their query forms handed to the matching
scripts. -/
def queryPairs (selectors : List String) : List (String × String) :=
  selectors.map fun s => (s, queryFor s)

end CriticalCss.Probe
