/-!
# Tables of code points

Character properties are kept as tables read from compact text and searched
by halving.

* A run table gives every code point a value: each entry names the first
  code point of a run, and the run lasts until the next entry starts. Its
  text lists the entries as `start` in lower-case hexadecimal followed at
  once by the value, separated by commas: `0Cc,20Zs,21Po`. Long tables are
  stored with each start written as its distance from the start before:
  `0Cc,20Zs,1Po`.
* A shift table moves some code points by a fixed amount and leaves the
  others alone. Each entry covers a run from `lo` to `hi`, either every code
  point of it or every other one starting at `lo`, and adds the same signed
  shift to each: `41-5a:+20` moves the capitals A to Z to the small
  letters, `100-12e/2:+1` moves every other letter of the run by one.
  A single code point is written without `-hi`.

## Main definitions

* `lastAtMost`: the search by halving.
* `RunTable`, `RunTable.ofText`, `RunTable.find`, `undeltaRuns`.
* `ShiftTable`, `ShiftTable.ofText`, `ShiftTable.apply`.
-/

namespace CriticalCss.Text

/-- The index `i` with `lo ≤ i < hi` of the last of the sorted `keys` that is
at most `n`, when `keys[lo]` is at most `n`. -/
def lastAtMost (keys : Array Nat) (n lo hi : Nat) : Nat :=
  if h : lo + 1 < hi then
    let mid := (lo + hi) / 2
    if keys.getD mid 0 ≤ n then lastAtMost keys n mid hi else lastAtMost keys n lo mid
  else lo
termination_by hi - lo
decreasing_by all_goals omega

/-- The value of a hexadecimal digit, if it is one in lower case. -/
def hexDigitValue? (c : Char) : Option Nat :=
  if '0' ≤ c && c ≤ '9' then some (c.toNat - '0'.toNat)
  else if 'a' ≤ c && c ≤ 'f' then some (c.toNat - 'a'.toNat + 10)
  else none

/-- The number written by the lower-case hexadecimal digits at the start of
a text, and the rest of the text. -/
def hexPrefix (cs : List Char) : Nat × List Char :=
  go 0 cs
where
  go (acc : Nat) : List Char → Nat × List Char
    | [] => (acc, [])
    | c :: rest =>
      match hexDigitValue? c with
      | some d => go (acc * 16 + d) rest
      | none => (acc, c :: rest)

/-- Values assigned to runs of code points. -/
structure RunTable (α : Type) where
  /-- The first code point of each run, increasing from zero. -/
  starts : Array Nat
  /-- The value of each run. -/
  values : Array α

/-- The run table of a text, each value read by `read`. -/
def RunTable.ofText (read : String → α) (text : String) : RunTable α :=
  let entries := (text.splitOn ",").map fun entry =>
    let (start, rest) := hexPrefix entry.toList
    (start, read (String.ofList rest))
  { starts := (entries.map (·.1)).toArray, values := (entries.map (·.2)).toArray }

/-- The value of the run holding a code point. -/
def RunTable.find [Inhabited α] (t : RunTable α) (n : Nat) : α :=
  t.values.getD (lastAtMost t.starts n 0 t.starts.size) default

/-- The text of a run table whose starts are written as distances from the
start before. -/
def undeltaRuns (coded : String) : String :=
  ",".intercalate (go 0 (coded.splitOn ","))
where
  go (start : Nat) : List String → List String
    | [] => []
    | entry :: rest =>
      let (d, value) := hexPrefix entry.toList
      String.ofList (Nat.toDigits 16 (start + d) ++ value) :: go (start + d) rest

/-- One run of a shift table. -/
structure ShiftRun where
  lo : Nat
  hi : Nat
  /-- Whether only every other code point from `lo` on is moved. -/
  alternate : Bool
  shift : Int
  deriving Inhabited

/-- Whether a run moves a code point. -/
def ShiftRun.covers (r : ShiftRun) (n : Nat) : Bool :=
  r.lo ≤ n && n ≤ r.hi && (!r.alternate || (n - r.lo) % 2 == 0)

/-- Code points moved by fixed amounts in runs. -/
structure ShiftTable where
  los : Array Nat
  runs : Array ShiftRun

/-- The run written by one entry of a shift table's text. -/
def ShiftRun.ofText (entry : String) : ShiftRun :=
  let (lo, rest) := hexPrefix entry.toList
  let (hi, rest) := match rest with
    | '-' :: more => hexPrefix more
    | _ => (lo, rest)
  let (alternate, rest) := match rest with
    | '/' :: '2' :: more => (true, more)
    | _ => (false, rest)
  let shift : Int := match rest with
    | ':' :: '-' :: more => -((hexPrefix more).1 : Int)
    | ':' :: '+' :: more => ((hexPrefix more).1 : Int)
    | _ => 0
  { lo, hi, alternate, shift }

/-- The shift table of a text. -/
def ShiftTable.ofText (text : String) : ShiftTable :=
  let runs := (text.splitOn ",").map ShiftRun.ofText
  { los := (runs.map (·.lo)).toArray, runs := runs.toArray }

/-- Where a table moves a code point: the code point itself when no run
covers it. -/
def ShiftTable.apply (t : ShiftTable) (n : Nat) : Nat :=
  if t.los.getD 0 0 ≤ n then
    let r := t.runs.getD (lastAtMost t.los n 0 t.los.size) default
    if r.covers n then (n + r.shift).toNat else n
  else n

end CriticalCss.Text
