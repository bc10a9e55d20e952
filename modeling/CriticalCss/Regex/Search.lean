import CriticalCss.Regex.Match
import CriticalCss.Text.Unicode.Category

/-!
# Finding matches

The leftmost match of a pattern in a text, with the part each group
matched, as the first of the alternatives in order would find it: the
automaton is run over the text keeping its threads in order of priority,
and once a thread accepts, those after it are dropped. Positions count
characters.

On top of the leftmost match stand the searches of a whole text: all the
matches (an empty match right after a match is skipped), replacing each
match by a template that names groups as `$1`, `${1}` or `${name}` (`$$`
for a dollar), or literally, and splitting a text at the matches.

## Main definitions

* `Regex.matchAt`: the leftmost match at or after a position.
* `Regex.findAll`: the successive matches.
* `Regex.replaceAll`: every match replaced.
* `Regex.split`: the text between the matches.
* `quoteMeta`: a text with the pattern's special characters escaped.
-/

namespace CriticalCss.Regex

/-- The positions a match recorded: slots `2i` and `2i + 1` are where group
`i` started and ended, group 0 being the whole match. -/
abbrev Captures := Array (Option Nat)

/-- A thread of the automaton: the instruction it waits at and what it
recorded. -/
structure Thread where
  pc : Nat
  caps : Captures

/-- The threads at a position in order of priority, and the instructions
already reached there. -/
structure Queue where
  seen : Array Bool
  threads : Array Thread

/-- The empty queue for a program of `n` instructions. -/
def Queue.empty (n : Nat) : Queue := ⟨Array.replicate n false, #[]⟩

/-- Adds the threads an instruction leads to without taking a character, in
order; each instruction is reached once at a position, which also bounds the
depth. -/
def addThread (prog : Array Inst) (before after : Option Char) (pos : Nat) :
    Nat → Nat → Captures → Queue → Queue
  | 0, _, _, q => q
  | fuel + 1, pc, caps, q =>
    if q.seen.getD pc true then q
    else
      let q := { q with seen := q.seen.set! pc true }
      match prog[pc]? with
      | some (.split a b) =>
        addThread prog before after pos fuel b caps (addThread prog before after pos fuel a caps q)
      | some (.assert a next) =>
        if a.holds before after then addThread prog before after pos fuel next caps q else q
      | some (.save slot next) => addThread prog before after pos fuel next (caps.set! slot (some pos)) q
      | some _ => { q with threads := q.threads.push ⟨pc, caps⟩ }
      | none => q

/-- Moves the threads over the character at `pos`: each that takes it adds
its successors to `next`; a thread that accepts records the match and drops
the threads after it. -/
def stepThreads (prog : Array Inst) (chars : Array Char) (pos : Nat) :
    List Thread → Queue → Option Captures → Queue × Option Captures
  | [], next, found => (next, found)
  | t :: rest, next, found =>
    match prog[t.pc]? with
    | some .accept => (next, some (t.caps.set! 1 (some pos)))
    | some (.char test n) =>
      match chars[pos]? with
      | some c =>
        if test c then
          let next := addThread prog (some c) chars[pos + 1]? (pos + 1) (prog.size + 1) n t.caps next
          stepThreads prog chars pos rest next found
        else stepThreads prog chars pos rest next found
      | none => stepThreads prog chars pos rest next found
    | _ => stepThreads prog chars pos rest next found

/-- Runs the automaton from `pos` with the threads of `q`, starting a new
attempt at each position until a match is found; at most `fuel` positions. -/
def runFrom (re : Regex) (chars : Array Char) (slots : Nat) :
    Nat → Nat → Queue → Option Captures → Option Captures
  | 0, _, _, found => found
  | fuel + 1, pos, q, found =>
    if q.threads.isEmpty && found.isSome then found
    else
      let before := if pos == 0 then none else chars[pos - 1]?
      let q :=
        if found.isNone then
          let caps := (Array.replicate slots none).set! 0 (some pos)
          addThread re.prog before chars[pos]? pos (re.prog.size + 1) re.start caps q
        else q
      let (next, found) := stepThreads re.prog chars pos q.threads.toList (Queue.empty re.prog.size) found
      if pos ≥ chars.size then found
      else runFrom re chars slots fuel (pos + 1) next found

/-- The number of groups of a pattern, the whole match not counted. -/
def groups (re : Regex) : Nat := re.names.size

/-- The leftmost match starting at or after `pos`, with its groups. -/
def matchAt (re : Regex) (chars : Array Char) (pos : Nat) : Option Captures :=
  runFrom re chars (2 * re.groups + 2) (chars.size - pos + 2) pos (Queue.empty re.prog.size) none

/-- The start and end of the whole match. -/
def Captures.bounds (caps : Captures) : Nat × Nat :=
  ((caps.getD 0 none).getD 0, (caps.getD 1 none).getD 0)

/-- The characters from one position to another. -/
def slice (chars : Array Char) (a b : Nat) : String :=
  String.ofList ((chars.toList.drop a).take (b - a))

/-- The successive matches, at most `n` of them (all of them when `n` is
negative): after a match the search goes on from its end, and an empty match
right where the last one ended is not counted. -/
def findAll (re : Regex) (chars : Array Char) (n : Int) : List Captures :=
  let limit : Nat := if n < 0 then chars.size + 1 else n.toNat
  let rec go : Nat → Nat → Option Nat → Nat → List Captures
    | 0, _, _, _ => []
    | fuel + 1, pos, prevEnd, count =>
      if count ≥ limit || pos > chars.size then []
      else
        match re.matchAt chars pos with
        | none => []
        | some caps =>
          let (a, b) := caps.bounds
          let accept := if b == pos then prevEnd != some a else true
          let next := if b == pos then pos + 1 else b
          if accept then caps :: go fuel next (some b) (count + 1)
          else go fuel next (some b) count
  go (chars.size + 2) 0 none 0

/-- The value of a group name or number after a `$` in a replacement
template: the name, and the text after it; `none` when no name follows. -/
def templateName (cs : List Char) : Option (String × List Char) :=
  let isNameChar (c : Char) : Bool := Text.isLetter c || Text.isDecimalDigit c || c == '_'
  match cs with
  | '\x7b' :: rest =>
    let name := rest.takeWhile isNameChar
    match rest.drop name.length with
    | '\x7d' :: after => if name.isEmpty then none else some (String.ofList name, after)
    | _ => none
  | _ =>
    let name := cs.takeWhile isNameChar
    if name.isEmpty then none else some (String.ofList name, cs.drop name.length)

/-- The group a template name stands for: a number without leading zeros,
or the first group of that name. -/
def groupOf (re : Regex) (name : String) : Option Nat :=
  let ds := name.toList
  if ds.all Char.isDigit && !(ds.length > 1 && ds.head? == some '0') then
    let n := ds.foldl (fun a c => a * 10 + (c.toNat - '0'.toNat)) 0
    if n ≥ 100000000 then none else some n
  else
    (re.names.toList.findIdx? (· == some name)).map (· + 1)

/-- A replacement template with the groups of a match put in. -/
def expand (re : Regex) (chars : Array Char) (caps : Captures) : Nat → List Char → String
  | 0, _ => ""
  | _ + 1, [] => ""
  | fuel + 1, c :: rest =>
    if c != '$' then c.toString ++ re.expand chars caps fuel rest
    else
      match rest with
      | '$' :: more => "$" ++ re.expand chars caps fuel more
      | _ =>
        match templateName rest with
        | none => "$" ++ re.expand chars caps fuel rest
        | some (name, more) =>
          let text := match re.groupOf name with
            | some g =>
              match caps.getD (2 * g) none, caps.getD (2 * g + 1) none with
              | some a, some b => slice chars a b
              | _, _ => ""
            | none => ""
          text ++ re.expand chars caps fuel more

/-- Every match of the text replaced by what `repl` makes of it; an empty
match right after a match is left alone. -/
def replaceWith (re : Regex) (text : String) (repl : Array Char → Captures → String) : String :=
  let chars := text.toList.toArray
  let rec go : Nat → Nat → Nat → String
    | 0, _, last => slice chars last chars.size
    | fuel + 1, searchPos, last =>
      if searchPos > chars.size then slice chars last chars.size
      else
        match re.matchAt chars searchPos with
        | none => slice chars last chars.size
        | some caps =>
          let (a, b) := caps.bounds
          let piece := slice chars last a ++ (if b > last || a == 0 then repl chars caps else "")
          let next := if searchPos + 1 > b then searchPos + 1 else b
          piece ++ go fuel next b
  go (chars.size + 2) 0 0

/-- Every match replaced by a template naming groups with `$`. -/
def replaceAll (re : Regex) (text template : String) : String :=
  re.replaceWith text fun chars caps => re.expand chars caps (template.length + 1) template.toList

/-- Every match replaced by a fixed text. -/
def replaceAllLiteral (re : Regex) (text repl : String) : String :=
  re.replaceWith text fun _ _ => repl

/-- The text of the first match, or the empty text. -/
def findString (re : Regex) (text : String) : String :=
  let chars := text.toList.toArray
  match re.matchAt chars 0 with
  | some caps => let (a, b) := caps.bounds; slice chars a b
  | none => ""

/-- The pieces of a text between the matches, at most `n` of them (all
when `n` is negative; none when it is zero). An empty text gives one empty
piece for a non-empty pattern. -/
def split (re : Regex) (patternEmpty : Bool) (text : String) (n : Int) : List String :=
  if n == 0 then []
  else if !patternEmpty && text.isEmpty then [""]
  else
    let chars := text.toList.toArray
    let hits := re.findAll chars n
    let rec go (beg stop : Nat) (count : Nat) : List Captures → List String × Nat × Nat
      | [] => ([], beg, stop)
      | caps :: rest =>
        if n > 0 && count == n.toNat - 1 then ([], beg, stop)
        else
          let (a, b) := caps.bounds
          let (more, beg', stop') := go b a (if b != 0 then count + 1 else count) rest
          ((if b != 0 then [slice chars beg a] else []) ++ more, beg', stop')
    let (pieces, beg, stop) := go 0 0 0 hits
    if stop != chars.size then pieces ++ [slice chars beg chars.size] else pieces

/-- A text with every character that is special in patterns escaped by a
backslash. -/
def quoteMeta (s : String) : String :=
  String.join (s.toList.map fun c => if "\\.+*?()|[]\x7b\x7d^$".contains c then "\\" ++ c.toString else c.toString)

end CriticalCss.Regex
