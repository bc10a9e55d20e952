import CriticalCss.Regex.Syntax

/-!
# Matching patterns

A pattern is compiled to an array of instructions (a nondeterministic
automaton) and run over the text by tracking the set of live instructions,
starting a new attempt at every position. A text matches when some attempt
reaches the accepting instruction, that is when some part of the text matches
the pattern.

## Main definitions

* `Inst`, `Node.toRegex`: the automaton of a pattern.
* `Regex`: a compiled pattern.
* `Regex.compile`: compiles a pattern, or reports its first problem.
* `Regex.matchesIn`: whether some part of a text matches.
-/

namespace CriticalCss.Regex

/-- Whether some character of an orbit belongs to a class member; a negated
named class holds when none of them is in the class it negates. -/
def ClassItem.holdsAny (orbit : List Char) : ClassItem → Bool
  | .range lo hi => orbit.any fun x => lo ≤ x && x ≤ hi
  | .named test negated => orbit.any test != negated

/-- Whether a character belongs to a class; ignoring case, a character
belongs when a member of its orbit under case folding does. -/
def CharClass.holds (cls : CharClass) (c : Char) : Bool :=
  let orbit := if cls.fold then Text.foldOrbit c else [c]
  cls.items.any (·.holdsAny orbit) != cls.negated

/-- Whether a node's character test accepts a character. -/
def charTest : Node → Char → Bool
  | .char c fold, x => if fold then Text.foldEqual x c else x == c
  | .charClass cls, x => cls.holds x
  | .anyChar dotNewline, x => dotNewline || x != '\n'
  | _, _ => false

/-- An instruction of the automaton. -/
inductive Inst where
  /-- Takes one character that the test accepts, then goes on at `next`. -/
  | char (test : Char → Bool) (next : Nat)
  /-- Goes on at both places, the first tried first. -/
  | split (first second : Nat)
  | assert (a : Assertion) (next : Nat)
  /-- Records the position in slot `slot`, then goes on at `next`. -/
  | save (slot : Nat) (next : Nat)
  | accept

/-- A choice between another copy of a repeated body and going on: more
copies first when greedy, fewer first when lazy. -/
def choice (greedy : Bool) (more skip : Nat) : Inst :=
  if greedy then .split more skip else .split skip more

/-- `k` nested optional copies of a body, each continuing at `next` when skipped. -/
def emitOptional (body : Array Inst → Nat → Array Inst × Nat) (greedy : Bool) (prog : Array Inst)
    (next : Nat) : Nat → Array Inst × Nat
  | 0 => (prog, next)
  | k + 1 =>
    let (prog, rest) := emitOptional body greedy prog next k
    let (prog, entry) := body prog rest
    (prog.push (choice greedy entry next), prog.size)

/-- `k` copies of a body in a row. -/
def emitCopies (body : Array Inst → Nat → Array Inst × Nat) (prog : Array Inst) (next : Nat) :
    Nat → Array Inst × Nat
  | 0 => (prog, next)
  | k + 1 =>
    let (prog, rest) := emitCopies body prog next k
    body prog rest

/-- One or more copies of a body: the body, then a choice between another
copy and `next`. Returns the choice and the body's entry. -/
def emitLoop (body : Array Inst → Nat → Array Inst × Nat) (greedy : Bool) (prog : Array Inst)
    (next : Nat) : Array Inst × Nat × Nat :=
  let loop := prog.size
  let prog := prog.push (.split 0 0)
  let (prog, entry) := body prog loop
  (prog.set! loop (choice greedy entry next), loop, entry)

/-- The instructions of a repetition of a body: with no upper bound, `min - 1`
copies and a loop of one or more (for no lower bound, a loop of zero or
more, or an optional loop of one or more when the body can match nothing,
so that the loop does not stop on an empty copy); otherwise `min` copies and
`max - min` nested optional ones. -/
def emitRep (body : Array Inst → Nat → Array Inst × Nat) (nullable greedy : Bool) (prog : Array Inst)
    (next : Nat) (min : Nat) (max : Option Nat) : Array Inst × Nat :=
  match max, min with
  | none, 0 =>
    let (prog, loop, entry) := emitLoop body greedy prog next
    if nullable then (prog.push (choice greedy entry next), prog.size) else (prog, loop)
  | none, m + 1 =>
    let (prog, _, entry) := emitLoop body greedy prog next
    emitCopies body prog entry m
  | some m, _ =>
    let (prog, tail) := emitOptional body greedy prog next (m - min)
    emitCopies body prog tail min

mutual

/-- Whether a node can match the empty text. -/
def Node.nullable : Node → Bool
  | .empty | .assert _ => true
  | .concat nodes => Node.allNullable nodes
  | .alternate nodes => Node.anyNullable nodes
  | .rep n min _ _ => min == 0 || n.nullable
  | .capture _ n => n.nullable
  | _ => false

/-- Whether every node of a list can match the empty text. -/
def Node.allNullable : List Node → Bool
  | [] => true
  | n :: ns => n.nullable && Node.allNullable ns

/-- Whether some node of a list can match the empty text. -/
def Node.anyNullable : List Node → Bool
  | [] => false
  | n :: ns => n.nullable || Node.anyNullable ns

end

mutual

/-- Appends the instructions of a node that continue at `next` when it has
matched; returns the instructions and the node's entry. -/
def emit (prog : Array Inst) (next : Nat) : Node → Array Inst × Nat
  | .empty => (prog, next)
  | .assert a => (prog.push (.assert a next), prog.size)
  | .concat nodes => emitSeq prog next nodes
  | .alternate nodes => emitAlt prog next nodes
  | .rep n min max greedy => emitRep (fun prog next => emit prog next n) n.nullable greedy prog next min max
  | .capture i n =>
    let prog := prog.push (.save (2 * i + 1) next)
    let (prog, entry) := emit prog (prog.size - 1) n
    (prog.push (.save (2 * i) entry), prog.size)
  | n => (prog.push (.char (charTest n) next), prog.size)

/-- The instructions of a sequence: the tail first, then the head leading to it. -/
def emitSeq (prog : Array Inst) (next : Nat) : List Node → Array Inst × Nat
  | [] => (prog, next)
  | n :: ns =>
    let (prog, rest) := emitSeq prog next ns
    emit prog rest n

/-- The instructions of alternatives: a chain of splits trying each in order. -/
def emitAlt (prog : Array Inst) (next : Nat) : List Node → Array Inst × Nat
  | [] => (prog, next)
  | [n] => emit prog next n
  | n :: ns =>
    let (prog, first) := emit prog next n
    let (prog, rest) := emitAlt prog next ns
    (prog.push (.split first rest), prog.size)

end

end CriticalCss.Regex

namespace CriticalCss

/-- A compiled pattern: the instructions, the entry, and the names of its
groups (group `i` has name `names[i - 1]`, if any). -/
structure Regex where
  prog : Array Regex.Inst
  start : Nat
  names : Array (Option String) := #[]

end CriticalCss

namespace CriticalCss.Regex

/-- The automaton of a syntax tree; instruction 0 accepts. -/
def Node.toRegex (n : Node) : Regex :=
  let (prog, start) := emit #[.accept] 0 n
  { prog, start }

/-- Compiles a pattern, or reports its first problem. -/
def compile (pattern : String) : Except SyntaxError Regex :=
  (parseGroups pattern).map fun (n, names) => { n.toRegex with names }

/-- Whether an assertion holds between the character before and the one after. -/
def Assertion.holds (before after : Option Char) : Assertion → Bool
  | .beginText => before.isNone
  | .endText => after.isNone
  | .beginLine => before.isNone || before == some '\n'
  | .endLine => after.isNone || after == some '\n'
  | .wordBoundary => (before.any isWordChar) != (after.any isWordChar)
  | .notWordBoundary => (before.any isWordChar) == (after.any isWordChar)

/-- Adds an instruction and all it reaches without taking a character to the
live set. `seen` marks instructions already added; each call adds a new one,
so the number of instructions bounds the depth. -/
def addLive (prog : Array Inst) (before after : Option Char) :
    Nat → Nat → Array Bool × List Nat → Array Bool × List Nat
  | 0, _, acc => acc
  | fuel + 1, pc, (seen, live) =>
    if seen.getD pc true then (seen, live)
    else
      let seen := seen.set! pc true
      match prog[pc]? with
      | some (.split a b) =>
        addLive prog before after fuel b (addLive prog before after fuel a (seen, live))
      | some (.assert a next) =>
        if a.holds before after then addLive prog before after fuel next (seen, live)
        else (seen, live)
      | some (.save _ next) => addLive prog before after fuel next (seen, live)
      | some _ => (seen, pc :: live)
      | none => (seen, live)

/-- The live set after adding each instruction of a list. -/
def addAll (prog : Array Inst) (before after : Option Char) (pcs : List Nat)
    (acc : Array Bool × List Nat) : Array Bool × List Nat :=
  pcs.foldl (fun acc pc => addLive prog before after (prog.size + 1) pc acc) acc

/-- Runs the automaton over the text from a live set; `before` is the
character before the current position. -/
def run (re : Regex) (before : Option Char) (live : List Nat) : List Char → Bool
  | [] =>
    let (_, now) := addAll re.prog before none (live ++ [re.start])
      (Array.replicate re.prog.size false, [])
    now.contains 0
  | c :: cs =>
    let (_, now) := addAll re.prog before (some c) (live ++ [re.start])
      (Array.replicate re.prog.size false, [])
    if now.contains 0 then true
    else
      let next := now.reverse.filterMap fun pc =>
        match re.prog[pc]? with
        | some (Inst.char test n) => if test c then some n else none
        | _ => none
      re.run (some c) next cs

/-- Whether some part of a text matches the pattern. -/
def matchesIn (re : Regex) (text : String) : Bool :=
  re.run none [] text.toList

end CriticalCss.Regex
