import CriticalCss.Regex.Unicode

/-!
# Pattern syntax

Patterns follow the RE2 syntax with Perl extensions: literals, `.`, `^` and
`$` (ends of text, or of lines with the `m` flag), character classes with
ranges, negation, Perl, POSIX and Unicode classes, groups (capturing, named
with `(?P<name>` or `(?<name>`, and non-capturing), the flags `i`, `m`, `s`
and `U`, alternation, and the repetitions `*`, `+`, `?` and `{n,m}` with
their lazy forms. A repetition may not follow another one directly,
counts are at most 1000, and the tree of a pattern is at most 1000 levels
high.

The text is read left to right, and the first problem found is reported with
the part of the pattern that shows it.

## Main definitions

* `SyntaxError`: a problem in a pattern and its message.
* `Node`: the syntax tree.
* `parse`: the tree of a pattern, or its first problem.
-/

namespace CriticalCss.Regex

/-- The kinds of problems a pattern can have. -/
inductive ErrorCode where
  | invalidCharClass
  | invalidCharRange
  | invalidEscape
  | invalidNamedCapture
  | invalidPerlOp
  | invalidRepeatOp
  | invalidRepeatSize
  | missingBracket
  | missingParen
  | missingRepeatArgument
  | nestingDepth
  | trailingBackslash
  | unexpectedParen
deriving DecidableEq, Repr

/-- The wording of a problem. -/
def ErrorCode.text : ErrorCode → String
  | .invalidCharClass => "invalid character class"
  | .invalidCharRange => "invalid character class range"
  | .invalidEscape => "invalid escape sequence"
  | .invalidNamedCapture => "invalid named capture"
  | .invalidPerlOp => "invalid or unsupported Perl syntax"
  | .invalidRepeatOp => "invalid nested repetition operator"
  | .invalidRepeatSize => "invalid repeat count"
  | .missingBracket => "missing closing ]"
  | .missingParen => "missing closing )"
  | .missingRepeatArgument => "missing argument to repetition operator"
  | .nestingDepth => "expression nests too deeply"
  | .trailingBackslash => "trailing backslash at end of expression"
  | .unexpectedParen => "unexpected )"

/-- A problem in a pattern, with the part of the pattern that shows it. -/
structure SyntaxError where
  code : ErrorCode
  expr : String
deriving DecidableEq, Repr

/-- The message of a problem in a pattern. -/
def SyntaxError.message (e : SyntaxError) : String :=
  "error parsing regexp: " ++ e.code.text ++ ": `" ++ e.expr ++ "`"

/-- A member of a character class. -/
inductive ClassItem where
  | range (lo hi : Char)
  /-- A named class, possibly negated. -/
  | named (test : Char → Bool) (negated : Bool)

/-- A character class: its members, whether it is negated, and whether it
ignores case. -/
structure CharClass where
  items : List ClassItem
  negated : Bool
  fold : Bool

/-- Zero-width conditions. -/
inductive Assertion where
  | beginText
  | endText
  | beginLine
  | endLine
  | wordBoundary
  | notWordBoundary
deriving DecidableEq, Repr

/-- The syntax tree of a pattern. -/
inductive Node where
  | empty
  /-- A literal character, compared ignoring case when `fold` holds. -/
  | char (c : Char) (fold : Bool)
  | charClass (c : CharClass)
  /-- Any character; a line feed only when `dotNewline` holds. -/
  | anyChar (dotNewline : Bool)
  | assert (a : Assertion)
  | concat (nodes : List Node)
  | alternate (nodes : List Node)
  /-- A repetition between `min` and `max` times; no `max` is unbounded.
  A greedy repetition tries more copies first, a lazy one fewer. -/
  | rep (node : Node) (min : Nat) (max : Option Nat) (greedy : Bool)
  /-- A group whose match is recorded as group `index`, counted from 1. -/
  | capture (index : Nat) (node : Node)

mutual

/-- Whether a node repeats what it holds at most `n` times, counting the
repetitions nested inside: a repetition of at most `m` copies leaves `n / m`
for what it repeats. A repetition of no copies, or an unbounded one, counts
by its lower bound. -/
def Node.repeatWithin (n : Nat) : Node → Bool
  | .rep node min max _ =>
    if max == some 0 then true
    else
      let m := max.getD min
      if n < m then false else node.repeatWithin (if 0 < m then n / m else n)
  | .concat nodes => Node.allRepeatWithin n nodes
  | .alternate nodes => Node.allRepeatWithin n nodes
  | .capture _ node => node.repeatWithin n
  | _ => true

/-- Whether every node of a list repeats within `n` copies. -/
def Node.allRepeatWithin (n : Nat) : List Node → Bool
  | [] => true
  | node :: rest => node.repeatWithin n && Node.allRepeatWithin n rest

end

/-- Whether a node is a single literal character. -/
def Node.isChar : Node → Bool
  | .char _ _ => true
  | _ => false

/-- Whether a node matches exactly one character: a literal, a class or `.`. -/
def Node.isSingle : Node → Bool
  | .char _ _ | .charClass _ | .anyChar _ => true
  | _ => false

mutual

/-- The height of a node in the tree a pattern is held as: one for a leaf,
and one more than its highest part for a group, a repetition, a sequence or
a choice. A sequence of literal characters is one leaf, and so is a choice
between single characters, which is one class. -/
def Node.height : Node → Nat
  | .concat nodes => if nodes.all Node.isChar then 1 else Node.maxHeight nodes + 1
  | .alternate nodes => if nodes.all Node.isSingle then 1 else Node.maxHeight nodes + 1
  | .rep node _ _ _ => node.height + 1
  | .capture _ node => node.height + 1
  | _ => 1

/-- The greatest height of a list of nodes, zero for none. -/
def Node.maxHeight : List Node → Nat
  | [] => 0
  | n :: rest => max n.height (Node.maxHeight rest)

end

/-- The greatest height a pattern's tree may have. -/
def maxHeight : Nat := 1000

/-- A node, or the problem that it nests too deeply, reported with the whole
pattern. -/
def checkHeight (whole : String) (n : Node) : Except SyntaxError Node :=
  if maxHeight < n.height then .error ⟨.nestingDepth, whole⟩ else .ok n

/-- The flags in force while reading. -/
structure Flags where
  fold : Bool := false
  dotNewline : Bool := false
  multiLine : Bool := false
  lazy : Bool := false

/-- An open group: the flags to restore when it closes, its finished
alternatives and its current sequence, both last first. -/
structure Frame where
  saved : Flags
  /-- The group number when the group records its match. -/
  capture : Option Nat := none
  alternatives : List Node := []
  items : List Node := []

/-- The state of reading a pattern. -/
structure ReadState where
  frames : List Frame
  flags : Flags := {}
  /-- The names of the groups opened so far, in order. -/
  names : Array (Option String) := #[]
  /-- The text from the last repetition operator on, when the token before
  was one. -/
  lastRepeat : Option (List Char) := none

/-- A node from a sequence of items given last first. -/
def ofItems (items : List Node) : Node :=
  match items with
  | [n] => n
  | [] => .empty
  | _ => .concat items.reverse

/-- The node of a group from its alternatives and current sequence. -/
def Frame.close (f : Frame) : Node :=
  match f.alternatives with
  | [] => ofItems f.items
  | alts => .alternate (ofItems f.items :: alts).reverse

/-- The text that `whole` has before its suffix `rest`. -/
def consumed (whole rest : List Char) : String :=
  String.ofList (whole.take (whole.length - rest.length))

namespace ReadState

/-- Adds a node to the current sequence. -/
def push (st : ReadState) (n : Node) : ReadState :=
  match st.frames with
  | f :: fs => { st with frames := { f with items := n :: f.items } :: fs, lastRepeat := none }
  | [] => st

/-- Adds a literal character. -/
def literal (st : ReadState) (c : Char) : ReadState :=
  st.push (.char c st.flags.fold)

/-- Opens a group that does not record its match. -/
def openGroup (st : ReadState) : ReadState :=
  { st with frames := { saved := st.flags } :: st.frames, lastRepeat := none }

/-- Opens a group that records its match, with an optional name. -/
def openCapture (st : ReadState) (name : Option String) : ReadState :=
  { st with frames := { saved := st.flags, capture := some (st.names.size + 1) } :: st.frames,
            names := st.names.push name, lastRepeat := none }

/-- Applies a repetition to the last item. `before` is the text from the
operator on and `after` the text after it. A counted repetition of two or
more copies must keep the copies of everything inside it within 1000. -/
def repeatLast (whole : String) (st : ReadState) (min : Nat) (max : Option Nat) (counted : Bool)
    (before after : List Char) : Except SyntaxError (ReadState × List Char) :=
  let (after, lazyMark) := match after with
    | '?' :: rest => (rest, true)
    | _ => (after, false)
  let greedy := st.flags.lazy == lazyMark
  match st.lastRepeat with
  | some last => .error ⟨.invalidRepeatOp, consumed last after⟩
  | none =>
    match st.frames with
    | f :: fs =>
      match f.items with
      | n :: ns =>
        let node := Node.rep n min max greedy
        if maxHeight < node.height then .error ⟨.nestingDepth, whole⟩
        else if counted && (2 ≤ min || 2 ≤ max.getD 0) && !node.repeatWithin 1000 then
          .error ⟨.invalidRepeatSize, consumed before after⟩
        else
          .ok ({ st with frames := { f with items := node :: ns } :: fs,
                         lastRepeat := some before }, after)
      | [] => .error ⟨.missingRepeatArgument, consumed before after⟩
    | [] => .error ⟨.missingRepeatArgument, consumed before after⟩

end ReadState

/-- The value of a hexadecimal digit. -/
def hexValue (c : Char) : Option Nat :=
  if '0' ≤ c && c ≤ '9' then some (c.toNat - '0'.toNat)
  else if 'a' ≤ c && c ≤ 'f' then some (c.toNat - 'a'.toNat + 10)
  else if 'A' ≤ c && c ≤ 'F' then some (c.toNat - 'A'.toNat + 10)
  else none

/-- Whether a character is an octal digit. -/
def isOctal (c : Char) : Bool := '0' ≤ c && c ≤ '7'

/-- Whether a character is an ASCII letter or digit. -/
def isAlnum (c : Char) : Bool :=
  ('0' ≤ c && c ≤ '9') || ('A' ≤ c && c ≤ 'Z') || ('a' ≤ c && c ≤ 'z')

/-- Up to `n` more octal digits added to `acc`. -/
def octalRun : Nat → Nat → List Char → Nat × List Char
  | 0, acc, t => (acc, t)
  | _, acc, [] => (acc, [])
  | n + 1, acc, c :: t => if isOctal c then octalRun n (acc * 8 + (c.toNat - '0'.toNat)) t else (acc, c :: t)

/-- Hexadecimal digits up to `}`: the value, or `none` with the text left
when a digit is missing or wrong or the value is too large. -/
def hexBraces : Nat → Nat → List Char → Option Nat × List Char
  | _, _, [] => (none, [])
  | nhex, acc, c :: t =>
    if c == '}' then (if nhex == 0 then none else some acc, t)
    else match hexValue c with
      | none => (none, t)
      | some v =>
        let r := acc * 16 + v
        if 0x10ffff < r then (none, t) else hexBraces (nhex + 1) r t
termination_by _ _ l => l.length

/-- An escape after a backslash, read as one character: the character and the
text after it. `s` starts with the backslash. -/
def parseEscape (s : List Char) : Except SyntaxError (Char × List Char) :=
  match s with
  | [] | [_] => .error ⟨.trailingBackslash, ""⟩
  | _ :: c :: t =>
    let bad (rest : List Char) : Except SyntaxError (Char × List Char) :=
      .error ⟨.invalidEscape, consumed s rest⟩
    if c.toNat < 0x80 && !isAlnum c then .ok (c, t)
    else if '1' ≤ c && c ≤ '7' then
      match t with
      | d :: _ => if isOctal d then
          let (v, rest) := octalRun 2 (c.toNat - '0'.toNat) t
          .ok (Char.ofNat v, rest)
        else bad t
      | [] => bad t
    else if c == '0' then
      let (v, rest) := octalRun 2 0 t
      .ok (Char.ofNat v, rest)
    else if c == 'x' then
      match t with
      | [] => bad t
      | '{' :: t2 =>
        match hexBraces 0 0 t2 with
        | (some v, rest) => .ok (Char.ofNat v, rest)
        | (none, rest) => bad rest
      | x :: t2 =>
        match t2 with
        | y :: t3 =>
          match hexValue x, hexValue y with
          | some a, some b => .ok (Char.ofNat (a * 16 + b), t3)
          | _, _ => bad t3
        | [] => bad []
    else match c with
      | 'a' => .ok ('\x07', t)
      | 'f' => .ok ('\x0c', t)
      | 'n' => .ok ('\n', t)
      | 'r' => .ok ('\r', t)
      | 't' => .ok ('\t', t)
      | 'v' => .ok ('\x0b', t)
      | _ => bad t

/-- A Unicode class `\pX`, `\p{Name}`, `\PX` or `\P{Name}` at the front of
`s`: the class and the text after it, `none` if `s` does not start with one. -/
def parseUnicodeClass (s : List Char) : Except SyntaxError (Option (ClassItem × List Char)) :=
  match s with
  | '\\' :: p :: t =>
    if p != 'p' && p != 'P' then .ok none
    else
      let negated := p == 'P'
      let (seq, name, rest) : List Char × List Char × List Char := match t with
        | '{' :: _ =>
          let inside := t.tail.takeWhile (· != '}')
          if (t.tail.drop inside.length).isEmpty then (s, [], [])
          else (s.take (3 + inside.length + 1), inside, t.tail.drop (inside.length + 1))
        | c :: t' => (s.take 3, [c], t')
        | [] => (s.take 2, [], [])
      let closed := match t with
        | '{' :: _ => !(t.tail.drop (t.tail.takeWhile (· != '}')).length).isEmpty
        | _ => true
      if !closed then .error ⟨.invalidCharRange, String.ofList s⟩
      else
        let (negated, name) := match name with
          | '^' :: n => (!negated, n)
          | _ => (negated, name)
        match unicodeClass? (String.ofList name) with
        | some test => .ok (some (.named test negated, rest))
        | none => .error ⟨.invalidCharRange, String.ofList seq⟩
  | _ => .ok none

/-- A Perl class `\d`, `\s`, `\w` or its negation at the front of `s`. -/
def parsePerlClass (s : List Char) : Option (ClassItem × List Char) :=
  match s with
  | '\\' :: k :: t =>
    if k == 'd' || k == 's' || k == 'w' then some (.named (perlClass k) false, t)
    else if k == 'D' || k == 'S' || k == 'W' then some (.named (perlClass k.toLower) true, t)
    else none
  | _ => none

/-- Splits at the first occurrence of `:]`. -/
def splitAtPosixEnd : List Char → Option (List Char × List Char)
  | [] => none
  | ':' :: ']' :: rest => some ([], rest)
  | c :: rest => (splitAtPosixEnd rest).map fun (a, b) => (c :: a, b)

/-- A POSIX class `[:name:]` or `[:^name:]` at the front of `s`. -/
def parsePosixClass (s : List Char) : Except SyntaxError (Option (ClassItem × List Char)) :=
  match s with
  | '[' :: ':' :: t =>
    if t.isEmpty then .ok none
    else match splitAtPosixEnd t with
      | none => .ok none
      | some (inner, rest) =>
        let (negated, name) := match inner with
          | '^' :: n => (true, n)
          | _ => (false, inner)
        match posixClass? (String.ofList name) with
        | some test => .ok (some (.named test negated, rest))
        | none => .error ⟨.invalidCharRange, "[:" ++ String.ofList inner ++ ":]"⟩
  | _ => .ok none

/-- A single character of a class, escapes included. -/
def parseClassChar (s wholeClass : List Char) : Except SyntaxError (Char × List Char) :=
  match s with
  | [] => .error ⟨.missingBracket, String.ofList wholeClass⟩
  | '\\' :: _ => parseEscape s
  | c :: t => .ok (c, t)

/-- The members of a class up to its `]`: the items, last first, and the
text after the `]`. Each round takes at least one character. -/
def parseClassItems (wholeClass : List Char) :
    Nat → Bool → List ClassItem → List Char → Except SyntaxError (List ClassItem × List Char)
  | 0, _, _, _ => .error ⟨.missingBracket, String.ofList wholeClass⟩
  | fuel + 1, first, items, t => do
    match t with
    | ']' :: rest => if !first then return (items, rest) else pure ()
    | _ => pure ()
    if let some (it, rest) ← parsePosixClass t then
      return ← parseClassItems wholeClass fuel false (it :: items) rest
    if let some (it, rest) ← parseUnicodeClass t then
      return ← parseClassItems wholeClass fuel false (it :: items) rest
    if let some (it, rest) := parsePerlClass t then
      return ← parseClassItems wholeClass fuel false (it :: items) rest
    let (lo, rest) ← parseClassChar t wholeClass
    match rest with
    | '-' :: r2@(d :: _) =>
      if d == ']' then parseClassItems wholeClass fuel false (.range lo lo :: items) rest
      else
        let (hi, rest') ← parseClassChar r2 wholeClass
        if hi < lo then throw ⟨.invalidCharRange, consumed t rest'⟩
        parseClassItems wholeClass fuel false (.range lo hi :: items) rest'
    | _ => parseClassItems wholeClass fuel false (.range lo lo :: items) rest

/-- A character class at the front of `s`, which starts with `[`. -/
def parseClass (fold : Bool) (s : List Char) : Except SyntaxError (CharClass × List Char) := do
  let t := s.drop 1
  let (negated, t) := match t with
    | '^' :: rest => (true, rest)
    | _ => (false, t)
  let (items, rest) ← parseClassItems s (s.length + 1) true [] t
  return ({ items := items.reverse, negated, fold }, rest)

/-- A repeat count `{n}`, `{n,}` or `{n,m}` at the front of `s`: the bounds
(`none` for an unbounded or too large number) and the text after it. -/
def parseRepeatCount (s : List Char) : Option (Option Nat × Option Nat × Bool × List Char) :=
  let number (t : List Char) : Option (Nat × List Char) :=
    match t with
    | '0' :: d :: _ => if '0' ≤ d && d ≤ '9' then none else some (0, t.drop 1)
    | c :: _ =>
      if '0' ≤ c && c ≤ '9' then
        let ds := t.takeWhile (fun d => '0' ≤ d && d ≤ '9')
        some (ds.foldl (fun n d => n * 10 + (d.toNat - '0'.toNat)) 0, t.drop ds.length)
      else none
    | [] => none
  match s with
  | '{' :: t =>
    match number t with
    | none => none
    | some (lo, t) =>
      match t with
      | '}' :: rest => some (some lo, some lo, false, rest)
      | ',' :: '}' :: rest => some (some lo, none, true, rest)
      | ',' :: t2 =>
        match number t2 with
        | some (hi, '}' :: rest) => some (some lo, some hi, false, rest)
        | _ => none
      | _ => none
  | _ => none

/-- Whether a capture name is made of ASCII letters, digits and underscores. -/
def isCaptureName (name : List Char) : Bool :=
  !name.isEmpty && name.all (fun c => isAlnum c || c == '_')

/-- The flags of `(?flags)` or `(?flags:` after the `(?`: the new flags,
whether a group opens, and the text after. `s` is the text from the `(`. -/
def parseFlags (s : List Char) (flags : Flags) :
    Nat → Bool → Bool → Flags → List Char → Except SyntaxError (Flags × Bool × List Char)
  | 0, _, _, _, t => .error ⟨.invalidPerlOp, consumed s t⟩
  | _, _, _, _, [] => .error ⟨.invalidPerlOp, consumed s []⟩
  | fuel + 1, negate, sawFlag, f, c :: t =>
    let on := !negate
    match c with
    | 'i' => parseFlags s flags fuel negate true { f with fold := on } t
    | 'm' => parseFlags s flags fuel negate true { f with multiLine := on } t
    | 's' => parseFlags s flags fuel negate true { f with dotNewline := on } t
    | 'U' => parseFlags s flags fuel negate true { f with lazy := on } t
    | '-' =>
      if negate then .error ⟨.invalidPerlOp, consumed s t⟩
      else parseFlags s flags fuel true false f t
    | ':' | ')' =>
      if negate && !sawFlag then .error ⟨.invalidPerlOp, consumed s t⟩
      else .ok (f, c == ':', t)
    | _ => .error ⟨.invalidPerlOp, consumed s t⟩

/-- The text of a quoted run `\\Q...` up to `\\E`, and the text after it; an
unclosed run takes the rest of the pattern. -/
def cutQuoted : List Char → List Char × List Char
  | [] => ([], [])
  | '\\' :: 'E' :: rest => ([], rest)
  | c :: rest => let (a, b) := cutQuoted rest; (c :: a, b)

/-- Reads a pattern; each round takes at least one character. -/
def parseLoop (whole : String) : Nat → ReadState → List Char → Except SyntaxError (Node × Array (Option String))
  | 0, _, _ => .error ⟨.missingParen, whole⟩
  | _ + 1, st, [] =>
    match st.frames with
    | [f] => (checkHeight whole f.close).map (·, st.names)
    | _ => .error ⟨.missingParen, whole⟩
  | fuel + 1, st, c :: t =>
    let s := c :: t
    match c with
    | '(' =>
      match t with
      | '?' :: t2 =>
        let named := match t2 with
          | 'P' :: '<' :: _ => if s.length > 4 then some 4 else none
          | '<' :: _ => if s.length > 3 then some 3 else none
          | _ => none
        match named with
        | some begin =>
          let upto := s.takeWhile (· != '>')
          if upto.length == s.length then .error ⟨.invalidNamedCapture, String.ofList s⟩
          else
            let capture := s.take (upto.length + 1)
            let name := upto.drop begin
            if !isCaptureName name then .error ⟨.invalidNamedCapture, String.ofList capture⟩
            else parseLoop whole fuel (st.openCapture (some (String.ofList name))) (s.drop (upto.length + 1))
        | none =>
          match parseFlags s st.flags (s.length + 1) false false st.flags t2 with
          | .error e => .error e
          | .ok (flags, opens, rest) =>
            let st := if opens then st.openGroup else { st with lastRepeat := none }
            parseLoop whole fuel { st with flags } rest
      | _ => parseLoop whole fuel (st.openCapture none) t
    | '|' =>
      match st.frames with
      | f :: fs =>
        match checkHeight whole (ofItems f.items) with
        | .error e => .error e
        | .ok alt =>
          let f := { f with alternatives := alt :: f.alternatives, items := [] }
          parseLoop whole fuel { st with frames := f :: fs, lastRepeat := none } t
      | [] => .error ⟨.unexpectedParen, whole⟩
    | ')' =>
      match st.frames with
      | f :: parent :: fs =>
        let st := { st with frames := parent :: fs, flags := f.saved }
        let node := match f.capture with
          | some i => Node.capture i f.close
          | none => f.close
        match checkHeight whole node with
        | .error e => .error e
        | .ok node => parseLoop whole fuel (st.push node) t
      | _ => .error ⟨.unexpectedParen, whole⟩
    | '^' =>
      parseLoop whole fuel (st.push (.assert (if st.flags.multiLine then .beginLine else .beginText))) t
    | '$' =>
      parseLoop whole fuel (st.push (.assert (if st.flags.multiLine then .endLine else .endText))) t
    | '.' => parseLoop whole fuel (st.push (.anyChar st.flags.dotNewline)) t
    | '[' =>
      match parseClass st.flags.fold s with
      | .error e => .error e
      | .ok (cls, rest) => parseLoop whole fuel (st.push (.charClass cls)) rest
    | '*' | '+' | '?' =>
      let (lo, hi) : Nat × Option Nat := match c with
        | '*' => (0, none)
        | '+' => (1, none)
        | _ => (0, some 1)
      match st.repeatLast whole lo hi false s t with
      | .error e => .error e
      | .ok (st, rest) => parseLoop whole fuel st rest
    | '{' =>
      match parseRepeatCount s with
      | none => parseLoop whole fuel (st.literal '{') t
      | some (lo, hi, unbounded, after) =>
        let bad := match lo, hi with
          | some l, some h => 1000 < l || 1000 < h || h < l
          | some l, none => 1000 < l || !unbounded
          | none, _ => true
        if bad then .error ⟨.invalidRepeatSize, consumed s after⟩
        else
          match st.repeatLast whole (lo.getD 0) (if unbounded then none else hi) true s after with
          | .error e => .error e
          | .ok (st, rest) => parseLoop whole fuel st rest
    | '\\' =>
      match t with
      | 'A' :: rest => parseLoop whole fuel (st.push (.assert .beginText)) rest
      | 'z' :: rest => parseLoop whole fuel (st.push (.assert .endText)) rest
      | 'b' :: rest => parseLoop whole fuel (st.push (.assert .wordBoundary)) rest
      | 'B' :: rest => parseLoop whole fuel (st.push (.assert .notWordBoundary)) rest
      | 'C' :: _ => .error ⟨.invalidEscape, "\\C"⟩
      | 'Q' :: rest =>
        let (lit, after) := cutQuoted rest
        parseLoop whole fuel (lit.foldl ReadState.literal st) after
      | _ =>
        match parseUnicodeClass s with
        | .error e => .error e
        | .ok (some (it, rest)) =>
          parseLoop whole fuel (st.push (.charClass ⟨[it], false, st.flags.fold⟩)) rest
        | .ok none =>
          match parsePerlClass s with
          | some (it, rest) => parseLoop whole fuel (st.push (.charClass ⟨[it], false, st.flags.fold⟩)) rest
          | none =>
            match parseEscape s with
            | .error e => .error e
            | .ok (ch, rest) => parseLoop whole fuel (st.literal ch) rest
    | _ => parseLoop whole fuel (st.literal c) t

/-- The syntax tree of a pattern and the names of its groups, or the first
problem in it. -/
def parseGroups (pattern : String) : Except SyntaxError (Node × Array (Option String)) :=
  parseLoop pattern (pattern.length + 1) { frames := [{ saved := {} }] } pattern.toList

/-- The syntax tree of a pattern, or the first problem in it. -/
def parse (pattern : String) : Except SyntaxError Node :=
  (parseGroups pattern).map Prod.fst

end CriticalCss.Regex
