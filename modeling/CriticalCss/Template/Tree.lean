import CriticalCss.Template.Token
import CriticalCss.Text.FloatText
import CriticalCss.Text.Space
/-!
# Template trees

A parsed template is a list of pieces: literal text, actions that print a
pipeline, the control structures `if`, `with` and `range` with their
bodies, and calls of other templates by name. A pipeline is an optional declaration of variables and commands
joined by `|`; each command is a list of operands, the first of which is
what is run: a field chain of the data (`.Time.Year`), a function, a
variable, a parenthesized pipeline or a constant.

Every node keeps the byte offset where it starts, so that an error can say
where in the template it happened, and every node has a text (`Operand.text`,
`Pipeline.text`) that is how errors name it.

## Main definitions

* `NumberLit`: what a numeric constant can stand for.
* `Operand`, `Command`, `Pipeline`: the parts of a pipeline.
* `Piece`: the pieces of a template.
* `TemplateSet`: the templates one text defines, by name.
-/

namespace CriticalCss.Template

/-- What a numeric constant can stand for, each where it is exact: a signed
64-bit integer, an unsigned one, a binary64 number, and a complex pair of
binary64 numbers. -/
structure NumberLit where
  int? : Option Int := none
  uint? : Option Nat := none
  float? : Option Float := none
  complex? : Option (Float × Float) := none

mutual

/-- An operand of a command. -/
inductive Operand where
  | field (pos : Nat) (names : List String)
  | chain (pos : Nat) (base : Operand) (names : List String)
  | ident (pos : Nat) (name : String)
  | dot (pos : Nat)
  | nil (pos : Nat)
  | bool (pos : Nat) (value : Bool)
  | number (pos : Nat) (text : String) (lit : NumberLit)
  | string (pos : Nat) (quoted : String) (value : List UInt8)
  | variable (pos : Nat) (names : List String)
  | pipe (p : Pipeline)

/-- A command: the operands of one stage of a pipeline. -/
inductive Command where
  | mk (pos : Nat) (args : List Operand)

/-- A pipeline: declared or assigned variables and the commands. -/
inductive Pipeline where
  | mk (pos : Nat) (isAssign : Bool) (decls : List String) (cmds : List Command)

end

/-- A piece of a template. -/
inductive Piece where
  | text (value : String)
  | action (pos : Nat) (p : Pipeline)
  | ifElse (pos : Nat) (p : Pipeline) (body : List Piece) (alt : Option (List Piece))
  | withElse (pos : Nat) (p : Pipeline) (body : List Piece) (alt : Option (List Piece))
  | range (pos : Nat) (p : Pipeline) (body : List Piece) (alt : Option (List Piece))
  | breakLoop (pos : Nat)
  | continueLoop (pos : Nat)
  /-- A call of the template of a name, the pipeline's value becoming its
  cursor (nothing without a pipeline); `pos` is where the name starts. -/
  | call (pos : Nat) (name : String) (arg : Option Pipeline)

/-- The byte offset where an operand starts. -/
def Operand.pos : Operand → Nat
  | .field p _ | .chain p _ _ | .ident p _ | .dot p | .nil p | .bool p _ | .number p _ _
  | .string p _ _ | .variable p _ => p
  | .pipe (.mk p _ _ _) => p

/-- The operands of a command. -/
def Command.args : Command → List Operand
  | .mk _ args => args

/-- The byte offset where a command starts. -/
def Command.pos : Command → Nat
  | .mk p _ => p

/-- The byte offset where a pipeline starts. -/
def Pipeline.pos : Pipeline → Nat
  | .mk p _ _ _ => p

/-- The declared variables of a pipeline. -/
def Pipeline.decls : Pipeline → List String
  | .mk _ _ d _ => d

/-- Whether a pipeline assigns to its variables rather than declaring them. -/
def Pipeline.isAssign : Pipeline → Bool
  | .mk _ a _ _ => a

/-- The commands of a pipeline. -/
def Pipeline.cmds : Pipeline → List Command
  | .mk _ _ _ c => c

mutual

/-- How errors name an operand. -/
def Operand.text : Operand → String
  | .field _ names => String.join (names.map ("." ++ ·))
  | .chain _ base names =>
    let b := match base with
      | .pipe p => "(" ++ p.text ++ ")"
      | o => o.text
    b ++ String.join (names.map ("." ++ ·))
  | .ident _ name => name
  | .dot _ => "."
  | .nil _ => "nil"
  | .bool _ b => if b then "true" else "false"
  | .number _ t _ => t
  | .string _ q _ => q
  | .variable _ names => ".".intercalate names
  | .pipe p => p.text

/-- How errors name the operands of a command, parenthesizing pipelines. -/
def Operand.listText : List Operand → List String
  | [] => []
  | .pipe p :: rest => ("(" ++ p.text ++ ")") :: Operand.listText rest
  | o :: rest => o.text :: Operand.listText rest

/-- How errors name a command. -/
def Command.text : Command → String
  | .mk _ args => " ".intercalate (Operand.listText args)

/-- How errors name commands joined by `|`. -/
def Command.listText : List Command → List String
  | [] => []
  | c :: rest => c.text :: Command.listText rest

/-- How errors name a pipeline. -/
def Pipeline.text : Pipeline → String
  | .mk _ assign decls cmds =>
    let head := if decls.isEmpty then "" else ", ".intercalate decls ++ (if assign then " = " else " := ")
    head ++ " | ".intercalate (Command.listText cmds)

end

/-- How errors name a call of a template. -/
def callText (name : String) (arg : Option Pipeline) : String :=
  let argText := match arg with
    | some p => " " ++ p.text
    | none => ""
  "\x7b\x7btemplate " ++ Text.quote name ++ argText ++ "\x7d\x7d"

/-- Whether a piece writes nothing that counts: a text of white space only.
A template made of such pieces may be replaced by a later definition. -/
def Piece.isBlank : Piece → Bool
  | .text s => (Text.trimSpace s).isEmpty
  | _ => false

/-- The templates one text defines: the bodies by name, in the order they
were defined, and the name of the template the text itself is. -/
structure TemplateSet where
  /-- The name of the template the text itself is. -/
  name : String
  /-- The bodies by name. -/
  bodies : List (String × List Piece)

/-- The body of the template of a name. -/
def TemplateSet.body? (set : TemplateSet) (name : String) : Option (List Piece) :=
  set.bodies.lookup name

/-- The digit value of a character in base 16, if it is one. -/
def hexValue (c : Char) : Option Nat :=
  if c.isDigit then some (c.toNat - '0'.toNat)
  else if 'a' ≤ c && c ≤ 'f' then some (c.toNat - 'a'.toNat + 10)
  else if 'A' ≤ c && c ≤ 'F' then some (c.toNat - 'A'.toNat + 10)
  else none

/-- The value of digits in a base, underscores skipped; `none` for no
digits or a digit outside the base. -/
def digitsIn (base : Nat) (cs : List Char) : Option Nat :=
  if (cs.filter (· != '_')).isEmpty then none
  else cs.foldl (fun acc c => if c == '_' then acc else acc.bind fun a => (hexValue c).bind fun d =>
    if d < base then some (a * base + d) else none) (some 0)

/-- The natural number a text spells in the integer syntax: decimal, or
with a prefix `0x`, `0o`, `0b`, or a leading `0` for octal, underscores
only between digits or after a prefix. -/
def unsignedValue (cs : List Char) : Option Nat :=
  if !Text.underscoresOk cs then none
  else match cs with
    | '0' :: x :: rest =>
      if x == 'x' || x == 'X' then digitsIn 16 rest
      else if x == 'o' || x == 'O' then digitsIn 8 rest
      else if x == 'b' || x == 'B' then digitsIn 2 rest
      else digitsIn 8 (x :: rest)
    | _ => digitsIn 10 cs

/-- Whether an integer is in the range of 64-bit signed integers. -/
def fitsInt64 (v : Int) : Bool := -(Int.pow 2 63) ≤ v && v ≤ Int.pow 2 63 - 1

/-- The 64-bit signed integer a binary64 number equals, if it is one. -/
def exactInt? (x : Float) : Option Int :=
  (Text.truncateFloat x).filter fun n => Text.floatOfInt n == x && fitsInt64 n

/-- The 64-bit unsigned integer a binary64 number equals, if it is one. -/
def exactUint? (x : Float) : Option Nat :=
  ((Text.truncateFloat x).filter fun n => Text.floatOfInt n == x && 0 ≤ n && n < Int.pow 2 64).map Int.toNat

/-- A binary64 constant, with the integers it equals. -/
def NumberLit.ofFloat (x : Float) : NumberLit :=
  { int? := exactInt? x, uint? := exactUint? x, float? := some x }

/-- A complex constant; one with no imaginary part also stands for its real
part. -/
def NumberLit.ofComplex (re im : Float) : NumberLit :=
  if im == 0 then { NumberLit.ofFloat re with complex? := some (re, im) }
  else { complex? := some (re, im) }

/-- A character constant: its code point as every kind of number. -/
def NumberLit.ofRune (n : Nat) : NumberLit :=
  { int? := some n, uint? := some n, float? := some (Text.floatOfInt n) }

/-- What a numeric constant's text stands for: an imaginary number, then
the integer readings (`-0` is also unsigned), then a binary64 reading for
texts with a point or an exponent; an error text when it is not a number or
is an integer too large for 64 bits. -/
def NumberLit.parse (text : String) : Except String NumberLit :=
  let cs := text.toList
  let imaginary := if cs.getLast? == some 'i' then Text.parseGoFloat (String.ofList cs.dropLast) else none
  match imaginary with
  | some f => .ok (NumberLit.ofComplex 0 f)
  | none =>
    let (neg, signed, body) : Bool × Bool × List Char :=
      match cs with
      | '-' :: r => (true, true, r) | '+' :: r => (false, true, r) | r => (false, false, r)
    let u := if signed then none else (unsignedValue body).filter (· < Nat.pow 2 64)
    let i : Option Int := (unsignedValue body).bind fun n =>
      let v : Int := if neg then -(n : Int) else n
      if fitsInt64 v then some v else none
    let u := if i == some 0 then some (u.getD 0) else u
    match i, u with
    | some n, _ => .ok { int? := some n, uint? := u, float? := some (Text.floatOfInt n) }
    | none, some n => .ok { uint? := some n, float? := some (Text.floatOfInt n) }
    | none, none =>
      match Text.parseGoFloat text with
      | some f =>
        if !(cs.any fun c => c == '.' || c == 'e' || c == 'E' || c == 'p' || c == 'P') then
          .error ("integer overflow: " ++ Text.quote text)
        else .ok (NumberLit.ofFloat f)
      | none => .error ("illegal number syntax: " ++ Text.quote text)

/-- The first character of a quoted text's body as the quote `q` reads it,
escapes included: its code point, whether it stands for a single byte (a
`\x` or octal escape), and the text after it; `none` when the text is
malformed, or starts with the quote itself or a lone backslash. -/
def unquoteChar (q : Char) : List Char → Option (Nat × Bool × List Char)
  | [] => none
  | '\\' :: e :: rest =>
    let hexRun (n : Nat) : Option (Nat × List Char) :=
      if rest.length ≥ n && (rest.take n).all (fun c => (hexValue c).isSome) then
        some ((rest.take n).foldl (fun a c => a * 16 + (hexValue c).getD 0) 0, rest.drop n)
      else none
    let octal (c : Char) : Bool := '0' ≤ c && c ≤ '7'
    match e with
    | 'a' => some (7, false, rest) | 'b' => some (8, false, rest) | 'f' => some (12, false, rest)
    | 'n' => some (10, false, rest) | 'r' => some (13, false, rest) | 't' => some (9, false, rest)
    | 'v' => some (11, false, rest) | '\\' => some (92, false, rest)
    | 'x' => (hexRun 2).map fun (v, r) => (v, true, r)
    | 'u' | 'U' =>
      (hexRun (if e == 'u' then 4 else 8)).bind fun (v, r) =>
        if v > 0x10ffff || (0xd800 ≤ v && v < 0xe000) then none else some (v, false, r)
    | _ =>
      if e == q && (e == '\'' || e == '"') then some (e.toNat, false, rest)
      else if octal e then
        match rest with
        | a :: b :: r =>
          if octal a && octal b then
            let v := (e.toNat - 48) * 64 + (a.toNat - 48) * 8 + (b.toNat - 48)
            if v > 255 then none else some (v, true, r)
          else none
        | _ => none
      else none
  | c :: rest => if c == q || c == '\\' then none else some (c.toNat, false, rest)

/-- The code point of a character constant's text (`'a'`, `'\n'`,
`'\x41'`), or why it is not one. -/
def charConstantValue (text : String) : Except String Nat :=
  match text.toList with
  | '\'' :: body =>
    match unquoteChar '\'' body with
    | some (v, _, tail) =>
      if tail == ['\''] then .ok v else .error ("malformed character constant: " ++ text)
    | none => .error "invalid syntax"
  | _ => .error "invalid syntax"

end CriticalCss.Template
