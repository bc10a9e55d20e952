import CriticalCss.Template.Compare
import CriticalCss.Template.Function.Strings
/-!
# Core functions

The functions every template has: `and`, `or` and `not` by truth;
`len` and `index` on texts, lists and maps; `print`, `printf` and
`println`; the escapers `html`, `js` and `urlquery`; `call`; and the
comparisons `eq`, `ne`, `lt`, `le`, `gt`, `ge`.

`and` and `or` are evaluated by the runner, which stops at the first
argument that decides. `call` is given the text of its first operand before
the values, to name it in its error.

## Main definitions

* `htmlEscape`, `jsEscape`, `queryEscape`: the escapers.
* `indexValue`: an element of a text, list or map.
* `coreFunctions`: the table.
-/

namespace CriticalCss.Template

open CriticalCss.Text

/-- A text escaped for HTML, byte by byte: `&`, `'`, `<`, `>`, `"` as
character references and NUL as the replacement character. -/
def htmlEscape (bs : List UInt8) : List UInt8 :=
  (bs.map fun b =>
    match b with
    | 0x26 => "&amp;".toUTF8.toList | 0x27 => "&#39;".toUTF8.toList | 0x3c => "&lt;".toUTF8.toList
    | 0x3e => "&gt;".toUTF8.toList | 0x22 => "&#34;".toUTF8.toList
    | 0x00 => "\uFFFD".toUTF8.toList
    | b => [b]).flatten

/-- One character escaped for a script string: quotes and backslashes by a
backslash, `<`, `>`, `&`, `=`, control characters and characters with no
printed form as `\uXXXX`. -/
def jsEscapeChar (c : Char) : String :=
  let u (n : Nat) := "\\u" ++ (hexDigits 4 n).toUpper
  match c with
  | '\\' => "\\\\" | '\'' => "\\'" | '"' => "\\\""
  | '<' => u 0x3c | '>' => u 0x3e | '&' => u 0x26 | '=' => u 0x3d
  | c => if c.toNat < 0x20 || (c.toNat ≥ 0x80 && !isPrintable c) then u c.toNat else c.toString

/-- A text escaped for a script string, character by character; a stray
byte counts as printable and is kept. -/
def jsEscape (bs : List UInt8) : List UInt8 :=
  ((utf8Runes bs).map fun r => if isStray r then r.2 else (jsEscapeChar r.1).toUTF8.toList).flatten

/-- A text escaped for a query: letters, digits and `-_.~` stay, a blank
becomes `+`, every other byte `%XX`. -/
def queryEscape (bs : List UInt8) : List UInt8 :=
  (bs.map fun b =>
    let c := Char.ofNat b.toNat
    if c.isAlphanum || c == '-' || c == '_' || c == '.' || c == '~' then [b]
    else if c == ' ' then [0x2b]
    else ("%" ++ (hexDigits 2 b.toNat).toUpper).toUTF8.toList).flatten

/-- The text the escapers work on: a single text as it is, otherwise the
arguments printed together, nothing printed as `<no value>`. -/
def argsText (st : Store) : List Value → List UInt8
  | [.str s] => s.toUTF8.toList
  | [.bytes data] => data
  | vs => sprint st (vs.map fun v => if v matches .none then .str "<no value>" else v)

/-- The position an index value stands for in a text or list of `len`
elements. -/
def indexPosition (i : Value) (len : Nat) : Except String Nat :=
  match i with
  | .none => .error "cannot index slice/array with nil"
  | _ =>
    match i.int? with
    | some x => if x < 0 || x > len then .error ("index out of range: " ++ toString x) else .ok x.toNat
    | none => .error ("cannot index slice/array with type " ++ i.typeName)

/-- The element of a text, list or map at an index. -/
def indexValue (st : Store) (item i : Value) : Except String Value :=
  match item with
  | .str _ | .bytes _ => do
    let bytes := item.textBytes?.getD []
    let x ← indexPosition i bytes.length
    match bytes[x]? with
    | some b => pure (.uint8 b.toNat)
    | none => .error "reflect: string index out of range"
  | .list _ items _ _ => do
    let x ← indexPosition i items.length
    match items[x]? with
    | some v => pure v
    | none => .error "reflect: slice index out of range"
  | .map e r =>
    match i with
    | .str k => .ok (((st.entries r).lookup k).getD (zeroOf e))
    | .none => .error "value is nil; should be of type string"
    | _ => .error ("value has type " ++ i.typeName ++ "; should be string")
  | _ => .error ("can't index item of type " ++ item.typeName)
where
  /-- The value a missing key of a map of a type gives. -/
  zeroOf : ValueType → Value
    | .string => .str ""
    | .int => .int 0
    | .bool => .bool false
    | .float64 => .float 0
    | _ => .none

/-- `eq a b c …`: whether `a` equals any of the rest. -/
def eqAny (st : Store) (args : List Value) : Except String Bool :=
  match args with
  | [] | [_] => .error "missing argument for comparison"
  | a :: rest =>
    rest.foldlM (fun (found : Bool) b => if found then pure true else basicEqual st a b) false

/-- `le`: less than or equal. -/
def lessOrEqual (st : Store) (a b : Value) : Except String Bool := do
  if ← basicLess a b then pure true else basicEqual st a b

/-- A comparison of two values. -/
def compareFn (f : Store → Value → Value → Except String Bool) : Function :=
  { params := [.reflect, .reflect], results := .withError,
    run := fun args => do
      match f (← get) (args.headD .none) (args.getD 1 .none) with
      | .ok b => pure (.bool b)
      | .error e => callFail e }

/-- The core functions. -/
def coreFunctions : List (String × Function) :=
  let escaper (f : List UInt8 → List UInt8) : Function :=
    { params := [], variadic := some .any, run := fun args => do return Value.ofBytes (f (argsText (← get) args)) }
  [("and", { params := [.reflect], variadic := some .reflect, run := fun _ => pure .none }),
   ("or", { params := [.reflect], variadic := some .reflect, run := fun _ => pure .none }),
   ("not", storeFn [.reflect] fun st args => .bool !((args.headD .none).truth st)),
   ("len", { params := [.reflect], results := .withError,
             run := fun args => do
               match args.headD .none with
               | .none => callFail "reflect: call of reflect.Value.Type on zero Value"
               | .location _ => callFail "len of type time.Location"
               | v => match v.length? (← get) with
                 | some n => pure (.int n)
                 | none => callFail ("len of type " ++ v.typeName) }),
   ("index", { params := [.reflect], variadic := some .reflect, results := .withError,
               run := fun args => do
                 let st ← get
                 match args with
                 | .none :: _ => callFail "index of untyped nil"
                 | item :: indexes =>
                   match indexes.foldlM (indexValue st) item with
                   | .ok v => pure v
                   | .error e => callFail e
                 | [] => pure .none }),
   ("call", { params := [.reflect], variadic := some .reflect, results := .withError,
              run := fun args => match args with
                | .str name :: f :: _ =>
                  if f matches .none then callFail "call of nil"
                  else callFail ("non-function " ++ name ++ " of type " ++ f.typeName)
                | _ => callFail "call of nil" }),
   ("print", { params := [], variadic := some .any, run := fun args => do return Value.ofBytes (sprint (← get) args) }),
   ("printf", { params := [.string], variadic := some .any,
                run := fun args => do return Value.ofBytes (sprintf (← get) (bytesArg args 0) (args.drop 1)) }),
   ("println", { params := [], variadic := some .any,
                 run := fun args => do return Value.ofBytes (sprintln (← get) args) }),
   ("html", escaper htmlEscape),
   ("js", escaper jsEscape),
   ("urlquery", escaper queryEscape),
   ("eq", { params := [.reflect], variadic := some .reflect, results := .withError,
            run := fun args => do
              match eqAny (← get) args with
              | .ok b => pure (.bool b)
              | .error e => callFail e }),
   ("ne", compareFn fun st a b => (basicEqual st a b).map (!·)),
   ("lt", compareFn fun _ a b => basicLess a b),
   ("le", compareFn lessOrEqual),
   ("gt", compareFn fun st a b => (lessOrEqual st a b).map (!·)),
   ("ge", compareFn fun _ a b => (basicLess a b).map (!·))]

end CriticalCss.Template
