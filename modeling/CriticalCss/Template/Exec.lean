import CriticalCss.Template.Parse
import CriticalCss.Template.Library
/-!
# Running templates

A template runs on a data value, the cursor `.`, and writes the texts of
its pieces and the printed values of its actions. A pipeline runs its
commands from left to right, each command receiving the value of the one
before as its last argument. A command whose first operand is a field chain
reads fields and calls methods of the cursor; a function name calls the
function with the other operands as arguments, each converted to the
parameter's type; a constant stands for itself and takes no arguments.

`if` runs its body when the pipeline's value is true, `with` also moves the
cursor to that value, and `range` runs its body once for each element of a
list, each entry of a map in the order of its keys, or each number below an
integer, with the cursor on it. Variables declared in a control structure
end with it. A call of a template runs its body with the cursor and `$` on
the pipeline's value and no other variables, at most 100000 calls deep.
Maps made while running live in the run's store.

An error names the place in the text (`NAME:LINE:COLUMN`, the name of the
text and the column counted in bytes from zero), the template running and
the node being run:
`template: NAME:1:2: executing "NAME" at <.Missing>: can't evaluate field
Missing in type T`.

## Main definitions

* `Flow`: how a body ends: normally, by `break` or by `continue`.
* `runTemplate`: the text a template writes for a data value, or the error.
-/

namespace CriticalCss.Template

/-- The place of a node: its byte offset and its text. -/
abbrev Spot := Nat × String

/-- The state of a run: the templates, the name of the one running and
the text, the node being run, the variables from the newest, the text
written so far, and how many template calls are open. -/
structure Run where
  name : String
  templates : TemplateSet
  source : String
  spot : Option Spot := none
  vars : List (String × Value)
  out : ByteArray := ByteArray.empty
  store : Store := {}
  depth : Nat := 0

/-- How deeply template calls may nest. -/
def maxTemplateDepth : Nat := 100000

/-- Running: a state over the run that may fail with an error text. -/
abbrev ExecM := StateT Run (Except String)

/-- How a body ends. -/
inductive Flow where
  | normal
  | breakLoop
  | continueLoop
  deriving BEq

/-- The line and byte column of an offset in a text. -/
def lineAndColumn (source : String) (pos : Nat) : Nat × Nat :=
  let before := source.toUTF8.toList.take pos
  let lines := before.filter (· == 10) |>.length
  let col := match before.reverse.findIdx? (· == 10) with
    | some i => i
    | none => pos
  (lines + 1, col)

/-- Fail with a message, naming the place and the node being run. -/
def execFail {α : Type} (msg : String) : ExecM α := do
  let r ← get
  match r.spot with
  | some (pos, text) =>
    let (line, col) := lineAndColumn r.source pos
    throw ("template: " ++ r.templates.name ++ ":" ++ toString line ++ ":" ++ toString col ++ ": executing " ++
      Text.quote r.name ++ " at <" ++ text ++ ">: " ++ msg)
  | none => throw ("template: " ++ r.name ++ ": " ++ msg)

/-- Mark the node being run. -/
def setSpot (s : Spot) : ExecM Unit :=
  modify fun r => { r with spot := some s }

/-- The spot of an operand. -/
def Operand.spot (o : Operand) : Spot := (o.pos, o.text)

/-- The value of the newest variable of a name. -/
def varValue (name : String) : ExecM Value := do
  match (← get).vars.lookup name with
  | some v => return v
  | none => execFail ("undefined variable: " ++ name)

/-- Set the newest variable of a name. -/
def setVar (name : String) (v : Value) : ExecM Unit := do
  let vars := (← get).vars
  match vars.findIdx? (·.1 == name) with
  | some i => modify fun r => { r with vars := vars.set i (name, v) }
  | none => execFail ("undefined variable: " ++ name)

/-- Declare a variable. -/
def pushVar (name : String) (v : Value) : ExecM Unit :=
  modify fun r => { r with vars := (name, v) :: r.vars }

/-- Set the `n`-th newest variable, counting from 1. -/
def setTopVar (n : Nat) (v : Value) : ExecM Unit :=
  modify fun r => { r with vars := r.vars.modify (n - 1) fun (k, _) => (k, v) }

/-- The number of variables, to return to after a scope. -/
def varMark : ExecM Nat := do return (← get).vars.length

/-- Drop the variables declared since a mark. -/
def popVars (mark : Nat) : ExecM Unit :=
  modify fun r => { r with vars := r.vars.drop (r.vars.length - mark) }

/-- Fail when a value that is not a function is given arguments. -/
def notAFunction (args : List Operand) (final : Option Value) : ExecM Unit := do
  if args.length > 1 || final.isSome then
    execFail ("can't give argument to non-function " ++ ((args.head?.map Operand.text).getD ""))

/-- A value checked against a parameter type: nothing becomes the empty
value of a type that can hold nothing, and is an error for the others. -/
def validateType (v : Value) : Option ParamType → ExecM Value
  | none => pure v
  | some t =>
    match v with
    | .none =>
      match t.nilValue? with
      | some z => pure z
      | none => execFail ("invalid value; expected " ++ t.name)
    | v => if t.accepts v then pure v
      else execFail ("wrong type for value; expected " ++ t.name ++ "; got " ++ v.typeName)

/-- Whether a number's text is a hexadecimal integer: `0x` digits with no
binary exponent. -/
def isHexInt (text : String) : Bool :=
  match text.toList with
  | '0' :: x :: _ :: _ => (x == 'x' || x == 'X') && !(text.contains 'p' || text.contains 'P')
  | _ => false

/-- The value of a numeric constant standing alone: a complex number, a
binary64 number when it is written as one, else an integer; an integer
beyond 64 bits is an error. -/
def idealConstant (spot : Spot) (text : String) (lit : NumberLit) : ExecM Value := do
  setSpot spot
  match lit.complex? with
  | some (re, im) => return .complex re im
  | none =>
    let floatForm := !isHexInt text && !text.startsWith "'" &&
      text.toList.any fun c => c == '.' || c == 'e' || c == 'E' || c == 'p' || c == 'P'
    match lit.float? with
    | some x => if floatForm then return .float x else integral
    | none => integral
where
  /-- The integer reading of the constant. -/
  integral : ExecM Value :=
    match lit.int?, lit.uint? with
    | some i, _ => return .int i
    | none, some _ => execFail (text ++ " overflows int")
    | none, none => return .none

/-- How an operand that is a constant converts to a parameter type. -/
def constantArg (typ : Option ParamType) (n : Operand) : ExecM Value :=
  let cannot (t : ParamType) : ExecM Value :=
    execFail ("can't handle " ++ n.text ++ " for arg of type " ++ t.name)
  match typ, n with
  | some .bool, .bool _ b => pure (.bool b)
  | some .bool, _ => execFail ("expected bool; found " ++ n.text)
  | some .int, .number _ _ lit =>
    match lit.int? with
    | some i => pure (.int i)
    | none => execFail ("expected integer; found " ++ n.text)
  | some .int64, .number _ _ lit =>
    match lit.int? with
    | some i => pure (.int64 i)
    | none => execFail ("expected integer; found " ++ n.text)
  | some .duration, .number _ _ lit =>
    match lit.int? with
    | some i => pure (.duration i)
    | none => execFail ("expected integer; found " ++ n.text)
  | some .int, _ | some .int64, _ | some .duration, _ => execFail ("expected integer; found " ++ n.text)
  | some .float64, .number _ _ lit =>
    match lit.float? with
    | some x => pure (.float x)
    | none => execFail ("expected float; found " ++ n.text)
  | some .float64, _ => execFail ("expected float; found " ++ n.text)
  | some .string, .string _ _ s => pure (Value.ofBytes s)
  | some .string, _ => execFail ("expected string; found " ++ n.text)
  | some .moment, _ => cannot .moment
  | some .location, _ => cannot .location
  | some (.map e), _ => cannot (.map e)
  | some (.slice e), _ => cannot (.slice e)
  | _, .bool _ b => pure (.bool b)
  | _, .number pos text lit => idealConstant (pos, text) text lit
  | _, .string _ _ s => pure (Value.ofBytes s)
  | _, _ => pure .none

/-- For a value of an integer kind, its count and the values of its type
below it. -/
def Value.countUp? : Value → Option (Int × (Nat → Value))
  | .int n => some (n, fun i => .int i)
  | .int64 n => some (n, fun i => .int64 i)
  | .duration n => some (n, fun i => .duration i)
  | .uint8 n => some (n, fun i => .uint8 i)
  | .month n => some (n, fun i => .month i)
  | .weekday n => some (n, fun i => .weekday i)
  | _ => Option.none

/-- The message of a function whose results cannot be used. -/
def resultsProblem (name : String) : Results → Option String
  | .many n => some ("function " ++ name ++ " has " ++ toString n ++ " return values; should be 1 or 2")
  | .badSecond t =>
    some ("invalid function signature for " ++ name ++ ": second return value should be error; is " ++ t)
  | _ => none

mutual

/-- Run a pipeline and declare or assign its variables. -/
def evalPipeline : Nat → Value → Pipeline → ExecM Value
  | 0, _, _ => execFail "template too deeply nested"
  | fuel + 1, dot, p => do
    setSpot (p.pos, p.text)
    let v ← evalCommands fuel dot p.cmds none
    for d in p.decls do
      if p.isAssign then setVar d v else pushVar d v
    return v

/-- Run commands in turn, each given the value of the one before. -/
def evalCommands : Nat → Value → List Command → Option Value → ExecM Value
  | 0, _, _, _ => execFail "template too deeply nested"
  | _ + 1, _, [], final => return final.getD .none
  | fuel + 1, dot, c :: rest, final => do
    let v ← evalCommand fuel dot c final
    evalCommands fuel dot rest (some v)

/-- Run one command. -/
def evalCommand : Nat → Value → Command → Option Value → ExecM Value
  | 0, _, _, _ => execFail "template too deeply nested"
  | fuel + 1, dot, cmd, final => do
    match cmd.args with
    | [] => return .none
    | first :: _ =>
      match first with
      | .field _ names => evalFieldNode fuel dot first.spot names cmd.args final
      | .chain _ base names => evalChainNode fuel dot first.spot base names cmd.args final
      | .ident _ name => evalFunction fuel dot first.spot (cmd.pos, cmd.text) name cmd.args final
      | .pipe p =>
        notAFunction cmd.args final
        evalPipeline fuel dot p
      | .variable _ names => evalVariableNode fuel dot first.spot names cmd.args final
      | .bool _ b =>
        setSpot first.spot
        notAFunction cmd.args final
        return .bool b
      | .dot _ =>
        setSpot first.spot
        notAFunction cmd.args final
        return dot
      | .nil _ =>
        setSpot first.spot
        notAFunction cmd.args final
        execFail "nil is not a command"
      | .number pos text lit =>
        setSpot first.spot
        notAFunction cmd.args final
        idealConstant (pos, text) text lit
      | .string _ _ s =>
        setSpot first.spot
        notAFunction cmd.args final
        return Value.ofBytes s

/-- Read a field chain starting at the cursor. -/
def evalFieldNode : Nat → Value → Spot → List String → List Operand → Option Value → ExecM Value
  | 0, _, _, _, _, _ => execFail "template too deeply nested"
  | fuel + 1, dot, spot, names, args, final => do
    setSpot spot
    evalFieldChain fuel dot dot spot names args final

/-- Read a field chain starting at the value of an operand. -/
def evalChainNode : Nat → Value → Spot → Operand → List String → List Operand → Option Value →
    ExecM Value
  | 0, _, _, _, _, _, _ => execFail "template too deeply nested"
  | fuel + 1, dot, spot, base, names, args, final => do
    setSpot spot
    if base matches .nil _ then execFail ("indirection through explicit nil in " ++ spot.2)
    let v ← evalArg fuel dot none base
    evalFieldChain fuel dot v spot names args final

/-- Read a variable and the fields after it. -/
def evalVariableNode : Nat → Value → Spot → List String → List Operand → Option Value →
    ExecM Value
  | 0, _, _, _, _, _ => execFail "template too deeply nested"
  | fuel + 1, dot, spot, names, args, final => do
    setSpot spot
    let v ← varValue (names.headD "$")
    if names.length ≤ 1 then
      notAFunction args final
      return v
    evalFieldChain fuel dot v spot (names.drop 1) args final

/-- Read fields one after the other; the last one gets the arguments. -/
def evalFieldChain : Nat → Value → Value → Spot → List String → List Operand → Option Value →
    ExecM Value
  | 0, _, _, _, _, _, _ => execFail "template too deeply nested"
  | _ + 1, _, receiver, _, [], _, _ => return receiver
  | fuel + 1, dot, receiver, spot, [name], args, final => evalField fuel dot name spot args final receiver
  | fuel + 1, dot, receiver, spot, name :: rest, args, final => do
    let v ← evalField fuel dot name spot [] none receiver
    evalFieldChain fuel dot v spot rest args final

/-- Read a field or call a method of a value. -/
def evalField : Nat → Value → String → Spot → List Operand → Option Value → Value → ExecM Value
  | 0, _, _, _, _, _, _ => execFail "template too deeply nested"
  | fuel + 1, dot, name, spot, args, final, receiver => do
    match receiver with
    | .none => return .none
    | _ =>
      match methodOf receiver name with
      | some fn => evalCall fuel dot fn false spot name args final
      | none =>
        let hasArgs := args.length > 1 || final.isSome
        let cannot : ExecM Value :=
          execFail ("can't evaluate field " ++ name ++ " in type " ++ receiver.typeName)
        match receiver with
        | .record _ fields =>
          match fields.lookup name with
          | some v =>
            if hasArgs then execFail (name ++ " has arguments but cannot be invoked as function")
            else return v
          | none => cannot
        | .map _ r =>
          if hasArgs then execFail (name ++ " is not a method but has arguments")
          else return (((← get).store.entries r).lookup name).getD .none
        | _ =>
          if (hiddenFields receiver).contains name then
            execFail (name ++ " is an unexported field of struct type " ++ receiver.typeName)
          else cannot

/-- Call the function a name stands for. -/
def evalFunction : Nat → Value → Spot → Spot → String → List Operand → Option Value → ExecM Value
  | 0, _, _, _, _, _, _ => execFail "template too deeply nested"
  | fuel + 1, dot, identSpot, nodeSpot, name, args, final => do
    setSpot identSpot
    match lookupFunction name with
    | none => execFail (Text.quote name ++ " is not a defined function")
    | some (fn, isCore) => evalCall fuel dot fn isCore nodeSpot name args final

/-- Call a function: check the number of arguments, convert them to the
parameter types, and run it. -/
def evalCall : Nat → Value → Function → Bool → Spot → String → List Operand → Option Value →
    ExecM Value
  | 0, _, _, _, _, _, _, _ => execFail "template too deeply nested"
  | fuel + 1, dot, fn, isCore, nodeSpot, name, args, final => do
    let args := args.drop 1
    let numIn := args.length + (if final.isSome then 1 else 0)
    let numFixed := if fn.variadic.isSome then fn.params.length else args.length
    if fn.variadic.isSome then
      if numIn < numFixed then
        execFail ("wrong number of args for " ++ name ++ ": want at least " ++ toString fn.params.length ++
          " got " ++ toString args.length)
    else if numIn != fn.params.length then
      execFail ("wrong number of args for " ++ name ++ ": want " ++ toString fn.params.length ++ " got " ++
        toString numIn)
    if let some msg := resultsProblem name fn.results then execFail msg
    if isCore && (name == "and" || name == "or") then
      evalShortCircuit fuel dot (name == "or") args final .none
    else
      let types : List (Option ParamType) := (List.range args.length).map fun i =>
        if i < numFixed then fn.params[i]? else fn.variadic
      let fixedArgs ← evalArgs fuel dot (types.zip args)
      let lastArg ← match final with
        | some f =>
          let t := match fn.variadic with
            | some vt => if numIn - 1 < numFixed then fn.params[numIn - 1]? else some vt
            | none => fn.params.getLast?
          (fun v => [v]) <$> validateType f t
        | none => pure []
      let callee := if isCore && name == "call" then [Value.str ((args.head?.map Operand.text).getD "")] else []
      match (fn.run (callee ++ fixedArgs ++ lastArg)).run (← get).store with
      | .ok (v, store) =>
        modify fun r => { r with store }
        return v
      | .error e =>
        setSpot nodeSpot
        execFail ("error calling " ++ name ++ ": " ++ e)

/-- `and` and `or`: the first argument whose truth decides, else the last. -/
def evalShortCircuit : Nat → Value → Bool → List Operand → Option Value → Value → ExecM Value
  | 0, _, _, _, _, _ => execFail "template too deeply nested"
  | _ + 1, _, _, [], final, last => do
    match final with
    | some f => validateType f (some .reflect)
    | none => return last
  | fuel + 1, dot, isOr, a :: rest, final, _ => do
    let v ← evalArg fuel dot (some .reflect) a
    if v.truth (← get).store == isOr then return v
    evalShortCircuit fuel dot isOr rest final v

/-- Evaluate arguments for their parameter types. -/
def evalArgs : Nat → Value → List (Option ParamType × Operand) → ExecM (List Value)
  | 0, _, _ => execFail "template too deeply nested"
  | _ + 1, _, [] => return []
  | fuel + 1, dot, (t, a) :: rest => do
    let v ← evalArg fuel dot t a
    let vs ← evalArgs fuel dot rest
    return v :: vs

/-- Evaluate an operand as an argument of a parameter type (`none` for an
operand whose fields are read next). -/
def evalArg : Nat → Value → Option ParamType → Operand → ExecM Value
  | 0, _, _, _ => execFail "template too deeply nested"
  | fuel + 1, dot, typ, n => do
    setSpot n.spot
    match n with
    | .dot _ => validateType dot typ
    | .nil _ =>
      match typ with
      | some t =>
        match t.nilValue? with
        | some z => return z
        | none => execFail ("cannot assign nil to " ++ t.name)
      | none => return .none
    | .field _ names => validateType (← evalFieldNode fuel dot n.spot names [n] none) typ
    | .variable _ names => validateType (← evalVariableNode fuel dot n.spot names [] none) typ
    | .pipe p => validateType (← evalPipeline fuel dot p) typ
    | .ident _ name => validateType (← evalFunction fuel dot n.spot n.spot name [] none) typ
    | .chain _ base names => validateType (← evalChainNode fuel dot n.spot base names [] none) typ
    | _ => constantArg typ n

end

mutual

/-- Run pieces in turn until one breaks or continues a loop. -/
def walkList : Nat → Value → List Piece → ExecM Flow
  | 0, _, _ => execFail "template too deeply nested"
  | _ + 1, _, [] => return .normal
  | fuel + 1, dot, p :: rest => do
    let flow ← walkPiece fuel dot p
    if flow != .normal then return flow
    walkList fuel dot rest

/-- Run one piece. -/
def walkPiece : Nat → Value → Piece → ExecM Flow
  | 0, _, _ => execFail "template too deeply nested"
  | fuel + 1, dot, piece => do
    match piece with
    | .text s =>
      modify fun r => { r with out := r.out ++ s.toUTF8 }
      return .normal
    | .action _ p =>
      let v ← evalPipeline fuel dot p
      if p.decls.isEmpty then
        let st := (← get).store
        let bytes := match v with
          | .none => "<no value>".toUTF8.toList
          | v => v.renderBytes st
        modify fun r => { r with out := r.out ++ ⟨bytes.toArray⟩ }
      return .normal
    | .ifElse _ p body alt => walkBranch fuel dot false p body alt
    | .withElse _ p body alt => walkBranch fuel dot true p body alt
    | .range _ p body alt => do
      let mark ← varMark
      let v ← evalPipeline fuel dot p
      let inner ← varMark
      let st := (← get).store
      let otherwise : ExecM Flow := match alt with
        | some a => walkList fuel dot a
        | none => pure .normal
      let iterate (pairs : List (Value × Value)) : ExecM Flow := do
        let mut flow := Flow.normal
        for (index, elem) in pairs do
          match p.decls with
          | [] => pure ()
          | [d] => if p.isAssign then setVar d elem else setTopVar 1 elem
          | d :: e :: _ =>
            if p.isAssign then
              setVar d index
              setVar e elem
            else
              setTopVar 1 elem
              setTopVar 2 index
          let f ← walkList fuel elem body
          popVars inner
          if f == .breakLoop then break
          if f != .continueLoop then flow := f
        pure flow
      let flow ← match v with
        | .list _ items _ _ =>
          if items.isEmpty then otherwise
          else iterate (items.zipIdx.map fun (x, i) => (Value.int i, x))
        | .map _ r =>
          let entries := st.entries r
          if entries.isEmpty then otherwise
          else iterate (entries.map fun (k, x) => (Value.str k, x))
        | .none => otherwise
        | _ =>
          match v.countUp? with
          | some (n, elem) =>
            if p.decls.length > 1 then
              execFail ("can't use " ++ v.render st ++ " to iterate over more than one variable")
            else if n ≤ 0 then otherwise
            else iterate ((List.range n.toNat).map fun i => (Value.none, elem i))
          | none => execFail ("range can't iterate over " ++ v.render st)
      popVars mark
      return (if flow == .breakLoop || flow == .continueLoop then .normal else flow)
    | .breakLoop _ => return .breakLoop
    | .continueLoop _ => return .continueLoop
    | .call pos name arg => do
      setSpot (pos, callText name arg)
      let r ← get
      match r.templates.body? name with
      | none => execFail ("template " ++ Text.quote name ++ " not defined")
      | some body =>
        if r.depth == maxTemplateDepth then
          execFail ("exceeded maximum template depth (" ++ toString maxTemplateDepth ++ ")")
        let v ← match arg with
          | some p => evalPipeline fuel dot p
          | none => pure .none
        let outer ← get
        set { outer with name, vars := [("$", v)], depth := outer.depth + 1 }
        let _ ← walkList fuel v body
        modify fun r => { r with name := outer.name, vars := outer.vars, depth := outer.depth }
        return .normal

/-- Run the body of `if` or `with` when the pipeline's value is true, the
alternative otherwise. -/
def walkBranch : Nat → Value → Bool → Pipeline → List Piece → Option (List Piece) → ExecM Flow
  | 0, _, _, _, _, _ => execFail "template too deeply nested"
  | fuel + 1, dot, isWith, p, body, alt => do
    let mark ← varMark
    let v ← evalPipeline fuel dot p
    let flow ←
      if v.truth (← get).store then walkList fuel (if isWith then v else dot) body
      else match alt with
        | some a => walkList fuel dot a
        | none => pure .normal
    popVars mark
    return flow

end

/-- The text the template of a set's own name writes for a data value, or
the error text; `source` is the text the set was read from. -/
def runTemplate (set : TemplateSet) (source : String) (data : Value) : Except String String :=
  -- each open call may use up to the fuel of one pass over the text
  let fuel := (8 * source.length + 64) * (maxTemplateDepth + 2)
  let body := (set.body? set.name).getD []
  match (walkList fuel data body).run { name := set.name, templates := set, source, vars := [("$", data)] } with
  | .ok (_, r) => .ok (Text.decodeLossy r.out.toList)
  | .error e => .error e

end CriticalCss.Template
