import CriticalCss.Template.Format
import CriticalCss.Text.Decimal
/-!
# Template functions

A function a template calls has fixed parameters, each of a type, possibly
a repeated last parameter, and results: one value, a value and an error, or
a signature that cannot be called. It computes with the maps of the run,
which it may read, make and change.

Arguments are converted the way the helper library converts them: to
integers (texts read in decimal, fractions cut toward zero, truth values as
0 or 1), to binary64 numbers, to texts (values printed) and to lists of
texts.

## Main definitions

* `ParamType`, `Results`, `Function`: what a function takes and gives.
* `CallM`: the computations of functions, over the store of maps.
* `toInt64`, `toFloat64`, `strval`, `strslice`: the argument conversions.
-/

namespace CriticalCss.Template

open CriticalCss.Text

/-- The types of function parameters. `reflect` takes any value as it is,
nothing included. -/
inductive ParamType where
  | any
  | reflect
  | string
  | int
  | int64
  | float64
  | bool
  | moment
  | duration
  | location
  | map (elem : ValueType)
  | slice (elem : ValueType)
  deriving BEq, Repr

/-- How errors name a parameter type. -/
def ParamType.name : ParamType → String
  | .any => "interface \x7b\x7d"
  | .reflect => "reflect.Value"
  | .string => "string"
  | .int => "int"
  | .int64 => "int64"
  | .float64 => "float64"
  | .bool => "bool"
  | .moment => "time.Time"
  | .duration => "time.Duration"
  | .location => "*time.Location"
  | .map e => "map[string]" ++ e.name
  | .slice e => "[]" ++ e.name

/-- Whether a value has a parameter type, needing no conversion. -/
def ParamType.accepts : ParamType → Value → Bool
  | .any, _ | .reflect, _ => true
  | .string, .str _ | .string, .bytes _ => true
  | .int, .int _ => true
  | .int64, .int64 _ => true
  | .float64, .float _ => true
  | .bool, .bool _ => true
  | .moment, .moment _ => true
  | .duration, .duration _ => true
  | .location, .location _ => true
  | .map e, .map e' _ => e == e'
  | .slice e, .list e' _ _ _ => e == e'
  | _, _ => false

/-- The value nothing becomes for a parameter type that can hold nothing. -/
def ParamType.nilValue? : ParamType → Option Value
  | .any | .reflect | .location => some .none
  | .map e => some (.map e none)
  | .slice e => some (.list e [] true [])
  | _ => none

/-- What a function gives back: one value, a value and an error, two values
the second of which is not an error (named by its type), or more. -/
inductive Results where
  | one
  | withError
  | badSecond (typeName : String)
  | many (n : Nat)

/-- The computations of functions: over the store of maps, failing with an
error text. -/
abbrev CallM := StateT Store (Except String)

/-- A function: its fixed parameters, the type of its repeated last
parameter if it has one, its results, and what it computes from its
arguments. -/
structure Function where
  params : List ParamType
  variadic : Option ParamType := none
  results : Results := .one
  run : List Value → CallM Value

/-- Fail with an error text. -/
def callFail {α : Type} (msg : String) : CallM α := throw msg

/-- A function of fixed parameters that cannot fail and needs no maps. -/
def pureFn (params : List ParamType) (f : List Value → Value) : Function :=
  { params, run := fun args => pure (f args) }

/-- A function of fixed parameters that reads the maps. -/
def storeFn (params : List ParamType) (f : Store → List Value → Value) : Function :=
  { params, run := fun args => do return f (← get) args }

/-- The text argument at a place read as characters, a stray byte as
U+FFFD; the empty text when there is none. -/
def strArg (args : List Value) (i : Nat) : String :=
  match args[i]? with
  | some (.str s) => s
  | some (.bytes data) => Text.decodeLossy data
  | _ => ""

/-- The bytes of the text argument at a place; none when there is none. -/
def bytesArg (args : List Value) (i : Nat) : List UInt8 :=
  match args[i]? with
  | some v => v.textBytes?.getD []
  | none => []

/-- The integer argument at a place, or zero. -/
def intArg (args : List Value) (i : Nat) : Int :=
  match args[i]? with
  | some v => v.int?.getD 0
  | _ => 0

/-- The smallest 64-bit integer. -/
def leastInt64 : Int := -(Int.pow 2 63)

/-- An integer wrapped to 64 bits, as machine arithmetic leaves it. -/
def wrap64 (n : Int) : Int :=
  let m := n % (Int.pow 2 64)
  if m ≥ Int.pow 2 63 then m - Int.pow 2 64 else m

/-- A binary64 number cut toward zero to a 64-bit integer; one out of range,
or not a number, gives the smallest 64-bit integer. -/
def floatToInt64 (x : Float) : Int :=
  match truncateFloat x with
  | some n => if leastInt64 ≤ n && n ≤ maxInt64 then n else leastInt64
  | none => leastInt64

/-- The 64-bit integer the helpers read a value as: integers as they are,
texts read in decimal (zero when that fails), fractions cut toward zero,
truth values as 0 or 1, anything else zero. -/
def toInt64 (v : Value) : Int :=
  match v with
  | .str s => (parseInt64? s).getD 0
  | .bool b => if b then 1 else 0
  | .float x => floatToInt64 x
  | _ => v.int?.getD 0

/-- The binary64 number the helpers read a value as: numbers as they are,
texts read as numbers (zero when that fails), truth values as 0 or 1,
anything else zero. -/
def toFloat64 (v : Value) : Float :=
  match v with
  | .str s => (parseGoFloat s).getD 0
  | .bool b => if b then 1 else 0
  | .float x => x
  | _ =>
    match v.int? with
    | some n => floatOfInt n
    | none => 0

/-- The text the helpers read a value as: texts as they are, other values
printed. -/
def strval (st : Store) (v : Value) : String := v.render st

/-- The texts the helpers read a value as a list of, by their bytes: the
elements of a list printed (nothing left out), nothing for nothing, and a
single value's text otherwise. -/
def strslice (st : Store) (v : Value) : List (List UInt8) :=
  match v with
  | .list _ items _ _ => (items.filter fun x => !(x matches .none)).map (Value.renderBytes st)
  | .none => []
  | _ => [v.renderBytes st]

/-- The error of asking the kind of nothing. -/
def nilDereference : String := "runtime error: invalid memory address or nil pointer dereference"

/-- The elements of a list argument; for another value the error `describe`
makes of its kind, and for nothing the error of asking its kind. -/
def listItems (describe : String → String) (v : Value) : CallM (List Value) :=
  match v with
  | .list _ items _ _ => pure items
  | .none => callFail nilDereference
  | _ => callFail (describe v.kindName)

/-- Whether a value counts as empty for the helpers: the opposite of its
truth. -/
def Value.isEmpty (st : Store) (v : Value) : Bool := !v.truth st

/-- A list of texts given by their bytes. -/
def bytesList (items : List (List UInt8)) : Value := Value.exactList .string (items.map Value.ofBytes)

/-- A list of values of any type. -/
def anyList (items : List Value) : Value := Value.exactList .any items

/-- A new map of values of a type holding the pairs. -/
def newMap (elem : ValueType) (pairs : List (String × Value)) : CallM Value := do
  let (st, r) := (← get).alloc pairs
  set st
  return .map elem (some r)

end CriticalCss.Template
