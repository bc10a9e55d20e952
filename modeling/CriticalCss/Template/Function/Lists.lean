import CriticalCss.Template.Compare
import CriticalCss.Template.Json
/-!
# List and map functions

The helpers that build and take apart lists and maps, choose between
values, and describe them.

A list helper accepts any list and gives a list of any values; given a
value that is not a list it fails naming the value's kind
(`Cannot find first on type string`), and given nothing it fails the way
asking the kind of nothing fails. Maps are shared: `set` and `unset`
change the map they are given, and every holder of it sees the change.
Keys of a map are visited in order.

A value is empty when it is nothing, `false`, zero, or an empty text, list
or map; `default`, `coalesce`, `all`, `any` and `compact` go by that.

## Main definitions

* `chunkList`: a list cut into pieces of a size.
* `listFunctions`, `mapFunctions`, `valueFunctions`: the tables.
-/

namespace CriticalCss.Template

/-- A list helper whose results are its value and an error. -/
def mustFn (params : List ParamType) (run : List Value → CallM Value) : Function :=
  { params, results := .withError, run }

/-- A helper on the elements of its one list argument. -/
def onItems (what : String) (f : List Value → CallM Value) : List Value → CallM Value :=
  fun args => do f (← listItems (fun k => "Cannot " ++ what ++ " on type " ++ k) (args.headD .none))

/-- Pieces of `size` elements, the last one shorter. A size that is not
positive fails as making a list of negative length fails, unless the list
is cut into no pieces or into one. -/
def chunkList (size : Int) (items : List Value) : Except String (List (List Value)) :=
  let l : Int := items.length
  let bad : Except String (List (List Value)) := .error "runtime error: makeslice: len out of range"
  if size > 0 then
    let n := size.toNat
    let count := (items.length + n - 1) / n
    .ok ((List.range count).map fun i => (items.drop (i * n)).take n)
  else if size == 0 then bad
  else
    let count := (l - 1).fdiv size + 1
    if count < 0 then bad
    else if count == 0 then .ok []
    else if count == 1 then
      let len := l % (-size)
      if len == 0 then bad else .ok [items.take len.toNat]
    else bad

/-- The elements without repeats, the first of equal ones kept. -/
def uniqueItems (st : Store) (items : List Value) : List Value :=
  items.foldl (fun acc x => if acc.any (deepEqual st x) then acc else acc ++ [x]) []

/-- The part of a list's storage (its elements, then its spare storage)
from `start` to `stop`, and the storage after it; offsets outside the
storage are an error. -/
def sliceStorage (storage : List Value) (start stop : Int) : Except String (List Value × List Value) :=
  if start < 0 || stop < start || stop > storage.length then
    .error "reflect.Value.Slice: slice index out of bounds"
  else .ok ((storage.drop start.toNat).take (stop - start).toNat, storage.drop stop.toNat)

/-- A list of any values in storage of capacity `cap` that holds all its
elements when they fit, and otherwise moves to storage grown to hold them. -/
def listInStorage (cap : Nat) (items : List Value) : Value :=
  let total := if items.length ≤ cap then cap else grownCapacity ValueType.any.slot cap items.length
  .list .any items false (List.replicate (total - items.length) .none)

/-- The list helpers. -/
def listFunctions : List (String × Function) :=
  let push : List Value → CallM Value := fun args => do
    let items ← listItems (fun k => "Cannot push on type " ++ k) (args.headD .none)
    -- a copy of exactly the elements, then one more appended
    return listInStorage items.length (items ++ [args.getD 1 .none])
  let prepend : List Value → CallM Value := fun args => do
    let items ← listItems (fun k => "Cannot prepend on type " ++ k) (args.headD .none)
    -- the elements appended to a list holding only the new one
    return listInStorage 1 (args.getD 1 .none :: items)
  let chunk : List Value → CallM Value := fun args => do
    let items ← listItems (fun k => "Cannot chunk type " ++ k) (args.getD 1 .none)
    match chunkList (intArg args 0) items with
    | .ok pieces => return Value.exactList (.list .any) (pieces.map anyList)
    | .error e => callFail e
  let last := onItems "find last" fun items => pure (items.getLast?.getD .none)
  let first := onItems "find first" fun items => pure (items.head?.getD .none)
  let rest := onItems "find rest" fun items =>
    pure (if items.isEmpty then .none else anyList (items.drop 1))
  -- the last element stays in the storage past the end
  let initial := onItems "find initial" fun items =>
    pure (if items.isEmpty then .none else .list .any items.dropLast false [items.getLast?.getD .none])
  let reverse := onItems "find reverse" fun items => pure (anyList items.reverse)
  let compact := onItems "compact" fun items => do
    let st ← get
    return Value.appendedList .any 0 (items.filter fun x => !x.isEmpty st)
  let uniq := onItems "find uniq" fun items => do return Value.appendedList .any 0 (uniqueItems (← get) items)
  let without : List Value → CallM Value := fun args => do
    let items ← listItems (fun k => "Cannot find without on type " ++ k) (args.headD .none)
    let st ← get
    return Value.appendedList .any 0 (items.filter fun x => !((args.drop 1).any (deepEqual st x)))
  let has : List Value → CallM Value := fun args => do
    match args.getD 1 .none with
    | .none => return .bool false
    | hay =>
      let items ← listItems (fun k => "Cannot find has on type " ++ k) hay
      let st ← get
      return .bool (items.any (deepEqual st (args.headD .none)))
  let slice : List Value → CallM Value := fun args => do
    match args.headD .none with
    | .list e items _ spare =>
      if items.isEmpty then return .none
      else
        let start := (args[1]?.map toInt64).getD 0
        let stop := (args[2]?.map toInt64).getD items.length
        match sliceStorage (items ++ spare) start stop with
        | .ok (xs, rest) => return .list e xs false rest
        | .error msg => callFail msg
    | .none => callFail nilDereference
    | v => callFail ("list should be type of slice or array but " ++ v.kindName)
  [("list", { params := [], variadic := some .any, run := fun args => pure (anyList args) }),
   ("tuple", { params := [], variadic := some .any, run := fun args => pure (anyList args) }),
   ("append", { params := [.any, .any], run := push }),
   ("push", { params := [.any, .any], run := push }),
   ("mustAppend", mustFn [.any, .any] push),
   ("mustPush", mustFn [.any, .any] push),
   ("prepend", { params := [.any, .any], run := prepend }),
   ("mustPrepend", mustFn [.any, .any] prepend),
   ("first", { params := [.any], run := first }),
   ("mustFirst", mustFn [.any] first),
   ("rest", { params := [.any], run := rest }),
   ("mustRest", mustFn [.any] rest),
   ("last", { params := [.any], run := last }),
   ("mustLast", mustFn [.any] last),
   ("initial", { params := [.any], run := initial }),
   ("mustInitial", mustFn [.any] initial),
   ("reverse", { params := [.any], run := reverse }),
   ("mustReverse", mustFn [.any] reverse),
   ("uniq", { params := [.any], run := uniq }),
   ("mustUniq", mustFn [.any] uniq),
   ("without", { params := [.any], variadic := some .any, run := without }),
   ("mustWithout", { params := [.any], variadic := some .any, results := .withError, run := without }),
   ("has", { params := [.any, .any], run := has }),
   ("mustHas", mustFn [.any, .any] has),
   ("slice", { params := [.any], variadic := some .any, run := slice }),
   ("mustSlice", { params := [.any], variadic := some .any, results := .withError, run := slice }),
   ("concat", { params := [], variadic := some .any,
                run := fun args => do
                  let lists ← args.mapM (listItems (fun k => "Cannot concat type " ++ k ++ " as list"))
                  let items := lists.flatten
                  return if items.isEmpty then .list .any [] true [] else Value.appendedList .any 0 items }),
   ("chunk", { params := [.int, .any], run := chunk }),
   ("mustChunk", mustFn [.int, .any] chunk),
   ("compact", { params := [.any], run := compact }),
   ("mustCompact", mustFn [.any] compact)]

/-- The entries of a map argument. -/
def mapEntries (v : Value) : CallM (List (String × Value)) := do
  match v with
  | .map _ r => return (← get).entries r
  | _ => return []

/-- The error of asserting a value to be of a type it is not. -/
def conversionError (v : Value) (target : String) : String :=
  "interface conversion: interface \x7b\x7d is " ++ (if v matches .none then "nil" else v.typeName) ++
    ", not " ++ target

/-- The value found by following keys into nested maps, or the default when
a key is missing. -/
def digKeys (dflt : Value) : List String → List (String × Value) → CallM Value
  | [], _ => pure dflt
  | k :: ks, entries =>
    match entries.lookup k with
    | none => pure dflt
    | some step =>
      if ks.isEmpty then pure step
      else match step with
        | .map .any r => do
          let st ← get
          digKeys dflt ks (st.entries r)
        | v => callFail (conversionError v "map[string]interface \x7b\x7d")

/-- The map helpers. -/
def mapFunctions : List (String × Function) :=
  let anyMap : ParamType := .map .any
  [("dict", { params := [], variadic := some .any,
              run := fun args => do
                let st ← get
                let rec pairs : List Value → List (String × Value)
                  | k :: v :: rest => (strval st k, v) :: pairs rest
                  | [k] => [(strval st k, .str "")]
                  | [] => []
                newMap .any (pairs args) }),
   ("get", { params := [anyMap, .string],
             run := fun args => do
               return ((← mapEntries (args.headD .none)).lookup (strArg args 1)).getD (.str "") }),
   ("set", { params := [anyMap, .string, .any],
             run := fun args => do
               match args.headD .none with
               | .map e (some r) =>
                 let st ← get
                 set (st.update r (insertEntry (strArg args 1) (args.getD 2 .none) (st.entries (some r))))
                 return .map e (some r)
               | _ => callFail "assignment to entry in nil map" }),
   ("unset", { params := [anyMap, .string],
               run := fun args => do
                 match args.headD .none with
                 | .map e (some r) =>
                   let st ← get
                   set (st.update r ((st.entries (some r)).filter (·.1 != strArg args 1)))
                   return .map e (some r)
                 | v => return v }),
   ("hasKey", { params := [anyMap, .string],
                run := fun args => do
                  return .bool ((← mapEntries (args.headD .none)).lookup (strArg args 1)).isSome }),
   ("pluck", { params := [.string], variadic := some anyMap,
               run := fun args => do
                 let found ← (args.drop 1).mapM fun d => do
                   return (← mapEntries d).lookup (strArg args 0)
                 return Value.appendedList .any 0 found.reduceOption }),
   ("keys", { params := [], variadic := some anyMap,
              run := fun args => do
                let ks ← args.mapM fun d => do return (← mapEntries d).map (·.1)
                return Value.appendedList .string 0 (ks.flatten.map Value.str) }),
   ("pick", { params := [anyMap], variadic := some .string,
              run := fun args => do
                let entries ← mapEntries (args.headD .none)
                let wanted := (args.drop 1).map fun | .str s => s | _ => ""
                newMap .any (wanted.filterMap fun k => (entries.lookup k).map (k, ·)) }),
   ("omit", { params := [anyMap], variadic := some .string,
              run := fun args => do
                let entries ← mapEntries (args.headD .none)
                let dropped := (args.drop 1).map fun | .str s => s | _ => ""
                newMap .any (entries.filter fun (k, _) => !dropped.contains k) }),
   ("values", { params := [anyMap],
                run := fun args => do return Value.appendedList .any 0 ((← mapEntries (args.headD .none)).map (·.2)) }),
   ("dig", { params := [], variadic := some .any, results := .withError,
             run := fun args => do
               if args.length < 3 then callFail "dig needs at least three arguments"
               let dict := args.getLast?.getD .none
               let st ← get
               let entries ← match dict with
                 | .map .any r => pure (st.entries r)
                 | v => callFail (conversionError v "map[string]interface \x7b\x7d")
               let keys ← (args.take (args.length - 2)).mapM fun
                 | .str s => pure s
                 | v => callFail (conversionError v "string")
               digKeys (args.getD (args.length - 2) .none) keys entries })]

/-- JSON of a value for the helpers: the text, or the error. -/
def jsonFn (encode : Store → Value → Except String String) (must : Bool) : Function :=
  { params := [.any], results := if must then .withError else .one,
    run := fun args => do
      match encode (← get) (args.headD .none) with
      | .ok s => return .str s
      | .error e => if must then callFail e else return .str "" }

/-- The helpers that choose between values, describe them, and write or
read them as JSON. -/
def valueFunctions : List (String × Function) :=
  [("default", { params := [.any], variadic := some .any,
                 run := fun args => do
                   let st ← get
                   match args with
                   | d :: given :: _ => return (if given.isEmpty st then d else given)
                   | d :: [] => return d
                   | [] => return .none }),
   ("empty", storeFn [.any] fun st args => .bool ((args.headD .none).isEmpty st)),
   ("coalesce", { params := [], variadic := some .any,
                  run := fun args => do
                    let st ← get
                    return (args.find? fun v => !v.isEmpty st).getD .none }),
   ("all", { params := [], variadic := some .any,
             run := fun args => do
               let st ← get
               return .bool (args.all fun v => !v.isEmpty st) }),
   ("any", { params := [], variadic := some .any,
             run := fun args => do
               let st ← get
               return .bool (args.any fun v => !v.isEmpty st) }),
   ("ternary", storeFn [.any, .any, .bool] fun st args =>
      if (args.getD 2 .none).truth st then args.headD .none else args.getD 1 .none),
   ("typeOf", pureFn [.any] fun args => .str (args.headD .none).typeName),
   ("kindOf", pureFn [.any] fun args => .str (args.headD .none).kindName),
   ("typeIs", pureFn [.string, .any] fun args => .bool (strArg args 0 == (args.getD 1 .none).typeName)),
   ("typeIsLike", pureFn [.string, .any] fun args =>
      let t := (args.getD 1 .none).typeName
      .bool (strArg args 0 == t || "*" ++ strArg args 0 == t)),
   ("kindIs", pureFn [.string, .any] fun args => .bool (strArg args 0 == (args.getD 1 .none).kindName)),
   ("deepEqual", storeFn [.any, .any] fun st args =>
      .bool (deepEqual st (args.headD .none) (args.getD 1 .none))),
   ("toJson", jsonFn (fun st v => encodeJson st true v) false),
   ("mustToJson", jsonFn (fun st v => encodeJson st true v) true),
   ("toPrettyJson", jsonFn encodeJsonIndented false),
   ("mustToPrettyJson", jsonFn encodeJsonIndented true),
   ("toRawJson", { params := [.any],
                   run := fun args => do
                     match encodeJson (← get) false (args.headD .none) with
                     | .ok s => return .str s
                     | .error e => callFail e }),
   ("mustToRawJson", jsonFn (fun st v => encodeJson st false v) true),
   ("fromJson", { params := [.string],
                  run := fun args => do return (← decodeJson (strArg args 0)).1 }),
   ("mustFromJson", { params := [.string], results := .withError,
                      run := fun args => do
                        let (v, err) ← decodeJson (strArg args 0)
                        match err with
                        | some e => callFail e
                        | none => return v })]

end CriticalCss.Template
