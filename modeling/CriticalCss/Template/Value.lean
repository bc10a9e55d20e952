import CriticalCss.Clock.Layout
import CriticalCss.Text.Quote
import CriticalCss.Text.Utf8
import CriticalCss.Template.Capacity
import CriticalCss.Text.Binary64
/-!
# Template values

The values a template computes with: nothing, truth values, integers of the
two widths and bytes, binary64 numbers and complex pairs of them, texts,
moments, months, weekdays, durations, time zones, lists,
maps from texts, and records with named fields (the data a template is run
on).

A value has a type, by which errors and `typeOf` name it: `int`,
`[]interface {}`, `map[string]string`, `time.Time`, … Lists and maps carry
the type of their elements; an element of type `interface {}` may be any
value or nothing.

Maps are shared: a map value is a reference into a `Store`, so that a map
changed through one reference is seen changed through every other, the way
`set` changes the map a variable holds. A list may be nil, which prints as
an empty list but encodes as `null`.

## Main definitions

* `ValueType`: the types of values, with `name` and `kind`.
* `Value`: template values; `Value.type` is the type of one.
* `Store`: the maps, each kept sorted by key.
* `Value.truth`: whether a value counts as true.
-/

namespace CriticalCss.Template

open CriticalCss.Clock

/-- The types of template values. -/
inductive ValueType where
  | any
  | bool
  | int
  | int64
  | uint8
  | float64
  | complex128
  | string
  | time
  | month
  | weekday
  | duration
  | location
  | list (elem : ValueType)
  | map (elem : ValueType)
  | record (name : String)
  deriving DecidableEq, Repr, Inhabited

/-- The name of a type, as errors write it. -/
def ValueType.name : ValueType → String
  | .any => "interface \x7b\x7d"
  | .bool => "bool"
  | .int => "int"
  | .int64 => "int64"
  | .uint8 => "uint8"
  | .float64 => "float64"
  | .complex128 => "complex128"
  | .string => "string"
  | .time => "time.Time"
  | .month => "time.Month"
  | .weekday => "time.Weekday"
  | .duration => "time.Duration"
  | .location => "*time.Location"
  | .list e => "[]" ++ e.name
  | .map e => "map[string]" ++ e.name
  | .record n => n

/-- The kind of a type: what it is made of, without the names given to it. -/
def ValueType.kind : ValueType → String
  | .any => "interface"
  | .bool => "bool"
  | .int | .month | .weekday => "int"
  | .int64 | .duration => "int64"
  | .uint8 => "uint8"
  | .float64 => "float64"
  | .complex128 => "complex128"
  | .string => "string"
  | .time | .record _ => "struct"
  | .location => "ptr"
  | .list _ => "slice"
  | .map _ => "map"

/-- A template value. -/
inductive Value where
  | none
  | bool (b : Bool)
  | int (n : Int)
  | int64 (n : Int)
  | uint8 (n : Nat)
  | float (x : Float)
  | complex (re im : Float)
  | str (s : String)
  /-- A text that is not well-formed UTF-8, by its bytes; a well-formed
  text is always a `str`. -/
  | bytes (data : List UInt8)
  | moment (t : Moment)
  | month (m : Nat)
  | weekday (d : Nat)
  | duration (ns : Int)
  /-- A time zone. -/
  | location (zone : Zone)
  /-- A list of elements of a type; `isNil` for the list that was never
  made. `spare` holds what its storage holds past its elements, up to its
  capacity. -/
  | list (elem : ValueType) (items : List Value) (isNil : Bool) (spare : List Value)
  /-- A map from texts to elements of a type: a reference into the store,
  or `none` for the map that was never made. -/
  | map (elem : ValueType) (ref : Option Nat)
  | record (name : String) (fields : List (String × Value))
  deriving Inhabited

/-- The type of a value; nothing has the type of any value. -/
def Value.type : Value → ValueType
  | .none => .any
  | .bool _ => .bool
  | .int _ => .int
  | .int64 _ => .int64
  | .uint8 _ => .uint8
  | .float _ => .float64
  | .complex .. => .complex128
  | .str _ | .bytes _ => .string
  | .moment _ => .time
  | .month _ => .month
  | .weekday _ => .weekday
  | .duration _ => .duration
  | .location _ => .location
  | .list e _ _ _ => .list e
  | .map e _ => .map e
  | .record n _ => .record n

/-- The name of a value's type; `<nil>` for nothing. -/
def Value.typeName : Value → String
  | .none => "<nil>"
  | v => v.type.name

/-- The name of a value's kind; `invalid` for nothing. -/
def Value.kindName : Value → String
  | .none => "invalid"
  | v => v.type.kind

/-- The integer a value of an integer kind holds. -/
def Value.int? : Value → Option Int
  | .int n | .int64 n | .duration n => some n
  | .uint8 n => some n
  | .month m => some m
  | .weekday d => some d
  | _ => Option.none

/-- The text value of bytes: a `str` when they are well-formed UTF-8. -/
def Value.ofBytes (data : List UInt8) : Value :=
  if Text.utf8Valid data then .str (Text.decodeLossy data) else .bytes data

/-- The bytes of a text value. -/
def Value.textBytes? : Value → Option (List UInt8)
  | .str s => some s.toUTF8.toList
  | .bytes data => some data
  | _ => Option.none

/-- The storage slot of an element of a type: its size in bytes and
whether it holds references. -/
def ValueType.slot : ValueType → Slot
  | .bool | .uint8 => { size := 1, references := false }
  | .int | .int64 | .float64 | .duration | .month | .weekday => { size := 8, references := false }
  | .complex128 => { size := 16, references := false }
  | .any | .string => { size := 16, references := true }
  | .time => { size := 24, references := true }
  | .location | .map _ => { size := 8, references := true }
  | .list _ => { size := 24, references := true }
  | .record _ => { size := 64, references := true }

/-- The value storage holds for an element of a type before anything is
put there. -/
def ValueType.zero : ValueType → Value
  | .bool => .bool false
  | .int => .int 0
  | .int64 => .int64 0
  | .uint8 => .uint8 0
  | .float64 => .float 0
  | .complex128 => .complex 0 0
  | .string => .str ""
  | .duration => .duration 0
  | .month => .month 0
  | .weekday => .weekday 0
  | .list e => .list e [] true []
  | .map e => .map e none
  | _ => .none

/-- A list whose storage holds exactly its elements. -/
def Value.exactList (elem : ValueType) (items : List Value) : Value :=
  .list elem items false []

/-- A list made by appending its elements one at a time to empty storage
of capacity `cap`; the storage it ends in is zero past its elements. -/
def Value.appendedList (elem : ValueType) (cap : Nat) (items : List Value) : Value :=
  let total := capacityAfterAppends elem.slot cap items.length
  .list elem items false (List.replicate (total - items.length) elem.zero)

/-- The maps of a run, each a list of entries sorted by key. -/
structure Store where
  maps : Array (List (String × Value)) := #[]
  deriving Inhabited

/-- The entries of a map; none for the map never made. -/
def Store.entries (st : Store) : Option Nat → List (String × Value)
  | some r => st.maps.getD r []
  | Option.none => []

/-- Entries with one set, kept sorted by key. -/
def insertEntry (k : String) (v : Value) : List (String × Value) → List (String × Value)
  | [] => [(k, v)]
  | (k', v') :: rest =>
    if k == k' then (k, v) :: rest
    else if k < k' then (k, v) :: (k', v') :: rest
    else (k', v') :: insertEntry k v rest

/-- Entries from pairs, later pairs of a key replacing earlier ones. -/
def entriesOf (pairs : List (String × Value)) : List (String × Value) :=
  pairs.foldl (fun acc (k, v) => insertEntry k v acc) []

/-- A new map holding the entries, and its reference. -/
def Store.alloc (st : Store) (pairs : List (String × Value)) : Store × Nat :=
  ({ maps := st.maps.push (entriesOf pairs) }, st.maps.size)

/-- The store with a map's entries replaced. -/
def Store.update (st : Store) (r : Nat) (entries : List (String × Value)) : Store :=
  { maps := st.maps.set! r entries }

/-- Whether a value counts as true: a non-empty text, list or map, a
non-zero number, `true`, or any record, moment or zone. -/
def Value.truth (st : Store) : Value → Bool
  | .none => false
  | .bool b => b
  | .int n | .int64 n | .duration n => n != 0
  | .uint8 n => n != 0
  | .month m => m != 0
  | .weekday d => d != 0
  | .float x => x != 0
  | .complex re im => re != 0 || im != 0
  | .str s => !s.isEmpty
  | .bytes data => !data.isEmpty
  | .list _ items _ _ => !items.isEmpty
  | .map _ r => !(st.entries r).isEmpty
  | .moment _ | .record .. | .location _ => true

/-- The number of elements of a list, entries of a map or bytes of a text. -/
def Value.length? (st : Store) : Value → Option Nat
  | .str s => some s.utf8ByteSize
  | .bytes data => some data.length
  | .list _ items _ _ => some items.length
  | .map _ r => some (st.entries r).length
  | _ => Option.none

end CriticalCss.Template
