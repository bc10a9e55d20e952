import CriticalCss.Template.Format
/-!
# Comparing values

Three comparisons of template values.

* Equality for `eq`: truth values, numbers and texts compare by value
  within their kind, signed and unsigned integers compare with each other,
  and a value of one of these kinds never compares with a value of another
  kind (an error). Other values compare only with nothing or with values of
  the same kind: moments, records and the zone by their contents, lists and
  maps only with nothing.
* Order for `lt`: numbers and texts of one kind; any other value is an
  error.
* Deep equality: equal types and equal contents, element by element; a
  list that was never made differs from an empty one, and a number that is
  not a number equals nothing.

## Main definitions

* `basicEqual`, `basicLess`: the comparisons of `eq` and `lt`.
* `deepEqual`: deep equality.
-/

namespace CriticalCss.Template

/-- The kinds of values that compare by value. -/
inductive BasicKind where
  | bool
  | complex
  | int
  | float
  | string
  | uint
  deriving BEq

/-- The kind a value compares as, if it is a basic one. -/
def Value.basicKind? : Value → Option BasicKind
  | .bool _ => some .bool
  | .int _ | .int64 _ | .duration _ | .month _ | .weekday _ => some .int
  | .uint8 _ => some .uint
  | .float _ => some .float
  | .complex .. => some .complex
  | .str _ | .bytes _ => some .string
  | _ => Option.none

/-- Whether a value is nothing, or a list or map never made. -/
def Value.isNil : Value → Bool
  | .none => true
  | .list _ _ isNil _ => isNil
  | .map _ ref => ref.isNone
  | _ => false

/-- Whether two values may be compared when neither is basic: both of one
kind, or one of them nothing. -/
def canCompare (a b : Value) : Bool :=
  a.kindName == b.kindName || a matches .none || b matches .none

/-- Whether values of a type can be compared at all: lists and maps cannot. -/
def Value.comparable : Value → Bool
  | .list .. | .map .. => false
  | _ => true

/-- Equality of two values of basic kinds. -/
def basicPairEqual (a b : Value) : Bool :=
  match a, b with
  | .bool x, .bool y => x == y
  | .float x, .float y => x == y
  | .complex r i, .complex r' i' => r == r' && i == i'
  | .str x, .str y => x == y
  | .bytes x, .bytes y => x == y
  | .str _, .bytes _ | .bytes _, .str _ => false
  | x, y => x.int? == y.int?

/-- Deep equality of two values: the same type and equal contents; at most
`fuel` levels deep, beyond which values are taken as equal. -/
def deepEqualFor (st : Store) : Nat → Value → Value → Bool
  | 0, _, _ => true
  | fuel + 1, a, b =>
    match a, b with
    | .none, .none => true
    | .none, _ | _, .none => false
    | .list e xs n _, .list e' ys n' _ =>
      e == e' && n == n' && xs.length == ys.length && allPairs fuel xs ys
    | .map e r, .map e' r' =>
      e == e' && r.isSome == r'.isSome &&
        (r == r' || entriesEqual fuel (st.entries r) (st.entries r'))
    | .record n fs, .record m gs =>
      n == m && fs.length == gs.length && entriesEqual fuel fs gs
    | .moment t, .moment u => t == u
    | .location z, .location w => z == w
    | x, y => x.type == y.type && x.basicKind? == y.basicKind? && basicPairEqual x y
where
  /-- Lists equal element by element. -/
  allPairs (fuel : Nat) : List Value → List Value → Bool
    | x :: xs, y :: ys => deepEqualFor st fuel x y && allPairs fuel xs ys
    | [], [] => true
    | _, _ => false
  /-- Entries equal key by key. -/
  entriesEqual (fuel : Nat) : List (String × Value) → List (String × Value) → Bool
    | (k, x) :: xs, (k', y) :: ys => k == k' && deepEqualFor st fuel x y && entriesEqual fuel xs ys
    | [], [] => true
    | _, _ => false

/-- Deep equality of two values. -/
def deepEqual (st : Store) (a b : Value) : Bool := deepEqualFor st 10000 a b

/-- Whether `a` equals `b` as `eq` decides it, or why they cannot be
compared. -/
def basicEqual (st : Store) (a b : Value) : Except String Bool :=
  match a.basicKind?, b.basicKind? with
  | some ka, some kb =>
    if ka == kb then .ok (basicPairEqual a b)
    else if (ka == .int && kb == .uint) || (ka == .uint && kb == .int) then .ok (a.int? == b.int?)
    else .error ("incompatible types for comparison: " ++ a.typeName ++ " and " ++ b.typeName)
  | none, none =>
    if !canCompare a b then
      .error ("non-comparable types " ++ Text.decodeLossy (sprintf st "%s".toUTF8.toList [a]) ++ ": " ++ a.typeName ++ ", " ++ b.typeName ++
        ": " ++ b.render st)
    else if a.isNil || b.isNil then .ok (a.isNil == b.isNil)
    else if !b.comparable then
      .error ("non-comparable type " ++ Text.decodeLossy (sprintf st "%s".toUTF8.toList [b]) ++ ": " ++ b.typeName)
    else .ok (deepEqual st a b)
  | _, _ =>
    if a matches .none || b matches .none then .ok false
    else .error ("incompatible types for comparison: " ++ a.typeName ++ " and " ++ b.typeName)

/-- Whether `a` is less than `b` as `lt` decides it, or why they cannot be
ordered. -/
def basicLess (a b : Value) : Except String Bool :=
  match a.basicKind?, b.basicKind? with
  | some ka, some kb =>
    if ka == kb then
      match a, b with
      | .bool _, _ | .complex .., _ => .error "invalid type for comparison"
      | .float x, .float y => .ok (x < y)
      | .str x, .str y => .ok (decide (x < y))
      | .str _, _ | .bytes _, _ =>
        .ok (Text.bytesLess (a.textBytes?.getD []) (b.textBytes?.getD []))
      | x, y => .ok ((x.int?.getD 0) < (y.int?.getD 0))
    else if (ka == .int && kb == .uint) || (ka == .uint && kb == .int) then
      .ok ((a.int?.getD 0) < (b.int?.getD 0))
    else .error ("incompatible types for comparison: " ++ a.typeName ++ " and " ++ b.typeName)
  | _, _ => .error "invalid type for comparison"

end CriticalCss.Template
