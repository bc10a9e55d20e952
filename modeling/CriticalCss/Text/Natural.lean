/-!
# Natural order

Texts are compared as people sort names with numbers in them: runs of digits
compare by their value, other bytes one by one. A digit sorts before any other
byte. Of two runs with the same value, the one with more leading zeros comes
first. A text that is a prefix of another comes first.

## Main definitions

* `naturalLess`: the order on byte lists.
* `naturalSortOn`, `naturalSort`: sorting by it.
-/

namespace CriticalCss.Text

/-- Whether a byte is an ASCII digit. -/
def isDigitByte (b : UInt8) : Bool :=
  0x30 ≤ b && b ≤ 0x39

/-- The comparison of two runs of digits, each with its leading zeros:
`some true` when the first is smaller, `some false` when larger, `none` when
they are the same. -/
def compareRuns (r1 r2 : List UInt8) : Option Bool :=
  let d1 := r1.dropWhile (· == 0x30)
  let d2 := r2.dropWhile (· == 0x30)
  if d1.length != d2.length then some (d1.length < d2.length)
  else if d1 != d2 then some (decide (d1.map (·.toNat) < d2.map (·.toNat)))
  else if r1.length != r2.length then some (r2.length < r1.length)
  else none

/-- Whether the first byte list comes before the second in natural order. -/
def naturalLessBytes : List UInt8 → List UInt8 → Bool
  | [], [] => false
  | [], _ :: _ => true
  | _ :: _, [] => false
  | c1 :: s1, c2 :: s2 =>
    let dig1 := isDigitByte c1
    let dig2 := isDigitByte c2
    if dig1 != dig2 then dig1
    else if !dig1 then
      if c1 != c2 then c1 < c2 else naturalLessBytes s1 s2
    else
      let r1 := (c1 :: s1).takeWhile isDigitByte
      let r2 := (c2 :: s2).takeWhile isDigitByte
      match compareRuns r1 r2 with
      | some b => b
      | none => naturalLessBytes (s1.drop (r1.length - 1)) (s2.drop (r2.length - 1))
termination_by l => l.length
decreasing_by
  all_goals simp only [List.length_cons, List.length_drop]
  all_goals omega

/-- Whether the first text comes before the second in natural order. -/
def naturalLess (a b : String) : Bool :=
  naturalLessBytes a.toUTF8.toList b.toUTF8.toList

/-- Inserts an element into a list sorted in natural order of `key`. -/
def naturalInsertOn {α : Type} (key : α → String) (x : α) : List α → List α
  | [] => [x]
  | y :: ys => if naturalLess (key x) (key y) then x :: y :: ys else y :: naturalInsertOn key x ys

/-- Elements sorted in natural order of their keys. -/
def naturalSortOn {α : Type} (key : α → String) (xs : List α) : List α :=
  xs.foldr (naturalInsertOn key) []

/-- Texts sorted in natural order. -/
def naturalSort (xs : List String) : List String :=
  naturalSortOn id xs

end CriticalCss.Text
