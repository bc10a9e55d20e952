import CriticalCss.Template.Function
import CriticalCss.Text.Space
import CriticalCss.Text.Case
import CriticalCss.Text.Hash
/-!
# Text functions

The helpers that work on texts. They take the text worked on last, so that
it can come from a pipeline: `{{ .Host | trunc 3 }}` is `trunc 3 .Host`.

A text is a sequence of bytes that need not be well-formed UTF-8. Cutting,
searching, replacing, splitting, repeating and hashing work on the bytes, so
a cut inside a character leaves stray bytes, which later text can complete
again. Changing case reads the text as characters, a stray byte as U+FFFD.
`substr` fails the way slicing out of range fails. Splitting follows the
usual rules: an empty separator splits between characters, and a limit
keeps the rest of the text in the last piece.

## Main definitions

* `splitBytes`: a text split at a separator, at most `n` pieces.
* `replaceBytes`: every occurrence of a text replaced.
* `capitalizeWords`: the first letter of each word in title case.
* `stringFunctions`: the table of text helpers.
-/

namespace CriticalCss.Template

open CriticalCss.Text

/-- The bytes of a text from a byte offset to another. -/
def byteRange (bs : List UInt8) (start stop : Nat) : List UInt8 :=
  (bs.drop start).take (stop - start)

/-- A text cut to `c` bytes, or to its last `-c` bytes when `c` is negative. -/
def truncBytes (c : Int) (bs : List UInt8) : List UInt8 :=
  let n := bs.length
  if c < 0 && (n : Int) + c > 0 then byteRange bs (n - c.natAbs) n
  else if c ≥ 0 && n > c.toNat then byteRange bs 0 c.toNat
  else bs

/-- The bytes from `start` to `stop` of a text; a negative `start` means from
the beginning and a `stop` that is negative or past the end means to the
end. Offsets outside the text are an error. -/
def substrBytes (start stop : Int) (bs : List UInt8) : Except String (List UInt8) :=
  let n := bs.length
  if start < 0 then
    if stop < 0 then .error ("runtime error: slice bounds out of range [:" ++ toString stop ++ "]")
    else if stop.toNat > n then
      .error ("runtime error: slice bounds out of range [:" ++ toString stop ++ "] with length " ++ toString n)
    else .ok (byteRange bs 0 stop.toNat)
  else if stop < 0 || stop.toNat > n then
    if start.toNat > n then
      .error ("runtime error: slice bounds out of range [" ++ toString start ++ ":" ++ toString n ++ "]")
    else .ok (byteRange bs start.toNat n)
  else if start.toNat > stop.toNat then
    .error ("runtime error: slice bounds out of range [" ++ toString start ++ ":" ++ toString stop ++ "]")
  else .ok (byteRange bs start.toNat stop.toNat)

/-- The elements before the first occurrence of `sep` and those after it. -/
def breakOn {α : Type} [BEq α] (sep : List α) : List α → Option (List α × List α)
  | [] => if sep.isEmpty then some ([], []) else none
  | c :: rest =>
    if sep.isPrefixOf (c :: rest) then some ([], (c :: rest).drop sep.length)
    else (breakOn sep rest).map fun (a, b) => (c :: a, b)

/-- The pieces between occurrences of a non-empty `sep`, splitting at most
`k` times. -/
def splitPieces {α : Type} [BEq α] (sep : List α) : Nat → List α → List (List α)
  | 0, cs => [cs]
  | k + 1, cs =>
    match breakOn sep cs with
    | some (a, b) => a :: splitPieces sep k b
    | none => [cs]

/-- The bytes of each character of a text, a stray byte on its own. -/
def runeBytes (bs : List UInt8) : List (List UInt8) := (utf8Runes bs).map (·.2)

/-- A text split at a separator into at most `n` pieces (all of them when
`n` is negative, none when it is zero); an empty separator splits between
characters. -/
def splitBytes (bs sep : List UInt8) (n : Int) : List (List UInt8) :=
  if n == 0 then []
  else if sep.isEmpty then
    let runes := runeBytes bs
    let k := if n < 0 || n.toNat > runes.length then runes.length else n.toNat
    if k == 0 then []
    else runes.take (k - 1) ++ [(runes.drop (k - 1)).flatten]
  else
    let limit := if n < 0 then bs.length + 1 else n.toNat - 1
    splitPieces sep limit bs

/-- Every occurrence of `old` replaced by `new`; an empty `old` matches
before every character and at the end. -/
def replaceBytes (bs old new : List UInt8) : List UInt8 :=
  if old.isEmpty then new ++ ((runeBytes bs).map (· ++ new)).flatten
  else new.intercalate (splitBytes bs old (-1))

/-- The characters of `cut` removed from both ends of a text; a stray byte
reads as U+FFFD. -/
def trimSetBytes (bs : List UInt8) (cut : String) : List UInt8 :=
  let cs := cut.toList
  let runes := utf8Runes bs
  let keep := (runes.dropWhile (cs.contains ·.1)).reverse.dropWhile (cs.contains ·.1)
  (keep.reverse.map (·.2)).flatten

/-- A text without leading and trailing white space; stray bytes stay. -/
def trimSpaceBytes (bs : List UInt8) : List UInt8 :=
  let runes := utf8Runes bs
  let keep := (runes.dropWhile (isSpace ·.1)).reverse.dropWhile (isSpace ·.1)
  (keep.reverse.map (·.2)).flatten

/-- Whether a character separates words for capitalising: anything but an
ASCII letter, digit or `_` among ASCII characters, and white space beyond. -/
def separatesWords (c : Char) : Bool :=
  if c.toNat < 0x80 then !(c.isAlphanum || c == '_')
  else !(isLetter c || isDecimalDigit c) && isSpace c

/-- A text with the first letter of each word in title case. -/
def capitalizeWords (s : String) : String :=
  let rec go : Char → List Char → List Char
    | _, [] => []
    | prev, c :: rest => (if separatesWords prev then titleChar c else c) :: go c rest
  String.ofList (go ' ' s.toList)

/-- A text repeated `count` times; a negative count is an error, and so is a
result longer than the largest 64-bit length. -/
def repeatBytes (count : Int) (bs : List UInt8) : Except String (List UInt8) :=
  if count == 0 then .ok []
  else if count < 0 then .error "strings: negative Repeat count"
  else if bs.length * count.toNat > Nat.pow 2 63 - 1 then .error "strings: Repeat output length overflow"
  else .ok (List.replicate count.toNat bs).flatten

/-- A text with every line indented by `n` blanks. -/
def indentBytes (n : Int) (bs : List UInt8) : Except String (List UInt8) := do
  let pad ← repeatBytes n [0x20]
  return pad ++ replaceBytes bs [0x0a] (0x0a :: pad)

/-- The texts the helpers read a value as, as a list of texts: a list of
texts as it is; the elements of another list printed, nothing left out,
in storage made for all of them; no texts for nothing; and a single
value's text otherwise. -/
def stringsOf (st : Store) (v : Value) : Value :=
  match v with
  | .list .string items isNil spare => .list .string items isNil spare
  | .list _ items _ _ =>
    let kept := (items.filter fun x => !(x matches .none)).map fun x => Value.ofBytes (x.renderBytes st)
    .list .string kept false (List.replicate (items.length - kept.length) (.str ""))
  | .none => Value.exactList .string []
  | _ => Value.exactList .string [Value.ofBytes (v.renderBytes st)]

/-- A helper on one text, read as characters. -/
def textFn (f : String → String) : Function :=
  pureFn [.string] fun args => .str (f (strArg args 0))

/-- A helper on the bytes of one text giving a text. -/
def bytesFn (f : List UInt8 → List UInt8) : Function :=
  pureFn [.string] fun args => Value.ofBytes (f (bytesArg args 0))

/-- A helper on the bytes of two texts giving a text. -/
def bytesFn2 (f : List UInt8 → List UInt8 → List UInt8) : Function :=
  pureFn [.string, .string] fun args => Value.ofBytes (f (bytesArg args 0) (bytesArg args 1))

/-- A helper on the bytes of two texts giving a truth value. -/
def testFn2 (f : List UInt8 → List UInt8 → Bool) : Function :=
  pureFn [.string, .string] fun args => .bool (f (bytesArg args 0) (bytesArg args 1))

/-- A helper on an integer and the bytes of a text that may fail. -/
def bytesTry (f : Int → List UInt8 → Except String (List UInt8)) : Function :=
  { params := [.int, .string],
    run := fun args => match f (intArg args 0) (bytesArg args 1) with
      | .ok bs => pure (Value.ofBytes bs)
      | .error e => callFail e }

/-- A text split into a map from `_0`, `_1`, … to the pieces. -/
def piecesMap (pieces : List (List UInt8)) : CallM Value :=
  newMap .string (pieces.zipIdx.map fun (p, i) => ("_" ++ toString i, Value.ofBytes p))

/-- Values that are not nothing, each written by `f`, joined by blanks. -/
def joinPresent (f : Value → List UInt8) (args : List Value) : List UInt8 :=
  [0x20].intercalate ((args.filter fun v => !(v matches .none)).map f)

/-- A helper on any values giving a text made from their printed forms. -/
def printedFn (f : Store → List Value → List UInt8) : Function :=
  { params := [], variadic := some .any, run := fun args => do return Value.ofBytes (f (← get) args) }

/-- The text helpers. -/
def stringFunctions : List (String × Function) :=
  [("trunc", pureFn [.int, .string] fun args => Value.ofBytes (truncBytes (intArg args 0) (bytesArg args 1))),
   ("trim", bytesFn trimSpaceBytes),
   ("upper", textFn upper),
   ("lower", textFn lower),
   ("title", textFn capitalizeWords),
   ("substr", { params := [.int, .int, .string],
                run := fun args => match substrBytes (intArg args 0) (intArg args 1) (bytesArg args 2) with
                  | .ok bs => pure (Value.ofBytes bs)
                  | .error e => callFail e }),
   ("repeat", bytesTry repeatBytes),
   ("trimall", pureFn [.string, .string] fun args => Value.ofBytes (trimSetBytes (bytesArg args 1) (strArg args 0))),
   ("trimAll", pureFn [.string, .string] fun args => Value.ofBytes (trimSetBytes (bytesArg args 1) (strArg args 0))),
   ("trimSuffix", bytesFn2 fun a b => if a.isSuffixOf b then b.take (b.length - a.length) else b),
   ("trimPrefix", bytesFn2 fun a b => if a.isPrefixOf b then b.drop a.length else b),
   ("contains", testFn2 fun a b => (breakOn a b).isSome),
   ("hasPrefix", testFn2 fun a b => a.isPrefixOf b),
   ("hasSuffix", testFn2 fun a b => a.isSuffixOf b),
   ("quote", printedFn fun st => joinPresent fun v => (quoteBytes false (v.renderBytes st)).toUTF8.toList),
   ("squote", printedFn fun st => joinPresent fun v => [0x27] ++ v.renderBytes st ++ [0x27]),
   ("cat", printedFn fun st => joinPresent (Value.renderBytes st)),
   ("indent", bytesTry indentBytes),
   ("nindent", bytesTry fun n bs => (indentBytes n bs).map (0x0a :: ·)),
   ("replace", pureFn [.string, .string, .string] fun args =>
      Value.ofBytes (replaceBytes (bytesArg args 2) (bytesArg args 0) (bytesArg args 1))),
   ("plural", pureFn [.string, .string, .int] fun args =>
      if intArg args 2 == 1 then args.getD 0 (.str "") else args.getD 1 (.str "")),
   ("sha1sum", pureFn [.string] fun args => .str (hexBytes (sha1 (bytesArg args 0)))),
   ("sha256sum", pureFn [.string] fun args => .str (hexBytes (sha256 (bytesArg args 0)))),
   ("adler32sum", pureFn [.string] fun args => .str (toString (adler32 (bytesArg args 0)))),
   ("toString", storeFn [.any] fun st args => Value.ofBytes ((args.headD .none).renderBytes st)),
   ("split", { params := [.string, .string],
               run := fun args => piecesMap (splitBytes (bytesArg args 1) (bytesArg args 0) (-1)) }),
   ("splitList", pureFn [.string, .string] fun args =>
      bytesList (splitBytes (bytesArg args 1) (bytesArg args 0) (-1))),
   ("splitn", { params := [.string, .int, .string],
                run := fun args => piecesMap (splitBytes (bytesArg args 2) (bytesArg args 0) (intArg args 1)) }),
   ("toStrings", storeFn [.any] fun st args => stringsOf st (args.headD .none)),
   ("join", storeFn [.string, .any] fun st args =>
      Value.ofBytes ((bytesArg args 0).intercalate (strslice st (args.getD 1 .none)))),
   ("sortAlpha", storeFn [.any] fun st args =>
      match stringsOf st (args.headD .none), args.headD .none with
      | .list e items isNil spare, .list .. =>
        .list e (items.toArray.qsort fun a b => bytesLess (a.textBytes?.getD []) (b.textBytes?.getD [])).toList
          isNil spare
      | _, v => bytesList [v.renderBytes st])]

end CriticalCss.Template
