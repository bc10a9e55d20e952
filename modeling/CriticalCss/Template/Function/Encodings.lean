import CriticalCss.Template.Function.Lists
import CriticalCss.Template.Function.Strings
import CriticalCss.Regex.Search
import CriticalCss.Url.Basic
import CriticalCss.Text.Path
import CriticalCss.Text.Base64
/-!
# Encoding, pattern, address and path functions

* Base 64 and base 32 with padding. Decoding reads groups of four (or
  eight) digits, skipping line breaks, and stops at the first byte that
  cannot stand where it is; the helper then gives the error text
  `illegal base64 data at input byte N` instead of the bytes.
* Patterns: matching, finding, replacing and splitting. A pattern that does
  not compile makes the helper fail, with the pattern quoted in the error,
  or, for the `must` forms, return the compile error.
* Addresses: `urlParse` takes an address apart into a map of its parts and
  `urlJoin` puts such a map back together.
* Slash-separated paths, and the environment, which is empty here.

## Main definitions

* `base64Decode`, `base32Decode`: texts read back as bytes.
* `expandShell`: `$NAME` and `${NAME}` references replaced.
* `encodingFunctions`: the table.
-/

namespace CriticalCss.Template

open CriticalCss.Text

/-- The error of a byte that cannot stand where it is in encoded text. -/
def corruptInput (kind : String) (pos : Nat) : String :=
  "illegal " ++ kind ++ " data at input byte " ++ toString pos

/-- Bytes read back from base 64 with padding, or the error. -/
def base64Decode (input : List UInt8) : Except String (List UInt8) :=
  (decodeBase64 input).mapError (corruptInput "base64")

/-- Base-32 digits. -/
def base32Alphabet : List Char := "ABCDEFGHIJKLMNOPQRSTUVWXYZ234567".toList

/-- Bytes in base 32 with padding. -/
def base32Encode (bs : List UInt8) : List Char :=
  let rec go : List UInt8 → List Char
    | [] => []
    | b :: bs =>
      let five := (b :: bs).take 5
      let n := (five ++ List.replicate (5 - five.length) 0).foldl (fun a (x : UInt8) => a * 256 + x.toNat) 0
      let digits := (List.range 8).map fun i => base32Alphabet.getD (n / Nat.pow 32 (7 - i) % 32) 'A'
      let keep := match five.length with
        | 1 => 2 | 2 => 4 | 3 => 5 | 4 => 7 | _ => 8
      digits.take keep ++ List.replicate (8 - keep) '=' ++ go (bs.drop 4)
    termination_by cs => cs.length
    decreasing_by all_goals simp only [List.length_cons, List.length_drop]; omega
  go bs

/-- The value of a base-32 digit. -/
def base32Digit (b : UInt8) : Option Nat :=
  if b.toNat < 0x80 then base32Alphabet.idxOf? (Char.ofNat b.toNat) else none

/-- The bytes of up to eight base-32 digits. -/
def base32Bytes (digits : List Nat) : List UInt8 :=
  let ds := digits ++ List.replicate (8 - digits.length) 0
  let v := ds.foldl (fun a d => a * 32 + d) 0
  let count := match digits.length with
    | 8 => 5 | 7 => 4 | 5 => 3 | 4 => 2 | 2 => 1 | _ => 0
  ((List.range 5).map fun i => (v / Nat.pow 2 (32 - 8 * i) % 256).toUInt8).take count

/-- Text read back from base 32 with padding, or the error. Line breaks are
dropped first; positions count the bytes left. -/
def base32Decode (input : List UInt8) : Except String (List UInt8) :=
  let src := (input.filter fun b => !isLineByte b).toArray
  let olen := src.size
  let bad (p : Nat) : Except String (List UInt8) := .error (corruptInput "base32" p)
  -- `pos` is the next byte; `digits` the group so far
  let rec go : Nat → Nat → List Nat → List UInt8 → Except String (List UInt8)
    | 0, _, _, acc => .ok acc
    | fuel + 1, pos, digits, acc =>
      let j := digits.length
      if j == 8 then
        if pos ≥ olen then .ok (acc ++ base32Bytes digits)
        else go fuel pos [] (acc ++ base32Bytes digits)
      else if pos ≥ olen then bad (pos - j)
      else
        let b := src[pos]!
        let left := olen - (pos + 1)
        if b == 0x3d && j ≥ 2 && left < 8 then
          if left + j < 7 then bad olen
          else
            match (List.range (7 - j)).find? (fun k => k < left && src[pos + 1 + k]! != 0x3d) with
            | some k => bad (pos + 1 + k - 1)
            | none =>
              if j == 1 || j == 3 || j == 6 then bad pos
              else .ok (acc ++ base32Bytes digits)
        else match base32Digit b with
          | some d => go fuel (pos + 1) (digits ++ [d]) acc
          | none => bad pos
  if olen == 0 then .ok [] else go (2 * olen + 2) 0 [] []

/-- A pattern quoted for the error of a pattern that does not compile:
between backquotes when it can stand there, else in double quotes. -/
def quotePattern (p : String) : String :=
  if canBackquote p then "\x60" ++ p ++ "\x60" else quote p

/-- A compiled pattern, or the failure of a helper given one that does not
compile. -/
def compileOrFail (p : String) : CallM Regex :=
  match Regex.compile p with
  | .ok re => pure re
  | .error e => callFail ("regexp: Compile(" ++ quotePattern p ++ "): " ++ e.message)

/-- A compiled pattern, or the compile error itself. -/
def compileOrError (p : String) : CallM Regex :=
  match Regex.compile p with
  | .ok re => pure re
  | .error e => callFail e.message

/-- The texts of the successive matches, at most `n`; nothing when there
are none. -/
def findAllTexts (re : Regex) (s : String) (n : Int) : Value :=
  let chars := s.toList.toArray
  let found := (re.findAll chars n).map fun caps =>
    let (a, b) := caps.bounds
    Regex.slice chars a b
  if found.isEmpty then .list .string [] true [] else Value.appendedList .string 10 (found.map Value.str)

/-- The pieces of a text between the matches of a pattern, at most `n`.
The pieces are appended to storage made for as many pieces as there are
matches. -/
def splitTexts (p : String) (re : Regex) (s : String) (n : Int) : Value :=
  let pieces := (re.split p.isEmpty s n).map Value.str
  if n == 0 then .list .string [] true []
  else if !p.isEmpty && s.isEmpty then Value.exactList .string pieces
  else Value.appendedList .string (re.findAll s.toList.toArray n).length pieces

/-- The pattern helpers. -/
def regexFunctions : List (String × Function) :=
  let matchTest (must : Bool) : Function :=
    { params := [.string, .string], results := if must then .withError else .one,
      run := fun args =>
        match Regex.compile (strArg args 0) with
        | .ok re => pure (.bool ((re.matchAt (strArg args 1).toList.toArray 0).isSome))
        | .error e => if must then callFail e.message else pure (.bool false) }
  [("regexMatch", matchTest false),
   ("mustRegexMatch", matchTest true),
   ("regexFindAll", { params := [.string, .string, .int],
                      run := fun args => do
                        let re ← compileOrFail (strArg args 0)
                        return findAllTexts re (strArg args 1) (intArg args 2) }),
   ("mustRegexFindAll", { params := [.string, .string, .int], results := .withError,
                          run := fun args => do
                            let re ← compileOrError (strArg args 0)
                            return findAllTexts re (strArg args 1) (intArg args 2) }),
   ("regexFind", { params := [.string, .string],
                   run := fun args => do
                     let re ← compileOrFail (strArg args 0)
                     return .str (re.findString (strArg args 1)) }),
   ("mustRegexFind", { params := [.string, .string], results := .withError,
                       run := fun args => do
                         let re ← compileOrError (strArg args 0)
                         return .str (re.findString (strArg args 1)) }),
   ("regexReplaceAll", { params := [.string, .string, .string],
                         run := fun args => do
                           let re ← compileOrFail (strArg args 0)
                           return .str (re.replaceAll (strArg args 1) (strArg args 2)) }),
   ("mustRegexReplaceAll", { params := [.string, .string, .string], results := .withError,
                             run := fun args => do
                               let re ← compileOrError (strArg args 0)
                               return .str (re.replaceAll (strArg args 1) (strArg args 2)) }),
   ("regexReplaceAllLiteral", { params := [.string, .string, .string],
                                run := fun args => do
                                  let re ← compileOrFail (strArg args 0)
                                  return .str (re.replaceAllLiteral (strArg args 1) (strArg args 2)) }),
   ("mustRegexReplaceAllLiteral", { params := [.string, .string, .string], results := .withError,
                                    run := fun args => do
                                      let re ← compileOrError (strArg args 0)
                                      return .str (re.replaceAllLiteral (strArg args 1) (strArg args 2)) }),
   ("regexSplit", { params := [.string, .string, .int],
                    run := fun args => do
                      let re ← compileOrFail (strArg args 0)
                      return splitTexts (strArg args 0) re (strArg args 1) (intArg args 2) }),
   ("mustRegexSplit", { params := [.string, .string, .int], results := .withError,
                        run := fun args => do
                          let re ← compileOrError (strArg args 0)
                          return splitTexts (strArg args 0) re (strArg args 1) (intArg args 2) }),
   ("regexQuoteMeta", textFn Regex.quoteMeta)]

/-- The parts of an address as a map: scheme, host, hostname, path, query,
opaque, fragment and userinfo. -/
def urlParts (text : String) : CallM Value :=
  match Url.parse text with
  | .error e => callFail ("unable to parse url: " ++ e.message)
  | .ok u =>
    newMap .any
      [("scheme", .str u.scheme), ("host", Value.ofBytes u.host), ("hostname", .str u.hostname),
       ("path", Value.ofBytes u.path), ("query", Value.ofBytes u.rawQuery),
       ("opaque", Value.ofBytes u.rootless), ("fragment", Value.ofBytes u.fragment),
       ("userinfo", match u.user with
         | some ui => Value.ofBytes ui.render
         | none => .str "")]

/-- A text entry of a map of address parts: empty when missing, an error
when it is not a text. -/
def urlPart (entries : List (String × Value)) (key : String) : CallM String :=
  match entries.lookup key with
  | none => pure ""
  | some (.str s) => pure s
  | some .none => callFail nilDereference
  | some v => callFail ("unable to parse " ++ key ++ " key, must be of type string, but " ++ v.kindName ++ " found")

/-- An address put together from a map of its parts. -/
def urlOfParts (entries : List (String × Value)) : CallM String := do
  let scheme ← urlPart entries "scheme"
  let host ← urlPart entries "host"
  let path ← urlPart entries "path"
  let query ← urlPart entries "query"
  let rootless ← urlPart entries "opaque"
  let fragment ← urlPart entries "fragment"
  let userinfo ← urlPart entries "userinfo"
  let user ← if userinfo.isEmpty then pure none
    else match Url.parse ("proto://" ++ userinfo ++ "@host") with
      | .ok u => pure u.user
      | .error e => callFail ("unable to parse userinfo in dict: " ++ e.message)
  let u : Url :=
    { scheme, host := host.toUTF8.toList, path := path.toUTF8.toList, rawQuery := query.toUTF8.toList,
      rootless := rootless.toUTF8.toList, fragment := fragment.toUTF8.toList, user }
  return u.render

/-- The text of `s` with `$NAME`, `${NAME}` and the one-character special
names replaced by what `lookup` gives; a `$` with no name after it stays,
and a bad `${` form is dropped. -/
def expandShell (lookup : String → String) (s : String) : String :=
  let special (c : Char) : Bool := "*#$@!?-0123456789".contains c
  let nameChar (c : Char) : Bool := c == '_' || c.isAlphanum
  let rec go : Nat → List Char → String
    | 0, cs => String.ofList cs
    | fuel + 1, cs =>
      match cs with
      | [] => ""
      | '$' :: c :: rest =>
        let (name, after, used) : String × List Char × Bool :=
          if c == '\x7b' then
            match rest with
            | x :: '\x7d' :: more =>
              if special x then (x.toString, more, true)
              else
                let inner := rest.takeWhile (· != '\x7d')
                if inner.length == rest.length then ("", rest, true)
                else if inner.isEmpty then ("", rest.drop 1, true)
                else (String.ofList inner, rest.drop (inner.length + 1), true)
            | _ =>
              let inner := rest.takeWhile (· != '\x7d')
              if inner.length == rest.length then ("", rest, true)
              else if inner.isEmpty then ("", rest.drop 1, true)
              else (String.ofList inner, rest.drop (inner.length + 1), true)
          else if special c then (c.toString, rest, true)
          else
            let nm := (c :: rest).takeWhile nameChar
            (String.ofList nm, (c :: rest).drop nm.length, !nm.isEmpty)
        if !used then "$" ++ go fuel (c :: rest)
        else if name.isEmpty then go fuel after
        else lookup name ++ go fuel after
      | c :: rest => c.toString ++ go fuel rest
  go (s.length + 1) s.toList

/-- The encoding, pattern, address, path and environment helpers. -/
def encodingFunctions : List (String × Function) :=
  let decoded (f : List UInt8 → Except String (List UInt8)) : Function :=
    pureFn [.string] fun args => match f (bytesArg args 0) with
      | .ok bs => Value.ofBytes bs
      | .error e => .str e
  let encoded (f : List UInt8 → List Char) : Function :=
    pureFn [.string] fun args => .str (String.ofList (f (bytesArg args 0)))
  [("b64enc", encoded encodeBase64),
   ("b64dec", decoded base64Decode),
   ("b32enc", encoded base32Encode),
   ("b32dec", decoded base32Decode),
   ("urlParse", { params := [.string], run := fun args => urlParts (strArg args 0) }),
   ("urlJoin", { params := [.map .any],
                 run := fun args => do
                   let entries ← mapEntries (args.headD .none)
                   return .str (← urlOfParts entries) }),
   ("base", textFn pathBase), ("osBase", textFn pathBase),
   ("dir", textFn pathDir), ("osDir", textFn pathDir),
   ("clean", textFn pathClean), ("osClean", textFn pathClean),
   ("ext", textFn pathExt), ("osExt", textFn pathExt),
   ("isAbs", pureFn [.string] fun args => .bool ((strArg args 0).startsWith "/")),
   ("osIsAbs", pureFn [.string] fun args => .bool ((strArg args 0).startsWith "/")),
   ("env", textFn fun _ => ""),
   ("expandenv", textFn (expandShell fun _ => "")),
   ("getHostByName", { params := [.string], run := fun _ => callFail "invalid argument to Intn" })] ++
  regexFunctions

end CriticalCss.Template
