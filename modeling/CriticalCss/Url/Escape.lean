import CriticalCss.Text.Quote

/-!
# Percent-encoding of url components

Each component of a url (host, path, user information, query, fragment) has
its own set of bytes that may stand as they are; any other byte is written as
`%` and two upper-case hexadecimal digits. Decoding checks that every `%` is
followed by two hexadecimal digits, and in a host that escapes only stand for
bytes outside ASCII (or `%25` for a percent sign in a zone).

## Main definitions

* `Component`: the url components with their own rules.
* `shouldEscape`: whether a byte must be escaped in a component.
* `escape`, `unescape`: encoding and decoding.
* `EscapeProblem`: a bad escape or a byte a host may not hold.
-/

namespace CriticalCss.Url

open CriticalCss.Text

/-- The bytes of a text in UTF-8. -/
def bytesOf (s : String) : List UInt8 := s.toUTF8.toList

/-- A text from UTF-8 bytes; a byte sequence that is not UTF-8 is read byte by
byte as Latin-1. -/
def textOf (bs : List UInt8) : String :=
  match String.fromUTF8? (ByteArray.mk bs.toArray) with
  | some s => s
  | none => String.ofList (bs.map fun b => Char.ofNat b.toNat)

/-- Text in double quotes for bytes: valid UTF-8 is quoted as text, other
bytes as `\x` escapes. -/
def quoteBytes (bs : List UInt8) : String :=
  match String.fromUTF8? (ByteArray.mk bs.toArray) with
  | some s => quote s
  | none =>
    "\"" ++ String.join (bs.map fun b =>
      if 0x20 ≤ b.toNat && b.toNat < 0x7f then quoteChar (Char.ofNat b.toNat)
      else "\\x" ++ hexDigits 2 b.toNat) ++ "\""

/-- The components of a url with their own escaping rules. -/
inductive Component where
  | path
  | pathSegment
  | host
  | zone
  | userPassword
  | queryComponent
  | fragment
deriving DecidableEq, Repr

/-- Whether a byte is an ASCII letter or digit. -/
def isAlnumByte (b : UInt8) : Bool :=
  (0x61 ≤ b && b ≤ 0x7a) || (0x41 ≤ b && b ≤ 0x5a) || (0x30 ≤ b && b ≤ 0x39)

/-- Whether a byte is one of the characters of a text. -/
def byteIn (b : UInt8) (chars : String) : Bool :=
  chars.toList.any (fun c => c.toNat == b.toNat)

/-- Whether a byte must be escaped in a component: letters and digits never,
`-_.~` never, the host's sub-delimiters never in a host, reserved characters
as the component allows, and `!()*` not in a fragment. -/
def shouldEscape (b : UInt8) (mode : Component) : Bool :=
  if isAlnumByte b then false
  else if (mode == .host || mode == .zone) && byteIn b "!$&'()*+,;=:[]<>\"" then false
  else if byteIn b "-_.~" then false
  else if byteIn b "$&+,/:;=?@" then
    match mode with
    | .path => b == '?'.toUInt8
    | .pathSegment => byteIn b "/;,?"
    | .userPassword => byteIn b "@/?:"
    | .queryComponent => true
    | .fragment => false
    | _ => true
  else if mode == .fragment && byteIn b "!()*" then false
  else true

/-- An upper-case hexadecimal digit. -/
def hexUpper (n : Nat) : UInt8 :=
  (if n < 10 then 0x30 + n else 0x41 + n - 10).toUInt8

/-- Escapes the bytes a component may not hold. -/
def escapeBytes (bs : List UInt8) (mode : Component) : List UInt8 :=
  bs.flatMap fun b =>
    if shouldEscape b mode then
      if b == 0x20 && mode == .queryComponent then [0x2b]
      else [0x25, hexUpper (b.toNat / 16), hexUpper (b.toNat % 16)]
    else [b]

/-- Escapes a text for a component. -/
def escape (s : String) (mode : Component) : String :=
  textOf (escapeBytes (bytesOf s) mode)

/-- The value of a hexadecimal digit byte. -/
def hexVal (b : UInt8) : Option Nat :=
  if 0x30 ≤ b && b ≤ 0x39 then some (b.toNat - 0x30)
  else if 0x61 ≤ b && b ≤ 0x66 then some (b.toNat - 0x61 + 10)
  else if 0x41 ≤ b && b ≤ 0x46 then some (b.toNat - 0x41 + 10)
  else none

/-- A problem met while decoding a component. -/
inductive EscapeProblem where
  /-- A `%` not followed by two hexadecimal digits, or an escape a host may
  not use; the offending text. -/
  | badEscape (text : List UInt8)
  /-- A byte a host may not hold. -/
  | badHostChar (text : List UInt8)
deriving DecidableEq, Repr

/-- The message of a decoding problem. -/
def EscapeProblem.message : EscapeProblem → String
  | .badEscape t => "invalid URL escape " ++ quoteBytes t
  | .badHostChar t => "invalid character " ++ quoteBytes t ++ " in host name"

/-- Checks the escapes of a component, first problem first. -/
def checkEscapes (mode : Component) : List UInt8 → Option EscapeProblem
  | [] => none
  | b :: rest =>
    if b == 0x25 then
      match rest with
      | h1 :: h2 :: tail =>
        match hexVal h1, hexVal h2 with
        | some v1, some v2 =>
          let isPct25 := h1 == 0x32 && h2 == 0x35
          if mode == .host && v1 < 8 && !isPct25 then some (.badEscape [b, h1, h2])
          else if mode == .zone && !isPct25 && (v1 * 16 + v2) != 0x20 &&
              shouldEscape (v1 * 16 + v2).toUInt8 .host then some (.badEscape [b, h1, h2])
          else checkEscapes mode tail
        | _, _ => some (.badEscape ((b :: rest).take 3))
      | _ => some (.badEscape ((b :: rest).take 3))
    else if (mode == .host || mode == .zone) && b < 0x80 && shouldEscape b mode then
      some (.badHostChar [b])
    else checkEscapes mode rest

/-- A byte as it stands after decoding: `+` is a space in a query component. -/
def plainByte (mode : Component) (b : UInt8) : UInt8 :=
  if b == 0x2b && mode == .queryComponent then 0x20 else b

/-- Decodes checked escapes. -/
def decodeBytes (mode : Component) : List UInt8 → List UInt8
  | [] => []
  | b :: h1 :: h2 :: tail =>
    if b == 0x25 then
      match hexVal h1, hexVal h2 with
      | some v1, some v2 => (v1 * 16 + v2).toUInt8 :: decodeBytes mode tail
      | _, _ => b :: decodeBytes mode (h1 :: h2 :: tail)
    else plainByte mode b :: decodeBytes mode (h1 :: h2 :: tail)
  | b :: rest => plainByte mode b :: decodeBytes mode rest

/-- Decodes a component, or reports its first problem. -/
def unescapeBytes (bs : List UInt8) (mode : Component) : Except EscapeProblem (List UInt8) :=
  match checkEscapes mode bs with
  | some p => .error p
  | none => .ok (decodeBytes mode bs)

/-- Whether escaped text holds only bytes a component allows as written, escapes
and the sub-delimiters included. -/
def validEncoded (bs : List UInt8) (mode : Component) : Bool :=
  bs.all fun b => byteIn b "!$&'()*+,;=:@[]%" || !shouldEscape b mode

end CriticalCss.Url
