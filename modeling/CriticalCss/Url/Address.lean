import CriticalCss.Url.Escape

/-!
# IP addresses

An IP address as written in a url host between brackets: four decimal
fields `1.2.3.4`, or eight hexadecimal groups separated by colons, where one
`::` stands for a run of zero groups, the last two groups may be written as
four decimal fields, and a zone may follow after `%`.

Reading is strict: a decimal field has no leading zero and is at most 255, a
group has one to four hexadecimal digits, and anything left over is an
error. An error names the text, what is wrong and, when known, the part of
the text where reading stopped.

## Main definitions

* `IpAddress`: an address of either family.
* `IpAddress.parse`: reading an address.
-/

namespace CriticalCss.Url

open CriticalCss.Text

/-- An IP address: four octets, or sixteen bytes and a zone. -/
inductive IpAddress where
  | v4 (octets : List Nat)
  | v6 (bytes : List Nat) (zone : List UInt8)
deriving DecidableEq, Repr

/-- Why a text is not an IP address: the text, the reason, and the part of
the text where reading stopped (empty when not told). -/
structure AddressError where
  input : List UInt8
  reason : String
  rest : List UInt8 := []
deriving DecidableEq, Repr

/-- The message of an address problem. -/
def AddressError.message (e : AddressError) : String :=
  "ParseAddr(" ++ quoteBytes e.input ++ "): " ++ e.reason ++
    (if e.rest.isEmpty then "" else " (at " ++ quoteBytes e.rest ++ ")")

/-- Whether a byte is an ASCII decimal digit. -/
def isDigitByte (b : UInt8) : Bool := 0x30 ≤ b && b ≤ 0x39

/-- The decimal fields of `s`, part of the address text `input`: `fields`
are those already read, `value` and `digits` the field being read. -/
def readDecimalFields (input : List UInt8) :
    List UInt8 → List Nat → Nat → Nat → Except AddressError (List Nat)
  | [], fields, value, _ =>
    if fields.length < 3 then .error { input, reason := "IPv4 address too short" }
    else .ok (fields ++ [value])
  | b :: rest, fields, value, digits =>
    if isDigitByte b then
      if digits == 1 && value == 0 then
        .error { input, reason := "IPv4 field has octet with leading zero" }
      else
        let value := value * 10 + (b.toNat - 0x30)
        if value > 255 then .error { input, reason := "IPv4 field has value >255" }
        else readDecimalFields input rest fields value (digits + 1)
    else if b == 0x2e then
      if digits == 0 || rest.isEmpty then
        .error { input, reason := "IPv4 field must have at least one digit", rest := b :: rest }
      else if fields.length == 3 then .error { input, reason := "IPv4 address too long" }
      else readDecimalFields input rest (fields ++ [value]) 0 0
    else .error { input, reason := "unexpected character", rest := b :: rest }

/-- The value of a hexadecimal digit byte. -/
def hexByteValue? (b : UInt8) : Option Nat :=
  if isDigitByte b then some (b.toNat - 0x30)
  else if 0x61 ≤ b && b ≤ 0x66 then some (b.toNat - 0x61 + 10)
  else if 0x41 ≤ b && b ≤ 0x46 then some (b.toNat - 0x41 + 10)
  else none

/-- The hexadecimal digits at the start of a group, at most five: their
value, their count and the rest. -/
def readHexGroup (value count : Nat) : List UInt8 → Nat × Nat × List UInt8
  | [] => (value, count, [])
  | b :: rest =>
    match hexByteValue? b with
    | some d => if count == 4 then (value, 5, b :: rest) else readHexGroup (value * 16 + d) (count + 1) rest
    | none => (value, count, b :: rest)

/-- The groups of an address text after a possible leading `::`, at most
`fuel` of them: the bytes read, where `::` stood, and the unread text.
`input` is the whole text, named in messages. -/
def readGroups (input : List UInt8) :
    Nat → List UInt8 → List Nat → Option Nat → Except AddressError (List Nat × Option Nat × List UInt8)
  | 0, s, out, ellipsis => .ok (out, ellipsis, s)
  | fuel + 1, s, out, ellipsis =>
    let (value, count, after) := readHexGroup 0 0 s
    if count > 4 then
      .error { input, reason := "each colon-separated field must have at most 4 hex digits", rest := s }
    else if count == 0 then
      .error { input, reason := "each colon-separated field must have at least one digit", rest := s }
    else if after.head? == some 0x2e then
      if ellipsis.isNone && out.length != 12 then
        .error { input, reason := "embedded IPv4 address must replace the final 2 fields of the address",
                 rest := s }
      else if out.length + 4 > 16 then
        .error { input,
                 reason := "too many hex fields to fit an embedded IPv4 at the end of the address",
                 rest := s }
      else
        match readDecimalFields input s [] 0 0 with
        | .ok octets => .ok (out ++ octets, ellipsis, [])
        | .error e => .error e
    else
      let out := out ++ [value / 256, value % 256]
      match after with
      | [] => .ok (out, ellipsis, [])
      | 0x3a :: [] => .error { input, reason := "colon must be followed by more characters", rest := after }
      | 0x3a :: 0x3a :: rest =>
        if ellipsis.isSome then
          .error { input, reason := "multiple :: in address", rest := 0x3a :: rest }
        else if rest.isEmpty then .ok (out, some out.length, [])
        else readGroups input fuel rest out (some out.length)
      | 0x3a :: rest => readGroups input fuel rest out ellipsis
      | _ => .error { input, reason := "unexpected character, want colon", rest := after }

/-- The sixteen bytes of an IPv6 address text without its zone. -/
def readV6Bytes (input s : List UInt8) : Except AddressError (List Nat) :=
  let (s, ellipsis) := match s with
    | 0x3a :: 0x3a :: rest => (rest, some 0)
    | _ => (s, none)
  if s.isEmpty && ellipsis.isSome then .ok (List.replicate 16 0)
  else do
    let (out, ellipsis, rest) ← readGroups input 8 s [] ellipsis
    if !rest.isEmpty then throw { input, reason := "trailing garbage after address", rest }
    match ellipsis with
    | none =>
      if out.length < 16 then throw { input, reason := "address string too short" }
      return out
    | some e =>
      if out.length < 16 then
        return out.take e ++ List.replicate (16 - out.length) 0 ++ out.drop e
      throw { input, reason := "the :: must expand to at least one field of zeros" }

/-- An IPv6 address text with an optional zone after `%`. -/
def readV6 (input : List UInt8) : Except AddressError IpAddress :=
  match input.idxOf? 0x25 with
  | some i =>
    let zone := input.drop (i + 1)
    if zone.isEmpty then .error { input, reason := "zone must be a non-empty string" }
    else (readV6Bytes input (input.take i)).map (IpAddress.v6 · zone)
  | none => (readV6Bytes input input).map (IpAddress.v6 · [])

/-- Reads an IP address: the first `.`, `:` or `%` in the text tells which
family it is written in. -/
def IpAddress.parse (input : List UInt8) : Except AddressError IpAddress :=
  match input.find? (fun b => b == 0x2e || b == 0x3a || b == 0x25) with
  | some 0x2e => (readDecimalFields input input [] 0 0).map IpAddress.v4
  | some 0x3a => readV6 input
  | some _ => .error { input, reason := "missing IPv6 address" }
  | none => .error { input, reason := "unable to parse IP" }

/-- Whether an address is of the four-octet family. -/
def IpAddress.isV4 : IpAddress → Bool
  | .v4 _ => true
  | .v6 _ _ => false

end CriticalCss.Url
