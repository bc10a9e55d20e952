import CriticalCss.Url.Escape
import CriticalCss.Url.Address

/-!
# Urls

A url as read from text: a scheme, then either a rootless part or an
authority (user information and host) and a path, a query and a fragment.
Components are kept decoded, with the escaped form as written when it differs
from the standard one, so that writing the url back gives the text it was
read from in its standard spelling.

Reading fails on control characters, on an empty scheme before `:`, on a
colon in the first segment of a relative path, on a bad host or port, on bad
user information and on bad escapes; the message names the text read.

## Main definitions

* `Url`: the components.
* `UrlError`, `ParseError`: why a text is not a url.
* `Url.parse`: reading a url.
* `Url.render`: the standard text of a url.
* `Url.hostname`: the host without its port.
-/

namespace CriticalCss.Url

open CriticalCss.Text

/-- User information: a name and an optional password, decoded. -/
structure Userinfo where
  username : List UInt8
  password : Option (List UInt8) := none
deriving DecidableEq, Repr

/-- The text of user information, escaped. -/
def Userinfo.render (u : Userinfo) : List UInt8 :=
  escapeBytes u.username .userPassword ++
    (match u.password with
     | some p => 0x3a :: escapeBytes p .userPassword
     | none => [])

end CriticalCss.Url

namespace CriticalCss

/-- A url. -/
structure Url where
  scheme : String := ""
  /-- The rootless part after the scheme, for urls like `mailto:x`. -/
  rootless : List UInt8 := []
  user : Option Url.Userinfo := none
  host : List UInt8 := []
  path : List UInt8 := []
  /-- The path as written, when that differs from its standard escaping. -/
  rawPath : List UInt8 := []
  /-- An empty authority was left out, as in `file:/x`. -/
  omitHost : Bool := false
  /-- A `?` with an empty query was written. -/
  forceQuery : Bool := false
  rawQuery : List UInt8 := []
  fragment : List UInt8 := []
  rawFragment : List UInt8 := []
deriving DecidableEq, Repr

end CriticalCss

namespace CriticalCss.Url

open CriticalCss.Text

/-- Why a text is not a url. -/
inductive UrlError where
  | controlCharacter
  | missingScheme
  | colonInFirstSegment
  | missingBracket
  | invalidPort (port : List UInt8)
  | invalidIpLiteral
  | invalidHost (e : AddressError)
  | invalidUserinfo
  | escapeProblem (p : EscapeProblem)
deriving DecidableEq, Repr

/-- The message of a url problem. -/
def UrlError.message : UrlError → String
  | .controlCharacter => "net/url: invalid control character in URL"
  | .missingScheme => "missing protocol scheme"
  | .colonInFirstSegment => "first path segment in URL cannot contain colon"
  | .missingBracket => "missing ']' in host"
  | .invalidPort p => "invalid port " ++ quoteBytes p ++ " after host"
  | .invalidIpLiteral => "invalid IP-literal"
  | .invalidHost e => "invalid host: " ++ e.message
  | .invalidUserinfo => "net/url: invalid userinfo"
  | .escapeProblem p => p.message

/-- A text that could not be read as a url, and why. -/
structure ParseError where
  text : String
  cause : UrlError
deriving DecidableEq, Repr

/-- The message of a url that could not be read. -/
def ParseError.message (e : ParseError) : String :=
  "parse " ++ quote e.text ++ ": " ++ e.cause.message

/-- The part before the first `c` and, if `c` occurs, the part after it. -/
def cutAt (c : UInt8) (bs : List UInt8) : List UInt8 × Option (List UInt8) :=
  match bs.idxOf? c with
  | some i => (bs.take i, some (bs.drop (i + 1)))
  | none => (bs, none)

/-- The index of the last occurrence of a byte. -/
def lastIndexOf (c : UInt8) (bs : List UInt8) : Option Nat :=
  (bs.zipIdx.filter (·.1 == c)).getLast?.map (·.2)

/-- Whether a byte is an ASCII letter. -/
def isLetterByte (b : UInt8) : Bool :=
  (0x61 ≤ b && b ≤ 0x7a) || (0x41 ≤ b && b ≤ 0x5a)

/-- The scheme at the front of a url and the rest; no scheme when a character
that cannot be in one comes before any `:`. -/
def splitScheme (bs : List UInt8) : Except UrlError (List UInt8 × List UInt8) :=
  let rec go (i : Nat) : List UInt8 → Except UrlError (List UInt8 × List UInt8)
    | [] => .ok ([], bs)
    | b :: rest =>
      if isLetterByte b then go (i + 1) rest
      else if (0x30 ≤ b && b ≤ 0x39) || b == 0x2b || b == 0x2d || b == 0x2e then
        if i == 0 then .ok ([], bs) else go (i + 1) rest
      else if b == 0x3a then
        if i == 0 then .error .missingScheme else .ok (bs.take i, rest)
      else .ok ([], bs)
  go 0 bs

/-- Whether a port text is empty or `:` and digits. -/
def validOptionalPort : List UInt8 → Bool
  | [] => true
  | b :: ds => b == 0x3a && ds.all (fun d => 0x30 ≤ d && d ≤ 0x39)

/-- Reads a host with an optional port: an IP literal in brackets at the
start (with a zone after `%25`), which must hold an IPv6 address, or a name
checked byte by byte, where a colon starts the port. -/
def parseHost (host : List UInt8) : Except UrlError (List UInt8) :=
  let decode (bs : List UInt8) (mode : Component) : Except UrlError (List UInt8) :=
    (unescapeBytes bs mode).mapError .escapeProblem
  match lastIndexOf 0x5b host with
  | some open_ =>
    match lastIndexOf 0x5d host with
    | none => .error .missingBracket
    | some i =>
      let colonPort := host.drop (i + 1)
      if !validOptionalPort colonPort then .error (.invalidPort colonPort)
      else if open_ != 0 then .error .invalidIpLiteral
      else do
        let inside := host.take i
        let zone := (List.range inside.length).find? fun k =>
          (inside.drop k).take 3 == [0x25, 0x32, 0x35]
        let (name, literal) ← match zone with
          | some z => do
            let h1 ← decode (host.take z) .host
            let h2 ← decode ((host.take i).drop z) .zone
            let h3 ← decode (host.drop i) .host
            pure (h1 ++ h2 ++ h3, (h1 ++ h2).drop 1)
          | none => do
            let h ← decode host .host
            pure (h, (inside.drop 1))
        match IpAddress.parse literal with
        | .error e => throw (.invalidHost e)
        | .ok a => if a.isV4 then throw .invalidIpLiteral else pure name
  | none =>
    match host.idxOf? 0x3a with
    | some i =>
      let colonPort := host.drop i
      if !validOptionalPort colonPort then .error (.invalidPort colonPort)
      else decode host .host
    | none => decode host .host

/-- Whether user information holds only the characters it may. -/
def validUserinfo (bs : List UInt8) : Bool :=
  bs.all fun b => isAlnumByte b || byteIn b "-._:~!$&'()*+,;=%@"

/-- Reads an authority: user information before the last `@`, then the host. -/
def parseAuthority (authority : List UInt8) : Except UrlError (Option Userinfo × List UInt8) := do
  match lastIndexOf 0x40 authority with
  | none => return (none, ← parseHost authority)
  | some i =>
    let host ← parseHost (authority.drop (i + 1))
    let info := authority.take i
    if !validUserinfo info then throw .invalidUserinfo
    let decode (bs : List UInt8) := (unescapeBytes bs .userPassword).mapError UrlError.escapeProblem
    match cutAt 0x3a info with
    | (name, none) => return (some { username := ← decode name }, host)
    | (name, some pw) => return (some { username := ← decode name, password := some (← decode pw) }, host)

/-- Sets the path from its text as written. -/
def withPath (u : Url) (p : List UInt8) : Except UrlError Url := do
  let path ← (unescapeBytes p .path).mapError .escapeProblem
  return { u with path, rawPath := if escapeBytes path .path == p then [] else p }

/-- Sets the fragment from its text as written. -/
def withFragment (u : Url) (f : List UInt8) : Except UrlError Url := do
  let fragment ← (unescapeBytes f .fragment).mapError .escapeProblem
  return { u with fragment, rawFragment := if escapeBytes fragment .fragment == f then [] else f }

/-- Reads a url without its fragment. -/
def parseMain (bs : List UInt8) : Except UrlError Url := do
  if bs.any (fun b => b < 0x20 || b == 0x7f) then throw .controlCharacter
  if bs == [0x2a] then return { path := [0x2a] }
  let (scheme, rest) ← splitScheme bs
  let scheme := (textOf scheme).map Char.toLower
  let (rest, forceQuery, rawQuery) :=
    if rest.getLast? == some 0x3f && rest.count 0x3f == 1 then (rest.dropLast, true, [])
    else match cutAt 0x3f rest with
      | (r, some q) => (r, false, q)
      | (r, none) => (r, false, [])
  let u : Url := { scheme, forceQuery, rawQuery }
  if rest.head? != some 0x2f then
    if !scheme.isEmpty then return { u with rootless := rest }
    if ((cutAt 0x2f rest).1.contains 0x3a) then throw .colonInFirstSegment
  let startsTwo := rest.take 2 == [0x2f, 0x2f]
  let startsThree := rest.take 3 == [0x2f, 0x2f, 0x2f]
  if (!scheme.isEmpty || !startsThree) && startsTwo then
    let tail := rest.drop 2
    let (authority, path) := match tail.idxOf? 0x2f with
      | some i => (tail.take i, tail.drop i)
      | none => (tail, [])
    let (user, host) ← parseAuthority authority
    let withHost : Url := { u with user, host }
    withHost.withPath path
  else if !scheme.isEmpty && rest.head? == some 0x2f then
    let omitted : Url := { u with omitHost := true }
    omitted.withPath rest
  else u.withPath rest

/-- Reads a url; the fragment after the first `#` is read last. -/
def parse (text : String) : Except ParseError Url :=
  let bs := bytesOf text
  let (main, frag) := cutAt 0x23 bs
  match parseMain main with
  | .error e => .error ⟨textOf main, e⟩
  | .ok u =>
    match frag with
    | none | some [] => .ok u
    | some f =>
      match u.withFragment f with
      | .ok u => .ok u
      | .error e => .error ⟨text, e⟩

/-- The path as it is written: the form it was read in when that is valid and
means the same, otherwise the standard escaping. -/
def escapedPath (u : Url) : List UInt8 :=
  let asRead :=
    if !u.rawPath.isEmpty && validEncoded u.rawPath .path then
      match unescapeBytes u.rawPath .path with
      | .ok p => if p == u.path then some u.rawPath else none
      | .error _ => none
    else none
  match asRead with
  | some p => p
  | none => if u.path == [0x2a] then [0x2a] else escapeBytes u.path .path

/-- The fragment as it is written, like `escapedPath`. -/
def escapedFragment (u : Url) : List UInt8 :=
  let asRead :=
    if !u.rawFragment.isEmpty && validEncoded u.rawFragment .fragment then
      match unescapeBytes u.rawFragment .fragment with
      | .ok f => if f == u.fragment then some u.rawFragment else none
      | .error _ => none
    else none
  asRead.getD (escapeBytes u.fragment .fragment)

/-- The standard text of a url. -/
def render (u : Url) : String :=
  let schemePart := if u.scheme.isEmpty then [] else bytesOf u.scheme ++ [0x3a]
  let body :=
    if !u.rootless.isEmpty then u.rootless
    else
      let authority :=
        if !u.scheme.isEmpty || !u.host.isEmpty || u.user.isSome then
          if u.omitHost && u.host.isEmpty && u.user.isNone then []
          else
            (if !u.host.isEmpty || !u.path.isEmpty || u.user.isSome then [0x2f, 0x2f] else []) ++
            (match u.user with
             | some ui => ui.render ++ [0x40]
             | none => []) ++
            escapeBytes u.host .host
        else []
      let path := u.escapedPath
      let slash := if !path.isEmpty && path.head? != some 0x2f && !u.host.isEmpty then [0x2f] else []
      let soFar := schemePart ++ authority ++ slash
      let dotSlash :=
        if soFar.isEmpty && (cutAt 0x2f path).1.contains 0x3a then [0x2e, 0x2f] else []
      authority ++ slash ++ dotSlash ++ path
  let query := if u.forceQuery || !u.rawQuery.isEmpty then 0x3f :: u.rawQuery else []
  let frag := if u.fragment.isEmpty then [] else 0x23 :: u.escapedFragment
  textOf (schemePart ++ body ++ query ++ frag)

/-- The host without its port and without the brackets of an IP literal. -/
def hostname (u : Url) : String :=
  let h := u.host
  let h := match lastIndexOf 0x3a h with
    | some i => if validOptionalPort (h.drop i) then h.take i else h
    | none => h
  let h := if h.head? == some 0x5b && h.getLast? == some 0x5d then (h.drop 1).dropLast else h
  textOf h

end CriticalCss.Url
