import CriticalCss.Text.Space
import CriticalCss.Text.Case
import CriticalCss.Text.Encoding.Basic
/-!
# Media types

A media type such as `text/css; charset=utf-8` is a type and a subtype,
both tokens, followed by parameters `; name=value` where a value is a token
or a quoted string. Reading lower-cases the type and the parameter names,
allows white space around the separators and a trailing `;`, and fails on
anything else, and on a parameter named twice with different values.

Parameter names holding `*` follow the extended syntax for long and encoded
values: `name*=utf-8''%E2%82%AC` is a value in percent escapes after a
charset (UTF-8 or US-ASCII) and a language, and `name*0`, `name*1`, ... are
pieces joined in order, the first of them possibly encoded (`name*0*`) and
later encoded ones (`name*1*`) only percent-escaped. The value they give
takes the place of a plain `name=` value; an encoded value that cannot be
read gives nothing.

A token is a run of printable ASCII characters other than the separators
``()<>@,;:\"/[]?=``. In a quoted string, a backslash before a separator
stands for that separator, and any other backslash for itself; a line break
ends the value unread.

Files served without a declared type get one from their extension: a fixed
table knows the common web formats, and text types carry a UTF-8 charset.

## Main definitions

* `MediaType.parse`: a media type read from text.
* `charsetOf`: the charset parameter of a media type.
* `typeByExtension`: the media type of a file extension.
-/

namespace CriticalCss.Content

open CriticalCss.Text

/-- The separators of media type syntax. -/
def isSeparator (c : Char) : Bool := "()<>@,;:\\\"/[]?=".contains c

/-- The characters of tokens: printable ASCII other than the separators. -/
def isTokenChar (c : Char) : Bool := 0x20 < c.toNat && c.toNat < 0x7f && !isSeparator c

/-- A token at the start of text, and the rest. -/
def takeToken (cs : List Char) : List Char × List Char :=
  (cs.takeWhile isTokenChar, cs.dropWhile isTokenChar)

/-- Characters in lower case. -/
def lowerChars (cs : List Char) : List Char := cs.map lowerChar

/-- The value of a quoted string after its opening quote, and the text after
its closing quote; `none` when it does not close or holds a line break. -/
def readQuoted (acc : List Char) : List Char → Option (List Char × List Char)
  | [] => none
  | '"' :: rest => some (acc.reverse, rest)
  | '\\' :: c :: rest =>
    if isSeparator c then readQuoted (c :: acc) rest else readQuoted ('\\' :: acc) (c :: rest)
  | c :: rest => if c == '\r' || c == '\n' then none else readQuoted (c :: acc) rest

/-- A parameter value at the start of text, and the rest; `none` when no
value can be read. -/
def readValue : List Char → Option (List Char × List Char)
  | '"' :: rest => readQuoted [] rest
  | cs =>
    let (tok, rest) := takeToken cs
    if tok.isEmpty then none else some (tok, rest)

/-- One parameter `; name=value` at the start of text: the lower-cased name,
the value and the rest. -/
def readParameter (cs : List Char) : Option (List Char × List Char × List Char) :=
  match cs.dropWhile isSpace with
  | ';' :: rest =>
    let (name, rest) := takeToken (rest.dropWhile isSpace)
    if name.isEmpty then none
    else
      match rest.dropWhile isSpace with
      | '=' :: rest =>
        (readValue (rest.dropWhile isSpace)).map fun (v, rest) => (lowerChars name, v, rest)
      | _ => none
  | _ => none

/-- Why a text is not a media type. -/
inductive MediaTypeError where
  | noMediaType
  | expectedSlash
  | expectedSubtype
  | unexpectedContent
  | invalidParameter
  | duplicateParameter
  deriving DecidableEq, Repr

/-- The message of a media type problem. -/
def MediaTypeError.message : MediaTypeError → String
  | .noMediaType => "mime: no media type"
  | .expectedSlash => "mime: expected slash after first token"
  | .expectedSubtype => "mime: expected token after slash"
  | .unexpectedContent => "mime: unexpected content after media subtype"
  | .invalidParameter => "mime: invalid media parameter"
  | .duplicateParameter => "mime: duplicate parameter name"

/-- A media type: the lower-cased `type/subtype` and the parameters in the
order written. -/
structure MediaType where
  essence : String
  params : List (String × String)
  deriving Repr

/-- Checks that a lower-cased type is a token, optionally followed by a slash
and a subtype token. -/
def checkEssence (cs : List Char) : Except MediaTypeError Unit :=
  let (typ, rest) := takeToken cs
  if typ.isEmpty then .error .noMediaType
  else match rest with
    | [] => .ok ()
    | '/' :: rest =>
      let (sub, rest) := takeToken rest
      if sub.isEmpty then .error .expectedSubtype
      else if rest.isEmpty then .ok ()
      else .error .unexpectedContent
    | _ => .error .expectedSlash

/-- The value of a hexadecimal digit of either case. -/
def hexDigitOf? (c : Char) : Option Nat :=
  if '0' ≤ c && c ≤ '9' then some (c.toNat - '0'.toNat)
  else if 'a' ≤ c && c ≤ 'f' then some (c.toNat - 'a'.toNat + 10)
  else if 'A' ≤ c && c ≤ 'F' then some (c.toNat - 'A'.toNat + 10)
  else none

/-- The bytes of a text with its percent escapes decoded; `none` when a `%`
is not followed by two hexadecimal digits. -/
def percentBytes : List Char → Option (List UInt8)
  | [] => some []
  | '%' :: a :: b :: rest =>
    match hexDigitOf? a, hexDigitOf? b with
    | some x, some y => (percentBytes rest).map ((x * 16 + y).toUInt8 :: ·)
    | _, _ => none
  | '%' :: _ => none
  | c :: rest => (percentBytes rest).map fun bs => c.toString.toUTF8.toList ++ bs

/-- A text with its percent escapes decoded, read as UTF-8. -/
def percentDecode (cs : List Char) : Option String :=
  (percentBytes cs).map Encoding.utf8.decode

/-- An encoded value `charset'language'text`: the text with its percent
escapes decoded, when the charset is UTF-8 or US-ASCII. -/
def decodeEncodedValue (v : String) : Option String :=
  match v.splitOn "'" with
  | charset :: _ :: rest@(_ :: _) =>
    let cs := lower charset
    if cs != "utf-8" && cs != "us-ascii" then none
    else percentDecode ("'".intercalate rest).toList
  | _ => none

/-- The value that the pieces `name*0`, `name*1`, ... give, from piece
`n` on, at most `fuel` pieces; `none` when piece `n` is missing. -/
def joinPieces (name : String) (pieces : List (String × String)) : Nat → Nat → Option String
  | 0, _ => none
  | fuel + 1, n =>
    let key := name ++ "*" ++ toString n
    let rest := (joinPieces name pieces fuel (n + 1)).getD ""
    match pieces.lookup key with
    | some v => some (v ++ rest)
    | none =>
      match pieces.lookup (key ++ "*") with
      | some v =>
        let piece := if n == 0 then decodeEncodedValue v else percentDecode v.toList
        some (piece.getD "" ++ rest)
      | none => none

/-- The value the starred parameters of one name give, if any. -/
def starredValue (name : String) (pieces : List (String × String)) : Option (Option String) :=
  match pieces.lookup (name ++ "*") with
  | some v => some (decodeEncodedValue v)
  | none => (joinPieces name pieces (pieces.length + 1) 0).map some

/-- Sets a parameter, in place when it is already there. -/
def setParam (params : List (String × String)) (name value : String) : List (String × String) :=
  if (params.lookup name).isSome then params.map fun (n, v) => if n == name then (n, value) else (n, v)
  else params ++ [(name, value)]

/-- The parameters with the values of the starred ones in place. -/
def applyStarred (params : List (String × String)) (starred : List (String × List (String × String))) :
    List (String × String) :=
  starred.foldl (fun ps (name, pieces) =>
    match starredValue name pieces with
    | some (some v) => setParam ps name v
    | _ => ps) params

/-- Records a parameter named `key` with a `*` under its base name, failing
on a piece given twice with different values. -/
def addStarred (starred : List (String × List (String × String))) (key value : String) :
    Except MediaTypeError (List (String × List (String × String))) :=
  let base := (key.splitOn "*").headD ""
  match starred.lookup base with
  | none => .ok (starred ++ [(base, [(key, value)])])
  | some pieces =>
    match pieces.lookup key with
    | some v => if v == value then .ok starred else .error .duplicateParameter
    | none => .ok (starred.map fun (b, ps) => if b == base then (b, ps ++ [(key, value)]) else (b, ps))

/-- The parameters of text after the type, at most `fuel` of them, added to
those read before; starred ones are kept apart by base name and applied at
the end. -/
def readParameters (params : List (String × String)) (starred : List (String × List (String × String))) :
    Nat → List Char → Except MediaTypeError (List (String × String))
  | 0, _ => .ok (applyStarred params.reverse starred)
  | fuel + 1, cs =>
    match cs.dropWhile isSpace with
    | [] => .ok (applyStarred params.reverse starred)
    | cs =>
      match readParameter cs with
      | none =>
        if trimSpaceList cs == [';'] then .ok (applyStarred params.reverse starred)
        else .error .invalidParameter
      | some (name, value, rest) =>
        let name := String.ofList name
        let value := String.ofList value
        if name.contains '*' then
          match addStarred starred name value with
          | .ok starred => readParameters params starred fuel rest
          | .error e => .error e
        else match params.lookup name with
          | some v => if v == value then readParameters params starred fuel rest else .error .duplicateParameter
          | none => readParameters ((name, value) :: params) starred fuel rest

/-- Reads a media type. -/
def MediaType.parse (text : String) : Except MediaTypeError MediaType := do
  let cs := text.toList
  let base := cs.takeWhile (· != ';')
  let essence := trimSpaceList (lowerChars base)
  checkEssence essence
  let params ← readParameters [] [] (cs.length + 1) (cs.drop base.length)
  return { essence := String.ofList essence, params }

/-- The charset parameter of a media type, when the text reads as one and
names a charset. -/
def charsetOf (text : String) : Option String :=
  match MediaType.parse text with
  | .ok t => t.params.lookup "charset"
  | .error _ => none

/-- The media types of the common web file extensions. -/
def extensionTypes : List (String × String) :=
  [(".avif", "image/avif"), (".css", "text/css; charset=utf-8"), (".gif", "image/gif"),
   (".htm", "text/html; charset=utf-8"), (".html", "text/html; charset=utf-8"),
   (".jpeg", "image/jpeg"), (".jpg", "image/jpeg"), (".js", "text/javascript; charset=utf-8"),
   (".json", "application/json"), (".mjs", "text/javascript; charset=utf-8"),
   (".pdf", "application/pdf"), (".png", "image/png"), (".svg", "image/svg+xml"),
   (".wasm", "application/wasm"), (".webp", "image/webp"), (".xml", "text/xml; charset=utf-8")]

/-- The media type of a file extension, ignoring the case of ASCII letters;
`none` for an extension the table does not know. -/
def typeByExtension (ext : String) : Option String :=
  extensionTypes.lookup (ext.map Char.toLower)

end CriticalCss.Content
