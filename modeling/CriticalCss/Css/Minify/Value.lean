import CriticalCss.Css.Lexer
import CriticalCss.Css.Minify.Number
import CriticalCss.Css.Minify.Color
import CriticalCss.Css.Minify.DataUri
import CriticalCss.Text.FloatText
import CriticalCss.Text.Binary64

/-!
# Compact declaration values

A declaration value is compacted when it is a plain list: components
separated by blanks, commas or `/`, where a component is a token or a
function call with its arguments as read, blanks included. Any other value,
with a bracket outside a function or two components that touch, is written
as read. A function that the input leaves open is closed.

In a plain list every number takes its shortest form, and so does every
number of a percentage or dimension. Outside functions, and never in `flex`,
a dimension whose short number starts with `0` is written `0` when its unit
is one that a zero may drop. The unit tested is the one the shortening
leaves in place: the short number and then the unit are written over the
dimension's own text, and when the short number is a zero written after
leading zeros or a point, the unit written after it overlaps where the unit
was, so the unit read there is a mix of the two (`0.0px` reads `xx` and
keeps its unit, `-.0em` reads `mm` and drops it).

Strings lose the escaped line breaks after their first one that is followed
by more text; a `url(...)` longer than ten bytes loses its blanks and, when
it can, its quotes, and a `data:` address inside takes its shorter form.
`local(...)` of one string loses the quotes when the name can stand
without them. A color function `rgb(...)`, `rgba(...)`, `hsl(...)` or
`hsla(...)` of numbers is shortened: a clear color is `transparent`, an
opaque one hexadecimal, and the alpha of another takes its shorter spelling.
The rules of single properties come after, on the components read here.

## Main definitions

* `Component`: a token or a function with its arguments.
* `components`: the components of a plain list, if the value is one.
* `minifyComponents`: the shortening of the components' tokens.
* `minifyColor`: the shortest spelling of a color component.
* `Component.isZero`, `Component.isLength`: what a component may stand for.
-/

namespace CriticalCss.Css

open CriticalCss.Text

/-- A component of a declaration value. -/
inductive Component where
  | token (t : Token)
  /-- A function: its name with `(`, and its arguments. -/
  | function (name : String) (args : List Component)
deriving Repr, Inhabited, BEq

/-- ASCII lower case of a text. -/
def lowerAscii (s : String) : String :=
  s.map Char.toLower

/-- Whether a token separates components: a comma or `/`. -/
def isSeparator (t : Token) : Bool :=
  t.kind == .comma || (t.kind == .delim && t.text == "/")

/-- Whether a token is a bracket outside functions. -/
def isBracket (k : TokenKind) : Bool :=
  k == .leftParen || k == .leftBrace || k == .leftBracket ||
    k == .rightParen || k == .rightBrace || k == .rightBracket

/-! ## Grouping -/

/-- Whether a component is a comma. -/
def Component.isComma : Component → Bool
  | .token t => t.kind == .comma
  | _ => false

/-- Whether a component is a token of a kind. -/
def Component.isKind (k : TokenKind) : Component → Bool
  | .token t => t.kind == k
  | _ => false

/-- The arguments of a function up to its closing parenthesis, the tokens
after it, and whether the parenthesis came. A parenthesis inside opens a
group that is kept flat, and a function inside is one argument with its own
arguments. Arguments that the input leaves open run to its end. -/
def groupArgs : Nat → List Token → List Component × List Token × Bool
  | 0, _ => ([], [], false)
  | _ + 1, [] => ([], [], false)
  | fuel + 1, t :: ts =>
    match t.kind with
    | .rightParen => ([], ts, true)
    | .function =>
      let (args, rest, closed) := groupArgs fuel ts
      if !closed then ([.function t.text args], rest, false)
      else
        let (more, rest, closed) := groupArgs fuel rest
        (.function t.text args :: more, rest, closed)
    | .leftParen =>
      let (inner, rest, closed) := groupArgs fuel ts
      if !closed then (.token t :: inner, rest, false)
      else
        let (more, rest, closed) := groupArgs fuel rest
        (.token t :: inner ++ .token ⟨.rightParen, ")"⟩ :: more, rest, closed)
    | _ =>
      let (more, rest, closed) := groupArgs fuel ts
      (.token t :: more, rest, closed)

/-- The components of a plain list of tokens, or `none` when the value is not
one. Blanks are dropped; they are written back between components. -/
def components (toks : List Token) : Option (List Component) :=
  go (toks.length + 1) true toks
where
  go : Nat → Bool → List Token → Option (List Component)
    | 0, _, _ => none
    | _, _, [] => some []
    | fuel + 1, prevSep, t :: ts =>
      if isBracket t.kind then none
      else if !prevSep && t.kind != .whitespace && !isSeparator t then none
      else if t.kind == .whitespace then go fuel true ts
      else if isSeparator t then (.token t :: ·) <$> go fuel true ts
      else if t.kind == .function then
        let (args, rest, _) := groupArgs fuel ts
        (.function t.text args :: ·) <$> go fuel false rest
      else (.token t :: ·) <$> go fuel false ts

/-! ## Tokens -/

/-- Properties whose numbers are integers, kept as written. -/
def integerProperties : List String :=
  ["z-index", "counter-increment", "counter-reset", "orphans", "widows"]

/-- Units that a zero can drop. -/
def droppableZeroUnits : List String :=
  ["px", "mm", "q", "cm", "in", "pt", "pc", "ch", "em", "ex", "rem", "vh", "vw", "vmin",
   "vmax", "deg", "grad", "rad", "turn"]

/-- A dimension's number and its unit: the ASCII letters that end it, in
lower case. -/
def splitDimension (text : String) : String × String :=
  let cs := text.toList
  let isLetter (c : Char) : Bool := ('a' ≤ c && c ≤ 'z') || ('A' ≤ c && c ≤ 'Z')
  let unitLen := (cs.reverse.takeWhile isLetter).length
  (String.ofList (cs.take (cs.length - unitLen)),
   String.ofList ((cs.drop (cs.length - unitLen)).map Char.toLower))

/-- The unit read where it stood after the short number and then the unit
are written over the text of the number and unit. The short number ends at
`written`, which is the number's end unless it is a zero written further
in; a unit written `shift` places early reads, where it stood, as its part
after the first `shift` characters and then its own last `shift` characters. -/
def unitAfterWrite (num unit : String) : String :=
  let written := match zeroOffset? num with
    | some o => o + 1
    | none => num.length
  let shift := num.length - written
  let cs := unit.toList
  if shift == 0 || cs.length ≤ shift then unit
  else String.ofList (cs.drop shift ++ cs.drop (cs.length - shift))

/-- Whether a character is a blank for trimming. -/
def isTrimBlank (c : Char) : Bool :=
  c == ' ' || c == '\t' || c == '\n' || c == '\r' || c == '\x0c'

/-- A text without blanks at either end. -/
def trimBlanks (cs : List Char) : List Char :=
  (cs.dropWhile isTrimBlank).reverse.dropWhile isTrimBlank |>.reverse

/-- Whether a character is a line feed or carriage return. -/
def isLineBreak (c : Char) : Bool := c == '\n' || c == '\r'

/-- The text with every escaped line break removed: a backslash before a
line feed, a carriage return, or a carriage return and line feed. -/
def dropEscapedBreaks : List Char → List Char
  | '\\' :: '\r' :: '\n' :: rest => dropEscapedBreaks rest
  | '\\' :: c :: rest => if isLineBreak c then dropEscapedBreaks rest else '\\' :: dropEscapedBreaks (c :: rest)
  | c :: rest => c :: dropEscapedBreaks rest
  | [] => []

/-- A quoted text without escaped line breaks. Nothing changes unless one
after the first character is followed by at least one more character; from
the first such one on, every escaped line break goes. -/
def removeMarkupNewlines (cs : List Char) : List Char :=
  match cs with
  | [] => []
  | c :: rest => c :: go rest
where
  go : List Char → List Char
    | '\\' :: b :: next :: rest =>
      if isLineBreak b then
        if b == '\r' && next == '\n' then dropEscapedBreaks rest
        else dropEscapedBreaks (next :: rest)
      else '\\' :: go (b :: next :: rest)
    | c :: rest => c :: go rest
    | [] => []

/-- Whether a url can be written without quotes. -/
def urlUnquoted (cs : List Char) : Bool :=
  cs.all fun c => !(c == '"' || c == '\'' || c == '(' || c == ')' || c == '\\' ||
    c.toNat ≤ 0x20 || c.toNat == 0x7f)

/-- Whether a url is a `data:` address, the scheme in any case. -/
def isDataScheme (uri : List Char) : Bool :=
  4 < uri.length && lowerAscii (String.ofList (uri.take 5)) == "data:"

/-- A `url(...)` token longer than ten bytes without blanks around its
target, a `data:` target in its shorter form, and without quotes when the
target does not need them. The token's last character is taken for its
closing parenthesis. `sheet` compacts a style sheet. -/
def minifyUrl (sheet : String → String) (text : String) : String :=
  if text.utf8ByteSize ≤ 10 then text
  else
    let cs := text.toList
    let inner := trimBlanks ((cs.drop 4).dropLast)
    let (delim, uri) := match inner with
      | q :: _ :: _ =>
        if q == '\'' || q == '"' then (q, ((removeMarkupNewlines inner).drop 1).dropLast)
        else ('"', inner)
      | _ => ('"', inner)
    let uri :=
      if isDataScheme uri then
        match String.fromUTF8? (ByteArray.mk (minifyDataUri sheet (textBytes (String.ofList uri))).toArray) with
        | some t => t.toList
        | none => uri
      else uri
    if urlUnquoted uri then "url(" ++ String.ofList uri ++ ")"
    else "url(" ++ String.ofList (delim :: uri ++ [delim]) ++ ")"

/-- A token in its shortest form, in a property and inside a function or not.
A dimension outside functions whose short number starts with `0` drops its
unit when the unit left in place is one a zero may drop: short numbers start
with `0` only when they are zero or kept as written. -/
def minifyToken (sheet : String → String) (prop : String) (inFunction : Bool) (t : Token) : Token :=
  match t.kind with
  | .number => if integerProperties.contains prop then t else ⟨.number, shortNumber t.text⟩
  | .percentage => ⟨.percentage, shortNumber (String.ofList t.text.toList.dropLast) ++ "%"⟩
  | .dimension =>
    let (num, unit) := splitDimension t.text
    let short := shortNumber num
    if short.startsWith "0" && !inFunction && prop != "flex" &&
        droppableZeroUnits.contains (unitAfterWrite num unit) then ⟨.dimension, "0"⟩
    else ⟨.dimension, short ++ unit⟩
  | .string => ⟨.string, String.ofList (removeMarkupNewlines t.text.toList)⟩
  | .url => ⟨.url, minifyUrl sheet t.text⟩
  | _ => t

/-! ## Colors -/

/-- The text a component starts with: a token's text or a function's name. -/
def Component.lead : Component → String
  | .token t => t.text
  | .function name _ => name

/-- A color token in its shortest spelling. -/
def minifyColor : Component → Component
  | .token t =>
    match t.kind with
    | .ident =>
      match hexForName (lowerAscii t.text) with
      | some h => .token ⟨.hash, h⟩
      | none => .token t
    | .hash =>
      let h := lowerAscii t.text
      match nameForHex h with
      | some n => .token ⟨.ident, n⟩
      | none => .token ⟨.hash, shortHex h⟩
    | _ => .token t
  | c => c

/-- How close to zero or one a channel counts as that end. -/
def colorEpsilon : Float := 0.00001

/-- A channel held to [0, 1] where it is within `colorEpsilon` of an end. -/
def snapUnit (v : Float) : Float :=
  if v < colorEpsilon then 0 else if 1 - colorEpsilon < v then 1 else v

/-- A number read as a binary32 number, as color channels are; `none` when
it does not read or is too large for binary32. -/
def channelNumber? (text : String) : Option Float :=
  (parseGoFloat text).bind fun v =>
    let w := v.toFloat32.toFloat
    if w.isInf || w.isNaN then none else some w

/-- The value of a numeric argument of a color function: a number as it
is, a percentage as a fraction of one snapped to the ends. -/
def colorNumber? : Component → Option Float
  | .token t =>
    if t.kind == .number then channelNumber? t.text
    else if t.kind == .percentage then
      (channelNumber? (String.ofList t.text.toList.dropLast)).map fun v => snapUnit (v / 100)
    else none
  | _ => none

/-- Whether an argument separates the values of a color function at a
place: a comma, or a blank anywhere but before a fourth value, where `/`
may stand instead. -/
def colorSeparator (i : Nat) : Component → Bool
  | .token t =>
    t.kind == .comma || (i != 5 && t.kind == .whitespace) ||
      (i == 5 && t.kind == .delim && t.text == "/")
  | _ => false

/-- The values of a color function's arguments, which alternate values and
separators. -/
def colorValues : Nat → List Component → Option (List Float)
  | _, [] => some []
  | i, a :: rest =>
    if i % 2 == 0 then
      match colorNumber? a with
      | some v => (v :: ·) <$> colorValues (i + 1) rest
      | none => none
    else if colorSeparator i a then colorValues (i + 1) rest
    else none

/-- Two hexadecimal digits of a byte. -/
def hexByte (n : Nat) : String :=
  let d (k : Nat) : Char := "0123456789abcdef".toList.getD k '0'
  String.ofList [d (n / 16 % 16), d (n % 16)]

/-- The byte of a channel: scaled to 255, half added, cut toward zero to an
integer and taken modulo 256. -/
def channelByte (v : Float) : Nat :=
  ((v * 255 + 0.5).toInt64.toInt % 256).toNat

/-- A color of three channels in [0, 1] in its shortest spelling. -/
def rgbComponent (r g b : Float) : Component :=
  minifyColor (.token ⟨.hash, "#" ++ hexByte (channelByte r) ++ hexByte (channelByte g) ++ hexByte (channelByte b)⟩)

/-- One channel of a hue, saturation and lightness color. -/
def hueChannel (m1 m2 h : Float) : Float :=
  let h := if h < 0 then h + 1 else h
  let h := if h > 1 then h - 1 else h
  if h * 6 < 1 then m1 + (m2 - m1) * h * 6
  else if h * 2 < 1 then m2
  else if h * 3 < 2 then m1 + (m2 - m1) * (2 / 3 - h) * 6
  else m1

/-- The red, green and blue channels of a hue (in turns), saturation and
lightness. -/
def hslToRgb (h s l : Float) : Float × Float × Float :=
  let m2 := if l ≤ 0.5 then l * (s + 1) else l + s - l * s
  let m1 := l * 2 - m2
  (hueChannel m1 m2 (h + 1 / 3), hueChannel m1 m2 h, hueChannel m1 m2 (h - 1 / 3))

/-- An alpha in its shorter spelling: a percentage of two digits ending in
`0` as the fraction `.d`, and a fraction `.0d` or `.00…` as the percentage
`d%` or `.…%`. -/
def minifyAlpha : Component → Component
  | .token t =>
    match t.kind, t.text.toList with
    | .percentage, [d, '0', '%'] => .token ⟨.number, String.ofList ['.', d]⟩
    | .number, '.' :: '0' :: '0' :: ds => .token ⟨.percentage, String.ofList ('.' :: ds ++ ['%'])⟩
    | .number, ['.', '0', d] => .token ⟨.percentage, String.ofList [d, '%']⟩
    | _, _ => .token t
  | c => c

/-- The exact value of a finite nonnegative binary64 number. -/
def floatRatio (x : Float) : Ratio :=
  let (_, biased, fraction) := floatFields x
  let (m, e) := significandOf biased fraction
  binaryRatio m e

/-- Whether the remainder of `x` divided by `y`, both finite and positive,
is at least `t`, computed exactly. -/
def remainderAtLeast (x y t : Float) : Bool :=
  let a := floatRatio x
  let b := floatRatio y
  let c := floatRatio t
  let q := a.num * b.den / (a.den * b.num)
  -- x - q * y = (a.num * b.den - q * b.num * a.den) / (a.den * b.den)
  c.num * (a.den * b.den) ≤ (a.num * b.den - q * b.num * a.den) * c.den

/-- A channel percentage as the number out of 255 it equals, for the
percentages 0, 20, 40, 60, 80 and 100 that are exact. -/
def exactChannel (v : Float) : Option String :=
  if v < colorEpsilon then some "0"
  else if (v - 0.2).abs < colorEpsilon then some "51"
  else if (v - 0.4).abs < colorEpsilon then some "102"
  else if (v - 0.6).abs < colorEpsilon then some "153"
  else if (v - 0.8).abs < colorEpsilon then some "204"
  else if (v - 1).abs < colorEpsilon then some "255"
  else none

/-- The three channel arguments of `rgb`, when all are percentages within
`2 * colorEpsilon` above a multiple of 20%, written as numbers out of 255. -/
def exactPercentChannels (args : List Component) (vals : List Float) : List Component :=
  let channels := [0, 1, 2]
  if channels.all fun j => (args.getD (2 * j) default).isKind .percentage &&
      !remainderAtLeast (vals.getD j 0 + colorEpsilon) 0.2 (2 * colorEpsilon) then
    channels.foldl (fun (acc : List Component) j =>
      let arg := acc.getD (2 * j) default
      let text := (exactChannel (vals.getD j 0)).getD arg.lead
      acc.set (2 * j) (.token ⟨.number, text⟩)) args
  else args

/-- The shortening of a color function `rgb`, `rgba`, `hsl` or `hsla` whose
arguments are numbers and percentages separated alike. Four values that are
all zero make `transparent`; an alpha of one is dropped, with the `a` of
the name; an opaque `rgb` color, and an opaque `hsl` color (for `hsla`
only with a hue number and two percentages), becomes hexadecimal. Another
alpha takes its shorter spelling, and `rgb` channels at exact percentages
become numbers. -/
def minifyColorFunction (name : String) (args : List Component) : Component :=
  let fn := lowerAscii name
  let isRgb := fn == "rgb(" || fn == "rgba("
  if !(isRgb || fn == "hsl(" || fn == "hsla(") then .function name args
  else
    match colorValues 0 args with
    | none => .function name args
    | some vals =>
      let allZero := vals.length == 4 && vals.all (· < colorEpsilon)
      if allZero then .token ⟨.ident, "transparent"⟩
      else
        let opaqueAlpha := vals.length == 4 && 1 - colorEpsilon < vals.getD 3 0
        let (vals, kept, name) :=
          if opaqueAlpha then
            (vals.take 3, args.take (args.length - 2),
              if fn == "rgba(" || fn == "hsla(" then String.ofList ((name.toList.take (name.length - 2)) ++ ['(']) else name)
          else (vals, args, name)
        let noAlpha := vals.length == 3
        let hslTyped := (args.getD 0 default).isKind .number && (args.getD 2 default).isKind .percentage &&
          (args.getD 4 default).isKind .percentage
        if noAlpha && isRgb then
          let scale (k : Nat) (v : Float) : Float :=
            if (args.getD k default).isKind .number then snapUnit (v / 255) else v
          rgbComponent (scale 0 (vals.getD 0 0)) (scale 2 (vals.getD 1 0)) (scale 4 (vals.getD 2 0))
        else if noAlpha && (fn == "hsl(" || (fn == "hsla(" && hslTyped)) then
          let h := vals.getD 0 0 / 360
          let h := h - (if h < 0 then h.ceil else h.floor)
          let h := if h < 0 then 1 + h else h
          let (r, g, b) := hslToRgb h (vals.getD 1 0) (vals.getD 2 0)
          rgbComponent r g b
        else
          let kept := if !noAlpha && vals.length == 4 then kept.set 6 (minifyAlpha (kept.getD 6 default)) else kept
          let kept := if 3 ≤ vals.length && isRgb then exactPercentChannels kept vals else kept
          .function name kept

/-- `local(...)` of one string without its quotes when the name can stand
without them. -/
def unquoteLocal (name : String) (args : List Component) : List Component :=
  match args with
  | [.token t] =>
    let inner := (t.text.toList.drop 1).dropLast
    if lowerAscii name == "local(" && t.kind == .string && urlUnquoted inner then [.token ⟨.string, String.ofList inner⟩]
    else args
  | _ => args

mutual

/-- A component with its tokens in shortest form. -/
def minifyComponent (sheet : String → String) (prop : String) (inFunction : Bool) : Component → Component
  | .token t => .token (minifyToken sheet prop inFunction t)
  | .function name args =>
    let args := minifyComponents sheet prop true args
    match minifyColorFunction name args with
    | .function name args => .function name (unquoteLocal name args)
    | c => c

/-- Components with their tokens in shortest form. -/
def minifyComponents (sheet : String → String) (prop : String) (inFunction : Bool) : List Component → List Component
  | [] => []
  | c :: cs => minifyComponent sheet prop inFunction c :: minifyComponents sheet prop inFunction cs

end

/-! ## Reading components -/

mutual

/-- The text of a component. -/
def Component.text : Component → String
  | .token t => t.text
  | .function name args => name ++ componentsText args ++ ")"

/-- The text of function arguments, written as they are. -/
def componentsText : List Component → String
  | [] => ""
  | c :: cs => c.text ++ componentsText cs

end

/-- The keyword a component is, in lower case, when it is an identifier. -/
def Component.keyword? : Component → Option String
  | .token t => if t.kind == .ident then some (lowerAscii t.text) else none
  | _ => none

/-- Whether a component is an identifier among `names`, ignoring case. -/
def Component.isIdentIn (names : List String) (c : Component) : Bool :=
  match c.keyword? with
  | some k => names.contains k
  | none => false

/-- Whether a component is a zero: a number, percentage or dimension whose
text starts with `0`, which after shortening only a zero does. -/
def Component.isZero (c : Component) : Bool :=
  (c.isKind .number || c.isKind .percentage || c.isKind .dimension) && c.lead.startsWith "0"

/-- Functions whose value may be a length. -/
def lengthFunctions : List String :=
  ["calc(", "min(", "max(", "clamp(", "attr("]

/-- Whether a component may be a length: a dimension, a zero number, or a
function that may compute one. -/
def Component.isLength : Component → Bool
  | .token t => t.kind == .dimension || (t.kind == .number && t.text.startsWith "0")
  | .function name _ => lengthFunctions.contains name

/-- Whether a component may be a length or a percentage. -/
def Component.isLengthPercentage (c : Component) : Bool :=
  c.isKind .percentage || c.isLength

/-- Whether a component is the separator `/`. -/
def Component.isSlash : Component → Bool
  | .token t => t.kind == .delim && t.text == "/"
  | _ => false

/-- An identifier component. -/
def identComponent (name : String) : Component := .token ⟨.ident, name⟩

/-- A number component. -/
def numberComponent (text : String) : Component := .token ⟨.number, text⟩

/-- Components split at commas, empty parts kept. -/
def splitAtCommas (cs : List Component) : List (List Component) :=
  cs.foldr (fun c (acc : List (List Component)) =>
    if c.isComma then [] :: acc
    else match acc with
      | l :: rest => (c :: l) :: rest
      | [] => [[c]]) [[]]

/-- Parts joined by commas. -/
def joinWithCommas (parts : List (List Component)) : List Component :=
  List.intercalate [Component.token ⟨.comma, ","⟩] parts

/-- Whether a text is one identifier. -/
def isIdentText (s : String) : Bool :=
  Scan.ident? s.toList == some s.length

end CriticalCss.Css
