import CriticalCss.Css.Token

/-!
# Scanning a style sheet into tokens

The scanner reads the longest token at the front of the text, by the rules of
the CSS syntax module: a run of blanks, a comment up to `*/` (or the end), a
quoted string (a bare line end makes it a bad string), a number with an
optional percent sign or unit, an identifier, a function name with its `(`, a
`url(...)` reference, an at-keyword, a hash, the attribute match operators, and
otherwise a single delimiter character.

Each scanning rule is a function from the remaining characters to the number of
characters it takes, so that the token loop can cut the text and continue with
a strictly shorter rest.

## Main definitions

* `scanToken`: the class and length of the token at the front of a text.
* `tokenize`: the whole text as tokens, each with the byte offset just past it.
-/

namespace CriticalCss.Css

namespace Scan

/-- The number of leading characters satisfying `p`. -/
def countWhile (p : Char → Bool) : List Char → Nat
  | [] => 0
  | c :: cs => if p c then countWhile p cs + 1 else 0

/-- At most `n` leading hexadecimal digits. -/
def hexRun : Nat → List Char → Nat
  | 0, _ => 0
  | _, [] => 0
  | n + 1, c :: cs => if isHexDigit c then hexRun n cs + 1 else 0

/-- Characters of an escape after its backslash and first character `c`: up to
five more hexadecimal digits and one blank when `c` is a hexadecimal digit,
nothing otherwise. -/
def escapeTail (c : Char) (cs : List Char) : Nat :=
  if isHexDigit c then
    let h := hexRun 5 cs
    match cs.drop h with
    | d :: _ => if isBlank d then h + 1 else h
    | [] => h
  else 0

/-- An escape: a backslash followed by anything but a line end or the end of
the text. -/
def escape? : List Char → Option Nat
  | '\\' :: c :: cs => if isNewline c then none else some (2 + escapeTail c cs)
  | _ => none

/-- The length of a run of name characters and escapes. -/
def nameRun : List Char → Nat
  | [] => 0
  | '\\' :: c :: cs =>
    if isNewline c then 0
    else
      let k := escapeTail c cs
      2 + k + nameRun (cs.drop k)
  | c :: cs => if isNameChar c then nameRun cs + 1 else 0
termination_by l => l.length
decreasing_by all_goals simp only [List.length_cons, List.length_drop]; omega

/-- An identifier: an optional hyphen, a name start (or a second hyphen) or an
escape, then a name run. -/
def ident? (cs : List Char) : Option Nat :=
  let dash := match cs with
    | '-' :: _ => 1
    | _ => 0
  let body := cs.drop dash
  match body with
  | [] => none
  | c :: rest =>
    if isNameStart c || (dash == 1 && c == '-') then some (dash + 1 + nameRun rest)
    else match escape? body with
      | some n => some (dash + n + nameRun (body.drop n))
      | none => none

/-- An exponent `e`, an optional sign and at least one digit; zero if absent. -/
def exponent (cs : List Char) : Nat :=
  match cs with
  | e :: rest =>
    if e == 'e' || e == 'E' then
      let sign := match rest with
        | '+' :: _ => 1
        | '-' :: _ => 1
        | _ => 0
      let d := countWhile isDigit (rest.drop sign)
      if d == 0 then 0 else 1 + sign + d
    else 0
  | [] => 0

/-- A number: an optional sign, digits, a fraction and an exponent. A point
not followed by a digit ends the number before it, and then no exponent is
read. -/
def number? (cs : List Char) : Option Nat :=
  let sign := match cs with
    | '+' :: _ => 1
    | '-' :: _ => 1
    | _ => 0
  let a := cs.drop sign
  let d := countWhile isDigit a
  match a.drop d with
  | '.' :: rest =>
    let f := countWhile isDigit rest
    if 0 < f then
      let n := sign + d + 1 + f
      some (n + exponent (cs.drop n))
    else if 0 < d then some (sign + d)
    else none
  | _ =>
    if 0 < d then
      let n := sign + d
      some (n + exponent (cs.drop n))
    else none

/-- A number followed by a percent sign, a unit, or nothing. -/
def numeric? (cs : List Char) : Option (TokenKind × Nat) :=
  match number? cs with
  | none => none
  | some n =>
    match cs.drop n with
    | '%' :: _ => some (.percentage, n + 1)
    | rest =>
      match ident? rest with
      | some m => some (.dimension, n + m)
      | none => some (.number, n)

/-- The body of a string after its opening quote: whether a line end made it a
bad string, and how many characters it takes. The closing quote, or the line
end of a bad string, is taken; an unterminated string runs to the end. A
backslash before a line end takes the line end with it. -/
def stringBody (quote : Char) : List Char → Bool × Nat
  | [] => (false, 0)
  | ['\\'] => (false, 1)
  | '\\' :: '\r' :: '\n' :: cs =>
    let r := stringBody quote cs
    (r.1, 3 + r.2)
  | '\\' :: d :: cs =>
    if isNewline d then
      let r := stringBody quote cs
      (r.1, 2 + r.2)
    else
      let k := escapeTail d cs
      let r := stringBody quote (cs.drop k)
      (r.1, 2 + k + r.2)
  | c :: cs =>
    if isNewline c then (true, 1)
    else if c == quote then (false, 1)
    else
      let r := stringBody quote cs
      (r.1, 1 + r.2)
termination_by l => l.length
decreasing_by all_goals simp only [List.length_cons, List.length_drop]; omega

/-- The rest of a comment after its `/*`, up to and including `*/`. -/
def commentBody : List Char → Nat
  | [] => 0
  | '*' :: '/' :: _ => 2
  | _ :: cs => commentBody cs + 1

/-- The characters an unquoted url may not hold. -/
def urlStop (c : Char) : Bool :=
  c == '"' || c == '\'' || c == '(' || c == '\\' || c == ' ' || c.toNat ≤ 0x1f || c.toNat == 0x7f

/-- An unquoted url up to `)` or the end: whether it ended well, and how many
characters it took before stopping. Escapes are taken whole. -/
def unquotedUrl : List Char → Bool × Nat
  | [] => (true, 0)
  | '\\' :: d :: cs =>
    if isNewline d then (false, 0)
    else
      let k := escapeTail d cs
      let r := unquotedUrl (cs.drop k)
      (r.1, 2 + k + r.2)
  | c :: cs =>
    if c == ')' then (true, 0)
    else if urlStop c then (false, 0)
    else
      let r := unquotedUrl cs
      (r.1, 1 + r.2)
termination_by l => l.length
decreasing_by all_goals simp only [List.length_cons, List.length_drop]; omega

/-- What is left of a bad url: everything up to and including `)`, escapes
taken whole. -/
def badUrlRest : List Char → Nat
  | [] => 0
  | '\\' :: d :: cs =>
    if isNewline d then 1 + badUrlRest (d :: cs)
    else
      let k := escapeTail d cs
      2 + k + badUrlRest (cs.drop k)
  | c :: cs => if c == ')' then 1 else 1 + badUrlRest cs
termination_by l => l.length
decreasing_by all_goals simp only [List.length_cons, List.length_drop]; omega

/-- A url reference after `url(`: blanks, a quoted string or an unquoted url,
blanks, then `)` or the end. Anything else makes it a bad url, which runs to
the next `)`. -/
def urlBody (cs : List Char) : TokenKind × Nat :=
  let ws := countWhile isBlank cs
  let r := cs.drop ws
  let close (p : Nat) : TokenKind × Nat :=
    let q := p + countWhile isBlank (cs.drop p)
    match cs.drop q with
    | ')' :: _ => (.url, q + 1)
    | [] => (.url, q)
    | rest => (.badUrl, q + badUrlRest rest)
  match r with
  | q :: r2 =>
    if q == '"' || q == '\'' then
      let (bad, k) := stringBody q r2
      if bad then (.badUrl, ws + 1 + k + badUrlRest (r2.drop k))
      else close (ws + 1 + k)
    else
      let (ok, k) := unquotedUrl r
      if ok then close (ws + k)
      else match r.drop k with
        | c :: _ =>
          if isBlank c then close (ws + k + 1)
          else (.badUrl, ws + k + badUrlRest (r.drop k))
        | [] => close (ws + k)
  | [] => close ws

/-- ASCII case-insensitive equality with `url`, backslashes ignored. -/
def isUrlName (name : List Char) : Bool :=
  (name.filter (· != '\\')).map Char.toLower == ['u', 'r', 'l']

/-- An identifier, a function name with its `(`, or a whole url reference. -/
def identlike? (cs : List Char) : Option (TokenKind × Nat) :=
  match ident? cs with
  | none => none
  | some n =>
    match cs.drop n with
    | '(' :: rest =>
      if isUrlName (cs.take n) then
        let (k, m) := urlBody rest
        some (k, n + 1 + m)
      else some (.function, n + 1)
    | _ => some (.ident, n)

/-- A unicode range `u+` with up to six hexadecimal digits, question marks, or
two groups of digits joined by a hyphen. -/
def unicodeRange? (cs : List Char) : Option Nat :=
  match cs with
  | u :: '+' :: rest =>
    if u == 'u' || u == 'U' then
      let k := countWhile isHexDigit rest
      let r := rest.drop k
      match r with
      | '-' :: r2 =>
        if k == 0 || 6 < k then none
        else
          let k2 := countWhile isHexDigit r2
          if k2 == 0 || 6 < k2 then none else some (2 + k + 1 + k2)
      | '?' :: r2 =>
        let qs := countWhile (· == '?') r2
        let total := k + 1 + qs
        if 6 < total then none else some (2 + total)
      | _ => if k == 0 || 6 < k then none else some (2 + k)
    else none
  | _ => none

/-- A hash: `#` and a run of name characters or escapes. -/
def hash? (rest : List Char) : Option Nat :=
  match rest with
  | c :: cs =>
    if isNameChar c then some (1 + 1 + nameRun cs)
    else match escape? rest with
      | some n => some (1 + n + nameRun (rest.drop n))
      | none => none
  | [] => none

/-- The attribute match operators `~=`, `|=`, `^=`, `$=` and `*=`. -/
def matchOp? : List Char → Option TokenKind
  | '~' :: '=' :: _ => some .includeMatch
  | '|' :: '=' :: _ => some .dashMatch
  | '^' :: '=' :: _ => some .prefixMatch
  | '$' :: '=' :: _ => some .suffixMatch
  | '*' :: '=' :: _ => some .substringMatch
  | _ => none

end Scan

open Scan in
/-- The class and length of the token at the front of a non-empty text. Every
result takes at least one character; a character that starts no other token
is a delimiter of its own. -/
def scanToken (cs : List Char) : TokenKind × Nat :=
  let delim : TokenKind × Nat := (.delim, 1)
  let orDelim (r : Option (TokenKind × Nat)) : TokenKind × Nat := r.getD delim
  match cs with
  | [] => delim
  | c :: rest =>
    if isBlank c then (.whitespace, 1 + countWhile isBlank rest)
    else match c with
    | ':' => (.colon, 1)
    | ';' => (.semicolon, 1)
    | ',' => (.comma, 1)
    | '(' => (.leftParen, 1)
    | ')' => (.rightParen, 1)
    | '[' => (.leftBracket, 1)
    | ']' => (.rightBracket, 1)
    | '{' => (.leftBrace, 1)
    | '}' => (.rightBrace, 1)
    | '#' => orDelim ((hash? rest).map (.hash, ·))
    | '"' => let (bad, k) := stringBody c rest; (if bad then .badString else .string, 1 + k)
    | '\'' => let (bad, k) := stringBody c rest; (if bad then .badString else .string, 1 + k)
    | '.' => orDelim (numeric? cs)
    | '+' => orDelim (numeric? cs)
    | '-' =>
      match numeric? cs with
      | some r => r
      | none =>
        match rest with
        | '-' :: '>' :: _ => (.cdc, 3)
        | '-' :: names => (.customPropertyName, 2 + nameRun names)
        | _ => orDelim (identlike? cs)
    | '@' => orDelim ((ident? rest).map (fun n => (.atKeyword, 1 + n)))
    | '$' => orDelim ((matchOp? cs).map (·, 2))
    | '*' => orDelim ((matchOp? cs).map (·, 2))
    | '^' => orDelim ((matchOp? cs).map (·, 2))
    | '~' => orDelim ((matchOp? cs).map (·, 2))
    | '/' =>
      match rest with
      | '*' :: body => (.comment, 2 + commentBody body)
      | _ => delim
    | '<' =>
      match rest with
      | '!' :: '-' :: '-' :: _ => (.cdo, 4)
      | _ => delim
    | '\\' => orDelim (identlike? cs)
    | 'u' => orDelim ((unicodeRange? cs).map (.unicodeRange, ·) <|> identlike? cs)
    | 'U' => orDelim ((unicodeRange? cs).map (.unicodeRange, ·) <|> identlike? cs)
    | '|' =>
      match rest with
      | '=' :: _ => (.dashMatch, 2)
      | '|' :: _ => (.column, 2)
      | _ => delim
    | _ => orDelim (numeric? cs <|> identlike? cs)

/-- Splits characters into tokens, `offset` being the byte offset of the first one. -/
def tokenizeFrom (offset : Nat) (cs : List Char) : List Located :=
  match _h : cs with
  | [] => []
  | _ :: _ =>
    let (kind, n) := scanToken cs
    let n := max n 1
    let text := String.ofList (cs.take n)
    let stop := offset + text.utf8ByteSize
    ⟨⟨kind, text⟩, stop⟩ :: tokenizeFrom stop (cs.drop n)
termination_by cs.length
decreasing_by simp only [_h, List.length_drop, List.length_cons]; omega

/-- The tokens of a style sheet, each with the byte offset just past it. -/
def tokenize (s : String) : List Located :=
  tokenizeFrom 0 s.toList

end CriticalCss.Css
