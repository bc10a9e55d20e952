import CriticalCss.Text.Quote
/-!
# Template tokens

A template is literal text with actions between `{{` and `}}`. Outside
actions the text is one token up to the next `{{`. Inside an action the
tokens are blanks, fields (`.Name`), the cursor `.`, variables (`$x`),
identifiers and keywords, numbers, quoted and raw strings, character
constants, `|`, `(`, `)`, `=`, `:=` and single ASCII punctuation.

A `-` right after `{{` followed by a blank trims the blanks at the end of the
text before the action, and a blank and `-` right before `}}` trims the
blanks at the start of the text after it. `{{/* … */}}` is a comment and
leaves no token.

Reading stops at the first error, which becomes the last token and carries
the error's text, or at the end, which is an end token.

## Main definitions

* `TokenKind`, `Token`: tokens with their text, byte offset and line.
* `Token.describe`: how a token is named in an error.
* `tokenize`: the tokens of a template.
-/

namespace CriticalCss.Template

open CriticalCss.Text

/-- The kinds of token. The keywords come last. -/
inductive TokenKind where
  | error | bool | char | charConstant | complex | assign | declare | eof
  | field | identifier | leftDelim | leftParen | number | pipe | rawString
  | rightDelim | rightParen | space | string | text | variable
  | block | breakKw | continueKw | dot | define | elseKw | endKw | ifKw | nilKw
  | range | template | with
  deriving BEq, Repr, Inhabited

/-- Whether a token kind is a keyword, named in angle brackets in errors. -/
def TokenKind.isKeyword : TokenKind → Bool
  | .block | .breakKw | .continueKw | .dot | .define | .elseKw | .endKw | .ifKw | .nilKw
  | .range | .template | .with => true
  | _ => false

/-- A token: its kind, its text, the byte offset where it starts and the
line it starts on. -/
structure Token where
  kind : TokenKind
  text : String
  pos : Nat
  line : Nat
  deriving Repr, Inhabited

/-- A text quoted, cut to its first ten characters and marked with `...`
when it has more than ten bytes. -/
def shortQuote (s : String) : String :=
  if s.utf8ByteSize > 10 then quote (String.ofList (s.toList.take 10)) ++ "..." else quote s

/-- How a token is named in an error: `EOF`, the error's text, a keyword in
angle brackets, or the quoted text. -/
def Token.describe (t : Token) : String :=
  match t.kind with
  | .eof => "EOF"
  | .error => t.text
  | k => if k.isKeyword then "<" ++ t.text ++ ">" else shortQuote t.text

/-- A character in the form `U+0041 'A'`, the quoted part only for
printable characters. -/
def codePointText (c : Char) : String :=
  let hex := String.ofList ((Nat.toDigits 16 c.toNat).map Char.toUpper)
  let hex := String.ofList (List.replicate (4 - hex.length) '0') ++ hex
  "U+" ++ hex ++ (if isPrintable c then " '" ++ c.toString ++ "'" else "")

/-- The blanks of actions: space, tab, carriage return and line feed. -/
def isBlank (c : Char) : Bool :=
  c == ' ' || c == '\t' || c == '\r' || c == '\n'

/-- Characters of names: letters, decimal digits and `_`. -/
def isNameChar (c : Char) : Bool :=
  c == '_' || Text.isLetter c || Text.isDecimalDigit c

/-- A place where a name or number may end: a blank, the end, one of
`.,|:()`, or the closing `}}`. -/
def atTerminator : List Char → Bool
  | [] => true
  | c :: rest => isBlank c || ".,|:()".toList.contains c || (c == '}' && rest.head? == some '}')

/-- Whether the text starts with a closing delimiter, and whether that
delimiter trims (a blank and `-` before `}}`). -/
def atRightDelim : List Char → Option Bool
  | '}' :: '}' :: _ => some false
  | b :: '-' :: '}' :: '}' :: _ => if isBlank b then some true else none
  | _ => none

/-- Whether the text after `{{` starts with a trim marker: `-` and a blank. -/
def hasLeftTrim : List Char → Bool
  | '-' :: b :: _ => isBlank b
  | _ => false

/-- Where `{{` first starts in the text. -/
def findOpen : List Char → Option Nat
  | '{' :: '{' :: _ => some 0
  | _ :: rest => (findOpen rest).map (· + 1)
  | [] => none

/-- Where `*/` first starts in the text. -/
def findCommentEnd : List Char → Option Nat
  | '*' :: '/' :: _ => some 0
  | _ :: rest => (findCommentEnd rest).map (· + 1)
  | [] => none

/-- The number of leading characters that satisfy `p`. -/
def countWhile (p : Char → Bool) (cs : List Char) : Nat :=
  (cs.takeWhile p).length

/-- A place in the template: the text from there, its byte offset and line. -/
structure Cursor where
  rest : List Char
  pos : Nat
  line : Nat

/-- The cursor moved past `n` characters. -/
def Cursor.advance (c : Cursor) : Nat → Cursor
  | 0 => c
  | n + 1 =>
    match c.rest with
    | [] => c
    | ch :: r => Cursor.advance ⟨r, c.pos + ch.utf8Size, c.line + (if ch == '\n' then 1 else 0)⟩ n

/-- The token of kind `k` made of the next `n` characters. -/
def Cursor.token (c : Cursor) (k : TokenKind) (n : Nat) : Token :=
  ⟨k, String.ofList (c.rest.take n), c.pos, c.line⟩

/-- An error token at the cursor. -/
def Cursor.error (c : Cursor) (msg : String) : Token :=
  ⟨.error, msg, c.pos, c.line⟩

/-- The characters of a quoted string after its opening quote, through the
closing quote; `none` when a line or the text ends first. -/
def quotedLength (close : Char) : List Char → Nat → Option Nat
  | '\\' :: c :: rest, n => if c == '\n' then none else quotedLength close rest (n + 2)
  | c :: rest, n =>
    if c == close then some (n + 1)
    else if c == '\n' || c == '\\' then none
    else quotedLength close rest (n + 1)
  | [], _ => none

/-- How many characters of `set` stand at the start, at most one. -/
def acceptOne (set : String) : List Char → Nat
  | c :: _ => if set.toList.contains c then 1 else 0
  | [] => 0

/-- A number's characters at the start of the text: an optional sign, a base
prefix, digits, a fraction, an exponent and an imaginary mark. The flag is
false when a name character follows. -/
def numberLength (cs : List Char) : Nat × Bool :=
  let sign := acceptOne "+-" cs
  let cs1 := cs.drop sign
  let (prefixLen, digits) : Nat × String :=
    match cs1 with
    | '0' :: c :: _ =>
      if c == 'x' || c == 'X' then (2, "0123456789abcdefABCDEF_")
      else if c == 'o' || c == 'O' then (2, "01234567_")
      else if c == 'b' || c == 'B' then (2, "01_")
      else (1, "0123456789_")
    | '0' :: [] => (1, "0123456789_")
    | _ => (0, "0123456789_")
  let cs2 := cs1.drop prefixLen
  let run (set : String) (xs : List Char) := countWhile (set.toList.contains ·) xs
  let whole := run digits cs2
  let cs3 := cs2.drop whole
  let point := acceptOne "." cs3
  let frac := if point == 1 then run digits (cs3.drop 1) else 0
  let cs4 := cs3.drop (point + frac)
  let decimal := digits.length == 11
  let hex := digits.length == 23
  let expMark := if decimal then acceptOne "eE" cs4 else if hex then acceptOne "pP" cs4 else 0
  let expLen :=
    if expMark == 1 then
      let s := acceptOne "+-" (cs4.drop 1)
      1 + s + run "0123456789_" (cs4.drop (1 + s))
    else 0
  let cs5 := cs4.drop expLen
  let imag := acceptOne "i" cs5
  let len := sign + prefixLen + whole + point + frac + expLen + imag
  match cs5.drop imag with
  | c :: _ => if isNameChar c then (len + 1, false) else (len, true)
  | [] => (len, true)

/-- The keyword a word spells, if any. -/
def keywordOf (w : String) : Option TokenKind :=
  match w with
  | "block" => some .block | "break" => some .breakKw | "continue" => some .continueKw
  | "define" => some .define | "else" => some .elseKw | "end" => some .endKw
  | "if" => some .ifKw | "range" => some .range | "nil" => some .nilKw
  | "template" => some .template | "with" => some .with
  | _ => none

/-- The result of one step of reading: tokens found, and where to go on (the
cursor and whether it is inside an action), or nothing after an error or
the end. -/
structure Step where
  tokens : List Token
  next : Option (Cursor × Bool × Int)

/-- One step of reading outside an action: the text up to the next `{{`,
and the opening delimiter or comment there. -/
def stepText (cur : Cursor) : Step :=
  match findOpen cur.rest with
  | none =>
    let endCur := cur.advance cur.rest.length
    let text := if cur.rest.isEmpty then [] else [cur.token .text cur.rest.length]
    ⟨text ++ [⟨.eof, "", endCur.pos, endCur.line⟩], none⟩
  | some x =>
    let after := cur.rest.drop (x + 2)
    let trim := hasLeftTrim after
    let trimLen := if trim then countWhile isBlank (cur.rest.take x).reverse else 0
    let text := if x - trimLen > 0 then [cur.token .text (x - trimLen)] else []
    let atDelim := cur.advance x
    let inner := atDelim.advance (2 + if trim then 2 else 0)
    match inner.rest with
    | '/' :: '*' :: body =>
      match findCommentEnd body with
      | none => ⟨text ++ [inner.error "unclosed comment"], none⟩
      | some y =>
        let afterComment := inner.advance (y + 4)
        match atRightDelim afterComment.rest with
        | none => ⟨text ++ [inner.error "comment ends before closing delimiter"], none⟩
        | some t =>
          let c := afterComment.advance ((if t then 2 else 0) + 2)
          let c := if t then c.advance (countWhile isBlank c.rest) else c
          ⟨text, some (c, false, 0)⟩
    | _ => ⟨text ++ [atDelim.token .leftDelim 2], some (inner, true, 0)⟩

/-- The closing delimiter at the cursor, trimming when marked. -/
def closeAction (cur : Cursor) (trim : Bool) : Step :=
  let c := if trim then cur.advance 2 else cur
  let after := c.advance 2
  let after := if trim then after.advance (countWhile isBlank after.rest) else after
  ⟨[c.token .rightDelim 2], some (after, false, 0)⟩

/-- A field, variable or cursor after its first character (`.` or `$`):
the name characters, then a terminator. -/
def stepName (cur : Cursor) (kind bare : TokenKind) (depth : Int) : Step :=
  let more := cur.rest.drop 1
  if atTerminator more then ⟨[cur.token bare 1], some (cur.advance 1, true, depth)⟩
  else
    let k := countWhile isNameChar more
    match more.drop k with
    | c :: rest =>
      if atTerminator (c :: rest) then ⟨[cur.token kind (k + 1)], some (cur.advance (k + 1), true, depth)⟩
      else ⟨[cur.error ("bad character " ++ codePointText c)], none⟩
    | [] => ⟨[cur.token kind (k + 1)], some (cur.advance (k + 1), true, depth)⟩

/-- A number at the cursor, with an optional second part making a complex
constant. -/
def stepNumber (cur : Cursor) (depth : Int) : Step :=
  let (n, ok) := numberLength cur.rest
  let bad (m : Nat) : Step :=
    ⟨[cur.error ("bad number syntax: " ++ quote (String.ofList (cur.rest.take m)))], none⟩
  if !ok then bad n
  else match cur.rest.drop n with
    | s :: _ =>
      if s == '+' || s == '-' then
        let (m, ok2) := numberLength (cur.rest.drop n)
        if !ok2 || (cur.rest.take (n + m)).getLast? != some 'i' then bad (n + m)
        else ⟨[cur.token .complex (n + m)], some (cur.advance (n + m), true, depth)⟩
      else ⟨[cur.token .number n], some (cur.advance n, true, depth)⟩
    | [] => ⟨[cur.token .number n], some (cur.advance n, true, depth)⟩

/-- One step of reading inside an action. -/
def stepAction (cur : Cursor) (depth : Int) : Step :=
  let go (k : TokenKind) (n : Nat) (d : Int) : Step :=
    ⟨[cur.token k n], some (cur.advance n, true, d)⟩
  match atRightDelim cur.rest with
  | some trim =>
    if depth == 0 then closeAction cur trim else ⟨[cur.error "unclosed left paren"], none⟩
  | none =>
    match cur.rest with
    | [] => ⟨[cur.error "unclosed action"], none⟩
    | r :: more =>
      if isBlank r then
        let n := countWhile isBlank cur.rest
        let after := cur.rest.drop n
        if after.take 3 == ['-', '}', '}'] then
          if n == 1 then closeAction cur true
          else ⟨[cur.token .space (n - 1)], some (cur.advance (n - 1), true, depth)⟩
        else go .space n depth
      else if r == '=' then go .assign 1 depth
      else if r == ':' then
        if more.head? == some '=' then go .declare 2 depth
        else ⟨[cur.error "expected :="], none⟩
      else if r == '|' then go .pipe 1 depth
      else if r == '"' then
        match quotedLength '"' more 0 with
        | some n => go .string (n + 1) depth
        | none => ⟨[cur.error "unterminated quoted string"], none⟩
      else if r == '`' then
        match more.findIdx? (· == '`') with
        | some n => go .rawString (n + 2) depth
        | none => ⟨[cur.error "unterminated raw quoted string"], none⟩
      else if r == '$' then stepName cur .variable .variable depth
      else if r == '\'' then
        match quotedLength '\'' more 0 with
        | some n => go .charConstant (n + 1) depth
        | none => ⟨[cur.error "unterminated character constant"], none⟩
      else if r == '.' && (match more with | c :: _ => !c.isDigit | [] => false) then
        stepName cur .field .dot depth
      else if r == '.' || r == '+' || r == '-' || r.isDigit then stepNumber cur depth
      else if isNameChar r then
        let n := countWhile isNameChar cur.rest
        let word := String.ofList (cur.rest.take n)
        match cur.rest.drop n with
        | c :: rest =>
          if !atTerminator (c :: rest) then ⟨[cur.error ("bad character " ++ codePointText c)], none⟩
          else
            let k := (keywordOf word).getD (if word == "true" || word == "false" then .bool else .identifier)
            go k n depth
        | [] =>
          let k := (keywordOf word).getD (if word == "true" || word == "false" then .bool else .identifier)
          go k n depth
      else if r == '(' then go .leftParen 1 (depth + 1)
      else if r == ')' then
        if depth - 1 < 0 then ⟨[cur.error "unexpected right paren"], none⟩
        else go .rightParen 1 (depth - 1)
      else if r.toNat < 0x80 && isPrintable r then go .char 1 depth
      else ⟨[cur.error ("unrecognized character in action: " ++ codePointText r)], none⟩

/-- Reading from a cursor, at most `fuel` steps; every step but the last
moves past at least one character. -/
def tokenizeFrom : Nat → Cursor → Bool → Int → List Token
  | 0, cur, _, _ => [⟨.eof, "", cur.pos, cur.line⟩]
  | fuel + 1, cur, inAction, depth =>
    let step := if inAction then stepAction cur depth else stepText cur
    match step.next with
    | none => step.tokens
    | some (c, a, d) => step.tokens ++ tokenizeFrom fuel c a d

/-- The tokens of a template, ending with an end token or an error token. -/
def tokenize (text : String) : Array Token :=
  (tokenizeFrom (2 * text.length + 2) ⟨text.toList, 0, 1⟩ false 0).toArray

end CriticalCss.Template
