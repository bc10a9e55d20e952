/-!
# Tokens of a style sheet

The lexical classes of a style sheet, following the tokenization of the CSS
syntax module: identifiers, functions, at-keywords, strings, numbers with their
units, single-character punctuation, blanks and comments.

## Main definitions

* `TokenKind`: the class of a token.
* `Token`: a class together with the exact text it covers.
* `Located`: a token together with the byte offset just past it.
* `isBlank`, `isNameStart`, `isNameChar`, `isHexDigit`: the character classes
  the scanner is built from.
-/

namespace CriticalCss.Css

/-- The lexical class of a token. -/
inductive TokenKind where
  | ident
  | function
  | atKeyword
  | hash
  | string
  | badString
  | url
  | badUrl
  | delim
  | number
  | percentage
  | dimension
  | unicodeRange
  | includeMatch
  | dashMatch
  | prefixMatch
  | suffixMatch
  | substringMatch
  | column
  | whitespace
  | cdo
  | cdc
  | colon
  | semicolon
  | comma
  | leftBracket
  | rightBracket
  | leftParen
  | rightParen
  | leftBrace
  | rightBrace
  | comment
  | customPropertyName
  | customPropertyValue
deriving DecidableEq, Repr, Inhabited

/-- A token: its class and the text it covers in the source. -/
structure Token where
  kind : TokenKind
  text : String
deriving DecidableEq, Repr, Inhabited

/-- A token with the byte offset just past it in the source. -/
structure Located where
  token : Token
  stop : Nat
deriving Repr, Inhabited

namespace TokenKind

/-- Tokens that open a nesting level: brackets, parentheses, braces and functions. -/
def opens : TokenKind → Bool
  | leftParen | leftBrace | leftBracket | function => true
  | _ => false

/-- Tokens that close a nesting level. -/
def closes : TokenKind → Bool
  | rightParen | rightBrace | rightBracket => true
  | _ => false

end TokenKind

/-- The five blank characters of the syntax: space, tab, line feed, carriage
return and form feed. -/
def isBlank (c : Char) : Bool :=
  c == ' ' || c == '\t' || c == '\n' || c == '\r' || c == '\x0c'

/-- Line feed, carriage return and form feed end a line inside a string. -/
def isNewline (c : Char) : Bool :=
  c == '\n' || c == '\r' || c == '\x0c'

/-- A letter, an underscore or any character outside ASCII may start a name. -/
def isNameStart (c : Char) : Bool :=
  ('a' ≤ c && c ≤ 'z') || ('A' ≤ c && c ≤ 'Z') || c == '_' || 0x80 ≤ c.toNat

/-- Digits and the hyphen may continue a name. -/
def isNameChar (c : Char) : Bool :=
  isNameStart c || ('0' ≤ c && c ≤ '9') || c == '-'

/-- ASCII decimal digits. -/
def isDigit (c : Char) : Bool :=
  '0' ≤ c && c ≤ '9'

/-- ASCII hexadecimal digits of either case. -/
def isHexDigit (c : Char) : Bool :=
  isDigit c || ('a' ≤ c && c ≤ 'f') || ('A' ≤ c && c ≤ 'F')

/-- The one-character text of a closing brace, used when a block end is read twice. -/
def rightBraceToken : Token := ⟨.rightBrace, "\x7d"⟩

/-- A single blank, standing for a run of blanks or comments between two tokens. -/
def blankToken : Token := ⟨.whitespace, " "⟩

/-- A colon token. -/
def colonToken : Token := ⟨.colon, ":"⟩

/-! ## Text of a token sequence -/

/-- The text of tokens with comments dropped and each run of blanks written as
one space; blanks at the front and at the end are dropped. -/
def joinText (toks : List Token) : String :=
  let step (acc : String × Bool) (t : Token) : String × Bool :=
    match t.kind with
    | .comment => acc
    | .whitespace => (acc.1, true)
    | _ =>
      let s := if acc.2 && !acc.1.isEmpty then acc.1.push ' ' else acc.1
      (s ++ t.text, false)
  (toks.foldl step ("", false)).1

/-- Splits selector tokens at the commas outside brackets, parentheses and
functions, keeping the non-empty texts. -/
def splitSelectors (toks : List Token) : List String :=
  let flush (out : Array String) (cur : Array Token) : Array String :=
    let s := joinText cur.toList
    if s.isEmpty then out else out.push s
  let step (acc : Array String × Array Token × Nat) (t : Token) : Array String × Array Token × Nat :=
    let (out, cur, depth) := acc
    match t.kind with
    | .function | .leftParen | .leftBracket => (out, cur.push t, depth + 1)
    | .rightParen | .rightBracket => (out, cur.push t, depth - 1)
    | .comma => if depth == 0 then (flush out cur, #[], depth) else (out, cur.push t, depth)
    | _ => (out, cur.push t, depth)
  let (out, cur, _) := toks.foldl step (#[], #[], 0)
  (flush out cur).toList

end CriticalCss.Css
