/-!
# YAML tokens

The tokens a YAML text is read into: stream and document markers, the
starts and ends of block and flow collections, entry, key and value
indicators, aliases, anchors, tags and scalars. Each token carries the marks
where it starts and ends: the character index, the line and the column, all
counted from zero.

A text that cannot be read fails with a problem at a mark, and often with
the context that was being read and the mark where that context started.
Its message names a line: the line of the context when it does not start on
the first line, otherwise the line of the problem; both counted from zero
for problems of the structure and from one for problems of the tokens, as
the reader of the tokens reports lines before it has passed them. A problem
on the first line names no line.

## Main definitions

* `Mark`, `Token`, `TokenKind`: tokens and where they are.
* `SyntaxError`: why a text is not YAML, with `SyntaxError.message`.
* `isBreak`, `isBlank`: the character classes of the grammar.
-/

namespace CriticalCss.Yaml

/-- A place in the text: the character index, the line and the column, all
counted from zero. -/
structure Mark where
  index : Nat := 0
  line : Nat := 0
  column : Nat := 0
  deriving Repr, Inhabited, DecidableEq

/-- How a scalar is written. -/
inductive ScalarStyle where
  | plain
  | singleQuoted
  | doubleQuoted
  | literal
  | folded
  deriving Repr, Inhabited, DecidableEq

/-- The kinds of tokens. -/
inductive TokenKind where
  | streamStart
  | streamEnd
  | versionDirective (major minor : Nat)
  | tagDirective (handle pfx : String)
  | documentStart
  | documentEnd
  | blockSequenceStart
  | blockMappingStart
  | blockEnd
  | flowSequenceStart
  | flowSequenceEnd
  | flowMappingStart
  | flowMappingEnd
  | blockEntry
  | flowEntry
  | key
  | value
  | alias (name : String)
  | anchor (name : String)
  | tag (handle suffix : String)
  | scalar (text : String) (style : ScalarStyle)
  deriving Repr, Inhabited

/-- A token with the marks where it starts and ends, and the comment lines
written right above it. -/
structure Token where
  kind : TokenKind
  start : Mark
  stop : Mark
  headComment : List String := []
  deriving Repr, Inhabited

/-- Whether a token is of the kind of another, ignoring their contents. -/
def TokenKind.sameAs : TokenKind → TokenKind → Bool
  | .streamStart, .streamStart | .streamEnd, .streamEnd | .documentStart, .documentStart
  | .documentEnd, .documentEnd | .blockSequenceStart, .blockSequenceStart
  | .blockMappingStart, .blockMappingStart | .blockEnd, .blockEnd
  | .flowSequenceStart, .flowSequenceStart | .flowSequenceEnd, .flowSequenceEnd
  | .flowMappingStart, .flowMappingStart | .flowMappingEnd, .flowMappingEnd
  | .blockEntry, .blockEntry | .flowEntry, .flowEntry | .key, .key | .value, .value => true
  | .versionDirective .., .versionDirective .. | .tagDirective .., .tagDirective ..
  | .alias _, .alias _ | .anchor _, .anchor _ | .tag .., .tag .. | .scalar .., .scalar .. => true
  | _, _ => false

/-- Why a text is not YAML: a problem at a mark, found while reading tokens
or while reading the structure, and the context it was found in. -/
structure SyntaxError where
  inTokens : Bool
  contextMark : Mark
  problem : String
  problemMark : Mark
  deriving Repr, Inhabited

/-- The line a syntax error names, or zero for none. -/
def SyntaxError.line (e : SyntaxError) : Nat :=
  let shift := if e.inTokens then 1 else 0
  if e.contextMark.line != 0 then e.contextMark.line + shift
  else if e.problemMark.line != 0 then e.problemMark.line + shift
  else 0

/-- The message of a syntax error. -/
def SyntaxError.message (e : SyntaxError) : String :=
  "yaml: " ++ (if e.line != 0 then "line " ++ toString e.line ++ ": " else "") ++ e.problem

/-- Line breaks: carriage return, line feed, next line, line separator and
paragraph separator. -/
def isBreak (c : Char) : Bool :=
  c == '\r' || c == '\n' || c == '\x85' || c == '\u2028' || c == '\u2029'

/-- Blanks: space and tab. -/
def isBlank (c : Char) : Bool := c == ' ' || c == '\t'

/-- The character that stands for the end of the text. -/
def endChar : Char := '\x00'

/-- Blanks, breaks and the end. -/
def isBlankz (c : Char) : Bool := isBlank c || isBreak c || c == endChar

/-- Breaks and the end. -/
def isBreakz (c : Char) : Bool := isBreak c || c == endChar

/-- The characters of anchor names: ASCII letters, digits, `_` and `-`. -/
def isAnchorChar (c : Char) : Bool := c.isAlphanum || c == '_' || c == '-'

/-- The characters a YAML text may hold. -/
def isAllowedChar (c : Char) : Bool :=
  let n := c.toNat
  n == 0x09 || n == 0x0a || n == 0x0d || (0x20 ≤ n && n ≤ 0x7e) || n == 0x85 ||
    (0xa0 ≤ n && n ≤ 0xd7ff) || (0xe000 ≤ n && n ≤ 0xfffd) || (0x10000 ≤ n && n ≤ 0x10ffff)

end CriticalCss.Yaml
