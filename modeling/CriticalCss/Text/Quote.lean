import CriticalCss.Text.Position

/-!
# Quoted text

Text written between double quotes so that it reads back exactly: quotes and
backslashes are escaped, the usual control characters get their letter
escapes (`\n`, `\t`, ...), other controls a `\x` escape, and characters with no
printed form a `\u` or `\U` escape. Printable characters, the space among the
blanks, stand as they are.

## Main definitions

* `quote`: text in double quotes with escapes.
-/

namespace CriticalCss.Text

/-- The hexadecimal digits of a number, lower case, padded to `width`. -/
def hexDigits (width n : Nat) : String :=
  let ds := Nat.toDigits 16 n
  String.ofList (List.replicate (width - ds.length) '0' ++ ds)

/-- The escaped form of one character between quotes `q`: the quote and
the backslash escaped, printable characters as they are (only ASCII ones
when `asciiOnly`), the usual controls by letter, other controls by `\x`,
and the rest by `\u` or `\U`. -/
def escapeChar (q : Char) (asciiOnly : Bool) (c : Char) : String :=
  if c == q || c == '\\' then "\\" ++ c.toString
  else if (if asciiOnly then c.toNat < 0x80 && isPrintable c else isPrintable c) then c.toString
  else match c with
    | '\x07' => "\\a"
    | '\x08' => "\\b"
    | '\x0c' => "\\f"
    | '\n' => "\\n"
    | '\r' => "\\r"
    | '\t' => "\\t"
    | '\x0b' => "\\v"
    | _ =>
      let n := c.toNat
      if n < 0x20 || n == 0x7f then "\\x" ++ hexDigits 2 n
      else if n < 0x10000 then "\\u" ++ hexDigits 4 n
      else "\\U" ++ hexDigits 8 n

/-- The escaped form of one character inside double quotes. -/
def quoteChar (c : Char) : String := escapeChar '"' false c

/-- Text in double quotes with escapes, so that it reads back exactly. -/
def quote (s : String) : String :=
  "\"" ++ String.join (s.toList.map quoteChar) ++ "\""

/-- Text in double quotes with every character beyond ASCII escaped. -/
def quoteAscii (s : String) : String :=
  "\"" ++ String.join (s.toList.map (escapeChar '"' true)) ++ "\""

/-- A character in single quotes with escapes, optionally only ASCII. -/
def quoteRune (asciiOnly : Bool) (c : Char) : String :=
  "'" ++ escapeChar '\'' asciiOnly c ++ "'"

/-- Whether text can stand between backquotes unchanged: no backquote, no
control character but the tab, and no byte order mark. -/
def canBackquote (s : String) : Bool :=
  s.toList.all fun c => c != '\x60' && c != '\uFEFF' && (c == '\t' || (c.toNat ≥ 0x20 && c.toNat != 0x7f))

end CriticalCss.Text
