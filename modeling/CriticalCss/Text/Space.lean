/-!
# White space

The characters with the Unicode `White_Space` property, and trimming them from
both ends of a text.

## Main definitions

* `isSpace`: the `White_Space` property.
* `trimSpace`: a text without leading and trailing white space.
-/

namespace CriticalCss.Text

/-- The Unicode `White_Space` property: tab, line feed, vertical tab, form
feed, carriage return, space, next line, no-break space, ogham space mark, the
spaces from en quad to hair space, the line and paragraph separators, the
narrow no-break space, the medium mathematical space and the ideographic space. -/
def isSpace (c : Char) : Bool :=
  let n := c.toNat
  (0x09 ≤ n && n ≤ 0x0d) || n == 0x20 || n == 0x85 || n == 0xa0 || n == 0x1680 ||
    (0x2000 ≤ n && n ≤ 0x200a) || n == 0x2028 || n == 0x2029 || n == 0x202f ||
    n == 0x205f || n == 0x3000

/-- The characters of a text without leading and trailing white space. -/
def trimSpaceList (cs : List Char) : List Char :=
  ((cs.dropWhile isSpace).reverse.dropWhile isSpace).reverse

/-- A text without leading and trailing white space. -/
def trimSpace (s : String) : String :=
  String.ofList (trimSpaceList s.toList)

/-- The ASCII blanks of pattern matching: tab, line feed, form feed, carriage
return and space. -/
def isAsciiSpace (c : Char) : Bool :=
  c == '\t' || c == '\n' || c == '\x0c' || c == '\r' || c == ' '

end CriticalCss.Text
