/-!
# Shortest colors

A color is written in its shortest spelling: hexadecimal in lower case, six
digits shortened to three when they come in pairs, an opaque alpha dropped,
a clear alpha written as the clear `#0000`, and a color name used instead of
hexadecimal, or hexadecimal instead of a name, when that is strictly
shorter. Among names of one color the `gray` spelling is used. The table
of names gives `#789` the name `lightslateblue`, so that name is written
`#789` and `lightslategray` is kept.

## Main definitions

* `namedColors`: the named colors and their hexadecimal values.
* `shortHex`: the shortest hexadecimal spelling.
* `nameForHex`, `hexForName`: the replacements that shorten a color.
-/

namespace CriticalCss.Css

/-- The named colors with their six-digit values. -/
def namedColors : List (String × String) :=
  [("aliceblue", "f0f8ff"), ("antiquewhite", "faebd7"), ("aqua", "00ffff"),
   ("aquamarine", "7fffd4"), ("azure", "f0ffff"), ("beige", "f5f5dc"), ("bisque", "ffe4c4"),
   ("black", "000000"), ("blanchedalmond", "ffebcd"), ("blue", "0000ff"),
   ("blueviolet", "8a2be2"), ("brown", "a52a2a"), ("burlywood", "deb887"),
   ("cadetblue", "5f9ea0"), ("chartreuse", "7fff00"), ("chocolate", "d2691e"),
   ("coral", "ff7f50"), ("cornflowerblue", "6495ed"), ("cornsilk", "fff8dc"),
   ("crimson", "dc143c"), ("cyan", "00ffff"), ("darkblue", "00008b"), ("darkcyan", "008b8b"),
   ("darkgoldenrod", "b8860b"), ("darkgray", "a9a9a9"), ("darkgreen", "006400"),
   ("darkkhaki", "bdb76b"), ("darkmagenta", "8b008b"), ("darkolivegreen", "556b2f"),
   ("darkorange", "ff8c00"), ("darkorchid", "9932cc"), ("darkred", "8b0000"),
   ("darksalmon", "e9967a"), ("darkseagreen", "8fbc8f"), ("darkslateblue", "483d8b"),
   ("darkslategray", "2f4f4f"), ("darkturquoise", "00ced1"), ("darkviolet", "9400d3"),
   ("deeppink", "ff1493"), ("deepskyblue", "00bfff"), ("dimgray", "696969"),
   ("dodgerblue", "1e90ff"), ("firebrick", "b22222"), ("floralwhite", "fffaf0"),
   ("forestgreen", "228b22"), ("fuchsia", "ff00ff"), ("gainsboro", "dcdcdc"),
   ("ghostwhite", "f8f8ff"), ("gold", "ffd700"), ("goldenrod", "daa520"), ("gray", "808080"),
   ("green", "008000"), ("greenyellow", "adff2f"), ("honeydew", "f0fff0"),
   ("hotpink", "ff69b4"), ("indianred", "cd5c5c"), ("indigo", "4b0082"), ("ivory", "fffff0"),
   ("khaki", "f0e68c"), ("lavender", "e6e6fa"), ("lavenderblush", "fff0f5"),
   ("lawngreen", "7cfc00"), ("lemonchiffon", "fffacd"), ("lightblue", "add8e6"),
   ("lightcoral", "f08080"), ("lightcyan", "e0ffff"), ("lightgoldenrodyellow", "fafad2"),
   ("lightgray", "d3d3d3"), ("lightgreen", "90ee90"), ("lightpink", "ffb6c1"),
   ("lightsalmon", "ffa07a"), ("lightseagreen", "20b2aa"), ("lightskyblue", "87cefa"),
   ("lightslateblue", "778899"), ("lightsteelblue", "b0c4de"), ("lightyellow", "ffffe0"),
   ("lime", "00ff00"), ("limegreen", "32cd32"), ("linen", "faf0e6"), ("magenta", "ff00ff"),
   ("maroon", "800000"), ("mediumaquamarine", "66cdaa"), ("mediumblue", "0000cd"),
   ("mediumorchid", "ba55d3"), ("mediumpurple", "9370db"), ("mediumseagreen", "3cb371"),
   ("mediumslateblue", "7b68ee"), ("mediumspringgreen", "00fa9a"),
   ("mediumturquoise", "48d1cc"), ("mediumvioletred", "c71585"), ("midnightblue", "191970"),
   ("mintcream", "f5fffa"), ("mistyrose", "ffe4e1"), ("moccasin", "ffe4b5"),
   ("navajowhite", "ffdead"), ("navy", "000080"), ("oldlace", "fdf5e6"), ("olive", "808000"),
   ("olivedrab", "6b8e23"), ("orange", "ffa500"), ("orangered", "ff4500"),
   ("orchid", "da70d6"), ("palegoldenrod", "eee8aa"), ("palegreen", "98fb98"),
   ("paleturquoise", "afeeee"), ("palevioletred", "db7093"), ("papayawhip", "ffefd5"),
   ("peachpuff", "ffdab9"), ("peru", "cd853f"), ("pink", "ffc0cb"), ("plum", "dda0dd"),
   ("powderblue", "b0e0e6"), ("purple", "800080"), ("red", "ff0000"),
   ("rosybrown", "bc8f8f"), ("royalblue", "4169e1"), ("saddlebrown", "8b4513"),
   ("salmon", "fa8072"), ("sandybrown", "f4a460"), ("seagreen", "2e8b57"),
   ("seashell", "fff5ee"), ("sienna", "a0522d"), ("silver", "c0c0c0"), ("skyblue", "87ceeb"),
   ("slateblue", "6a5acd"), ("slategray", "708090"), ("snow", "fffafa"),
   ("springgreen", "00ff7f"), ("steelblue", "4682b4"), ("tan", "d2b48c"), ("teal", "008080"),
   ("thistle", "d8bfd8"), ("tomato", "ff6347"), ("turquoise", "40e0d0"),
   ("violet", "ee82ee"), ("wheat", "f5deb3"), ("white", "ffffff"), ("whitesmoke", "f5f5f5"),
   ("yellow", "ffff00"), ("yellowgreen", "9acd32")]

/-- The shortest hexadecimal spelling of a lower-case color `#` and digits,
counted in bytes: an opaque alpha `ff` is dropped, a clear alpha `00` makes
the color the clear `#0000`, and six or eight digits in equal pairs are
halved. The digits are not checked to be hexadecimal. -/
def shortHex (hex : String) : String :=
  let ds := hex.toUTF8.toList.drop 1
  let ds : List UInt8 :=
    if ds.length == 8 && ds.drop 6 == [0x66, 0x66] then ds.take 6
    else if ds.length == 8 && ds.drop 6 == [0x30, 0x30] then [0x30, 0x30, 0x30, 0x30]
    else ds
  let rec halve : List UInt8 → Option (List UInt8)
    | a :: b :: rest => if a == b then (halve rest).map (a :: ·) else none
    | [] => some []
    | [_] => none
  let ds := if ds.length == 6 || ds.length == 8 then (halve ds).getD ds else ds
  (String.fromUTF8? (ByteArray.mk (0x23 :: ds).toArray)).getD hex

/-- The name to write for a lower-case hexadecimal color, when a name is
strictly shorter than its shortest hexadecimal spelling. -/
def nameForHex (hex : String) : Option String :=
  let short := shortHex hex
  let full := match short.length with
    | 4 => String.ofList (short.toList.drop 1 |>.flatMap fun c => [c, c])
    | _ => String.ofList (short.toList.drop 1)
  (namedColors.find? fun (n, v) => v == full && n.length < short.length).map (·.1)

/-- The hexadecimal spelling to write for a lower-case color name, when it is
strictly shorter than the name. -/
def hexForName (name : String) : Option String :=
  (namedColors.lookup name).bind fun v =>
    let short := shortHex ("#" ++ v)
    if short.length < name.length then some short else none

end CriticalCss.Css
