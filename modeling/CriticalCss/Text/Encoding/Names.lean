import CriticalCss.Text.Encoding.Basic
import CriticalCss.Text.Space
import CriticalCss.Text.Case
/-!
# Names of encodings

Encodings are named in two registries. The IANA character set registry
gives each set a name and aliases; a name is looked up ignoring case and
surrounding blanks, and a set is named back by its registry name (so
`latin1` names `ISO_8859-1:1987`). The web's encoding labels map labels,
ignoring case and surrounding blanks, to the encodings browsers use, where
for instance `latin1` and `ascii` read as windows-1252 and `utf-16` as
UTF-16LE.

Both look-ups ignore surrounding white space in the sense of the Unicode
`White_Space` property.

## Main definitions

* `ianaCharsets`: registry names with their aliases and encodings.
* `ianaEncoding`: the registry name and encoding a name stands for.
* `labelEncoding`: the encoding a web label stands for.
* `Encoding.webName`: the name the web gives an encoding.
-/

namespace CriticalCss.Text

/-- A name in lower case, by the simple lower-case mapping of every
character: the Kelvin sign reads as `k`. -/
def nameLower (s : String) : String := lower s

/-- The IANA registry entries of the encodings this library knows: the
registry name, the aliases, and the encoding. -/
def ianaCharsets : List (String × List String × Encoding) :=
  [("US-ASCII", ["iso-ir-6", "ANSI_X3.4-1968", "ANSI_X3.4-1986", "ISO_646.irv:1991", "ISO646-US",
      "us", "IBM367", "cp367", "csASCII"], .ascii),
   ("UTF-8", ["csUTF8"], .utf8),
   ("UTF-16", ["csUTF16"], .utf16 true true),
   ("UTF-16BE", ["csUTF16BE"], .utf16 true false),
   ("UTF-16LE", ["csUTF16LE"], .utf16 false false),
   ("IBM037", ["cp037", "ebcdic-cp-us", "ebcdic-cp-ca", "ebcdic-cp-wt", "ebcdic-cp-nl", "csIBM037"],
      .charmap .ibm037),
   ("IBM437", ["cp437", "437", "csPC8CodePage437"], .charmap .ibm437),
   ("IBM850", ["cp850", "850", "csPC850Multilingual"], .charmap .ibm850),
   ("IBM852", ["cp852", "852", "csPCp852"], .charmap .ibm852),
   ("IBM855", ["cp855", "855", "csIBM855"], .charmap .ibm855),
   ("IBM00858", ["CCSID00858", "CP00858", "PC-Multilingual-850+euro", "csIBM00858"], .charmap .ibm858),
   ("IBM860", ["cp860", "860", "csIBM860"], .charmap .ibm860),
   ("IBM862", ["cp862", "862", "csPC862LatinHebrew"], .charmap .ibm862),
   ("IBM863", ["cp863", "863", "csIBM863"], .charmap .ibm863),
   ("IBM865", ["cp865", "865", "csIBM865"], .charmap .ibm865),
   ("IBM866", ["cp866", "866", "csIBM866"], .charmap .ibm866),
   ("IBM1047", ["IBM-1047", "csIBM1047"], .charmap .ibm1047),
   ("IBM01140", ["CCSID01140", "CP01140", "ebcdic-us-37+euro", "csIBM01140"], .charmap .ibm1140),
   ("ISO_8859-1:1987", ["iso-ir-100", "ISO_8859-1", "ISO-8859-1", "latin1", "l1", "IBM819", "CP819",
      "csISOLatin1"], .latin1),
   ("ISO_8859-2:1987", ["iso-ir-101", "ISO_8859-2", "ISO-8859-2", "latin2", "l2", "csISOLatin2"],
      .charmap .iso8859_2),
   ("ISO_8859-3:1988", ["iso-ir-109", "ISO_8859-3", "ISO-8859-3", "latin3", "l3", "csISOLatin3"],
      .charmap .iso8859_3),
   ("ISO_8859-4:1988", ["iso-ir-110", "ISO_8859-4", "ISO-8859-4", "latin4", "l4", "csISOLatin4"],
      .charmap .iso8859_4),
   ("ISO_8859-5:1988", ["iso-ir-144", "ISO_8859-5", "ISO-8859-5", "cyrillic", "csISOLatinCyrillic"],
      .charmap .iso8859_5),
   ("ISO_8859-6:1987", ["iso-ir-127", "ISO_8859-6", "ISO-8859-6", "ECMA-114", "ASMO-708", "arabic",
      "csISOLatinArabic"], .charmap .iso8859_6),
   ("ISO_8859-6-E", ["csISO88596E", "ISO-8859-6-E"], .charmap .iso8859_6),
   ("ISO_8859-6-I", ["csISO88596I", "ISO-8859-6-I"], .charmap .iso8859_6),
   ("ISO_8859-7:1987", ["iso-ir-126", "ISO_8859-7", "ISO-8859-7", "ELOT_928", "ECMA-118", "greek",
      "greek8", "csISOLatinGreek"], .charmap .iso8859_7),
   ("ISO_8859-8:1988", ["iso-ir-138", "ISO_8859-8", "ISO-8859-8", "hebrew", "csISOLatinHebrew"],
      .charmap .iso8859_8),
   ("ISO_8859-8-E", ["csISO88598E", "ISO-8859-8-E"], .charmap .iso8859_8),
   ("ISO_8859-8-I", ["csISO88598I", "ISO-8859-8-I"], .charmap .iso8859_8i),
   ("ISO_8859-9:1989", ["iso-ir-148", "ISO_8859-9", "ISO-8859-9", "latin5", "l5", "csISOLatin5"],
      .charmap .iso8859_9),
   ("ISO-8859-10", ["iso-ir-157", "l6", "ISO_8859-10:1992", "csISOLatin6", "latin6"],
      .charmap .iso8859_10),
   ("ISO-8859-13", ["csISO885913"], .charmap .iso8859_13),
   ("ISO-8859-14", ["iso-ir-199", "ISO_8859-14:1998", "ISO_8859-14", "latin8", "iso-celtic", "l8",
      "csISO885914"], .charmap .iso8859_14),
   ("ISO-8859-15", ["ISO_8859-15", "Latin-9", "csISO885915"], .charmap .iso8859_15),
   ("ISO-8859-16", ["iso-ir-226", "ISO_8859-16:2001", "ISO_8859-16", "latin10", "l10", "csISO885916"],
      .charmap .iso8859_16),
   ("KOI8-R", ["csKOI8R"], .charmap .koi8r),
   ("KOI8-U", ["csKOI8U"], .charmap .koi8u),
   ("macintosh", ["mac", "csMacintosh"], .charmap .macintosh),
   ("windows-874", ["cswindows874"], .charmap .windows874),
   ("windows-1250", ["cswindows1250"], .charmap .windows1250),
   ("windows-1251", ["cswindows1251"], .charmap .windows1251),
   ("windows-1252", ["cswindows1252"], .charmap .windows1252),
   ("windows-1253", ["cswindows1253"], .charmap .windows1253),
   ("windows-1254", ["cswindows1254"], .charmap .windows1254),
   ("windows-1255", ["cswindows1255"], .charmap .windows1255),
   ("windows-1256", ["cswindows1256"], .charmap .windows1256),
   ("windows-1257", ["cswindows1257"], .charmap .windows1257),
   ("windows-1258", ["cswindows1258"], .charmap .windows1258),
   ("Extended_UNIX_Code_Packed_Format_for_Japanese", ["csEUCPkdFmtJapanese", "EUC-JP"], .eucJp),
   ("ISO-2022-JP", ["csISO2022JP"], .iso2022Jp),
   ("Shift_JIS", ["MS_Kanji", "csShiftJIS"], .shiftJis),
   ("EUC-KR", ["csEUCKR"], .eucKr),
   ("GB18030", ["csGB18030"], .gb18030),
   ("GBK", ["CP936", "MS936", "windows-936", "csGBK"], .gbk),
   ("HZ-GB-2312", [], .hzGb2312),
   ("Big5", ["csBig5"], .big5)]

/-- The registry name and encoding a name stands for, ignoring case and
surrounding blanks; `none` for a name the registry does not give or an
encoding this library does not know. -/
def ianaEncoding (name : String) : Option (String × Encoding) :=
  let key := nameLower (trimSpace name)
  (ianaCharsets.find? fun (n, aliases, _) =>
    nameLower n == key || aliases.any (nameLower · == key)).map fun (n, _, e) => (n, e)

/-- The web's labels of each encoding. -/
def webLabels : List (List String × Encoding) :=
  [(["unicode-1-1-utf-8", "unicode11utf8", "unicode20utf8", "utf-8", "utf8", "x-unicode20utf8"], .utf8),
   (["866", "cp866", "csibm866", "ibm866"], .charmap .ibm866),
   (["csisolatin2", "iso-8859-2", "iso-ir-101", "iso8859-2", "iso88592", "iso_8859-2", "iso_8859-2:1987",
     "l2", "latin2"], .charmap .iso8859_2),
   (["csisolatin3", "iso-8859-3", "iso-ir-109", "iso8859-3", "iso88593", "iso_8859-3", "iso_8859-3:1988",
     "l3", "latin3"], .charmap .iso8859_3),
   (["csisolatin4", "iso-8859-4", "iso-ir-110", "iso8859-4", "iso88594", "iso_8859-4", "iso_8859-4:1988",
     "l4", "latin4"], .charmap .iso8859_4),
   (["csisolatincyrillic", "cyrillic", "iso-8859-5", "iso-ir-144", "iso8859-5", "iso88595", "iso_8859-5",
     "iso_8859-5:1988"], .charmap .iso8859_5),
   (["arabic", "asmo-708", "csiso88596e", "csiso88596i", "csisolatinarabic", "ecma-114", "iso-8859-6",
     "iso-8859-6-e", "iso-8859-6-i", "iso-ir-127", "iso8859-6", "iso88596", "iso_8859-6",
     "iso_8859-6:1987"], .charmap .iso8859_6),
   (["csisolatingreek", "ecma-118", "elot_928", "greek", "greek8", "iso-8859-7", "iso-ir-126", "iso8859-7",
     "iso88597", "iso_8859-7", "iso_8859-7:1987", "sun_eu_greek"], .charmap .iso8859_7),
   (["csiso88598e", "csisolatinhebrew", "hebrew", "iso-8859-8", "iso-8859-8-e", "iso-ir-138", "iso8859-8",
     "iso88598", "iso_8859-8", "iso_8859-8:1988", "visual"], .charmap .iso8859_8),
   (["csiso88598i", "iso-8859-8-i", "logical"], .charmap .iso8859_8i),
   (["csisolatin6", "iso-8859-10", "iso-ir-157", "iso8859-10", "iso885910", "l6", "latin6"],
     .charmap .iso8859_10),
   (["iso-8859-13", "iso8859-13", "iso885913"], .charmap .iso8859_13),
   (["iso-8859-14", "iso8859-14", "iso885914"], .charmap .iso8859_14),
   (["csisolatin9", "iso-8859-15", "iso8859-15", "iso885915", "iso_8859-15", "l9"], .charmap .iso8859_15),
   (["iso-8859-16"], .charmap .iso8859_16),
   (["cskoi8r", "koi", "koi8", "koi8-r", "koi8_r"], .charmap .koi8r),
   (["koi8-ru", "koi8-u"], .charmap .koi8u),
   (["csmacintosh", "mac", "macintosh", "x-mac-roman"], .charmap .macintosh),
   (["dos-874", "iso-8859-11", "iso8859-11", "iso885911", "tis-620", "windows-874"], .charmap .windows874),
   (["cp1250", "windows-1250", "x-cp1250"], .charmap .windows1250),
   (["cp1251", "windows-1251", "x-cp1251"], .charmap .windows1251),
   (["ansi_x3.4-1968", "ascii", "cp1252", "cp819", "csisolatin1", "ibm819", "iso-8859-1", "iso-ir-100",
     "iso8859-1", "iso88591", "iso_8859-1", "iso_8859-1:1987", "l1", "latin1", "us-ascii", "windows-1252",
     "x-cp1252"], .charmap .windows1252),
   (["cp1253", "windows-1253", "x-cp1253"], .charmap .windows1253),
   (["cp1254", "csisolatin5", "iso-8859-9", "iso-ir-148", "iso8859-9", "iso88599", "iso_8859-9",
     "iso_8859-9:1989", "l5", "latin5", "windows-1254", "x-cp1254"], .charmap .windows1254),
   (["cp1255", "windows-1255", "x-cp1255"], .charmap .windows1255),
   (["cp1256", "windows-1256", "x-cp1256"], .charmap .windows1256),
   (["cp1257", "windows-1257", "x-cp1257"], .charmap .windows1257),
   (["cp1258", "windows-1258", "x-cp1258"], .charmap .windows1258),
   (["x-mac-cyrillic", "x-mac-ukrainian"], .charmap .macCyrillic),
   (["chinese", "csgb2312", "csiso58gb231280", "gb2312", "gb_2312", "gb_2312-80", "gbk", "iso-ir-58",
     "x-gbk"], .gbk),
   (["gb18030"], .gb18030),
   (["big5", "big5-hkscs", "cn-big5", "csbig5", "x-x-big5"], .big5),
   (["cseucpkdfmtjapanese", "euc-jp", "x-euc-jp"], .eucJp),
   (["csiso2022jp", "iso-2022-jp"], .iso2022Jp),
   (["csshiftjis", "ms932", "ms_kanji", "shift-jis", "shift_jis", "sjis", "windows-31j", "x-sjis"], .shiftJis),
   (["cseuckr", "csksc56011987", "euc-kr", "iso-ir-149", "korean", "ks_c_5601-1987", "ks_c_5601-1989",
     "ksc5601", "ksc_5601", "windows-949"], .eucKr),
   (["csiso2022kr", "hz-gb-2312", "iso-2022-cn", "iso-2022-cn-ext", "iso-2022-kr", "replacement"],
     .replacement),
   (["unicodefffe", "utf-16be"], .utf16 true false),
   (["csunicode", "iso-10646-ucs-2", "ucs-2", "unicode", "unicodefeff", "utf-16", "utf-16le"],
     .utf16 false false),
   (["x-user-defined"], .userDefined)]

/-- The encoding a web label stands for, ignoring case and surrounding
white space. -/
def labelEncoding (label : String) : Option Encoding :=
  let trimmed := trimSpaceList label.toList
  let key := nameLower (String.ofList trimmed)
  (webLabels.find? fun (labels, _) => labels.contains key).map (·.2)

/-- The name the web gives a single-byte character set. -/
def Charmap.webName : Charmap → String
  | .iso8859_2 => "iso-8859-2"
  | .iso8859_3 => "iso-8859-3"
  | .iso8859_4 => "iso-8859-4"
  | .iso8859_5 => "iso-8859-5"
  | .iso8859_6 => "iso-8859-6"
  | .iso8859_7 => "iso-8859-7"
  | .iso8859_8 => "iso-8859-8"
  | .iso8859_8i => "iso-8859-8-i"
  | .iso8859_9 => "iso-8859-9"
  | .iso8859_10 => "iso-8859-10"
  | .iso8859_13 => "iso-8859-13"
  | .iso8859_14 => "iso-8859-14"
  | .iso8859_15 => "iso-8859-15"
  | .iso8859_16 => "iso-8859-16"
  | .windows874 => "windows-874"
  | .windows1250 => "windows-1250"
  | .windows1251 => "windows-1251"
  | .windows1252 => "windows-1252"
  | .windows1253 => "windows-1253"
  | .windows1254 => "windows-1254"
  | .windows1255 => "windows-1255"
  | .windows1256 => "windows-1256"
  | .windows1257 => "windows-1257"
  | .windows1258 => "windows-1258"
  | .koi8r => "koi8-r"
  | .koi8u => "koi8-u"
  | .macintosh => "macintosh"
  | .macCyrillic => "x-mac-cyrillic"
  | .ibm866 => "ibm866"
  | .ibm037 => "ibm037"
  | .ibm437 => "ibm437"
  | .ibm850 => "ibm850"
  | .ibm852 => "ibm852"
  | .ibm855 => "ibm855"
  | .ibm858 => "ibm00858"
  | .ibm860 => "ibm860"
  | .ibm862 => "ibm862"
  | .ibm863 => "ibm863"
  | .ibm865 => "ibm865"
  | .ibm1047 => "ibm1047"
  | .ibm1140 => "ibm01140"

/-- The name the web gives an encoding: its canonical label, in lower case. -/
def Encoding.webName : Encoding → String
  | .utf8 => "utf-8"
  | .utf16 true _ => "utf-16be"
  | .utf16 false _ => "utf-16le"
  | .ascii | .latin1 => "windows-1252"
  | .charmap c => c.webName
  | .shiftJis => "shift_jis"
  | .eucJp => "euc-jp"
  | .iso2022Jp => "iso-2022-jp"
  | .eucKr => "euc-kr"
  | .gbk => "gbk"
  | .gb18030 => "gb18030"
  | .hzGb2312 => "hz-gb-2312"
  | .big5 => "big5"
  | .replacement => "replacement"
  | .userDefined => "x-user-defined"

end CriticalCss.Text
