import CriticalCss.Text.Packed

/-!
# Single-byte character sets

A single-byte character set gives every byte a character. The bytes below
0x80 are ASCII in all the sets here except the EBCDIC ones (IBM code pages
037, 1047 and 1140), which are given byte by byte; the others are given by
the characters of the bytes 0x80 to 0xFF, in order. A byte the set leaves
undefined reads as the replacement character U+FFFD.

Most tables share long stretches with a table before them, and are stored
packed after it (`unpackAfter`): their references may copy from it.

The sets drawn from the web's encoding tables (the ISO 8859 sets but 8859-9,
KOI8, the Macintosh and Windows sets and IBM 866) read a byte that their
table gives a C1 control character, U+0080 to U+009F, as U+FFFD as well; the
IBM code pages and ISO 8859-9 keep their C1 controls.

## Main definitions

* `Charmap`: the single-byte sets.
* `Charmap.upperHalf`: the characters of the bytes 0x80 to 0xFF.
* `Charmap.table`: the characters of all the bytes.
* `Charmap.decode`: bytes read in a set.
-/

namespace CriticalCss.Text

/-- The single-byte character sets. -/
inductive Charmap where
  | iso8859_2
  | iso8859_3
  | iso8859_4
  | iso8859_5
  | iso8859_6
  | iso8859_7
  | iso8859_8
  /-- ISO 8859-8 read in logical order: the same table as `iso8859_8`. -/
  | iso8859_8i
  | iso8859_9
  | iso8859_10
  | iso8859_13
  | iso8859_14
  | iso8859_15
  | iso8859_16
  | windows874
  | windows1250
  | windows1251
  | windows1252
  | windows1253
  | windows1254
  | windows1255
  | windows1256
  | windows1257
  | windows1258
  | koi8r
  | koi8u
  | macintosh
  | macCyrillic
  | ibm866
  | ibm037
  | ibm437
  | ibm850
  | ibm852
  | ibm855
  | ibm858
  | ibm860
  | ibm862
  | ibm863
  | ibm865
  | ibm1047
  | ibm1140
  deriving BEq, Repr

/-- The characters of the bytes 0x80 to 0xA0 in every ISO 8859 set: the C1 controls and the
no-break space. -/
def isoUpperStart : String :=
  String.ofList ((List.range 33).map fun i => Char.ofNat (0x80 + i))

/-! ### The tables

Each `<set>UpperHalf` gives the characters of the bytes 0x80 to 0xFF of its set, in order;
each `ibm<page>Table` gives those of all the bytes of an EBCDIC code page. -/

def iso8859_2UpperHalf : String :=
  isoUpperStart ++ "Ą˘Ł¤ĽŚ§¨ŠŞŤŹ\xadŽŻ°ą˛ł´ľśˇ¸šşťź˝žżŔÁÂĂÄĹĆÇČÉĘËĚÍÎĎĐŃŇÓÔŐÖ×ŘŮÚŰÜÝŢßŕáâăäĺćçčéęëěíîďđńňóôőö÷řůúűüýţ˙"

def iso8859_3UpperHalf : String :=
  isoUpperStart ++ "Ħ˘£¤�Ĥ§¨İŞĞĴ\xad�Ż°ħ²³´µĥ·¸ışğĵ½�żÀÁÂ�ÄĊĈÇÈÉÊËÌÍÎÏ�ÑÒÓÔĠÖ×ĜÙÚÛÜŬŜßàáâ�äċĉçèéêëìíîï�ñòóôġö÷ĝùúûüŭŝ˙"

def iso8859_4UpperHalf : String :=
  isoUpperStart ++ "ĄĸŖ¤ĨĻ§¨ŠĒĢŦ\xadŽ¯°ą˛ŗ´ĩļˇ¸šēģŧŊžŋĀÁÂÃÄÅÆĮČÉĘËĖÍÎĪĐŅŌĶÔÕÖ×ØŲÚÛÜŨŪßāáâãäåæįčéęëėíîīđņōķôõö÷øųúûüũū˙"

def iso8859_5UpperHalf : String :=
  isoUpperStart ++ "ЁЂЃЄЅІЇЈЉЊЋЌ\xadЎЏАБВГДЕЖЗИЙКЛМНОПРСТУФХЦЧШЩЪЫЬЭЮЯабвгдежзийклмнопрстуфхцчшщъыьэюя№ёђѓєѕіїјљњћќ§ўџ"

def iso8859_6UpperHalf : String :=
  unpackAfter iso8859_2UpperHalf "~g3T���¤�~e02،\xad�~e08؛���؟�ءآأؤإئابةتثجحخدذرزسشصضطظعغ~ea1ـفقكلمنهوىيًٌٍَُِّْ~f69"

def iso8859_7UpperHalf : String :=
  isoUpperStart ++ "‘’£€₯¦§¨©ͺ«¬\xad�―°±²³΄΅Ά·ΈΉΊ»Ό½ΎΏΐΑΒΓΔΕΖΗΘΙΚΛΜΝΞΟΠΡ�ΣΤΥΦΧΨΩΪΫάέήίΰαβγδεζηθικλμνξοπρςστυφχψωϊϋόύώ�"

def iso8859_8UpperHalf : String :=
  unpackAfter iso8859_7UpperHalf "~g3T�¢£¤¥~g30×«¬\xad®¯~g30´µ¶·¸¹÷»¼½¾�~e0R‗אבגדהוזחטיךכלםמןנסעףפץצקרשת��‎‏�"

def iso8859_9UpperHalf : String :=
  unpackAfter iso8859_3UpperHalf "~g3T¡¢£¤¥¦§¨©ª«¬\xad®¯°±~g30¶·¸¹º»¼½¾¿ÀÁÂÃÄÅÆ~g35Ğ~g30ÕÖ×Ø~g30İŞ~g30ãäåæ~g35ğ~g30õö÷ø~g30ışÿ"

def iso8859_10UpperHalf : String :=
  unpackAfter iso8859_4UpperHalf "~g3UĒĢĪĨĶ§ĻĐŠŦŽ\xadŪŊ°ąēģīĩķ·ļđšŧž―ū~g3CÏÐŅŌÓÔÕÖŨ~g31ÝÞ~g3Cïðņōóôõöũ~g31ýþĸ"

def iso8859_13UpperHalf : String :=
  isoUpperStart ++ "”¢£¤„¦§Ø©Ŗ«¬\xad®Æ°±²³“µ¶·ø¹ŗ»¼½¾æĄĮĀĆÄÅĘĒČÉŹĖĢĶĪĻŠŃŅÓŌÕÖ×ŲŁŚŪÜŻŽßąįāćäåęēčéźėģķīļšńņóōõö÷ųłśūüżž’"

def iso8859_14UpperHalf : String :=
  unpackAfter iso8859_9UpperHalf "~g3TḂḃ£ĊċḊ§Ẁ©ẂḋỲ\xad®ŸḞḟĠġṀṁ¶ṖẁṗẃṠỳẄẅṡ~g3CŴ~g32Ṫ~g31ÝŶ~g3Dŵ~g32ṫ~g31ýŷÿ"

def iso8859_15UpperHalf : String :=
  unpackAfter iso8859_9UpperHalf "~g3W€¥Š§š~g37Žµ¶·ž¹º»ŒœŸ~g3DÐ~g38ÝÞ~g3Dð~g38ýþÿ"

def iso8859_16UpperHalf : String :=
  unpackAfter iso8859_15UpperHalf "~g3TĄąŁ€„~g30Ș«Ź\xadźŻ°±ČłŽ”¶·žčș~g30żÀÁÂĂÄĆ~g36ĐŃÒÓÔŐÖŚŰ~g30ĘȚ~g30ăäć~g36đńòóôőöśű~g30ęțÿ"

def windows874UpperHalf : String :=
  unpackAfter iso8859_6UpperHalf "€~g30…~g37‘’“”•–—~g35กขฃคฅฆงจฉชซฌญฎฏฐฑฒณดตถทธนบปผฝพฟภมยรฤลฦวศษสหฬอฮฯะัาำิีึืฺุู~fW0฿เแโใไๅๆ็่้๊๋์ํ๎๏๐๑๒๓๔๕๖๗๘๙๚๛~eW0"

def windows1250UpperHalf : String :=
  unpackAfter iso8859_2UpperHalf "€\x81‚\x83„…†‡\x88‰Š‹ŚŤŽŹ\x90‘’“”•–—\x98™š›śťžź\xa0ˇ˘Ł¤Ą¦§¨©Ş«¬\xad®Ż°±˛ł´µ¶·¸ąş»Ľ˝ľ~g3z"

def windows1251UpperHalf : String :=
  unpackAfter iso8859_5UpperHalf "ЂЃ‚ѓ„…†‡€‰Љ‹ЊЌЋЏђ‘’“”•–—\x98™љ›њќћџ\xa0ЎўЈ¤Ґ¦§Ё©Є«¬\xad®Ї°±Ііґµ¶·ё№є»јЅѕї~gJy"

def windows1252UpperHalf : String :=
  unpackAfter iso8859_9UpperHalf "€\x81‚ƒ„…†‡ˆ‰Š‹Œ\x8dŽ\x8f\x90‘’“”•–—˜™š›œ\x9džŸ~g3iÐ~g38ÝÞ~g3Dð~g38ýþÿ"

def windows1253UpperHalf : String :=
  unpackAfter iso8859_7UpperHalf "€\x81‚ƒ„…†‡\x88‰\x8a‹~g31‘’“”•–—\x98™\x9a›~g31΅Ά£¤¥~g30�«¬\xad®~g32µ¶~0241B"

def windows1254UpperHalf : String :=
  unpackAfter windows1252UpperHalf "~g3A\x8e~g3B\x9e~g3jĞ~g38İŞ~g3Dğ~g38ışÿ"

def windows1255UpperHalf : String :=
  unpackAfter iso8859_8UpperHalf "€\x81‚ƒ„…†‡ˆ‰\x8a‹~g31‘’“”•–—˜™\x9a›~g31¡¢£₪~g3M¿ְֱֲֳִֵֶַָֹֺֻּֽ־ֿ׀ׁׂ׃װױײ׳״~g43~g3S"

def windows1256UpperHalf : String :=
  unpackAfter windows1252UpperHalf "€پ~g34ٹ‹Œچژڈگ~g33ک™ڑ›œ‌‍ں\xa0،~g34ھ~g3B؛~g30؟ہءآأؤإئابةتثجحخدذرزسشصض×طظعغـفقكàلâمنهو~g31ىيîïًٌٍَôُِ÷ّùْûü‎‏ے"

def windows1257UpperHalf : String :=
  unpackAfter iso8859_13UpperHalf "€\x81‚\x83„…†‡\x88‰\x8a‹\x8c¨ˇ¸\x90‘’“”•–—\x98™\x9a›\x9c¯˛\x9f\xa0�¢£¤�~g3A´~0241C˙"

def windows1258UpperHalf : String :=
  unpackAfter windows1254UpperHalf "~g36\x8a~g3B\x9a~g3aĂ~g34̀ÍÎÏĐÑ̉ÓÔƠ~g33Ữ~g30ă~g34́íîïđṇ̃óôơ~g33ư₫ÿ"

def koi8rUpperHalf : String :=
  "─│┌┐└┘├┤┬┴┼▀▄█▌▐░▒▓⌠■∙√≈≤≥\xa0⌡°²·÷═║╒ё╓╔╕╖╗╘╙╚╛╜╝╞╟╠╡Ё╢╣╤╥╦╧╨╩╪╫╬©юабцдефгхийклмнопярстужвьызшэщчъЮАБЦДЕФГХИЙКЛМНОПЯРСТУЖВЬЫЗШЭЩЧЪ"

def koi8uUpperHalf : String :=
  unpackAfter koi8rUpperHalf "~g3Wє╔ії~g31ґў~g31Є╣ІЇ~g31ҐЎ~g3z"

def macintoshUpperHalf : String :=
  "ÄÅÇÉÑÖÜáàâäãåçéèêëíìîïñóòôöõúùûü†°¢£§•¶ß®©™´¨≠ÆØ∞±≤≥¥µ∂∑∏π∫ªºΩæø¿¡¬√ƒ≈∆«»…\xa0ÀÃÕŒœ–—“”‘’÷◊ÿŸ⁄€‹›ﬁﬂ‡·‚„‰ÂÊÁËÈÍÎÏÌÓÔ\uf8ffÒÚÛÙıˆ˜¯˘˙˚¸˝˛ˇ"

def macCyrillicUpperHalf : String :=
  unpackAfter iso8859_5UpperHalf "~fHS†°Ґ£§•¶І®©™Ђђ≠Ѓѓ∞±≤≥іµґЈЄєЇїЉљЊњјЅ¬√ƒ≈∆«»…\xa0ЋћЌќѕ–—“”‘’÷„ЎўЏџ№Ёёя~gJR€"

def ibm866UpperHalf : String :=
  unpackAfter iso8859_5UpperHalf "~fHi░▒▓│┤╡╢╖╕╣║╗╝╜╛┐└┴┬├─┼╞╟╚╔╩╦╠═╬╧╨╤╥╙╘╒╓╫╪┘┌█▄▌▐▀~g3CЁёЄєЇїЎў°∙·√№¤■\xa0"

def ibm037Table : String :=
  "\x00\x01\x02\x03\u009c\x09\u0086\x7f\u0097\u008d\u008e\x0b\x0c\x0d\x0e\x0f\x10\x11\x12\x13\u009d\u0085\x08\u0087\x18\x19\u0092\u008f\x1c\x1d\x1e\x1f\u0080\u0081\u0082\u0083\u0084\x0a\x17\x1b\u0088\u0089\u008a\u008b\u008c\x05\x06\x07\u0090\u0091\x16\u0093\u0094\u0095\u0096\x04\u0098\u0099\u009a\u009b\x14\x15\u009e\x1a \u00a0âäàáãåçñ¢.<(+|&éêëèíîïìß!$*);¬-/ÂÄÀÁÃÅÇÑ¦,%_>?øÉÊËÈÍÎÏÌ\x60:#@\x27=\"Øabcdefghi«»ðýþ±°jklmnopqrªºæ¸Æ¤µ~stuvwxyz¡¿ÐÝÞ®^£¥·©§¶¼½¾[]¯¨´×\x7bABCDEFGHI\u00adôöòóõ\x7dJKLMNOPQR¹ûüùúÿ\\÷STUVWXYZ²ÔÖÒÓÕ0123456789³ÛÜÙÚ\u009f"

def ibm437UpperHalf : String :=
  unpackAfter ibm866UpperHalf "ÇüéâäàåçêëèïîìÄÅÉæÆôöòûùÿÖÜ¢£¥₧ƒáíóúñÑªº¿⌐¬½¼¡«»~g3iαßΓπΣσµτΦΘΩδ∞φε∩≡±≥≤⌠⌡÷≈~g30ⁿ²■\xa0"

def ibm850UpperHalf : String :=
  unpackAfter ibm437UpperHalf "~g3Nø£Ø×~g36®~g37ÁÂÀ©~g30¢¥~g33ãÃ~g33¤ðÐÊËÈıÍÎÏ~g30¦Ì▀ÓßÔÒõÕµþÞÚÛÙýÝ¯´\xad±‗¾¶§÷¸°¨·¹³²■\xa0"

def ibm852UpperHalf : String :=
  unpackAfter ibm850UpperHalf "~g31ůćçłëŐőîŹÄĆÉĹĺôöĽľŚśÖÜŤťŁ×č~g30ĄąŽžĘę¬źČş~g35ĚŞ~g30Żż~g33Ăă~g34đĐĎËďŇÍÎě~g30ŢŮ~g30ŃńňŠšŔÚŕŰýÝţ´\xad˝˛ˇ˘~g31˙űŘř■\xa0"

def ibm855UpperHalf : String :=
  "ђЂѓЃёЁєЄѕЅіІїЇјЈљЉњЊћЋќЌўЎџЏюЮъЪаАбБцЦдДеЕфФгГ«»░▒▓│┤хХиИ╣║╗╝йЙ┐└┴┬├─┼кК╚╔╩╦╠═╬¤лЛмМнНоОп┘┌█▄Пя▀ЯрРсСтТуУжЖвВьЬ№\u00adыЫзЗшШэЭщЩчЧ§■\u00a0"

def ibm858UpperHalf : String :=
  unpackAfter ibm850UpperHalf "~0241N€~g3c"

def ibm860UpperHalf : String :=
  unpackAfter ibm437UpperHalf "~g30ãàÁçêÊèÍÔìÃÂÉÀÈôõòÚùÌÕÜ¢£Ù₧Ó~g35Ò~0241O"

def ibm862UpperHalf : String :=
  unpackAfter ibm437UpperHalf "אבגדהוזחטיךכלםמןנסעףפץצקרשת~0241d"

def ibm863UpperHalf : String :=
  unpackAfter ibm437UpperHalf "~g30Âà¶~g32‗À§ÉÈÊôËÏûù¤ÔÜ¢£ÙÛƒ¦´óú¨¸³¯Î~g30¾~0241K"

def ibm865UpperHalf : String :=
  unpackAfter ibm437UpperHalf "~g3Nø£Ø~g3D¤~0241I"

def ibm1047Table : String :=
  unpackAfter ibm037Table "~0481X^~0481F[Þ®¬~i75Ý¨¯]´~i7z"

def ibm1140Table : String :=
  unpackAfter ibm037Table "~0482Z€~0481Y"

/-- The characters of the bytes 0x80 to 0xFF. -/
def Charmap.upperHalf : Charmap → String
  | .iso8859_2 => iso8859_2UpperHalf
  | .iso8859_3 => iso8859_3UpperHalf
  | .iso8859_4 => iso8859_4UpperHalf
  | .iso8859_5 => iso8859_5UpperHalf
  | .iso8859_6 => iso8859_6UpperHalf
  | .iso8859_7 => iso8859_7UpperHalf
  | .iso8859_8 | .iso8859_8i => iso8859_8UpperHalf
  | .iso8859_9 => iso8859_9UpperHalf
  | .iso8859_10 => iso8859_10UpperHalf
  | .iso8859_13 => iso8859_13UpperHalf
  | .iso8859_14 => iso8859_14UpperHalf
  | .iso8859_15 => iso8859_15UpperHalf
  | .iso8859_16 => iso8859_16UpperHalf
  | .windows874 => windows874UpperHalf
  | .windows1250 => windows1250UpperHalf
  | .windows1251 => windows1251UpperHalf
  | .windows1252 => windows1252UpperHalf
  | .windows1253 => windows1253UpperHalf
  | .windows1254 => windows1254UpperHalf
  | .windows1255 => windows1255UpperHalf
  | .windows1256 => windows1256UpperHalf
  | .windows1257 => windows1257UpperHalf
  | .windows1258 => windows1258UpperHalf
  | .koi8r => koi8rUpperHalf
  | .koi8u => koi8uUpperHalf
  | .macintosh => macintoshUpperHalf
  | .macCyrillic => macCyrillicUpperHalf
  | .ibm866 => ibm866UpperHalf
  | .ibm437 => ibm437UpperHalf
  | .ibm850 => ibm850UpperHalf
  | .ibm852 => ibm852UpperHalf
  | .ibm855 => ibm855UpperHalf
  | .ibm858 => ibm858UpperHalf
  | .ibm860 => ibm860UpperHalf
  | .ibm862 => ibm862UpperHalf
  | .ibm863 => ibm863UpperHalf
  | .ibm865 => ibm865UpperHalf
  | .ibm037 => String.ofList (ibm037Table.toList.drop 128)
  | .ibm1047 => String.ofList (ibm1047Table.toList.drop 128)
  | .ibm1140 => String.ofList (ibm1140Table.toList.drop 128)

/-- Whether a set comes from the web's encoding tables, whose C1 controls
read as U+FFFD. -/
def Charmap.fromWeb : Charmap → Bool
  | .iso8859_9 | .ibm037 | .ibm437 | .ibm850 | .ibm852 | .ibm855 | .ibm858 | .ibm860 | .ibm862
  | .ibm863 | .ibm865 | .ibm1047 | .ibm1140 => false
  | _ => true

/-- The characters of all the bytes of a set, by byte. -/
def Charmap.table (c : Charmap) : Array Char :=
  let full : List Char := match c with
    | .ibm037 => ibm037Table.toList
    | .ibm1047 => ibm1047Table.toList
    | .ibm1140 => ibm1140Table.toList
    | _ => (List.range 128).map Char.ofNat ++ c.upperHalf.toList
  let web := c.fromWeb
  (full.map fun ch => if web && 0x80 ≤ ch.toNat && ch.toNat < 0xa0 then '\uFFFD' else ch).toArray

/-- Bytes read in a set. -/
def Charmap.decode (c : Charmap) (bs : List UInt8) : String :=
  let table := c.table
  String.ofList (bs.map fun b => table.getD b.toNat '\uFFFD')

end CriticalCss.Text
