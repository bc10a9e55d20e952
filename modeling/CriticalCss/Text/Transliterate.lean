import CriticalCss.Text.Transliterate.Blocks
import CriticalCss.Text.Transliterate.Han
/-!
# Transliteration to ASCII

Each character gets an ASCII spelling: ASCII characters stand for
themselves, a Hangul syllable is spelled by the romanisation of its three
parts, a Han character by its Mandarin reading (`spellingBlocks` and
`hanSyllables` say how the others are spelled), and a character that none
of these covers, such as every character beyond U+FFFF, by the empty text.

## Main definitions

* `hangulSpelling`: the spelling of a Hangul syllable.
* `spelling`: the ASCII spelling of a character.
* `transliterate`: the ASCII spelling of a text.
-/

namespace CriticalCss.Text

/-- Romanisations of the 19 leading consonants of Hangul syllables. -/
def hangulLeads : List String :=
  ["g", "gg", "n", "d", "dd", "r", "m", "b", "bb", "s", "ss", "", "j", "jj", "c", "k", "t", "p",
   "h"]

/-- Romanisations of the 21 vowels of Hangul syllables. -/
def hangulVowels : List String :=
  ["a", "ae", "ya", "yae", "eo", "e", "yeo", "ye", "o", "wa", "wae", "oe", "yo", "u", "weo", "we",
   "wi", "yu", "eu", "yi", "i"]

/-- Romanisations of the 28 trailing consonants of Hangul syllables, the
first standing for none. -/
def hangulTails : List String :=
  ["", "g", "gg", "gs", "n", "nj", "nh", "d", "l", "lg", "lm", "lb", "ls", "lt", "lp", "lh", "m",
   "b", "bs", "s", "ss", "ng", "j", "c", "k", "t", "p", "h"]

/-- The spelling of the Hangul syllable at offset `k` from U+AC00: the
syllables are ordered by leading consonant, then vowel, then trailing
consonant. -/
def hangulSpelling (k : Nat) : String :=
  hangulLeads.getD (k / 588) "" ++ hangulVowels.getD (k / 28 % 21) "" ++
    hangulTails.getD (k % 28) ""

/-- The ASCII spelling of a character. -/
def spelling (c : Char) : String :=
  let n := c.toNat
  if n < 0x80 then c.toString
  else if 0xac00 ≤ n ∧ n ≤ 0xd7a3 then hangulSpelling (n - 0xac00)
  else ((hanSpelling n).orElse fun _ => blockSpelling n).getD ""

/-- The ASCII spelling of a text. -/
def transliterate (s : String) : String :=
  String.join (s.toList.map spelling)

end CriticalCss.Text
