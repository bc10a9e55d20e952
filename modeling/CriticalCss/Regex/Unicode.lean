import CriticalCss.Text.Case
import CriticalCss.Text.Unicode.Category
import CriticalCss.Text.Unicode.Script

/-!
# Character tables for patterns

The named character classes a pattern can use: the Perl classes `\d`, `\s`
and `\w`, the POSIX classes such as `[:alpha:]`, and the Unicode classes of
`\p{...}`: the general categories by code (`Lu`) or group (`L`) or by their
long names (`Uppercase_Letter`, `Letter`), the scripts (`Cherokee`), and
`Any`, `ASCII` and `Assigned`. A Unicode class name is looked up ignoring
case, blanks, underscores and hyphens. The group `C` takes in unassigned
code points, and `LC` is the cased letters `Lu`, `Ll` and `Lt`.

## Main definitions

* `perlClass`, `posixClass?`, `unicodeClass?`: named classes as predicates.
-/

namespace CriticalCss.Regex

open CriticalCss.Text

/-- Whether a code point lies in one of the ranges. -/
def inRanges (n : Nat) : List (Nat × Nat) → Bool
  | [] => false
  | (lo, hi) :: rest => (lo ≤ n && n ≤ hi) || inRanges n rest

/-- ASCII word characters: letters, digits and the underscore. -/
def isWordChar (c : Char) : Bool :=
  ('a' ≤ c && c ≤ 'z') || ('A' ≤ c && c ≤ 'Z') || ('0' ≤ c && c ≤ '9') || c == '_'

/-- The Perl classes: `d` digits, `s` the ASCII blanks, `w` word characters. -/
def perlClass (kind : Char) (c : Char) : Bool :=
  match kind with
  | 'd' => '0' ≤ c && c ≤ '9'
  | 's' => c == '\t' || c == '\n' || c == '\x0c' || c == '\r' || c == ' '
  | _ => isWordChar c

/-- The POSIX classes by name, ASCII only. -/
def posixClass? (name : String) : Option (Char → Bool) :=
  let n (c : Char) := c.toNat
  match name with
  | "alnum" => some fun c => ('0' ≤ c && c ≤ '9') || ('A' ≤ c && c ≤ 'Z') || ('a' ≤ c && c ≤ 'z')
  | "alpha" => some fun c => ('A' ≤ c && c ≤ 'Z') || ('a' ≤ c && c ≤ 'z')
  | "ascii" => some fun c => n c ≤ 0x7f
  | "blank" => some fun c => c == '\t' || c == ' '
  | "cntrl" => some fun c => n c ≤ 0x1f || n c == 0x7f
  | "digit" => some fun c => '0' ≤ c && c ≤ '9'
  | "graph" => some fun c => 0x21 ≤ n c && n c ≤ 0x7e
  | "lower" => some fun c => 'a' ≤ c && c ≤ 'z'
  | "print" => some fun c => 0x20 ≤ n c && n c ≤ 0x7e
  | "punct" => some fun c => inRanges (n c) [(0x21, 0x2f), (0x3a, 0x40), (0x5b, 0x60), (0x7b, 0x7e)]
  | "space" => some fun c => inRanges (n c) [(0x09, 0x0d), (0x20, 0x20)]
  | "upper" => some fun c => 'A' ≤ c && c ≤ 'Z'
  | "word" => some isWordChar
  | "xdigit" => some fun c => ('0' ≤ c && c ≤ '9') || ('A' ≤ c && c ≤ 'F') || ('a' ≤ c && c ≤ 'f')
  | _ => none

/-- A class name with ASCII letters in lower case and blanks, underscores
and hyphens left out, the form in which names are compared. -/
def looseName (name : String) : String :=
  String.ofList ((name.toList.filter fun c => c != ' ' && c != '_' && c != '-').map Char.toLower)

/-- The long names of the general categories and of their groups, with the
codes they stand for. -/
def categoryAliases : List (String × String) :=
  [("Other", "C"), ("Control", "Cc"), ("cntrl", "Cc"), ("Format", "Cf"), ("Unassigned", "Cn"),
   ("Private_Use", "Co"), ("Surrogate", "Cs"), ("Letter", "L"), ("Cased_Letter", "LC"),
   ("Lowercase_Letter", "Ll"), ("Modifier_Letter", "Lm"), ("Other_Letter", "Lo"),
   ("Titlecase_Letter", "Lt"), ("Uppercase_Letter", "Lu"), ("Mark", "M"), ("Combining_Mark", "M"),
   ("Spacing_Mark", "Mc"), ("Enclosing_Mark", "Me"), ("Nonspacing_Mark", "Mn"), ("Number", "N"),
   ("Decimal_Number", "Nd"), ("digit", "Nd"), ("Letter_Number", "Nl"), ("Other_Number", "No"),
   ("Punctuation", "P"), ("punct", "P"), ("Connector_Punctuation", "Pc"), ("Dash_Punctuation", "Pd"),
   ("Close_Punctuation", "Pe"), ("Final_Punctuation", "Pf"), ("Initial_Punctuation", "Pi"),
   ("Other_Punctuation", "Po"), ("Open_Punctuation", "Ps"), ("Symbol", "S"),
   ("Currency_Symbol", "Sc"), ("Modifier_Symbol", "Sk"), ("Math_Symbol", "Sm"),
   ("Other_Symbol", "So"), ("Separator", "Z"), ("Line_Separator", "Zl"),
   ("Paragraph_Separator", "Zp"), ("Space_Separator", "Zs")]

/-- The class of a category code or group letter: `L` and the like take in
every category of their group, `LC` the cased letters. -/
def categoryClass? (code : String) : Option (Char → Bool) :=
  if code == "LC" then
    some fun c => let g := generalCategory c; g == .lu || g == .ll || g == .lt
  else if code.length == 1 then
    if ['C', 'L', 'M', 'N', 'P', 'S', 'Z'].contains code.front then
      some fun c => (generalCategory c).group == code.front
    else none
  else (GeneralCategory.ofCode? code).map fun g c => generalCategory c == g

/-- The Unicode classes a pattern can name with `\p`, by name. -/
def unicodeClass? (name : String) : Option (Char → Bool) :=
  let key := looseName name
  let codes := (GeneralCategory.all.map (·.code)) ++ ["C", "L", "M", "N", "P", "S", "Z", "LC"]
  if key == "any" then some fun _ => true
  else if key == "ascii" then some fun c => c.toNat < 0x80
  else if key == "assigned" then some fun c => generalCategory c != .cn
  else match codes.find? (looseName · == key) with
    | some code => categoryClass? code
    | none =>
      match categoryAliases.find? (looseName ·.1 == key) with
      | some (_, code) => categoryClass? code
      | none =>
        match scriptNames.find? (looseName · == key) with
        | some script => some fun c => scriptOf c == script
        | none => none

end CriticalCss.Regex
