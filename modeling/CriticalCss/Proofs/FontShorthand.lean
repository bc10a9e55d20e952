import CriticalCss.Css.Font
import CriticalCss.Css.Sheet.Parse
import Mathlib.Data.List.TakeWhile
/-!
# The family part of the font shorthand

A `font` value names its families after the size: optional keywords (style, variant, weight,
stretch), a font size (a dimension, a percentage, a number or a size keyword), an optional `/`
and line height, then the family list. The scan that finds the family part does not follow this
grammar: it walks the tokens up to the first comma outside parentheses and takes the family part
to start after the last size it has seen, or after the token that follows a `/`.

So the family part is the family list exactly as written when a line height is given, or when no
word of the first family is a size keyword (`shorthandFamilies_eq_families`), and a `font`
declaration then reports the names that the list reports in `font-family`
(`declarationFamilies_font_shorthand`). Otherwise the words of the first family up to its last
size keyword are lost: `10px Small Fonts,serif` reports `fonts` where the list on its own reports
`small fonts` (`usedFontFamilies_size_word_in_family`).

## Main definitions

* `Token.isFontSize`, `Token.scannedOver`, `Token.inFamilyList`, `LineHeight`: the grammar of a
  shorthand value, by tokens.

## Main results

* `shorthandFamilies.go_append`: the scan passes a run of tokens it steps over.
* `shorthandFamilies_eq_families`: the family part of a shorthand is its family list.
* `declarationFamilies_font_shorthand`: a `font` declaration reports its family list's names.
-/

namespace CriticalCss.Css

open CriticalCss.Text

/-- A font size as the shorthand writes it: a dimension, a percentage, a number, or a size
keyword in any case. -/
def Token.isFontSize (t : Token) : Bool :=
  t.kind == .dimension || t.kind == .percentage || t.kind == .number ||
    (t.kind == .ident && fontSizeKeywords.contains (lower t.text))

/-- Whether the scan of a `font` value steps over a token at the top level: every token but a
comma, a parenthesis, a function and the `/` before a line height. -/
def Token.scannedOver (t : Token) : Bool :=
  !(t.kind == .comma || t.kind == .function || t.kind == .leftParen ||
    t.kind == .rightParen || (t.kind == .delim && t.text == "/"))

/-- The tokens of a family list: quoted names, the words of unquoted names, the commas between
names, blanks and comments. -/
def Token.inFamilyList (t : Token) : Bool :=
  t.kind == .string || t.kind == .ident || t.kind == .comma || t.kind == .whitespace ||
    t.kind == .comment

/-- The optional line height after the size: nothing, or a `/` and one token, with blanks and
comments around the `/`. -/
inductive LineHeight : List Token → Prop
  | none : LineHeight []
  | given (w₁ w₂ : List Token) (v : Token)
      (hw : ∀ t ∈ w₁ ++ w₂, t.kind = .whitespace ∨ t.kind = .comment)
      (hv : v.kind ≠ .whitespace ∧ v.kind ≠ .comment) :
      LineHeight (w₁ ++ ⟨.delim, "/"⟩ :: (w₂ ++ [v]))

namespace shorthandFamilies

variable {toks : List Token}

/-- One token the scan steps over: it is remembered as the size when it is one. -/
theorem go_scannedOver {t : Token} (ht : t.scannedOver = true) (i : Nat) (size : Option Nat)
    (r : List Token) :
    go toks i size 0 (t :: r) = go toks (i + 1) (if t.isFontSize then some i else size) 0 r := by
  rw [go]
  cases hk : t.kind <;> simp_all [Token.scannedOver, Token.isFontSize]

/-- The scan steps over a run of such tokens, ending with the last size among them, or the size
before when there is none. -/
theorem go_append {l : List Token} (hl : ∀ t ∈ l, t.scannedOver = true) (i : Nat)
    (size : Option Nat) (r : List Token) :
    ∃ size', go toks i size 0 (l ++ r) = go toks (i + l.length) size' 0 r ∧
      ((∀ t ∈ l, t.isFontSize = false) → size' = size) := by
  induction l generalizing i size with
  | nil => exact ⟨size, by simp, fun _ => rfl⟩
  | cons t l ih =>
    obtain ⟨size', h, hs⟩ := ih (fun u hu => hl u (List.mem_cons_of_mem _ hu)) (i + 1)
      (if t.isFontSize then some i else size)
    refine ⟨size', ?_, fun hno => ?_⟩
    · rw [List.cons_append, go_scannedOver (hl t List.mem_cons_self), h, List.length_cons]
      congr 1
      omega
    · rw [hs fun u hu => hno u (List.mem_cons_of_mem _ hu), hno t List.mem_cons_self]
      rfl

end shorthandFamilies

theorem Token.scannedOver_of_isFontSize {t : Token} (h : t.isFontSize = true) :
    t.scannedOver = true := by
  simp only [Token.isFontSize, Bool.or_eq_true, beq_iff_eq, Bool.and_eq_true] at h
  rcases h with ((h | h) | h) | ⟨h, -⟩ <;> simp [Token.scannedOver, h]

theorem Token.scannedOver_of_inFamilyList {t : Token} (h : t.inFamilyList = true)
    (hc : t.kind ≠ .comma) : t.scannedOver = true := by
  simp only [Token.inFamilyList, Bool.or_eq_true, beq_iff_eq] at h
  rcases h with (((h | h) | h) | h) | h <;> simp_all [Token.scannedOver]

/-- The family part of a `font` value made of keywords, a size, an optional line height and a
family list is that family list, when a line height is given or no word of the first family
is a size keyword. -/
theorem shorthandFamilies_eq_families (pre lh fam : List Token) (size : Token)
    (hpre : ∀ t ∈ pre, t.scannedOver = true) (hsize : size.isFontSize = true)
    (hlh : LineHeight lh) (hfam : ∀ t ∈ fam, t.inFamilyList = true)
    (hfirst : lh = [] → ∀ t ∈ fam.takeWhile (·.kind != .comma), t.isFontSize = false) :
    shorthandFamilies (pre ++ size :: (lh ++ fam)) = fam := by
  -- the scan passes the keywords and the size, and remembers the size
  obtain ⟨s₀, h₀, -⟩ := @shorthandFamilies.go_append (pre ++ size :: (lh ++ fam)) pre hpre 0
    none (size :: (lh ++ fam))
  have hstart : shorthandFamilies.go (pre ++ size :: (lh ++ fam)) 0 none 0
      (pre ++ size :: (lh ++ fam)) =
      shorthandFamilies.go (pre ++ size :: (lh ++ fam)) (pre.length + 1) (some pre.length) 0
        (lh ++ fam) := by
    rw [h₀, shorthandFamilies.go_scannedOver (Token.scannedOver_of_isFontSize hsize), if_pos hsize,
      Nat.zero_add]
  unfold shorthandFamilies
  rw [hstart]
  cases hlh with
  | none =>
    simp only [List.nil_append]
    -- the scan passes the first family, which has no size word, up to its comma or the end
    have hwords : ∀ t ∈ fam.takeWhile (·.kind != .comma), t.scannedOver = true := fun t ht =>
      Token.scannedOver_of_inFamilyList (hfam t ((List.takeWhile_sublist _).subset ht))
        (by simpa using List.mem_takeWhile_imp ht)
    obtain ⟨s₁, h₁, hs₁⟩ := @shorthandFamilies.go_append (pre ++ size :: fam) _ hwords
      (pre.length + 1) (some pre.length) (fam.dropWhile (·.kind != .comma))
    rw [List.takeWhile_append_dropWhile, hs₁ (hfirst rfl)] at h₁
    have hend : ∀ i, shorthandFamilies.go (pre ++ size :: fam) i (some pre.length) 0
        (fam.dropWhile (·.kind != .comma)) = (none, some pre.length) := by
      intro i
      have hhead := List.head?_dropWhile_not (·.kind != .comma) fam
      cases hd : fam.dropWhile (·.kind != .comma) with
      | nil => rw [shorthandFamilies.go]
      | cons c rest =>
        rw [hd] at hhead
        simp only [List.head?_cons, bne_eq_false_iff_eq] at hhead
        rw [shorthandFamilies.go]
        simp [hhead]
    rw [h₁, hend]
    simp
  | given w₁ w₂ v hw hv =>
    simp only [List.append_assoc, List.cons_append, List.nil_append]
    have hblank : ∀ t ∈ w₁ ++ w₂, t.scannedOver = true ∧ t.isFontSize = false := fun t ht => by
      rcases hw t ht with h | h <;> simp [Token.scannedOver, Token.isFontSize, h]
    -- the scan passes the blanks before the `/`, then stops at it
    obtain ⟨s₁, h₁, -⟩ := @shorthandFamilies.go_append
      (pre ++ size :: (w₁ ++ ⟨.delim, "/"⟩ :: (w₂ ++ v :: fam))) w₁
      (fun t ht => (hblank t (List.mem_append_left _ ht)).1) (pre.length + 1) (some pre.length)
      (⟨.delim, "/"⟩ :: (w₂ ++ v :: fam))
    rw [h₁, shorthandFamilies.go]
    -- the family list follows the token after the `/`
    have hdrop : (pre ++ size :: (w₁ ++ ⟨.delim, "/"⟩ :: (w₂ ++ v :: fam))).drop
        (pre.length + 1 + w₁.length + 1) = w₂ ++ v :: fam := by
      rw [show pre ++ size :: (w₁ ++ ⟨.delim, "/"⟩ :: (w₂ ++ v :: fam)) =
          (pre ++ size :: w₁ ++ [⟨.delim, "/"⟩]) ++ (w₂ ++ v :: fam) by simp]
      exact List.drop_left' (by simp; omega)
    have hskip : (w₂ ++ v :: fam).dropWhile (fun t => t.kind == .whitespace || t.kind == .comment) =
        v :: fam := by
      rw [List.dropWhile_append_of_pos, List.dropWhile_cons_of_neg]
      · simpa using hv
      · intro t ht
        rcases hw t (List.mem_append_right _ ht) with h | h <;> simp [h]
    simp [afterNextSignificant, hdrop, hskip]


/-- A `font` declaration of a style rule whose value reads as keywords, a size, an optional line
height and a family list reports the names of that family list, which is what a `font-family`
declaration with the list as its value reports; when no line height is given, no word of the
first family may be a size keyword. -/
theorem declarationFamilies_font_shorthand {sc : Scope} {d : Declaration}
    (hrule : sc.inRule = true) (hfont : baseName d.property = "font")
    (pre lh fam : List Token) (size : Token)
    (hvalue : valueTokens d.value = pre ++ size :: (lh ++ fam))
    (hpre : ∀ t ∈ pre, t.scannedOver = true) (hsize : size.isFontSize = true)
    (hlh : LineHeight lh) (hfam : ∀ t ∈ fam, t.inFamilyList = true)
    (hfirst : lh = [] → ∀ t ∈ fam.takeWhile (·.kind != .comma), t.isFontSize = false) :
    declarationFamilies sc d = fontFamilies fam := by
  simp [declarationFamilies, hrule, hfont, hvalue,
    shorthandFamilies_eq_families pre lh fam size hpre hsize hlh hfam hfirst]

/-- With a line height, a family whose word is a size keyword is reported whole. -/
theorem declarationFamilies_font_lineHeight :
    valueTokens "bold 12px/1.5 Small Fonts,serif" =
        [⟨.ident, "bold"⟩, ⟨.whitespace, " "⟩] ++ ⟨.dimension, "12px"⟩ ::
          ([] ++ ⟨.delim, "/"⟩ :: ([] ++ [⟨.number, "1.5"⟩]) ++
            [⟨.whitespace, " "⟩, ⟨.ident, "Small"⟩, ⟨.whitespace, " "⟩, ⟨.ident, "Fonts"⟩,
              ⟨.comma, ","⟩, ⟨.ident, "serif"⟩]) ∧
      declarationFamilies { inRule := true } ⟨"font", "bold 12px/1.5 Small Fonts,serif", false⟩ =
        ["small fonts"] := by
  refine ⟨?value, ?_⟩
  · decide +kernel
  rw [declarationFamilies_font_shorthand rfl (by decide +kernel) _ _ _ _ ?value (by decide)
    (by decide) (.given [] [] _ (by simp) ⟨by decide, by decide⟩) (by decide) nofun]
  decide +kernel

/-- Without a line height, a first family whose word is a size keyword loses its words up to
that one: `10px Small Fonts,serif` reports `fonts`, where the family list on its own reports
`small fonts`. -/
theorem usedFontFamilies_size_word_in_family :
    (StyleSheet.parse ".a{font:10px Small Fonts,serif}").toOption.map
        StyleSheet.usedFontFamilies = some ["fonts"] ∧
      (StyleSheet.parse ".a{font-family:Small Fonts,serif}").toOption.map
        StyleSheet.usedFontFamilies = some ["small fonts"] := by
  decide +kernel

end CriticalCss.Css
