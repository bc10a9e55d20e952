import CriticalCss.Proofs.VariableRounds
import CriticalCss.Proofs.QueryPieces

/-!
# What pruning reads off the text of declarations

Two passes decide by searching text rather than by reading tokens.

The excluded-property pass removes a declaration when its property is no custom property and
one of the family words (`animation`, `transition`, `cursor`, `pointer-events`,
`tap-highlight-color`, `user-select`) occurs anywhere in its lower-case name without vendor
prefix. The specification lists the families as `animation*`, `transition*`, the three names
themselves and `*user-select`, so every specified property goes, and so do names that hold a word
elsewhere: `view-transition-name` is removed too.

The custom properties a sheet uses are found by a left-to-right scan of each value for `var(` in
any case, blanks, `--` and a name up to a blank, a comma or `)`. A reference the lexer reads as a
`var(` function token, blanks and a custom property name of name characters, followed by a blank,
a comma, `)` or the end, is found, unless a name found before it runs on into it (and then that
name holds `var(`). Custom property values keep their comments, and a comment between `var(`
and the name hides the reference from the scan.

## Main definitions

* `SpecifiedExcluded`: the property families of the specification.
* `VarReference`, `VarReference.Plain`: a reference among a value's tokens, and one written
  plainly.

## Main results

* `containsText_iff`: the text search finds exactly the contiguous parts.
* `excludedPropertyPass_removes_iff`: what the excluded-property pass removes.
* `variableReferences_append`: the scan reaches a `var(`, or a name it finds runs into it.
* `usedVariables_plainReference`: a plain reference is found.
-/

namespace CriticalCss.Css

open CriticalCss.Text

/-! ## Searching text -/

theorem occursIn_iff_infix (pat cs : List Char) : occursIn pat cs = true ↔ pat <:+: cs := by
  induction cs with
  | nil => cases pat <;> simp [occursIn]
  | cons c cs ih => simp [occursIn, ih, List.infix_cons_iff, List.isPrefixOf_iff_prefix]

/-- A text is found in another exactly when its characters are a contiguous part of the other's. -/
theorem containsText_iff {s pat : String} :
    containsText s pat = true ↔ pat ≠ "" ∧ pat.toList <:+: s.toList := by
  simp [containsText, occursIn_iff_infix]

/-! ## Excluded properties -/

/-- The families of excluded properties as the pruning specification lists them, on a name in
lower case without vendor prefix: `animation*`, `transition*`, `cursor`, `pointer-events`,
`tap-highlight-color` and `*user-select`. -/
def SpecifiedExcluded (b : String) : Prop :=
  "animation".toList <+: b.toList ∨ "transition".toList <+: b.toList ∨ b = "cursor" ∨
    b = "pointer-events" ∨ b = "tap-highlight-color" ∨ "user-select".toList <:+ b.toList

instance : DecidablePred SpecifiedExcluded := fun _ =>
  inferInstanceAs (Decidable (_ ∨ _))

theorem isExcludedProperty_iff (n : String) :
    isExcludedProperty n = true ↔ n.startsWith "--" = false ∧
      ∃ w ∈ excludedProperties, w.toList <:+: (baseName (lower n)).toList := by
  unfold isExcludedProperty
  cases n.startsWith "--" with
  | true => simp
  | false =>
    simp only [Bool.false_eq_true, ↓reduceIte, List.any_eq_true, containsText_iff, true_and]
    constructor
    · rintro ⟨w, hw, -, hi⟩
      exact ⟨w, hw, hi⟩
    · rintro ⟨w, hw, hi⟩
      -- no family word is empty
      have hne : w ≠ "" := by
        rintro rfl
        simp [excludedProperties] at hw
      exact ⟨w, hw, hne, hi⟩

/-- Every property of the specified families is excluded. -/
theorem isExcludedProperty_of_specified {n : String} (hc : n.startsWith "--" = false)
    (h : SpecifiedExcluded (baseName (lower n))) : isExcludedProperty n = true := by
  refine (isExcludedProperty_iff n).2 ⟨hc, ?_⟩
  simp only [excludedProperties, List.mem_cons, List.not_mem_nil, or_false, exists_eq_or_imp,
    exists_eq_left]
  rcases h with h | h | h | h | h | h
  · exact .inl h.isInfix
  · exact .inr (.inl h.isInfix)
  · exact .inr (.inr (.inl (h ▸ List.infix_refl _)))
  · exact .inr (.inr (.inr (.inl (h ▸ List.infix_refl _))))
  · exact .inr (.inr (.inr (.inr (.inl (h ▸ List.infix_refl _)))))
  · exact .inr (.inr (.inr (.inr (.inr h.isInfix))))

/-- The excluded-property pass of pruning removes a declaration of a tree exactly when its
property is no custom property and a family word occurs in its lower-case name without vendor
prefix; so it removes every property of the specified families. -/
theorem excludedPropertyPass_removes_iff (sc : Scope) (l : List Item) {x : Scope × Declaration}
    (hx : x ∈ itemsDeclarations sc l) :
    (x ∉ itemsDeclarations sc
        (filterItems (keepDeclarations fun _ d => !isExcludedProperty d.property) sc l) ↔
      x.2.isCustom = false ∧
        ∃ w ∈ excludedProperties, w.toList <:+: (baseName (lower x.2.property)).toList) ∧
    (x.2.isCustom = false → SpecifiedExcluded (baseName (lower x.2.property)) →
      x ∉ itemsDeclarations sc
        (filterItems (keepDeclarations fun _ d => !isExcludedProperty d.property) sc l)) := by
  have hmem : x ∉ itemsDeclarations sc
      (filterItems (keepDeclarations fun _ d => !isExcludedProperty d.property) sc l) ↔
      isExcludedProperty x.2.property = true := by
    rw [itemsDeclarations_filterItems_keepDeclarations, List.mem_filter]
    simp [hx]
  exact ⟨hmem.trans (isExcludedProperty_iff _),
    fun hc hs => hmem.2 (isExcludedProperty_of_specified hc hs)⟩

/-- `-webkit-transition` is removed: its name without prefix is `transition`. -/
theorem excludedPropertyPass_removes_webkitTransition :
    (({} : Scope), (⟨"-webkit-transition", "all 1s", false⟩ : Declaration)) ∈
        itemsDeclarations {} [.declaration ⟨"-webkit-transition", "all 1s", false⟩] ∧
      (({} : Scope), (⟨"-webkit-transition", "all 1s", false⟩ : Declaration)) ∉
        itemsDeclarations {} (filterItems (keepDeclarations fun _ d => !isExcludedProperty d.property)
          {} [.declaration ⟨"-webkit-transition", "all 1s", false⟩]) := by
  have hx : (({} : Scope), (⟨"-webkit-transition", "all 1s", false⟩ : Declaration)) ∈
      itemsDeclarations {} [.declaration ⟨"-webkit-transition", "all 1s", false⟩] := by
    simp [itemsDeclarations, Item.declarationsIn]
  exact ⟨hx, (excludedPropertyPass_removes_iff {} _ hx).2 (by decide +kernel) (by decide +kernel)⟩

/-- A name that holds a family word elsewhere is excluded too: `view-transition-name` is
removed from `.a{color:red;view-transition-name:x}`, though no specified family holds it. -/
theorem pruned_removes_viewTransitionName :
    (StyleSheet.parse ".a\x7bcolor:red;view-transition-name:x\x7d").toOption.map
        (fun s => (s.pruned (· == ".a")).css) = some ".a\x7bcolor:red\x7d" ∧
      ¬ SpecifiedExcluded (baseName (lower "view-transition-name")) := by
  decide +kernel

/-! ## Characters -/

theorem isAsciiSpace_eq_isBlank (c : Char) : isAsciiSpace c = isBlank c := by
  unfold isAsciiSpace isBlank
  rw [Bool.eq_iff_iff]
  simp only [Bool.or_eq_true, beq_iff_eq]
  tauto

theorem toLower_eq_self_of_le {c : Char} (h : 0x80 ≤ c.toNat) : c.toLower = c := by
  unfold Char.toLower
  rw [dif_neg]
  rintro ⟨-, hz⟩
  have hz' := UInt32.le_iff_toNat_le.1 hz
  simp at hz'
  omega

/-- Where the ASCII lower case is ASCII, the Unicode lower case agrees with it. -/
theorem lowerChar_eq_toLower {c : Char} (h : c.toLower.toNat < 0x80) :
    lowerChar c = c.toLower := by
  have hc : c.toNat < 0x80 := by
    by_contra hn
    rw [toLower_eq_self_of_le (by omega)] at h
    omega
  -- checked on each ASCII character
  have key : ∀ i : Fin 0x80, lowerChar (Char.ofNat i) = (Char.ofNat i).toLower := by decide
  simpa [Char.ofNat_toNat] using key ⟨c.toNat, hc⟩

theorem toLower_ne_v_of_isAsciiSpace {c : Char} (h : isAsciiSpace c = true) : c.toLower ≠ 'v' := by
  simp only [isAsciiSpace, Bool.or_eq_true, beq_iff_eq] at h
  rcases h with (((rfl | rfl) | rfl) | rfl) | rfl <;> decide

/-- The characters a name read after `var(` may hold: all but blanks, commas and `)`. -/
def inVarName (c : Char) : Bool :=
  !isAsciiSpace c && c != ',' && c != ')'

theorem varName_test_eq : (fun c => !isAsciiSpace c && c != ',' && c != ')') = inVarName := rfl

theorem eq_of_inVarName_eq_false {c : Char} (h : inVarName c = false) :
    c = '\t' ∨ c = '\n' ∨ c = '\x0c' ∨ c = '\r' ∨ c = ' ' ∨ c = ',' ∨ c = ')' := by
  simp only [inVarName, isAsciiSpace] at h
  grind

theorem inVarName_of_toLower_var {c : Char} (h : c.toLower ∈ "var(".toList) :
    inVarName c = true := by
  cases hn : inVarName c
  · rcases eq_of_inVarName_eq_false hn with rfl | rfl | rfl | rfl | rfl | rfl | rfl <;>
      revert h <;> decide
  · rfl

theorem inVarName_of_isNameChar {c : Char} (h : isNameChar c = true) : inVarName c = true := by
  cases hn : inVarName c
  · rcases eq_of_inVarName_eq_false hn with rfl | rfl | rfl | rfl | rfl | rfl | rfl <;>
      revert h <;> decide
  · rfl

theorem inVarName_eq_false {c : Char} (h : isBlank c = true ∨ c = ',' ∨ c = ')') :
    inVarName c = false := by
  rcases h with h | rfl | rfl
  · simp [inVarName, isAsciiSpace_eq_isBlank, h]
  · decide
  · decide

/-! ## One reference at the front of a text -/

theorem leadingCount_eq (p : Char → Bool) (l : List Char) :
    leadingCount p l = (l.takeWhile p).length := by
  induction l with
  | nil => rfl
  | cons c l ih => by_cases h : p c <;> simp [leadingCount, h, ih]

theorem take_leadingCount (p : Char → Bool) (l : List Char) :
    l.take (leadingCount p l) = l.takeWhile p := by
  induction l with
  | nil => rfl
  | cons c l ih => by_cases h : p c <;> simp [leadingCount, h, ih]

theorem leadingCount_append {p : Char → Bool} {a b : List Char} (ha : ∀ c ∈ a, p c = true)
    (hb : ∀ c ∈ b.head?, p c = false) : leadingCount p (a ++ b) = a.length := by
  rw [leadingCount_eq, List.takeWhile_append_of_pos ha]
  cases b with
  | nil => simp
  | cons c b => simp [hb c rfl]

theorem takeWhile_append_of_lt {p : Char → Bool} {c Z : List Char}
    (h : c.length < ((c ++ Z).takeWhile p).length) :
    (c ++ Z).takeWhile p = c ++ Z.takeWhile p := by
  induction c with
  | nil => rfl
  | cons x c ih =>
    by_cases hx : p x
    · simp only [List.cons_append, List.takeWhile_cons, hx, ↓reduceIte, List.length_cons] at h ⊢
      rw [ih (by omega)]
    · simp [hx] at h

theorem stripFolded_append {w f : List Char} (h : f.map Char.toLower = w.map Char.toLower)
    (X : List Char) : stripFolded w (f ++ X) = some X := by
  induction w generalizing f with
  | nil => simp_all [stripFolded]
  | cons a w ih =>
    obtain ⟨b, f, rfl⟩ : ∃ b f', f = b :: f' := by
      cases f with
      | nil => simp at h
      | cons b f => exact ⟨b, f, rfl⟩
    simp only [List.map_cons, List.cons.injEq] at h
    simp [stripFolded, foldEq, h.1, ih h.2]

theorem stripFolded_eq_some {w Y r : List Char} (h : stripFolded w Y = some r) :
    ∃ g, Y = g ++ r ∧ List.Forall₂ (fun c d => foldEq c d = true) g w := by
  induction w generalizing Y with
  | nil =>
    simp only [stripFolded, Option.some.injEq] at h
    exact ⟨[], by simp [h], .nil⟩
  | cons d w ih =>
    cases Y with
    | nil => simp [stripFolded] at h
    | cons c Y =>
      simp only [stripFolded] at h
      split at h
      · obtain ⟨g, rfl, hg⟩ := ih h
        exact ⟨c :: g, rfl, .cons ‹_› hg⟩
      · cases h

/-- A reference found at the front of a text: `var(` in some case, blanks, two hyphens, and the
name's characters up to a blank, a comma or `)`. -/
theorem varAt_eq_some {Y : List Char} {k : Nat} {m : String} (h : varAt Y = some (k, m)) :
    ∃ g s r, Y = g ++ (s ++ '-' :: '-' :: r) ∧
      List.Forall₂ (fun c d => foldEq c d = true) g "var(".toList ∧
      (∀ c ∈ s, isAsciiSpace c = true) ∧ r.takeWhile inVarName ≠ [] ∧
      k = 4 + s.length + 2 + (r.takeWhile inVarName).length ∧
      m = "--" ++ String.ofList (r.takeWhile inVarName) := by
  unfold varAt at h
  split at h
  · rename_i r0 h0
    obtain ⟨g, rfl, hg⟩ := stripFolded_eq_some h0
    simp only at h
    split at h
    · rename_i r1 hr
      split at h
      · cases h
      · rename_i hk
        simp only [Option.some.injEq, Prod.mk.injEq] at h
        obtain ⟨rfl, rfl⟩ := h
        refine ⟨g, r0.takeWhile isAsciiSpace, r1, ?_, hg,
          fun c hc => List.all_eq_true.1 List.all_takeWhile c hc, ?_, ?_, ?_⟩
        · rw [← hr, ← take_leadingCount, List.take_append_drop]
        · rw [leadingCount_eq, varName_test_eq] at hk
          simpa using hk
        · rw [leadingCount_eq, leadingCount_eq]
          rfl
        · rw [take_leadingCount]
          rfl
    · cases h
  · cases h

/-- A reference written plainly is found whole: `var(` in some case, blanks, and a name of name
characters that a blank, a comma, `)` or the end follows. -/
theorem varAt_plain {f G cs T : List Char} (hf : f.map Char.toLower = "var(".toList)
    (hG : ∀ c ∈ G, isBlank c = true) (hcs : ∀ c ∈ cs, isNameChar c = true) (hne : cs ≠ [])
    (hT : ∀ c ∈ T.head?, isBlank c = true ∨ c = ',' ∨ c = ')') :
    varAt (f ++ (G ++ '-' :: '-' :: (cs ++ T))) =
      some (4 + G.length + 2 + cs.length, "--" ++ String.ofList cs) := by
  have hvar : "var(".toList.map Char.toLower = "var(".toList := by decide
  have hw : leadingCount isAsciiSpace (G ++ '-' :: '-' :: (cs ++ T)) = G.length :=
    leadingCount_append (fun c hc => by rw [isAsciiSpace_eq_isBlank, hG c hc])
      (by simp [isAsciiSpace])
  have hk : leadingCount inVarName (cs ++ T) = cs.length :=
    leadingCount_append (fun c hc => inVarName_of_isNameChar (hcs c hc))
      (fun c hc => inVarName_eq_false (hT c hc))
  have hcs0 : cs.length ≠ 0 := by simpa using hne
  unfold varAt
  rw [stripFolded_append (hf.trans hvar.symm)]
  simp only [hw, List.drop_left]
  simp [varName_test_eq, hk, hcs0]

/-- A name whose characters run on into a `var(` holds it. -/
theorem containsText_var_of_run {c f B : List Char} (hf : f.map Char.toLower = "var(".toList)
    (hc : c.length < ((c ++ (f ++ B)).takeWhile inVarName).length) :
    containsText (asciiLower ("--" ++ String.ofList ((c ++ (f ++ B)).takeWhile inVarName)))
      "var(" = true := by
  have hrun : ∀ x ∈ f, inVarName x = true := fun x hx =>
    inVarName_of_toLower_var (hf ▸ List.mem_map_of_mem hx)
  rw [takeWhile_append_of_lt hc, List.takeWhile_append_of_pos hrun]
  refine containsText_iff.2 ⟨by decide, ['-', '-'] ++ c.map Char.toLower,
    (B.takeWhile inVarName).map Char.toLower, ?_⟩
  simp [asciiLower, String.toList_map, hf]

/-- A reference found before a `var(` that reaches past its first character takes that `var(`
into its name. -/
theorem varAt_runs_into {X f B : List Char} {k : Nat} {m : String} (hX : X ≠ [])
    (hf : f.map Char.toLower = "var(".toList) (h : varAt (X ++ (f ++ B)) = some (k, m))
    (hk : X.length < k) : containsText (asciiLower m) "var(" = true := by
  obtain ⟨g, s, r, hY, hg, hs, hne, rfl, rfl⟩ := varAt_eq_some h
  clear h
  have hv : "var(".toList = ['v', 'a', 'r', '('] := by decide
  rw [hv] at hg
  cases hg with | @cons g0 _ _ _ _ hg => ?_
  cases hg with | @cons g1 _ _ _ h1 hg => ?_
  cases hg with | @cons g2 _ _ _ h2 hg => ?_
  cases hg with | @cons g3 _ _ _ h3 hg => ?_
  cases hg
  obtain ⟨f0, f', rfl, hf0⟩ : ∃ f0 f', f = f0 :: f' ∧ f0.toLower = 'v' := by
    rw [hv] at hf
    cases f with
    | nil => simp at hf
    | cons f0 f' => exact ⟨f0, f', rfl, (List.cons.inj hf).1⟩
  rw [show [g0, g1, g2, g3] ++ (s ++ '-' :: '-' :: r) =
    (g0 :: ([g1, g2, g3] ++ (s ++ ['-', '-']))) ++ r by simp] at hY
  -- either `X` ends inside `var(`, the blanks and the hyphens, or the name runs over its end
  rcases List.append_eq_append_iff.1 hY with ⟨a, hH, hr⟩ | ⟨c, hXc, hr⟩
  · cases a with
    | nil =>
      simp only [List.nil_append] at hr
      subst hr
      simpa using containsText_var_of_run (c := []) hf (by simpa [List.length_pos_iff] using hne)
    | cons a0 a' =>
      -- then the `v` of the second `var(` stands where no `v` can
      exfalso
      obtain ⟨rfl, -⟩ := List.cons.inj hr
      obtain ⟨x0, X', rfl⟩ : ∃ x0 X', X = x0 :: X' := by
        cases X with
        | nil => exact absurd rfl hX
        | cons x0 X' => exact ⟨x0, X', rfl⟩
      have hmem : f0 ∈ [g1, g2, g3] ++ (s ++ ['-', '-']) := by
        rw [(List.cons.inj hH).2]
        simp
      simp only [List.mem_append, List.mem_cons, List.not_mem_nil, or_false] at hmem
      rcases hmem with ((rfl | rfl | rfl) | hs' | rfl | rfl)
      · simp [foldEq, hf0] at h1
      · simp [foldEq, hf0] at h2
      · simp [foldEq, hf0] at h3
      · exact toLower_ne_v_of_isAsciiSpace (hs _ hs') hf0
      · exact absurd hf0 (by decide)
      · exact absurd hf0 (by decide)
  · subst hr hXc
    simp only [List.length_append, List.length_cons] at hk
    exact containsText_var_of_run hf (by omega)

/-! ## The scan of a value -/

/-- The scan of a text whose second part starts with `var(` in some case reaches that part,
unless a name it finds before runs on into it, and that name then holds `var(`. -/
theorem variableReferences_append {f B : List Char} (hf : f.map Char.toLower = "var(".toList)
    (A : List Char) :
    (∃ l, variableReferences (A ++ (f ++ B)) = l ++ variableReferences (f ++ B)) ∨
      ∃ m ∈ variableReferences (A ++ (f ++ B)), containsText (asciiLower m) "var(" = true := by
  -- by the length of `A`: a reference found in it moves the scan forward by its length
  induction hn : A.length using Nat.strongRecOn generalizing A with
  | _ n ih =>
  cases A with
  | nil => exact .inl ⟨[], rfl⟩
  | cons c A =>
    rw [List.cons_append, variableReferences]
    cases hv : varAt (c :: (A ++ (f ++ B))) with
    | none =>
      simp only
      exact ih A.length (by simp at hn; omega) A rfl
    | some km =>
      obtain ⟨k, m⟩ := km
      simp only
      by_cases hk : k - 1 ≤ A.length
      · rw [List.drop_append_of_le_length hk]
        rcases ih (A.drop (k - 1)).length (by simp at hn ⊢; omega) (A.drop (k - 1)) rfl with
          ⟨l, hl⟩ | ⟨m', hm', hc⟩
        · exact .inl ⟨m :: l, by rw [hl, List.cons_append]⟩
        · exact .inr ⟨m', List.mem_cons_of_mem _ hm', hc⟩
      · exact .inr ⟨m, List.mem_cons_self,
          varAt_runs_into (List.cons_ne_nil c A) hf hv (by simp; omega)⟩

/-- A `var(` reference among the tokens of a value: a function token `var(` in any case, then
blanks and comments, then a custom property name. -/
structure VarReference (v : String) where
  pre : List Token
  fn : String
  gap : List Token
  name : String
  post : List Token
  spells : (tokenize v).map (·.token) =
    pre ++ ⟨.function, fn⟩ :: gap ++ ⟨.customPropertyName, name⟩ :: post
  isVar : asciiLower fn = "var("
  skipped : ∀ t ∈ gap, t.kind = .whitespace ∨ t.kind = .comment

/-- A reference written plainly: only blanks between `var(` and the name, a name of name
characters after its two hyphens, and a blank, a comma, `)` or the end of the value after it. -/
structure VarReference.Plain {v : String} (r : VarReference v) : Prop where
  gap_blank : ∀ c ∈ r.gap.flatMap (·.text.toList), isBlank c = true
  name_chars : ∃ cs, r.name.toList = '-' :: '-' :: cs ∧ cs ≠ [] ∧ ∀ c ∈ cs, isNameChar c = true
  ends : ∀ c ∈ (r.post.flatMap (·.text.toList)).head?, isBlank c = true ∨ c = ',' ∨ c = ')'

/-- The characters of a value around one of its references. -/
theorem VarReference.toList_eq {v : String} (r : VarReference v) :
    v.toList = r.pre.flatMap (·.text.toList) ++ (r.fn.toList ++
      (r.gap.flatMap (·.text.toList) ++ (r.name.toList ++ r.post.flatMap (·.text.toList)))) := by
  have h := congrArg String.toList (join_tokenize v)
  have hmap : (tokenize v).map (·.token.text) = ((tokenize v).map (·.token)).map (·.text) := by
    simp
  rw [hmap, r.spells, String.toList_join] at h
  simp [← h, List.flatMap_map]

theorem VarReference.toLower_fn {v : String} (r : VarReference v) :
    r.fn.toList.map Char.toLower = "var(".toList := by
  rw [← String.toList_map]
  exact congrArg String.toList r.isVar

/-- A value holding `var(` in some case passes the test on its lower-case text. -/
theorem containsText_lower_of_var {v : String} {A f B : List Char}
    (hv : v.toList = A ++ (f ++ B)) (hf : f.map Char.toLower = "var(".toList) :
    containsText (lower v) "var(" = true := by
  have hascii : ∀ d ∈ "var(".toList, d.toNat < 0x80 := by simp
  have hlow : f.map lowerChar = f.map Char.toLower := List.map_congr_left fun c hc =>
    lowerChar_eq_toLower (hascii _ (hf ▸ List.mem_map_of_mem hc))
  refine containsText_iff.2 ⟨by decide, A.map lowerChar, B.map lowerChar, ?_⟩
  simp [lower, String.toList_map, hv, hlow, hf]

/-- The name of a plain reference is found by the scan from the reference on. -/
theorem mem_variableReferences_plain {v : String} (r : VarReference v) (hr : r.Plain) :
    r.name ∈ variableReferences (r.fn.toList ++ (r.gap.flatMap (·.text.toList) ++
      (r.name.toList ++ r.post.flatMap (·.text.toList)))) := by
  obtain ⟨cs, hname, hne, hcs⟩ := hr.name_chars
  have hat := varAt_plain (T := r.post.flatMap (·.text.toList)) r.toLower_fn hr.gap_blank hcs hne
    hr.ends
  obtain ⟨f0, f', hf⟩ : ∃ f0 f', r.fn.toList = f0 :: f' := by
    have h4 := congrArg List.length r.toLower_fn
    cases h : r.fn.toList with
    | nil => simp [h] at h4
    | cons f0 f' => exact ⟨f0, f', rfl⟩
  have hn : r.name = "--" ++ String.ofList cs := by
    apply String.toList_inj.1
    simp [hname]
  rw [hname, hf, List.cons_append, variableReferences]
  rw [hf, List.cons_append] at hat
  simp only [List.cons_append, hat, hn]
  exact List.mem_cons_self

/-- A reference of a declaration's value written plainly is among the custom properties the
sheet uses, unless a name the scan finds in the same value runs on into it; that name is then
used and holds `var(`. -/
theorem usedVariables_plainReference {s : StyleSheet} {x : Scope × Declaration}
    (hx : x ∈ itemsDeclarations {} s.items) (r : VarReference x.2.value) (hr : r.Plain) :
    r.name ∈ s.usedVariables ∨
      ∃ m ∈ variableReferences x.2.value.toList, m ∈ s.usedVariables ∧
        containsText (asciiLower m) "var(" = true := by
  obtain ⟨sc, d⟩ := x
  have hv := r.toList_eq
  have hfound : r.name ∈ variableReferences d.value.toList ∨
      ∃ m ∈ variableReferences d.value.toList, containsText (asciiLower m) "var(" = true := by
    rw [hv]
    rcases variableReferences_append r.toLower_fn (r.pre.flatMap (·.text.toList)) with
      ⟨l, hl⟩ | hm
    · exact .inl (hl ▸ List.mem_append_right l (mem_variableReferences_plain r hr))
    · exact .inr hm
  have hpre : containsText (lower d.value) "var(" = true :=
    containsText_lower_of_var hv r.toLower_fn
  -- what the scan of a declaration's value finds is used
  have hused : ∀ m ∈ variableReferences d.value.toList, m ∈ s.usedVariables := fun m hm => by
    simp only [StyleSheet.usedVariables, List.mem_eraseDups, List.mem_flatMap]
    exact ⟨(sc, d), hx, by simp [hpre, hm]⟩
  rcases hfound with h | ⟨m, hm, hc⟩
  · exact .inl (hused _ h)
  · exact .inr ⟨m, hm, hused m hm, hc⟩

/-- The sheet `.x{width:var(--a)}`. -/
def widthSheet : StyleSheet :=
  { source := ".x\x7bwidth:var(--a)\x7d", items := [.rule [".x"] [.declaration ⟨"width", "var(--a)", false⟩]] }

/-- The reference of `width:var(--a)`. -/
def widthReference : VarReference "var(--a)" where
  pre := []
  fn := "var("
  gap := []
  name := "--a"
  post := [⟨.rightParen, ")"⟩]
  spells := by decide +kernel
  isVar := by decide +kernel
  skipped := by simp

theorem usedVariables_plainReference_width :
    ({ inRule := true }, ⟨"width", "var(--a)", false⟩) ∈ itemsDeclarations {} widthSheet.items ∧
      widthReference.Plain ∧
      ("--a" ∈ widthSheet.usedVariables ∨
        ∃ m ∈ variableReferences "var(--a)".toList, m ∈ widthSheet.usedVariables ∧
          containsText (asciiLower m) "var(" = true) := by
  have hx : (({ inRule := true } : Scope), (⟨"width", "var(--a)", false⟩ : Declaration)) ∈
      itemsDeclarations {} widthSheet.items := by
    simp [widthSheet, itemsDeclarations, Item.declarationsIn]
  have hr : widthReference.Plain :=
    ⟨by simp [widthReference], ⟨['a'], by simp [widthReference], by simp,
      by simp only [List.mem_singleton, forall_eq]; decide⟩, by simp [widthReference]⟩
  exact ⟨hx, hr, usedVariables_plainReference hx widthReference hr⟩

/-- The reference of the value `var(`, a comment `c`, `--a` and `)`. -/
def commentedReference : VarReference "var(/*c*/--a)" where
  pre := []
  fn := "var("
  gap := [⟨.comment, "/*c*/"⟩]
  name := "--a"
  post := [⟨.rightParen, ")"⟩]
  spells := by decide +kernel
  isVar := by decide +kernel
  skipped := by simp

/-- A comment before the name hides a reference: in the sheet that defines `--a` as `red` and
`--b` as `var(`, a comment, `--a` and `)`, the value of `--b` refers to `--a`, and the sheet uses
no custom property. -/
theorem usedVariables_misses_commentedReference :
    ¬ ∀ s, StyleSheet.parse ":root\x7b--a:red;--b:var(/*c*/--a)\x7d" = .ok s →
      ∀ x ∈ itemsDeclarations {} s.items, ∀ r : VarReference x.2.value, r.name ∈ s.usedVariables := by
  intro h
  have hs : (StyleSheet.parse ":root\x7b--a:red;--b:var(/*c*/--a)\x7d").toOption.map
      (fun s => ((itemsDeclarations {} s.items).map (·.2.value), s.usedVariables)) =
        some (["red", "var(/*c*/--a)"], []) := by
    decide +kernel
  cases hp : StyleSheet.parse ":root\x7b--a:red;--b:var(/*c*/--a)\x7d" with
  | error e => simp [hp, Except.toOption] at hs
  | ok s =>
    simp only [hp, Except.toOption, Option.map_some, Option.some.injEq, Prod.mk.injEq] at hs
    obtain ⟨hvals, hused⟩ := hs
    obtain ⟨x, hx, hxv⟩ : ∃ x ∈ itemsDeclarations {} s.items, x.2.value = "var(/*c*/--a)" := by
      have : "var(/*c*/--a)" ∈ (itemsDeclarations {} s.items).map (·.2.value) := by simp [hvals]
      simpa using this
    have := h s hp x hx (hxv ▸ commentedReference)
    simp [hused] at this

end CriticalCss.Css
