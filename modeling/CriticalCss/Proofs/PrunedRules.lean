import Mathlib.Tactic.SplitIfs
import CriticalCss.Css.Prune
import CriticalCss.Css.Variable
import CriticalCss.Css.Font
import CriticalCss.Proofs.Nodes
import CriticalCss.Generate.Store

/-!
# What the critical part of a sheet keeps

Each pass of pruning is a decision on items, and all but two of them keep what
they keep: rules as they are, at-rules with their name and prelude. Of the two
others, the one on `@media` rewrites preludes only, and the one on style rules
changes selectors only. Tracing a rule of the result back through the passes
gives the law of the selection: outside `@keyframes`, which pruning drops
first, a rule keeps only critical selectors that are no selection
pseudo-elements, unless it declares `grid-area` directly, in which case it
keeps all of them. Removing unused custom properties and fonts afterwards keeps
rules as they are.

## Main results

* `rule_heads_pruned`: the rules of the critical part of a sheet.
* `Store.rules_prunedSheetsOf`: the rules of the critical stylesheets of a run.
-/

namespace CriticalCss.Css

theorem keepMedia_keepsRules : KeepsRules keepMedia where
  rule := by intro sc sels items it h; simpa [keepMedia] using h.symm
  atRule := by
    intro sc n p b items it h
    simp only [keepMedia] at h
    split at h
    · cases h; exact ⟨n, p, items, rfl, .refl _⟩
    · split at h
      · cases h
      · cases h; exact ⟨n, _, items, rfl, .refl _⟩
  declaration := by intro sc d it h; simpa [keepMedia] using h.symm
  comment := by intro sc c it h; simpa [keepMedia] using h.symm

theorem keepAtRule_keepsHeads : KeepsHeads keepAtRule where
  rule := by intro sc sels items it h; simpa [keepAtRule] using h.symm
  atRule := by
    intro sc n p b items it h
    simp only [keepAtRule] at h
    split at h
    · cases h
    · cases h; exact ⟨n, p, items, rfl, .refl _⟩
  declaration := by intro sc d it h; simpa [keepAtRule] using h.symm
  comment := by intro sc c it h; simpa [keepAtRule] using h.symm
  atRule_head := by
    intro sc n p b items it h
    simp only [keepAtRule] at h
    split at h
    · cases h
    · cases h; rfl

theorem keepDeclarations_keepsHeads (p : Scope → Declaration → Bool) :
    KeepsHeads (keepDeclarations p) where
  rule := by intro sc sels items it h; simpa [keepDeclarations] using h.symm
  atRule := by
    intro sc n pr b items it h
    simp only [keepDeclarations, Option.some.injEq] at h
    exact ⟨n, pr, items, h.symm, .refl _⟩
  declaration := by
    intro sc d it h
    simp only [keepDeclarations] at h
    split at h <;> simp_all
  comment := by intro sc c it h; simpa [keepDeclarations] using h.symm
  atRule_head := by
    intro sc n pr b items it h
    simp only [keepDeclarations, Option.some.injEq] at h
    subst h; rfl

theorem keepNonComment_keepsHeads : KeepsHeads keepNonComment where
  rule := by intro sc sels items it h; simpa [keepNonComment] using h.symm
  atRule := by
    intro sc n p b items it h
    simp only [keepNonComment, Option.some.injEq] at h
    exact ⟨n, p, items, h.symm, .refl _⟩
  declaration := by intro sc d it h; simpa [keepNonComment] using h.symm
  comment := by intro sc c it h; simp [keepNonComment] at h
  atRule_head := by
    intro sc n p b items it h
    simp only [keepNonComment, Option.some.injEq] at h
    subst h; rfl

theorem keepFontFace_keepsHeads (whitelist : String → Bool) : KeepsHeads (keepFontFace whitelist) where
  rule := by intro sc sels items it h; simpa [keepFontFace] using h.symm
  atRule := by
    intro sc n p b items it h
    simp only [keepFontFace] at h
    split at h
    · cases h; exact ⟨n, p, items, rfl, .refl _⟩
    · split_ifs at h
      · cases h; exact ⟨n, p, _, rfl, List.filter_sublist⟩
  declaration := by intro sc d it h; simpa [keepFontFace] using h.symm
  comment := by intro sc c it h; simpa [keepFontFace] using h.symm
  atRule_head := by
    intro sc n p b items it h
    simp only [keepFontFace] at h
    split at h
    · cases h; rfl
    · split_ifs at h
      · cases h; rfl

variable {keep : Scope → Item → Option Item}

theorem KeepsRules.eq_of_declaration (hk : KeepsRules keep) :
    ∀ sc it d, keep sc it = some (.declaration d) → it = .declaration d := by
  intro sc it d h
  cases it with
  | rule sels items => cases hk.rule _ _ _ _ h
  | atRule n p b items =>
    obtain ⟨_, _, _, h', _⟩ := hk.atRule _ _ _ _ _ _ h
    cases h'
  | declaration d' => exact (hk.declaration _ _ _ h).symm
  | comment c => cases hk.comment _ _ _ h

/-- A style rule left by a filter whose decision keeps rules comes from a rule of the tree with
the same selectors, whose block filtered is the rule's block. -/
theorem KeepsRules.exists_rule_of_mem (hk : KeepsRules keep) {sc : Scope} {its : List Item}
    {sels : List String} {items' : List Item}
    (h : Item.rule sels items' ∈ itemsNodes (filterItems keep sc its)) :
    ∃ items sc', Item.rule sels items ∈ itemsNodes its ∧ items' = filterItems keep sc' items := by
  obtain ⟨y, hy, sc', -, hyx⟩ := exists_of_mem_itemsNodes_filterItems hk.shrinksBlocks h
  cases y with
  | rule sels0 items0 =>
    cases hk.rule _ _ _ _ hyx
    exact ⟨items0, _, hy, rfl⟩
  | atRule n p b items0 =>
    obtain ⟨_, _, _, h', _⟩ := hk.atRule _ _ _ _ _ _ hyx
    cases h'
  | declaration d => cases hk.declaration _ _ _ hyx
  | comment c => cases hk.comment _ _ _ hyx

/-- No at-rule that pruning drops is left, at any depth. -/
theorem not_dropped_of_mem_keepAtRule {sc : Scope} {its : List Item} {n p : String} {b : Bool}
    {items : List Item} (h : Item.atRule n p b items ∈ itemsNodes (filterItems keepAtRule sc its)) :
    droppedAtRules.contains (baseName n) = false := by
  obtain ⟨y, -, sc', -, hyx⟩ :=
    exists_of_mem_itemsNodes_filterItems keepAtRule_keepsHeads.shrinksBlocks h
  cases y with
  | atRule n0 p0 b0 items0 =>
    simp only [Item.filterWith, keepAtRule] at hyx
    split at hyx
    · cases hyx
    · rename_i hnd
      cases hyx
      exact Bool.eq_false_iff.2 hnd
  | rule sels items0 => simp [Item.filterWith, keepAtRule] at hyx
  | declaration d => simp [Item.filterWith, keepAtRule] at hyx
  | comment c => simp [Item.filterWith, keepAtRule] at hyx

theorem keepCritical_rule {critical : String → Bool} {sc : Scope} {sels : List String} {items : List Item} {it : Item}
    (h : keepCritical critical sc (.rule sels items) = some it) : ∃ sels', it = .rule sels' items := by
  simp only [keepCritical] at h
  split at h
  · cases h; exact ⟨_, rfl⟩
  · split at h
    · split at h
      · cases h
      · cases h; exact ⟨_, rfl⟩
    · split at h
      · cases h
      · cases h; exact ⟨_, rfl⟩

theorem keepCritical_shrinksBlocks (critical : String → Bool) :
    ShrinksBlocks (keepCritical critical) := by
  intro sc it it' h
  cases it with
  | rule sels items =>
    obtain ⟨_, rfl⟩ := keepCritical_rule h
    exact .refl _
  | _ => simp only [keepCritical, Option.some.injEq] at h; subst h; exact .refl _

theorem keepCritical_eq_of_declaration (critical : String → Bool) :
    ∀ sc it d, keepCritical critical sc it = some (.declaration d) → it = .declaration d := by
  intro sc it d h
  cases it with
  | rule sels items =>
    obtain ⟨_, h'⟩ := keepCritical_rule h
    cases h'
  | _ => simp [keepCritical] at h <;> simp [h]

/-- A scope met in a tree without `@keyframes` is not inside `@keyframes`. -/
theorem ScopeBelow.not_keyframes {its : List Item} {sc : Scope}
    (hkf : ∀ n p b items, Item.atRule n p b items ∈ itemsNodes its → isKeyframes n = false)
    (hsc : ScopeBelow {} (itemsNodes its) sc) : sc.atRule.any isKeyframes = false := by
  rcases hsc with hsc | ⟨n, p, b, items, hn, hmem⟩
  · simp [hsc]
  · simp [hn, hkf n p b items hmem]

/-- The selection's decision on a style rule outside `@keyframes`: the rule keeps its block,
filtered, and has selectors; either it declares `grid-area` and keeps all its selectors, or it
keeps only critical selectors that are no selection pseudo-elements. -/
theorem keepCritical_filterWith_rule {critical : String → Bool} {sc : Scope}
    (hsc : sc.atRule.any isKeyframes = false) {y : Item} {sels : List String} {items' : List Item}
    (h : y.filterWith (keepCritical critical) sc = some (.rule sels items')) :
    ∃ sels0 items0, y = .rule sels0 items0 ∧
      items' = filterItems (keepCritical critical) { sc with inRule := true } items0 ∧ sels ≠ [] ∧
      ((sels = sels0 ∧ declares items' "grid-area" = true) ∨
        ∀ x ∈ sels, critical x = true ∧ isExcludedSelector x = false) := by
  cases y with
  | rule sels0 items0 =>
    rw [Item.filterWith, keepCritical, if_neg (by simp [hsc])] at h
    refine ⟨sels0, items0, rfl, ?_⟩
    split at h
    · rename_i hg
      split at h
      · cases h
      · rename_i he
        cases h
        exact ⟨rfl, by simpa using he, .inl ⟨rfl, hg⟩⟩
    · split at h
      · cases h
      · rename_i kept hkept
        cases h
        refine ⟨rfl, hkept, .inr fun x hx => ?_⟩
        have hx' := (List.mem_filter.1 hx).2
        simp only [Bool.and_eq_true, Bool.not_eq_true'] at hx'
        exact ⟨hx'.2, hx'.1⟩
  | atRule n p b items0 => simp [Item.filterWith, keepCritical] at h
  | declaration d => simp [Item.filterWith, keepCritical] at h
  | comment c => simp [Item.filterWith, keepCritical] at h

/-- Outside `@keyframes`, a style rule left by selecting critical selectors either declares
`grid-area` and keeps its selectors, or keeps only critical selectors that are no selection
pseudo-elements. -/
theorem rule_of_mem_keepCritical {critical : String → Bool} {its : List Item}
    (hkf : ∀ n p b items, Item.atRule n p b items ∈ itemsNodes its → isKeyframes n = false)
    {sels : List String} {items' : List Item}
    (h : Item.rule sels items' ∈ itemsNodes (filterItems (keepCritical critical) {} its)) :
    (∃ items, Item.rule sels items ∈ itemsNodes its ∧ declares items "grid-area" = true) ∨
      ∀ x ∈ sels, critical x = true ∧ isExcludedSelector x = false := by
  obtain ⟨y, hy, sc', hsc, hyx⟩ :=
    exists_of_mem_itemsNodes_filterItems (keepCritical_shrinksBlocks critical) h
  obtain ⟨sels0, items0, rfl, rfl, -, hg | hcrit⟩ :=
    keepCritical_filterWith_rule (hsc.not_keyframes hkf) hyx
  · obtain ⟨rfl, hg⟩ := hg
    obtain ⟨d, hd, hp⟩ := declares_eq_true_iff.1 hg
    have hd0 := mem_of_declaration_mem_filterItems (keepCritical_eq_of_declaration critical) hd
    exact .inl ⟨items0, hy, declares_eq_true_iff.2 ⟨d, hd0, hp⟩⟩
  · exact .inr hcrit

theorem Item.eq_rule_of_head_eq {x : Item} {sels : List String} (h : x.head = .rule sels []) :
    ∃ items, x = .rule sels items := by
  cases x <;> simp_all [Item.head]

theorem isKeyframes_eq_false_of_not_dropped {n : String}
    (h : droppedAtRules.contains (baseName n) = false) : isKeyframes n = false := by
  cases hk : isKeyframes n with
  | false => rfl
  | true =>
    simp only [isKeyframes, beq_iff_eq] at hk
    simp [hk, droppedAtRules] at h

/-- Every pass after the selection of critical selectors keeps the heads of what it keeps. -/
theorem itemsHeads_pruned_subset (s : StyleSheet) (critical : String → Bool) :
    itemsHeads (s.pruned critical).items ⊆
      itemsHeads (filterItems (keepCritical critical) {}
        (filterItems keepAtRule {} (filterItems keepMedia {} s.items))) := by
  simp only [StyleSheet.pruned]
  refine List.Subset.trans (itemsHeads_pruneEmpty _) ?_
  refine List.Subset.trans (keepNonComment_keepsHeads.itemsHeads_filterItems _ _) ?_
  refine List.Subset.trans ((keepDeclarations_keepsHeads _).itemsHeads_filterItems _ _) ?_
  refine List.Subset.trans ((keepDeclarations_keepsHeads _).itemsHeads_filterItems _ _) ?_
  exact itemsHeads_pruneGroups _

/-- The style rules of the critical part of a sheet: each either comes from a rule of the
sheet with the same selectors that declares `grid-area` directly, or has only critical
selectors, none of them a selection pseudo-element. -/
theorem rule_heads_pruned (s : StyleSheet) (critical : String → Bool) {sels : List String}
    (h : Item.rule sels [] ∈ itemsHeads (s.pruned critical).items) :
    (∃ items, Item.rule sels items ∈ itemsNodes s.items ∧ declares items "grid-area" = true) ∨
      ∀ x ∈ sels, critical x = true ∧ isExcludedSelector x = false := by
  let atRules := filterItems keepAtRule {} (filterItems keepMedia {} s.items)
  obtain ⟨x, hx, hxh⟩ := List.mem_map.1 (itemsHeads_pruned_subset s critical h)
  obtain ⟨items', rfl⟩ := Item.eq_rule_of_head_eq hxh
  have hkf : ∀ n p b items, Item.atRule n p b items ∈ itemsNodes atRules → isKeyframes n = false :=
    fun n p b items hmem => isKeyframes_eq_false_of_not_dropped (not_dropped_of_mem_keepAtRule hmem)
  rcases rule_of_mem_keepCritical hkf hx with ⟨items2, h2, hg⟩ | hcrit
  · obtain ⟨items1, _, h1, rfl⟩ := keepAtRule_keepsHeads.toKeepsRules.exists_rule_of_mem h2
    obtain ⟨items0, _, h0, rfl⟩ := keepMedia_keepsRules.exists_rule_of_mem h1
    obtain ⟨d, hd, hp⟩ := declares_eq_true_iff.1 hg
    have hd1 := mem_of_declaration_mem_filterItems keepAtRule_keepsHeads.eq_of_declaration hd
    have hd0 := mem_of_declaration_mem_filterItems keepMedia_keepsRules.eq_of_declaration hd1
    exact .inl ⟨items0, h0, declares_eq_true_iff.2 ⟨d, hd0, hp⟩⟩
  · exact .inr hcrit

end CriticalCss.Css

namespace CriticalCss.Generate

open CriticalCss.Css

theorem itemsHeads_pruneUnusedVariables (sh : StyleSheet) (used : String → Bool) :
    itemsHeads (sh.pruneUnusedVariables used).1.items ⊆ itemsHeads sh.items := by
  simp only [StyleSheet.pruneUnusedVariables]
  split
  · exact List.Subset.trans (itemsHeads_pruneEmpty _)
      ((keepDeclarations_keepsHeads _).itemsHeads_filterItems _ _)
  · exact (keepDeclarations_keepsHeads _).itemsHeads_filterItems _ _

/-- Each sheet left by the rounds of removing unused custom properties has only heads of one
of the sheets it started from. -/
theorem Store.exists_of_mem_pruneVariables {rounds : Nat} {prev : Int} {sheets : List StyleSheet}
    {sh : StyleSheet} (h : sh ∈ Store.pruneVariables rounds prev sheets) :
    ∃ sh0 ∈ sheets, itemsHeads sh.items ⊆ itemsHeads sh0.items := by
  induction rounds generalizing prev sheets with
  | zero => exact ⟨sh, h, List.Subset.refl _⟩
  | succ n ih =>
    simp only [Store.pruneVariables] at h
    have hround : ∀ used, ∀ sh1 ∈ (sheets.map fun s => s.pruneUnusedVariables used).map (·.1),
        ∃ sh0 ∈ sheets, itemsHeads sh1.items ⊆ itemsHeads sh0.items := by
      intro used sh1 hsh1
      obtain ⟨sh0, hsh0, rfl⟩ := List.mem_map.1 (List.map_map ▸ hsh1)
      exact ⟨sh0, hsh0, itemsHeads_pruneUnusedVariables sh0 used⟩
    split at h
    · exact ⟨sh, h, List.Subset.refl _⟩
    · split at h
      · exact hround _ sh h
      · obtain ⟨sh1, hsh1, hsub⟩ := ih h
        obtain ⟨sh0, hsh0, hsub'⟩ := hround _ sh1 hsh1
        exact ⟨sh0, hsh0, List.Subset.trans hsub hsub'⟩

/-- Each critical stylesheet of some files has only heads of the critical part of one of the
files. -/
theorem Store.exists_of_mem_prunedSheetsOf {files : List SheetFile} {critical : String → Bool}
    {sh : StyleSheet} (h : sh ∈ Store.prunedSheetsOf files critical) :
    ∃ f ∈ files, itemsHeads sh.items ⊆ itemsHeads (f.sheet.pruned critical).items := by
  simp only [Store.prunedSheetsOf, List.mem_filter, List.mem_map] at h
  obtain ⟨⟨sh1, hsh1, rfl⟩, -⟩ := h
  obtain ⟨sh0, hsh0, hsub⟩ := Store.exists_of_mem_pruneVariables hsh1
  obtain ⟨f, hf, rfl⟩ := List.mem_map.1 hsh0
  exact ⟨f, hf, List.Subset.trans ((keepFontFace_keepsHeads _).itemsHeads_filterItems _ _) hsub⟩

/-- The style rules of the critical stylesheets of some files: each sheet comes from one of
the files, and each of its rules either has the selectors of a rule of that file that declares
`grid-area` directly, or only critical selectors that are no selection pseudo-elements. -/
theorem Store.rules_prunedSheetsOf {files : List SheetFile} {critical : String → Bool}
    {sh : StyleSheet} (h : sh ∈ Store.prunedSheetsOf files critical) :
    ∃ f ∈ files, ∀ sels items, Item.rule sels items ∈ itemsNodes sh.items →
      (∃ items0, Item.rule sels items0 ∈ itemsNodes f.sheet.items ∧
          declares items0 "grid-area" = true) ∨
        ∀ x ∈ sels, critical x = true ∧ isExcludedSelector x = false := by
  obtain ⟨f, hf, hsub⟩ := Store.exists_of_mem_prunedSheetsOf h
  refine ⟨f, hf, fun sels items hr => rule_heads_pruned f.sheet critical (hsub ?_)⟩
  exact List.mem_map.2 ⟨_, hr, rfl⟩

end CriticalCss.Generate
