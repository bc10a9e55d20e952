import Mathlib.Tactic.SplitIfs
import CriticalCss.Proofs.PrunedRules
import CriticalCss.Css.Sheet.Parse
import CriticalCss.Proofs.Embeds

/-!
# Pruning twice

A sheet is its own critical part when every pass of pruning would keep each of its nodes as
it is: its `@media` preludes read back as themselves, no dropped at-rule is left, every
style rule has selectors and either declares `grid-area` or has only critical selectors, no
declaration is one pruning removes, and no comment is left. The critical part of a sheet has
that form, so pruning it again changes nothing, under two conditions on the sheet.

* A rule kept whole for its `grid-area` declaration must keep one through the later pass
  on large base64 embeds; otherwise the second selection, no longer seeing `grid-area`,
  drops its non-critical selectors.
* A rewritten `@media` prelude is read anew by the second pass; the queries it splits into
  must give back the same text.

Neither condition can be dropped: `pruned_twice_changes` shows a sheet breaking each. One is
parsed from a `@media` prelude that, rid of a comment, reads as a print query the second time.
The other has a rule whose only `grid-area` declaration embeds more than 1000 bytes of base64
data; `StyleSheet.pruned_drops_gridArea_rule` says what pruning twice does to every such rule.

The proof traces the nodes of the critical part back through the passes. Rules are followed
with their blocks (`TrimsRules`), which keeps the two invariants `GridKept` and
`SelectsCritical` from the selection on; everything else is followed by its head.

## Main definitions

* `Item.keepsGridArea`: a rule declaring `grid-area` does so once without a large embed.
* `Item.mediaStable`: a `@media` prelude whose useful queries read back as themselves.
* `CriticalForm`: a tree every pass of pruning keeps as it is.

## Main results

* `StyleSheet.pruned_eq_self`: a sheet of critical form without empty rules is its own
  critical part.
* `criticalForm_pruned`: the critical part of a sheet has critical form.
* `StyleSheet.pruned_pruned`: pruning is idempotent under both conditions.
* `StyleSheet.pruned_drops_gridArea_rule`: a rule kept for `grid-area` alone, whose every
  `grid-area` declaration embeds a large image, is dropped by pruning twice.
-/

namespace CriticalCss.Css

/-! ### The conditions -/

/-- A declaration of `grid-area` that pruning keeps: it embeds no large base64 data. -/
def Declaration.keptGridArea (d : Declaration) : Bool :=
  d.property == "grid-area" && !hasLargeBase64 d.value

/-- Whether an item is a declaration of `grid-area` that pruning keeps. -/
def Item.keptGridArea : Item → Bool
  | .declaration d => d.keptGridArea
  | _ => false

/-- A style rule that declares `grid-area` directly does so at least once without a large
base64 embed. -/
def Item.keepsGridArea : Item → Bool
  | .rule _ items => !declares items "grid-area" || items.any Item.keptGridArea
  | _ => true

/-- The prelude an `@media` rule is given by pruning reads back as itself: its useful
queries, joined by commas, are again its useful queries. -/
def Item.mediaStable : Item → Bool
  | .atRule name prelude _ _ =>
    baseName name != "media" || prelude.isEmpty ||
      let rewritten := ",".intercalate (usefulMediaQueries prelude)
      rewritten.isEmpty || ",".intercalate (usefulMediaQueries rewritten) == rewritten
  | _ => true

theorem any_keptGridArea_eq_true_iff {items : List Item} :
    items.any Item.keptGridArea = true ↔ ∃ d, Item.declaration d ∈ items ∧ d.keptGridArea = true := by
  simp only [List.any_eq_true]
  constructor
  · rintro ⟨it, hit, hk⟩
    cases it with
    | declaration d => exact ⟨d, hit, hk⟩
    | _ => simp [Item.keptGridArea] at hk
  · rintro ⟨d, hd, hk⟩
    exact ⟨_, hd, hk⟩

theorem Declaration.keptGridArea_eq_true_iff {d : Declaration} :
    d.keptGridArea = true ↔ d.property = "grid-area" ∧ hasLargeBase64 d.value = false := by
  simp [Declaration.keptGridArea]

theorem isExcludedProperty_gridArea : isExcludedProperty "grid-area" = false := by
  decide +kernel

/-! ### Blocks that keep their `grid-area` -/

/-- A block `items'` left from a block `items` by pruning: its declarations are among those
of `items`, and it keeps each declaration of `grid-area` that pruning keeps. -/
structure Trims (items' items : List Item) : Prop where
  sub : ∀ d, Item.declaration d ∈ items' → Item.declaration d ∈ items
  keptGridArea : ∀ d, Item.declaration d ∈ items → d.keptGridArea = true →
    Item.declaration d ∈ items'

theorem Trims.refl (items : List Item) : Trims items items :=
  ⟨fun _ h => h, fun _ h _ => h⟩

section Trims

variable {items items' : List Item}

theorem Trims.declares_gridArea (ht : Trims items' items) {sels : List String}
    (hk : (Item.rule sels items).keepsGridArea = true) (hd : declares items "grid-area" = true) :
    declares items' "grid-area" = true := by
  simp only [Item.keepsGridArea, hd, Bool.not_true, Bool.false_or] at hk
  obtain ⟨d, hmem, hkept⟩ := any_keptGridArea_eq_true_iff.1 hk
  exact declares_eq_true_iff.2
    ⟨d, ht.keptGridArea d hmem hkept, (Declaration.keptGridArea_eq_true_iff.1 hkept).1⟩

theorem Trims.keepsGridArea (ht : Trims items' items) {sels sels' : List String}
    (hk : (Item.rule sels items).keepsGridArea = true) :
    (Item.rule sels' items').keepsGridArea = true := by
  simp only [Item.keepsGridArea, Bool.or_eq_true, Bool.not_eq_true'] at hk ⊢
  rcases hk with hnd | hany
  · left
    cases hd : declares items' "grid-area" with
    | false => rfl
    | true =>
      obtain ⟨d, hmem, hprop⟩ := declares_eq_true_iff.1 hd
      rw [declares_eq_true_iff.2 ⟨d, ht.sub d hmem, hprop⟩] at hnd
      cases hnd
  · right
    obtain ⟨d, hmem, hkept⟩ := any_keptGridArea_eq_true_iff.1 hany
    exact any_keptGridArea_eq_true_iff.2 ⟨d, ht.keptGridArea d hmem hkept, hkept⟩

end Trims

variable {keep : Scope → Item → Option Item} {g : String → Bool}

theorem trims_filterItems (hd : ∀ sc it d, keep sc it = some (.declaration d) → it = .declaration d)
    (hg : ∀ sc d, d.keptGridArea = true → keep sc (.declaration d) = some (.declaration d))
    (sc : Scope) (items : List Item) : Trims (filterItems keep sc items) items :=
  ⟨fun _ h => mem_of_declaration_mem_filterItems hd h,
    fun d h hk => declaration_mem_filterItems h (hg sc d hk)⟩

theorem trims_pruneGroups (items : List Item) : Trims (pruneGroups g items) items :=
  ⟨fun _ h => declaration_mem_pruneGroups_iff.1 h, fun _ h _ => declaration_mem_pruneGroups_iff.2 h⟩

theorem trims_pruneEmpty (items : List Item) : Trims (pruneEmpty g items) items :=
  ⟨fun _ h => declaration_mem_pruneEmpty_iff.1 h, fun _ h _ => declaration_mem_pruneEmpty_iff.2 h⟩

/-! ### Passes that keep selectors -/

/-- A pass over trees whose rules come from rules with the same selectors, their blocks
trimmed. -/
def TrimsRules (pass : List Item → List Item) : Prop :=
  ∀ its sels items', Item.rule sels items' ∈ itemsNodes (pass its) →
    ∃ items, Item.rule sels items ∈ itemsNodes its ∧ Trims items' items

/-- Every rule of a tree keeps its `grid-area`. -/
def GridKept (its : List Item) : Prop :=
  ∀ x ∈ itemsNodes its, x.keepsGridArea = true

/-- Every rule of a tree has selectors, and either declares `grid-area` or has only critical
selectors, none a selection pseudo-element. -/
def SelectsCritical (critical : String → Bool) (its : List Item) : Prop :=
  ∀ sels items, Item.rule sels items ∈ itemsNodes its →
    sels ≠ [] ∧ (declares items "grid-area" = true ∨
      ∀ x ∈ sels, isExcludedSelector x = false ∧ critical x = true)

theorem KeepsRules.trimsRules (hk : KeepsRules keep)
    (hg : ∀ sc d, d.keptGridArea = true → keep sc (.declaration d) = some (.declaration d))
    (sc : Scope) : TrimsRules (filterItems keep sc) := by
  intro its sels items' h
  obtain ⟨items, sc', hmem, rfl⟩ := hk.exists_rule_of_mem h
  exact ⟨items, hmem, trims_filterItems hk.eq_of_declaration hg sc' items⟩

theorem Item.eq_rule_of_pruneGroups {it : Item} {sels : List String} {items' : List Item}
    (h : it.pruneGroups g = some (.rule sels items')) :
    ∃ items, it = .rule sels items ∧ items' = Css.pruneGroups g items := by
  cases it with
  | rule sels0 items0 => cases h; exact ⟨items0, rfl, rfl⟩
  | atRule n p b items0 =>
    cases b with
    | false => cases h
    | true =>
      simp only [Item.pruneGroups] at h
      split at h <;> cases h
  | declaration d => cases h
  | comment c => cases h

theorem Item.eq_rule_of_pruneEmpty {it : Item} {sels : List String} {items' : List Item}
    (h : it.pruneEmpty g = some (.rule sels items')) :
    ∃ items, it = .rule sels items ∧ items' = Css.pruneEmpty g items := by
  cases it with
  | rule sels0 items0 =>
    simp only [Item.pruneEmpty] at h
    split at h
    · cases h
    · cases h; exact ⟨items0, rfl, rfl⟩
  | atRule n p b items0 =>
    cases b with
    | false => cases h
    | true =>
      simp only [Item.pruneEmpty] at h
      split at h <;> cases h
  | declaration d => cases h
  | comment c => cases h

theorem trimsRules_pruneGroups : TrimsRules (pruneGroups g) := by
  intro its sels items' h
  obtain ⟨y, hy, hyx | rfl⟩ := exists_of_mem_itemsNodes_pruneGroups h
  · obtain ⟨items, rfl, rfl⟩ := Item.eq_rule_of_pruneGroups hyx
    exact ⟨items, hy, trims_pruneGroups items⟩
  · exact ⟨items', hy, .refl _⟩

theorem trimsRules_pruneEmpty : TrimsRules (pruneEmpty g) := by
  intro its sels items' h
  obtain ⟨y, hy, hyx | rfl⟩ := exists_of_mem_itemsNodes_pruneEmpty h
  · obtain ⟨items, rfl, rfl⟩ := Item.eq_rule_of_pruneEmpty hyx
    exact ⟨items, hy, trims_pruneEmpty items⟩
  · exact ⟨items', hy, .refl _⟩

theorem keepDeclarations_trimsRules {p : Scope → Declaration → Bool}
    (hp : ∀ sc d, d.keptGridArea = true → p sc d = true) (sc : Scope) :
    TrimsRules (filterItems (keepDeclarations p) sc) :=
  (keepDeclarations_keepsHeads p).trimsRules (fun sc d hd => by simp [keepDeclarations, hp sc d hd]) sc

section Preserve

variable {pass : List Item → List Item} {its : List Item}

theorem TrimsRules.gridKept (hp : TrimsRules pass) (hg : GridKept its) : GridKept (pass its) := by
  intro x hx
  cases x with
  | rule sels items' =>
    obtain ⟨items, hmem, ht⟩ := hp its sels items' hx
    exact ht.keepsGridArea (hg _ hmem)
  | _ => rfl

/-- A pass that keeps selectors and trims blocks keeps both invariants of the rules. -/
theorem TrimsRules.preserves (hp : TrimsRules pass) {critical : String → Bool} (hg : GridKept its)
    (hs : SelectsCritical critical its) :
    GridKept (pass its) ∧ SelectsCritical critical (pass its) := by
  refine ⟨hp.gridKept hg, ?_⟩
  intro sels items' hx
  obtain ⟨items, hmem, ht⟩ := hp its sels items' hx
  obtain ⟨hne, hc⟩ := hs sels items hmem
  refine ⟨hne, hc.imp (fun hd => ?_) id⟩
  exact ht.declares_gridArea (hg _ hmem) hd

end Preserve

/-! ### The selection of critical selectors -/

section Selection

variable {critical : String → Bool}

/-- The selection keeps the blocks of rules, so rules keep their `grid-area`. -/
theorem gridKept_keepCritical {its : List Item} (h : GridKept its) (sc : Scope) :
    GridKept (filterItems (keepCritical critical) sc its) := by
  intro x hx
  cases x with
  | rule sels items' =>
    obtain ⟨y, hy, sc', -, hyx⟩ :=
      exists_of_mem_itemsNodes_filterItems (keepCritical_shrinksBlocks critical) hx
    cases y with
    | rule sels0 items0 =>
      rw [Item.filterWith] at hyx
      obtain ⟨_, h'⟩ := keepCritical_rule hyx
      cases h'
      have ht := trims_filterItems (keepCritical_eq_of_declaration critical) (fun _ _ _ => rfl)
        { sc' with inRule := true } items0
      exact ht.keepsGridArea (h _ hy)
    | atRule n p b items0 => simp [Item.filterWith, keepCritical] at hyx
    | declaration d => simp [Item.filterWith, keepCritical] at hyx
    | comment c => simp [Item.filterWith, keepCritical] at hyx
  | _ => rfl

/-- Outside `@keyframes`, the rules the selection leaves have selectors, and declare
`grid-area` or have only critical selectors. -/
theorem selectsCritical_keepCritical {its : List Item}
    (hkf : ∀ n p b items, Item.atRule n p b items ∈ itemsNodes its → isKeyframes n = false) :
    SelectsCritical critical (filterItems (keepCritical critical) {} its) := by
  intro sels items' h
  obtain ⟨y, -, sc', hsc, hyx⟩ :=
    exists_of_mem_itemsNodes_filterItems (keepCritical_shrinksBlocks critical) h
  obtain ⟨_, _, -, -, hne, hcase⟩ := keepCritical_filterWith_rule (hsc.not_keyframes hkf) hyx
  exact ⟨hne, hcase.imp (·.2) fun hcrit x hx => (hcrit x hx).symm⟩

theorem atRule_mem_of_mem_keepCritical {sc : Scope} {its : List Item} {n p : String} {b : Bool}
    {items' : List Item} (h : Item.atRule n p b items' ∈ itemsNodes (filterItems (keepCritical critical) sc its)) :
    ∃ items, Item.atRule n p b items ∈ itemsNodes its := by
  obtain ⟨y, hy, sc', -, hyx⟩ :=
    exists_of_mem_itemsNodes_filterItems (keepCritical_shrinksBlocks critical) h
  cases y with
  | atRule n0 p0 b0 items0 =>
    simp only [Item.filterWith, keepCritical, Option.some.injEq, Item.atRule.injEq] at hyx
    obtain ⟨rfl, rfl, rfl, -⟩ := hyx
    exact ⟨items0, hy⟩
  | rule sels items0 =>
    rw [Item.filterWith] at hyx
    obtain ⟨_, h'⟩ := keepCritical_rule hyx
    cases h'
  | declaration d => simp [Item.filterWith, keepCritical] at hyx
  | comment c => simp [Item.filterWith, keepCritical] at hyx

end Selection

/-! ### Nodes traced through the passes -/

theorem declaration_mem_itemsHeads_iff {its : List Item} {d : Declaration} :
    Item.declaration d ∈ itemsHeads its ↔ Item.declaration d ∈ itemsNodes its := by
  constructor
  · intro h
    obtain ⟨x, hx, hxh⟩ := List.mem_map.1 h
    cases x <;> simp_all [Item.head]
  · exact List.mem_map_of_mem

theorem comment_mem_itemsHeads_iff {its : List Item} {text : String} :
    Item.comment text ∈ itemsHeads its ↔ Item.comment text ∈ itemsNodes its := by
  constructor
  · intro h
    obtain ⟨x, hx, hxh⟩ := List.mem_map.1 h
    cases x <;> simp_all [Item.head]
  · exact List.mem_map_of_mem

theorem exists_atRule_of_mem_itemsHeads {its : List Item} {n p : String} {b : Bool}
    (h : Item.atRule n p b [] ∈ itemsHeads its) : ∃ items, Item.atRule n p b items ∈ itemsNodes its := by
  obtain ⟨x, hx, hxh⟩ := List.mem_map.1 h
  cases x <;> simp only [Item.head, Item.atRule.injEq, reduceCtorEq] at hxh
  obtain ⟨rfl, rfl, rfl, -⟩ := hxh
  exact ⟨_, hx⟩

theorem KeepsRules.keep_declaration_of_mem (hk : KeepsRules keep) {sc : Scope} {its : List Item}
    {d : Declaration} (h : Item.declaration d ∈ itemsNodes (filterItems keep sc its)) :
    ∃ sc', keep sc' (.declaration d) = some (.declaration d) := by
  obtain ⟨y, -, sc', -, hyx⟩ := exists_of_mem_itemsNodes_filterItems hk.shrinksBlocks h
  cases y with
  | declaration d0 =>
    cases hk.declaration _ _ _ hyx
    exact ⟨sc', hyx⟩
  | rule sels items => cases hk.rule _ _ _ _ hyx
  | atRule n p b items =>
    obtain ⟨_, _, _, h', _⟩ := hk.atRule _ _ _ _ _ _ hyx
    cases h'
  | comment text => cases hk.comment _ _ _ hyx

theorem not_comment_mem_keepNonComment {sc : Scope} {its : List Item} (text : String) :
    Item.comment text ∉ itemsNodes (filterItems keepNonComment sc its) := by
  intro h
  obtain ⟨y, -, sc', -, hyx⟩ :=
    exists_of_mem_itemsNodes_filterItems keepNonComment_keepsHeads.shrinksBlocks h
  cases y <;> simp [Item.filterWith, keepNonComment] at hyx

/-- An `@media` rule left by the pass on media queries comes from one of the tree with the
same name, rewritten by the decision. -/
theorem exists_of_atRule_mem_keepMedia {sc : Scope} {its : List Item} {n q : String} {b : Bool}
    {items' : List Item} (h : Item.atRule n q b items' ∈ itemsNodes (filterItems keepMedia sc its)) :
    ∃ p items items'' sc', Item.atRule n p b items ∈ itemsNodes its ∧
      keepMedia sc' (.atRule n p b items'') = some (.atRule n q b items') := by
  obtain ⟨y, hy, sc', -, hyx⟩ := exists_of_mem_itemsNodes_filterItems keepMedia_keepsRules.shrinksBlocks h
  cases y with
  | atRule n0 p0 b0 items0 =>
    rw [Item.filterWith] at hyx
    have hn : n0 = n ∧ b0 = b := by
      simp only [keepMedia] at hyx
      split at hyx
      · cases hyx; exact ⟨rfl, rfl⟩
      · split at hyx
        · cases hyx
        · cases hyx; exact ⟨rfl, rfl⟩
    obtain ⟨rfl, rfl⟩ := hn
    exact ⟨p0, items0, _, sc', hy, hyx⟩
  | rule sels items0 => simp [Item.filterWith, keepMedia] at hyx
  | declaration d => simp [Item.filterWith, keepMedia] at hyx
  | comment text => simp [Item.filterWith, keepMedia] at hyx

/-- A stable prelude, once rewritten, reads back as itself. -/
theorem Item.mediaStable.intercalate_eq {n p q : String} {b : Bool} {items items' items'' : List Item}
    {sc : Scope} (hs : (Item.atRule n p b items).mediaStable = true)
    (h : keepMedia sc (.atRule n p b items'') = some (.atRule n q b items'))
    (hmed : baseName n = "media") (hq : q ≠ "") : ",".intercalate (usefulMediaQueries q) = q := by
  simp only [keepMedia] at h
  split at h
  · rename_i hc
    cases h
    simp [hmed] at hc
    exact absurd hc hq
  · rename_i hc
    cases hu : usefulMediaQueries p with
    | nil => simp [hu] at h
    | cons u us =>
      simp only [hu, Option.some.injEq, Item.atRule.injEq] at h
      obtain ⟨-, rfl, -⟩ := h
      simp only [Bool.not_eq_true, Bool.or_eq_false_iff] at hc
      simp only [Item.mediaStable, hu, hc.1, hc.2, Bool.false_or, Bool.or_eq_true, beq_iff_eq,
        String.isEmpty_iff] at hs
      exact hs.resolve_left hq

/-! ### The critical part of a sheet -/

section Pruned

variable {s : StyleSheet} {critical : String → Bool}

/-- The at-rules of the critical part of a sheet are at-rules left by the first two passes. -/
theorem atRule_source_pruned {n q : String} {b : Bool} {items : List Item}
    (h : Item.atRule n q b items ∈ itemsNodes (s.pruned critical).items) :
    ∃ items', Item.atRule n q b items' ∈
      itemsNodes (filterItems keepAtRule {} (filterItems keepMedia {} s.items)) := by
  have h0 : Item.atRule n q b [] ∈ itemsHeads (s.pruned critical).items := List.mem_map_of_mem h
  obtain ⟨items', h1⟩ := exists_atRule_of_mem_itemsHeads (itemsHeads_pruned_subset s critical h0)
  exact atRule_mem_of_mem_keepCritical h1

theorem not_dropped_pruned {n q : String} {b : Bool} {items : List Item}
    (h : Item.atRule n q b items ∈ itemsNodes (s.pruned critical).items) :
    droppedAtRules.contains (baseName n) = false := by
  obtain ⟨items', h1⟩ := atRule_source_pruned h
  exact not_dropped_of_mem_keepAtRule h1

theorem media_pruned (hmedia : ∀ x ∈ itemsNodes s.items, x.mediaStable = true) {n q : String}
    {b : Bool} {items : List Item} (h : Item.atRule n q b items ∈ itemsNodes (s.pruned critical).items)
    (hmed : baseName n = "media") (hq : q ≠ "") : ",".intercalate (usefulMediaQueries q) = q := by
  obtain ⟨items1, h1⟩ := atRule_source_pruned h
  -- the prelude was last written by the pass on media queries, from a prelude of the sheet
  have h2 := keepAtRule_keepsHeads.itemsHeads_filterItems _ _ (List.mem_map_of_mem (f := Item.head) h1)
  obtain ⟨items2, h2⟩ := exists_atRule_of_mem_itemsHeads h2
  obtain ⟨p, items0, _, _, h0, hk⟩ := exists_of_atRule_mem_keepMedia h2
  exact Item.mediaStable.intercalate_eq (hmedia _ h0) hk hmed hq

/-- The rules of the critical part of a sheet have selectors, and each declares `grid-area`
or has only critical selectors: the selection sets this up, outside `@keyframes`, which the
pass before it drops, and every later pass keeps it when rules keep their `grid-area`. -/
theorem selectsCritical_pruned (hgrid : GridKept s.items) :
    SelectsCritical critical (s.pruned critical).items := by
  let atRules := filterItems keepAtRule {} (filterItems keepMedia {} s.items)
  have hkf : ∀ n p b items, Item.atRule n p b items ∈ itemsNodes atRules → isKeyframes n = false :=
    fun n p b items hmem => isKeyframes_eq_false_of_not_dropped (not_dropped_of_mem_keepAtRule hmem)
  -- up to the selection every pass keeps all declarations
  have hM := (keepMedia_keepsRules.trimsRules (fun _ _ _ => rfl) {}).gridKept hgrid
  have hA := (keepAtRule_keepsHeads.trimsRules (fun _ _ _ => rfl) {}).gridKept hM
  have hK : GridKept (filterItems (keepCritical critical) {} _) := gridKept_keepCritical hA {}
  obtain ⟨hG, sG⟩ := trimsRules_pruneGroups.preserves hK (selectsCritical_keepCritical hkf)
  have hprop : ∀ (sc : Scope) (d : Declaration), d.keptGridArea = true →
      (!isExcludedProperty d.property) = true := by
    intro _ d hd
    simp [(Declaration.keptGridArea_eq_true_iff.1 hd).1, isExcludedProperty_gridArea]
  have hlarge : ∀ (sc : Scope) (d : Declaration), d.keptGridArea = true →
      (!hasLargeBase64 d.value) = true := by
    intro _ d hd
    simp [(Declaration.keptGridArea_eq_true_iff.1 hd).2]
  -- the passes on declarations keep every `grid-area` declaration without a large embed
  obtain ⟨h4, s4⟩ := (keepDeclarations_trimsRules hprop {}).preserves hG sG
  obtain ⟨h5, s5⟩ := (keepDeclarations_trimsRules hlarge {}).preserves h4 s4
  obtain ⟨h6, s6⟩ := (keepNonComment_keepsHeads.trimsRules (fun _ _ _ => rfl) {}).preserves h5 s5
  exact (trimsRules_pruneEmpty.preserves h6 s6).2

/-- The declarations of the critical part of a sheet are none that pruning removes. -/
theorem declaration_pruned {d : Declaration}
    (h : Item.declaration d ∈ itemsNodes (s.pruned critical).items) :
    isExcludedProperty d.property = false ∧ hasLargeBase64 d.value = false := by
  simp only [StyleSheet.pruned] at h
  -- a declaration left at the end was kept by the pass on large embeds, and before it by the
  -- pass on excluded properties
  rw [← declaration_mem_itemsHeads_iff] at h
  have h1 := (keepNonComment_keepsHeads.itemsHeads_filterItems _ _) (itemsHeads_pruneEmpty _ h)
  have h2 := (keepDeclarations_keepsHeads _).itemsHeads_filterItems _ _ h1
  rw [declaration_mem_itemsHeads_iff] at h1 h2
  obtain ⟨_, hlarge⟩ := (keepDeclarations_keepsHeads _).keep_declaration_of_mem h1
  obtain ⟨_, hprop⟩ := (keepDeclarations_keepsHeads _).keep_declaration_of_mem h2
  simp only [keepDeclarations, Bool.not_eq_true', ite_eq_left_iff, reduceCtorEq, imp_false,
    Bool.not_eq_false] at hlarge hprop
  exact ⟨by simpa using hprop, by simpa using hlarge⟩

theorem comment_not_mem_pruned (text : String) :
    Item.comment text ∉ itemsNodes (s.pruned critical).items := by
  simp only [StyleSheet.pruned]
  rw [← comment_mem_itemsHeads_iff]
  intro h
  exact not_comment_mem_keepNonComment text (comment_mem_itemsHeads_iff.1 (itemsHeads_pruneEmpty _ h))

end Pruned

/-! ### Sheets that are their own critical part -/

/-- A tree every pass of pruning keeps node by node: `@media` preludes read back as
themselves, no at-rule pruning drops, rules with critical selectors or `grid-area`, no
declaration pruning removes and no comment. -/
structure CriticalForm (critical : String → Bool) (its : List Item) : Prop where
  media : ∀ n p b items, Item.atRule n p b items ∈ itemsNodes its → baseName n = "media" →
    p ≠ "" → ",".intercalate (usefulMediaQueries p) = p
  atRule : ∀ n p b items, Item.atRule n p b items ∈ itemsNodes its →
    droppedAtRules.contains (baseName n) = false
  rule : SelectsCritical critical its
  declaration : ∀ d, Item.declaration d ∈ itemsNodes its →
    isExcludedProperty d.property = false ∧ hasLargeBase64 d.value = false
  comment : ∀ text, Item.comment text ∉ itemsNodes its

section Form

variable {critical : String → Bool} {its : List Item}

theorem keepMedia_atRule_self {n p : String} {b : Bool} {items : List Item}
    (h : baseName n = "media" → p ≠ "" → ",".intercalate (usefulMediaQueries p) = p) (sc : Scope) :
    keepMedia sc (.atRule n p b items) = some (.atRule n p b items) := by
  simp only [keepMedia]
  split
  · rfl
  · rename_i hc
    simp only [Bool.or_eq_true, bne_iff_ne, ne_eq, String.isEmpty_iff, not_or, Classical.not_not] at hc
    have heq := h hc.1 hc.2
    -- the prelude is not empty, so the queries it reads back as are not all dropped
    cases hu : usefulMediaQueries p with
    | nil =>
      rw [hu] at heq
      exact absurd heq.symm hc.2
    | cons u us =>
      simp only
      rw [← hu, heq]

theorem keepCritical_rule_self {sels : List String} {items : List Item}
    (h : sels ≠ [] ∧ (declares items "grid-area" = true ∨
      ∀ x ∈ sels, isExcludedSelector x = false ∧ critical x = true)) (sc : Scope) :
    keepCritical critical sc (.rule sels items) = some (.rule sels items) := by
  obtain ⟨hne, hc⟩ := h
  simp only [keepCritical]
  split
  · rfl
  · split
    · rw [if_neg (by simpa using hne)]
    · rename_i hg
      have hall : ∀ x ∈ sels, (!isExcludedSelector x && critical x) = true := by
        intro x hx
        obtain ⟨hex, hcr⟩ := hc.resolve_left hg x hx
        simp [hex, hcr]
      rw [List.filter_eq_self.2 hall]
      cases sels with
      | nil => exact absurd rfl hne
      | cons x rest => rfl

theorem CriticalForm.keepMedia_self (hf : CriticalForm critical its) :
    ∀ y ∈ itemsNodes its, ∀ sc, keepMedia sc y = some y := by
  intro y hy sc
  cases y with
  | atRule n p b items => exact keepMedia_atRule_self (hf.media n p b items hy) sc
  | _ => rfl

theorem CriticalForm.keepAtRule_self (hf : CriticalForm critical its) :
    ∀ y ∈ itemsNodes its, ∀ sc, keepAtRule sc y = some y := by
  intro y hy sc
  cases y with
  | atRule n p b items =>
    simp only [keepAtRule, hf.atRule n p b items hy, Bool.false_eq_true, ↓reduceIte]
  | _ => rfl

theorem CriticalForm.keepCritical_self (hf : CriticalForm critical its) :
    ∀ y ∈ itemsNodes its, ∀ sc, keepCritical critical sc y = some y := by
  intro y hy sc
  cases y with
  | rule sels items => exact keepCritical_rule_self (hf.rule sels items hy) sc
  | _ => rfl

theorem CriticalForm.keepProperty_self (hf : CriticalForm critical its) :
    ∀ y ∈ itemsNodes its, ∀ sc,
      keepDeclarations (fun _ d => !isExcludedProperty d.property) sc y = some y := by
  intro y hy sc
  cases y with
  | declaration d => simp [keepDeclarations, (hf.declaration d hy).1]
  | _ => rfl

theorem CriticalForm.keepBase64_self (hf : CriticalForm critical its) :
    ∀ y ∈ itemsNodes its, ∀ sc,
      keepDeclarations (fun _ d => !hasLargeBase64 d.value) sc y = some y := by
  intro y hy sc
  cases y with
  | declaration d => simp [keepDeclarations, (hf.declaration d hy).2]
  | _ => rfl

theorem CriticalForm.keepNonComment_self (hf : CriticalForm critical its) :
    ∀ y ∈ itemsNodes its, ∀ sc, keepNonComment sc y = some y := by
  intro y hy sc
  cases y with
  | comment text => exact absurd hy (hf.comment text)
  | _ => rfl

end Form

/-- A sheet of critical form without empty rules or emptied groups is its own critical
part: every pass keeps every node. -/
theorem StyleSheet.pruned_eq_self {s : StyleSheet} {critical : String → Bool}
    (hf : CriticalForm critical s.items) (he : pruneEmpty isGrouping s.items = s.items) :
    s.pruned critical = s := by
  -- without empty rules, no group is left empty either
  have hg : pruneGroups isGrouping s.items = s.items := by
    rw [← he, pruneGroups_pruneEmpty]
  simp only [StyleSheet.pruned]
  rw [filterItems_eq_self hf.keepMedia_self, filterItems_eq_self hf.keepAtRule_self,
    filterItems_eq_self hf.keepCritical_self, hg, filterItems_eq_self hf.keepProperty_self,
    filterItems_eq_self hf.keepBase64_self, filterItems_eq_self hf.keepNonComment_self, he]

/-- The critical part of a sheet has critical form, when its rules keep their `grid-area`
and its `@media` preludes are stable. -/
theorem criticalForm_pruned {s : StyleSheet} {critical : String → Bool}
    (hgrid : ∀ x ∈ itemsNodes s.items, x.keepsGridArea = true)
    (hmedia : ∀ x ∈ itemsNodes s.items, x.mediaStable = true) :
    CriticalForm critical (s.pruned critical).items where
  media _ _ _ _ h hmed hq := media_pruned hmedia h hmed hq
  atRule _ _ _ _ h := not_dropped_pruned h
  rule := selectsCritical_pruned hgrid
  declaration _ h := declaration_pruned h
  comment text := comment_not_mem_pruned text

/-- **Pruning is idempotent**: the critical part of the critical part of a sheet is the
critical part itself, when every rule declaring `grid-area` does so once without a large
base64 embed and every `@media` prelude reads back as itself once rewritten. -/
theorem StyleSheet.pruned_pruned {s : StyleSheet} {critical : String → Bool}
    (hgrid : ∀ x ∈ itemsNodes s.items, x.keepsGridArea = true)
    (hmedia : ∀ x ∈ itemsNodes s.items, x.mediaStable = true) :
    (s.pruned critical).pruned critical = s.pruned critical :=
  StyleSheet.pruned_eq_self (criticalForm_pruned hgrid hmedia) (pruneEmpty_pruneEmpty _)

/-- A parse that succeeds with a sheet of a computable property. -/
theorem StyleSheet.exists_parse_eq_ok (text : String) (P : StyleSheet → Bool)
    (h : (StyleSheet.parse text).toOption.map P = some true) :
    ∃ s, StyleSheet.parse text = .ok s ∧ P s = true := by
  cases hp : StyleSheet.parse text with
  | error e => simp [hp, Except.toOption] at h
  | ok s => exact ⟨s, rfl, by simpa [hp, Except.toOption] using h⟩

/-- A sheet with a screen query, a rule kept for its `grid-area`, and keyframes. -/
def stableSample : String :=
  "@media screen{.a{color:red}}.b{grid-area:a;color:blue}@keyframes k{from{top:0}}"

theorem pruned_pruned_stableSample :
    ∃ s, StyleSheet.parse stableSample = .ok s ∧
      (∀ x ∈ itemsNodes s.items, x.keepsGridArea = true) ∧
      (∀ x ∈ itemsNodes s.items, x.mediaStable = true) ∧
      (s.pruned (· == ".a")).pruned (· == ".a") = s.pruned (· == ".a") := by
  obtain ⟨s, hs, h⟩ := StyleSheet.exists_parse_eq_ok stableSample
    (fun s => (itemsNodes s.items).all Item.keepsGridArea && (itemsNodes s.items).all Item.mediaStable)
    (by decide +kernel)
  simp only [Bool.and_eq_true, List.all_eq_true] at h
  exact ⟨s, hs, h.1, h.2, StyleSheet.pruned_pruned h.1 h.2⟩

/-- A rule kept whole for `grid-area` alone, when every `grid-area` declaration it has embeds
a large image: the first pruning keeps it and removes the embed, the second no longer sees
`grid-area` and drops the rule. -/
theorem StyleSheet.pruned_drops_gridArea_rule {s : StyleSheet} {critical : String → Bool}
    {sels : List String} {v : String} {important : Bool} {d : Declaration}
    (hs : s.items = [.rule sels [.declaration ⟨"grid-area", v, important⟩, .declaration d]])
    (hv : hasLargeBase64 v = true) (hsels : sels ≠ []) (hcrit : ∀ x ∈ sels, critical x = false)
    (hd : d.property ≠ "grid-area") (hdex : isExcludedProperty d.property = false)
    (hdv : hasLargeBase64 d.value = false) :
    (s.pruned critical).items = [.rule sels [.declaration d]] ∧
      ((s.pruned critical).pruned critical).items = [] := by
  have h1 : (s.pruned critical).items = [.rule sels [.declaration d]] := by
    simp [StyleSheet.pruned, hs, filterItems, Item.filterWith, keepMedia, keepAtRule, keepCritical,
      declares, keepDeclarations, keepNonComment, pruneGroups, Item.pruneGroups, pruneEmpty,
      Item.pruneEmpty, hv, hdex, hdv, isExcludedProperty_gridArea, hsels]
  refine ⟨h1, ?_⟩
  -- the second selection no longer sees `grid-area`, and no selector is critical
  generalize s.pruned critical = p at h1 ⊢
  have hnone : sels.filter (fun x => !isExcludedSelector x && critical x) = [] :=
    List.filter_eq_nil_iff.2 fun x hx => by simp [hcrit x hx]
  simp [StyleSheet.pruned, h1, filterItems, Item.filterWith, keepMedia, keepAtRule, keepCritical,
    declares, hd, hnone, pruneGroups, pruneEmpty]

/-- A `@media` prelude whose parts join into a media type once a comment between them goes. -/
def rejoinedMediaSample : String := "@media pri//**/*x*/nt{a{color:red}}"

/-- A rule kept for a `grid-area` declaration that embeds a large image. -/
def embeddedGridSheet : StyleSheet where
  source := ""
  items := [.rule [".x"]
    [.declaration ⟨"grid-area", base64Embed 1000, false⟩, .declaration ⟨"color", "red", false⟩]]

theorem pruned_twice_changes :
    (∃ s, StyleSheet.parse rejoinedMediaSample = .ok s ∧
      (s.pruned (· == "a")).css = "@media print{a{color:red}}" ∧
      ((s.pruned (· == "a")).pruned (· == "a")).css = "") ∧
    ((∃ x ∈ itemsNodes embeddedGridSheet.items, x.keepsGridArea = false) ∧
      (embeddedGridSheet.pruned fun _ => false).css = ".x{color:red}" ∧
      ((embeddedGridSheet.pruned fun _ => false).pruned fun _ => false).css = "") := by
  refine ⟨?_, ?_⟩
  · obtain ⟨s, hs, h⟩ := StyleSheet.exists_parse_eq_ok rejoinedMediaSample
      (fun s => (s.pruned (· == "a")).css == "@media print{a{color:red}}" &&
        ((s.pruned (· == "a")).pruned (· == "a")).css == "")
      (by decide +kernel)
    simp only [Bool.and_eq_true, beq_iff_eq] at h
    exact ⟨s, hs, h⟩
  · have hlarge : hasLargeBase64 (base64Embed 1000) = true :=
      hasLargeBase64_base64Embed (by decide)
    have h : (embeddedGridSheet.pruned fun _ => false).items =
          [.rule [".x"] [.declaration ⟨"color", "red", false⟩]] ∧
        ((embeddedGridSheet.pruned fun _ => false).pruned fun _ => false).items = [] :=
      StyleSheet.pruned_drops_gridArea_rule rfl hlarge (by simp) (fun _ _ => rfl) (by decide)
        (by decide +kernel) (by decide +kernel)
    refine ⟨⟨.rule [".x"] [.declaration ⟨"grid-area", base64Embed 1000, false⟩,
      .declaration ⟨"color", "red", false⟩], by simp [embeddedGridSheet], ?_⟩, ?_, ?_⟩
    · simp [Item.keepsGridArea, declares, Item.keptGridArea, Declaration.keptGridArea, hlarge]
    · simp only [StyleSheet.css, h.1]
      decide
    · simp only [StyleSheet.css, h.2]
      rfl

end CriticalCss.Css
