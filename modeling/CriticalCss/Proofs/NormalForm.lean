import CriticalCss.Proofs.Shape
import CriticalCss.Proofs.PrunedForm

/-!
# The normal form of a critical part

Whatever sheet pruning starts from, what it leaves has a fixed form at every depth: no comment,
no at-rule it drops, no declaration it removes, no style rule without selectors or without
items, no grouping block without a rule or at-rule in it, and no rule with a selector that is
not critical, or is a selection pseudo-element, unless the rule it comes from declares
`grid-area` directly and so kept all its selectors.

Most of this is one pass's work that no later pass undoes; the emptiness facts are the last
pass's. That pass works from the inside out, and it does not look inside an at-rule without a
block, so it needs such at-rules to hold nothing, as they do in every parsed sheet
(`StatementsEmpty`, `StyleSheet.parse_shaped`).

## Main definitions

* `Item.notEmptied`: a style rule holds items, and a grouping block holds a rule or an at-rule.
* `RulesFrom`: every rule has selectors, all critical, or is one of the first tree's rules that
  declares `grid-area`.
* `NormalForm`: the form of what pruning leaves.

## Main results

* `pruneEmpty_notEmptied`: after removing emptied blocks, none is left.
* `StyleSheet.pruned_normalForm`: the critical part of a sheet is in normal form.
-/

namespace CriticalCss.Css

/-- A style rule holds items, and a grouping block (by `g`) holds a rule or an at-rule. -/
def Item.notEmptied (g : String → Bool) : Item → Bool
  | .rule _ items => !items.isEmpty
  | .atRule name _ true items => !g name || hasRules items
  | _ => true

/-! ### Removing emptied blocks leaves none -/

section Empty

variable {g : String → Bool}

theorem Item.notEmptied_of_leaf {it : Item} (hs : ∀ x ∈ it.nodes, x.statementEmpty = true)
    (hleaf : ∀ sels items, it ≠ .rule sels items) (htrue : ∀ n p items, it ≠ .atRule n p true items) :
    ∀ x ∈ it.nodes, x.notEmptied g = true := by
  intro x hx
  cases it with
  | rule sels items => exact absurd rfl (hleaf sels items)
  | atRule n p b items =>
    cases b with
    | true => exact absurd rfl (htrue n p items)
    | false =>
      -- an at-rule without a block holds nothing, so it is its only node
      have hnil : items = [] := by
        simpa [Item.statementEmpty] using hs (.atRule n p false items) (by simp [Item.nodes_eq])
      subst hnil
      simp only [Item.nodes_eq, Item.children, itemsNodes_nil, List.mem_singleton] at hx
      subst hx
      rfl
  | declaration d =>
    simp only [Item.nodes, List.mem_singleton] at hx
    subst hx
    rfl
  | comment text =>
    simp only [Item.nodes, List.mem_singleton] at hx
    subst hx
    rfl

mutual

theorem Item.pruneEmpty_notEmptied :
    ∀ (it : Item), (∀ x ∈ it.nodes, x.statementEmpty = true) → ∀ {it' : Item},
      it.pruneEmpty g = some it' → ∀ x ∈ it'.nodes, x.notEmptied g = true
  | .rule sels items, hs, _, h => by
    simp only [Item.pruneEmpty] at h
    split at h
    · cases h
    · rename_i hne
      cases h
      intro x hx
      rw [Item.nodes_eq, List.mem_cons] at hx
      rcases hx with rfl | hx
      · simpa [Item.notEmptied] using hne
      · exact pruneEmpty_notEmptied items (fun y hy => hs y (Item.nodes_children_subset hy)) x hx
  | .atRule n p true items, hs, _, h => by
    simp only [Item.pruneEmpty] at h
    split at h
    · cases h
    · rename_i hkeep
      cases h
      intro x hx
      rw [Item.nodes_eq, List.mem_cons] at hx
      rcases hx with rfl | hx
      · -- the block stays only when it is no group or holds rules
        simp only [Bool.and_eq_true, Bool.not_eq_true', not_and, Bool.not_eq_false] at hkeep
        simp only [Item.notEmptied, Bool.or_eq_true, Bool.not_eq_true']
        cases hg : g n with
        | false => exact .inl rfl
        | true => exact .inr (hkeep hg)
      · exact pruneEmpty_notEmptied items (fun y hy => hs y (Item.nodes_children_subset hy)) x hx
  | .atRule n p false items, hs, _, h => by
    simp only [Item.pruneEmpty, Option.some.injEq] at h
    subst h
    exact Item.notEmptied_of_leaf hs (fun _ _ => nofun) (fun _ _ _ => nofun)
  | .declaration d, hs, _, h => by
    simp only [Item.pruneEmpty, Option.some.injEq] at h
    subst h
    exact Item.notEmptied_of_leaf hs (fun _ _ => nofun) (fun _ _ _ => nofun)
  | .comment text, hs, _, h => by
    simp only [Item.pruneEmpty, Option.some.injEq] at h
    subst h
    exact Item.notEmptied_of_leaf hs (fun _ _ => nofun) (fun _ _ _ => nofun)

/-- Once emptied blocks are removed from a tree whose at-rules without a block hold nothing, no
style rule is empty and no grouping block is without rules, at any depth. -/
theorem pruneEmpty_notEmptied :
    ∀ (l : List Item), StatementsEmpty l → ∀ x ∈ itemsNodes (pruneEmpty g l), x.notEmptied g = true
  | [], _ => by simp [pruneEmpty]
  | it :: rest, hs => by
    have hrest : StatementsEmpty rest := fun y hy => hs y (itemsNodes_rest_subset hy)
    intro x hx
    rw [pruneEmpty_cons] at hx
    cases ho : it.pruneEmpty g with
    | none =>
      rw [ho] at hx
      exact pruneEmpty_notEmptied rest hrest x hx
    | some it' =>
      rw [ho, Option.toList_some, List.singleton_append, itemsNodes, List.mem_append] at hx
      rcases hx with hx | hx
      · exact Item.pruneEmpty_notEmptied it (fun y hy => hs y (itemsNodes_first_subset hy)) ho x hx
      · exact pruneEmpty_notEmptied rest hrest x hx

end

end Empty

/-! ### Where the selectors of a rule come from -/

/-- Every style rule of the tree `its` has selectors, and either all of them are critical and
none is a selection pseudo-element, or a rule of the tree `a` with the same selectors declares
`grid-area` directly. -/
def RulesFrom (critical : String → Bool) (a its : List Item) : Prop :=
  ∀ sels items, Item.rule sels items ∈ itemsNodes its → sels ≠ [] ∧
    ((∀ x ∈ sels, critical x = true ∧ isExcludedSelector x = false) ∨
      ∃ items₀, Item.rule sels items₀ ∈ itemsNodes a ∧ declares items₀ "grid-area" = true)

/-- A pass whose rules come from rules with the same selectors keeps where they come from. -/
theorem TrimsRules.rulesFrom {pass : List Item → List Item} (hp : TrimsRules pass)
    {critical : String → Bool} {a its : List Item} (h : RulesFrom critical a its) :
    RulesFrom critical a (pass its) := by
  intro sels items' hmem
  obtain ⟨items, hmem', -⟩ := hp its sels items' hmem
  exact h sels items hmem'

/-- A rule left by a filter that keeps rules and declares a property directly comes from a rule
with the same selectors that declares it. -/
theorem KeepsRules.declares_of_mem {keep : Scope → Item → Option Item} (hk : KeepsRules keep)
    {sc : Scope} {its : List Item} {sels : List String} {items : List Item} {p : String}
    (h : Item.rule sels items ∈ itemsNodes (filterItems keep sc its)) (hd : declares items p = true) :
    ∃ items₀, Item.rule sels items₀ ∈ itemsNodes its ∧ declares items₀ p = true := by
  obtain ⟨items₀, sc', hmem, rfl⟩ := hk.exists_rule_of_mem h
  obtain ⟨d, hdmem, hprop⟩ := declares_eq_true_iff.1 hd
  exact ⟨items₀, hmem,
    declares_eq_true_iff.2 ⟨d, mem_of_declaration_mem_filterItems hk.eq_of_declaration hdmem, hprop⟩⟩

/-- The selection of critical selectors leaves rules with selectors, all critical unless a rule
of the sheet with the same selectors declares `grid-area`. -/
theorem rulesFrom_keepCritical (critical : String → Bool) (its : List Item) :
    RulesFrom critical its (filterItems (keepCritical critical) {}
      (filterItems keepAtRule {} (filterItems keepMedia {} its))) := by
  let atRules := filterItems keepAtRule {} (filterItems keepMedia {} its)
  have hkf : ∀ n p b items, Item.atRule n p b items ∈ itemsNodes atRules → isKeyframes n = false :=
    fun n p b items hmem => isKeyframes_eq_false_of_not_dropped (not_dropped_of_mem_keepAtRule hmem)
  intro sels items h
  refine ⟨(selectsCritical_keepCritical hkf sels items h).1, ?_⟩
  rcases rule_of_mem_keepCritical hkf h with ⟨items₂, h₂, hd₂⟩ | hcrit
  · -- the rule that declares `grid-area` is found back through the first two passes
    obtain ⟨items₁, h₁, hd₁⟩ := keepAtRule_keepsHeads.toKeepsRules.declares_of_mem h₂ hd₂
    exact .inr (keepMedia_keepsRules.declares_of_mem h₁ hd₁)
  · exact .inl hcrit

/-! ### The critical part of a sheet -/

/-- The form of the critical part `its` of a tree `a`: no comment, no at-rule pruning drops, no
declaration it removes, no style rule without selectors or items, no grouping block without a
rule or an at-rule, and rules whose selectors are all critical unless they come from a rule of
`a` that declares `grid-area`. -/
structure NormalForm (critical : String → Bool) (a its : List Item) : Prop where
  comment : ∀ text, Item.comment text ∉ itemsNodes its
  atRule : ∀ n p b items, Item.atRule n p b items ∈ itemsNodes its →
    droppedAtRules.contains (baseName n) = false
  declaration : ∀ d, Item.declaration d ∈ itemsNodes its →
    isExcludedProperty d.property = false ∧ hasLargeBase64 d.value = false
  rule : ∀ sels items, Item.rule sels items ∈ itemsNodes its → sels ≠ [] ∧ items ≠ []
  group : ∀ n p items, Item.atRule n p true items ∈ itemsNodes its → isGrouping n = true →
    hasRules items = true
  selectors : RulesFrom critical a its

/-- **The critical part of a sheet is in normal form**, at every depth, when the sheet's at-rules
without a block hold nothing, as in every parsed sheet (`StyleSheet.parse_shaped`). -/
theorem StyleSheet.pruned_normalForm (s : StyleSheet) (critical : String → Bool)
    (hs : StatementsEmpty s.items) : NormalForm critical s.items (s.pruned critical).items := by
  -- the last pass removes emptied blocks, so removing them again changes nothing
  have hfix : pruneEmpty isGrouping (s.pruned critical).items = (s.pruned critical).items :=
    pruneEmpty_pruneEmpty _
  have hempty : ∀ x ∈ itemsNodes (s.pruned critical).items, x.notEmptied isGrouping = true := by
    rw [← hfix]
    exact pruneEmpty_notEmptied _ ((s.pruned_items_shrink critical).statementsEmpty hs)
  -- the passes after the selection keep the selectors of the rules they keep
  have hprop : ∀ (sc : Scope) (d : Declaration), d.keptGridArea = true →
      (!isExcludedProperty d.property) = true := by
    intro _ d hd
    simp [(Declaration.keptGridArea_eq_true_iff.1 hd).1, isExcludedProperty_gridArea]
  have hlarge : ∀ (sc : Scope) (d : Declaration), d.keptGridArea = true →
      (!hasLargeBase64 d.value) = true := by
    intro _ d hd
    simp [(Declaration.keptGridArea_eq_true_iff.1 hd).2]
  have hsel : RulesFrom critical s.items (s.pruned critical).items :=
    trimsRules_pruneEmpty.rulesFrom
      ((keepNonComment_keepsHeads.trimsRules (fun _ _ _ => rfl) {}).rulesFrom
        ((keepDeclarations_trimsRules hlarge {}).rulesFrom
          ((keepDeclarations_trimsRules hprop {}).rulesFrom
            (trimsRules_pruneGroups.rulesFrom (rulesFrom_keepCritical critical s.items)))))
  refine ⟨comment_not_mem_pruned, fun _ _ _ _ h => not_dropped_pruned h,
    fun _ h => declaration_pruned h, ?_, ?_, hsel⟩
  · intro sels items h
    refine ⟨(hsel sels items h).1, ?_⟩
    simpa [Item.notEmptied] using hempty _ h
  · intro n p items h hg
    simpa [Item.notEmptied, hg] using hempty _ h

/-- A sheet with an `@import`, and under `@media` a rule with a critical and a non-critical
selector next to a rule holding only a comment. -/
def mixedSheet : StyleSheet where
  source := ""
  items :=
    [.atRule "media" "screen" true
      [.rule [".a", ".b"] [.declaration { property := "color", value := "red" }],
        .rule [".c"] [.comment "/* c */"]],
      .atRule "import" "url(x.css)" false []]

theorem mixedSheet_normalForm :
    StatementsEmpty mixedSheet.items ∧
      NormalForm (· == ".a") mixedSheet.items (mixedSheet.pruned (· == ".a")).items :=
  ⟨by decide, StyleSheet.pruned_normalForm mixedSheet (· == ".a") (by decide)⟩

end CriticalCss.Css
