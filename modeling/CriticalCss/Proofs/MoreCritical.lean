import Mathlib.Data.List.Forall2
import Mathlib.Data.List.Perm.Subperm
import Mathlib.Logic.Function.Iterate
import CriticalCss.Proofs.Subtree

/-!
# More critical selectors keep more

The critical part of the sheets of a store for a set of critical selectors sits inside their
critical part for any larger set: every sheet kept for the smaller set is kept for the larger
one, and its item tree embeds into the tree kept there (`StyleSheet.Embeds`), so each
declaration, custom property definition and `@font-face` rule left for the smaller set is left
for the larger one.

Pruning one sheet is a sequence of passes, each keeping the embedding. The passes after it read
all sheets at once. Custom properties go in rounds, each removing the definitions no sheet
refers to, and the two runs may stop after different numbers of rounds, by either of the loop's
tests or at its cap. Every stop before the cap is at a fixed point of one round: a round that
removes nothing changes nothing, and when a round leaves as many referred names as before it
leaves the same names, so that the next round finds nothing to remove. Hence the loop gives the
sheets after exactly its cap of rounds (`Store.pruneVariables_eq_iterate`), and the embedding
goes through each round because a larger tree refers to more names. The fonts whitelisted for
the larger trees are more, and a sheet with a rule has one in the larger tree too.

## Main definitions

* `StyleSheet.Embeds`: a sheet inside another.
* `Store.variableRound`: one round of removing unused custom properties.

## Main results

* `StyleSheet.pruned_embeds`: pruning one sheet for more critical selectors keeps more of it.
* `Store.pruneVariables_eq_iterate`: the rounds of removing custom properties give the sheets
  after the cap of rounds.
* `Store.prunedSheets_embed`: the critical sheets for a smaller set sit inside those for a
  larger set.
-/

namespace CriticalCss.Css

/-! ### The decisions of pruning -/

/-- Keeping the critical selectors of a larger set keeps more. -/
theorem keepCritical_keepsMore {c₁ c₂ : String → Bool} (hc : ∀ s, c₁ s = true → c₂ s = true) :
    KeepsMore (keepCritical c₁) (keepCritical c₂) where
  opt sc a b h := by
    cases h with
    | @rule sels sels' items items' hs hi =>
      simp only [keepCritical]
      by_cases hk : sc.atRule.any isKeyframes = true
      · rw [if_pos hk, if_pos hk]
        exact .rule hs hi
      rw [if_neg hk, if_neg hk, hi.declares_eq (by decide +kernel)]
      by_cases hg : declares items' "grid-area" = true
      · -- a rule declaring its grid area keeps its selectors, and the larger rule has more
        rw [if_pos hg, if_pos hg]
        refine OptEmbeds.ite_none (fun he => ?_) (.rule hs hi) trivial
        rw [List.isEmpty_iff] at he ⊢
        exact List.sublist_nil.1 (he ▸ hs)
      · rw [if_neg hg, if_neg hg]
        have hsub : (sels.filter fun s => !isExcludedSelector s && c₁ s).Sublist
            (sels'.filter fun s => !isExcludedSelector s && c₂ s) := by
          refine (hs.filter _).trans (List.monotone_filter_right sels' fun s h => ?_)
          simp only [Bool.and_eq_true] at h ⊢
          exact ⟨h.1, hc s h.2⟩
        generalize sels.filter (fun s => !isExcludedSelector s && c₁ s) = kept₁ at hsub ⊢
        generalize sels'.filter (fun s => !isExcludedSelector s && c₂ s) = kept₂ at hsub ⊢
        cases kept₁ with
        | nil => cases kept₂ <;> trivial
        | cons k ks =>
          cases kept₂ with
          | nil => exact absurd (List.sublist_nil.1 hsub) (List.cons_ne_nil _ _)
          | cons k' ks' => exact .rule hsub hi
    | atRule hi => exact .atRule hi
    | declaration d => exact .declaration d
    | comment text => exact .comment text
  droppable sc b b' hb h := by
    cases b with
    | rule sels items =>
      obtain ⟨_, rfl⟩ := keepCritical_rule h
      trivial
    | _ =>
      cases h
      exact hb

/-- Keeping the font faces of a larger whitelist keeps more. -/
theorem keepFontFace_keepsMore {w₁ w₂ : String → Bool} (hw : ∀ f, w₁ f = true → w₂ f = true) :
    KeepsMore (keepFontFace w₁) (keepFontFace w₂) where
  opt sc a b h := by
    cases h with
    | @atRule name prelude block items items' hi =>
      simp only [keepFontFace]
      by_cases hn : (baseName name != "font-face") = true
      · rw [if_pos hn, if_pos hn]
        exact .atRule hi
      -- a face is decided on its descriptors, declarations that both blocks have
      rw [if_neg hn, if_neg hn, hi.getLast?_filter_eq ?family, hi.any_eq ?src, hi.any_eq ?hasFamily]
      · refine OptEmbeds.ite (fun h => ?_) (.atRule (hi.filter fun h => by cases h <;> rfl)) trivial
        simp only [Bool.and_eq_true, List.any_eq_true] at h ⊢
        obtain ⟨hd, f, hf, hwf⟩ := h
        exact ⟨hd, f, hf, hw f hwf⟩
      all_goals
        exact testsPlainDeclarations_of_property (fun it hit => by
          cases it with
          | declaration d => exact ⟨d, rfl, beq_iff_eq.1 hit⟩
          | _ => cases hit) (by decide +kernel)
    | rule hs hi => exact .rule hs hi
    | declaration d => exact .declaration d
    | comment text => exact .comment text
  droppable sc _ _ hb h := (keepFontFace_keepsHeads w₂).droppable sc hb h

/-- A filter of declarations deciding alike on both trees keeps the embedding. -/
theorem keepDeclarations_keepsMore_self (p : Scope → Declaration → Bool) :
    KeepsMore (keepDeclarations p) (keepDeclarations p) :=
  keepDeclarations_keepsMore (fun _ _ h => h) fun _ _ h₁ h₂ =>
    absurd (h₂.symm.trans h₁) (by decide)

/-- Keeping the custom properties of more names keeps more. -/
theorem keepUsed_keepsMore {u₁ u₂ : String → Bool} (hu : ∀ x, u₁ x = true → u₂ x = true) :
    KeepsMore (keepDeclarations fun _ d => !(d.isCustom && !u₁ d.property))
      (keepDeclarations fun _ d => !(d.isCustom && !u₂ d.property)) := by
  refine keepDeclarations_keepsMore (fun _ d h₁ => ?_) fun _ d h₁ _ => ?_
  · have := hu d.property
    revert h₁ this
    cases d.isCustom <;> cases u₁ d.property <;> cases u₂ d.property <;> simp
  · revert h₁
    cases d.isCustom <;> simp

/-! ### Filters of declarations -/

section KeepDeclarations

variable {p : Scope → Declaration → Bool}

mutual

theorem Item.filterWith_keepDeclarations_self :
    ∀ (it : Item) (sc : Scope), (∀ x ∈ it.declarationsIn sc, p x.1 x.2 = true) →
      it.filterWith (keepDeclarations p) sc = some it
  | .rule sels items, sc, h => by
    rw [Item.filterWith, filterItems_keepDeclarations_self items _ h]
    rfl
  | .atRule name prelude block items, sc, h => by
    rw [Item.filterWith, filterItems_keepDeclarations_self items _ h]
    rfl
  | .declaration d, sc, h => by
    simp [Item.filterWith, keepDeclarations, h (sc, d) (by simp [Item.declarationsIn])]
  | .comment _, _, _ => rfl

/-- A filter of declarations that keeps every declaration of a tree changes nothing. -/
theorem filterItems_keepDeclarations_self :
    ∀ (l : List Item) (sc : Scope), (∀ x ∈ itemsDeclarations sc l, p x.1 x.2 = true) →
      filterItems (keepDeclarations p) sc l = l
  | [], _, _ => rfl
  | it :: rest, sc, h => by
    rw [filterItems_cons,
      Item.filterWith_keepDeclarations_self it sc fun x hx => h x (List.mem_append_left _ hx),
      filterItems_keepDeclarations_self rest sc fun x hx => h x (List.mem_append_right _ hx)]
    rfl

end

mutual

theorem Item.declarationsIn_filterWith_keepDeclarations :
    ∀ (it : Item) (sc : Scope) {it' : Item}, it.filterWith (keepDeclarations p) sc = some it' →
      ∀ x ∈ it'.declarationsIn sc, p x.1 x.2 = true
  | .rule sels items, sc, _, h, x, hx => by
    simp only [Item.filterWith, keepDeclarations, Option.some.injEq] at h
    subst h
    exact declarations_filterItems_keepDeclarations items _ x hx
  | .atRule name prelude block items, sc, _, h, x, hx => by
    simp only [Item.filterWith, keepDeclarations, Option.some.injEq] at h
    subst h
    exact declarations_filterItems_keepDeclarations items _ x hx
  | .declaration d, sc, _, h, x, hx => by
    simp only [Item.filterWith, keepDeclarations] at h
    split at h
    · cases h
      simp only [Item.declarationsIn, List.mem_singleton] at hx
      subst hx
      assumption
    · cases h
  | .comment _, sc, _, h, x, hx => by
    simp only [Item.filterWith, keepDeclarations, Option.some.injEq] at h
    subst h
    simp [Item.declarationsIn] at hx

/-- Every declaration a filter of declarations leaves passes it. -/
theorem declarations_filterItems_keepDeclarations :
    ∀ (l : List Item) (sc : Scope),
      ∀ x ∈ itemsDeclarations sc (filterItems (keepDeclarations p) sc l), p x.1 x.2 = true
  | [], _, x, hx => by simp [filterItems, itemsDeclarations] at hx
  | it :: rest, sc, x, hx => by
    rw [filterItems_cons] at hx
    cases h : it.filterWith (keepDeclarations p) sc with
    | none =>
      rw [h] at hx
      exact declarations_filterItems_keepDeclarations rest sc x hx
    | some it' =>
      rw [h] at hx
      rcases List.mem_append.1 hx with hx | hx
      · exact Item.declarationsIn_filterWith_keepDeclarations it sc h x hx
      · exact declarations_filterItems_keepDeclarations rest sc x hx

end

/-- Removing custom property definitions leaves a tree inside the tree. -/
theorem filterItems_keepDeclarations_embeds (hp : ∀ sc d, p sc d = false → d.isCustom = true)
    (sc : Scope) (l : List Item) : ItemsEmbed (filterItems (keepDeclarations p) sc l) l := by
  -- the filter keeps more of the tree when it keeps every declaration, which changes nothing
  have h := (ItemsEmbed.refl l).filterItems
    (keepDeclarations_keepsMore (fun _ _ _ => rfl) fun sc d h _ => hp sc d h) sc
  rwa [filterItems_keepDeclarations_self (p := fun _ _ => true) _ _ fun _ _ => rfl] at h

end KeepDeclarations

/-! ### Sheets -/

/-- Names read off the declarations of a sheet are read off a sheet with more declarations. -/
theorem mem_eraseDups_flatMap_of_sublist {α β : Type} [BEq β] [LawfulBEq β] {l l' : List α}
    (h : l.Sublist l') (f : α → List β) {x : β} (hx : x ∈ (l.flatMap f).eraseDups) :
    x ∈ (l'.flatMap f).eraseDups := by
  simp only [List.mem_eraseDups, List.mem_flatMap] at hx ⊢
  obtain ⟨a, ha, hxa⟩ := hx
  exact ⟨a, h.subset ha, hxa⟩

/-- A sheet with more declarations refers to more custom properties. -/
theorem StyleSheet.usedVariables_subset {s t : StyleSheet}
    (h : (itemsDeclarations {} s.items).Sublist (itemsDeclarations {} t.items)) :
    s.usedVariables ⊆ t.usedVariables :=
  fun _ hx => mem_eraseDups_flatMap_of_sublist h _ hx

/-- A sheet with more declarations uses more font families. -/
theorem StyleSheet.usedFontFamilies_subset {s t : StyleSheet}
    (h : (itemsDeclarations {} s.items).Sublist (itemsDeclarations {} t.items)) :
    s.usedFontFamilies ⊆ t.usedFontFamilies :=
  fun _ hx => mem_eraseDups_flatMap_of_sublist h _ hx

/-- The sheet `s` sits inside the sheet `t`: read from the same text, with the same errors, and
its item tree inside `t`'s. -/
structure StyleSheet.Embeds (s t : StyleSheet) : Prop where
  source_eq : s.source = t.source
  errors_eq : s.errors = t.errors
  items : ItemsEmbed s.items t.items

/-- The declarations and custom property definitions of a sheet, with their scopes, are among
those of a sheet it sits inside. -/
theorem StyleSheet.Embeds.declarations {s t : StyleSheet} (h : s.Embeds t) :
    (itemsDeclarations {} s.items).Sublist (itemsDeclarations {} t.items) :=
  h.items.declarations {}

/-- Every item of a sheet, at any depth, embeds into an item of a sheet it sits inside: an
at-rule such as `@font-face` into one of the same name and prelude. -/
theorem StyleSheet.Embeds.exists_of_mem_nodes {s t : StyleSheet} (h : s.Embeds t) :
    ∀ x ∈ itemsNodes s.items, ∃ y ∈ itemsNodes t.items, x.Embeds y :=
  h.items.exists_of_mem_nodes

theorem StyleSheet.Embeds.ruleCount_le {s t : StyleSheet} (h : s.Embeds t) :
    s.ruleCount ≤ t.ruleCount :=
  h.items.ruleCount_le

/-- Pruning one sheet for a larger set of critical selectors keeps more of it. -/
theorem StyleSheet.pruned_embeds (s : StyleSheet) {c₁ c₂ : String → Bool}
    (hc : ∀ sel, c₁ sel = true → c₂ sel = true) : (s.pruned c₁).Embeds (s.pruned c₂) where
  source_eq := rfl
  errors_eq := rfl
  items := by
    -- both runs reach the critical selectors with the same items; each pass from there on
    -- keeps the embedding
    have hcrit := (ItemsEmbed.refl (filterItems keepAtRule {} (filterItems keepMedia {} s.items)))
      |>.filterItems (keepCritical_keepsMore hc) {}
    exact (((hcrit.pruneGroups.filterItems (keepDeclarations_keepsMore_self _) {}).filterItems
      (keepDeclarations_keepsMore_self _) {}).filterItems keepNonComment_keepsMore {}).pruneEmpty

/-- A sheet with no empty style rule and no grouping block without rules. -/
def StyleSheet.EmptiesPruned (s : StyleSheet) : Prop :=
  pruneEmpty isGrouping s.items = s.items

theorem StyleSheet.emptiesPruned_pruned (s : StyleSheet) (critical : String → Bool) :
    (s.pruned critical).EmptiesPruned :=
  pruneEmpty_pruneEmpty _

/-! ### A round of removing custom properties from one sheet -/

/-- A round removes nothing exactly when every custom property defined is one it keeps. -/
theorem StyleSheet.pruneUnusedVariables_removed_eq_zero {s : StyleSheet} {used : String → Bool} :
    (s.pruneUnusedVariables used).2 = 0 ↔
      ∀ x ∈ itemsDeclarations {} s.items, (x.2.isCustom && !used x.2.property) = false := by
  simp only [StyleSheet.pruneUnusedVariables, List.length_eq_zero_iff, List.filter_eq_nil_iff,
    Bool.not_eq_true]

/-- A round that removes no definition leaves the sheet as it is. -/
theorem StyleSheet.pruneUnusedVariables_of_removed {s : StyleSheet} {used : String → Bool}
    (h : (s.pruneUnusedVariables used).2 = 0) : (s.pruneUnusedVariables used).1 = s := by
  have hkeep := StyleSheet.pruneUnusedVariables_removed_eq_zero.1 h
  simp only [StyleSheet.pruneUnusedVariables] at h ⊢
  rw [h, if_neg (Nat.lt_irrefl 0), filterItems_keepDeclarations_self _ _ fun x hx => by
    simp [hkeep x hx]]

/-- On a sheet without empty blocks, a round removes the unused definitions and the blocks
that this empties, whether or not it removes any. -/
theorem StyleSheet.pruneUnusedVariables_fst {s : StyleSheet} (hs : s.EmptiesPruned)
    (used : String → Bool) :
    (s.pruneUnusedVariables used).1 =
      { s with
        items := pruneEmpty isGrouping (filterItems
          (keepDeclarations fun _ d => !(d.isCustom && !used d.property)) {} s.items) } := by
  by_cases h : (s.pruneUnusedVariables used).2 = 0
  · rw [StyleSheet.pruneUnusedVariables_of_removed h]
    have hkeep := StyleSheet.pruneUnusedVariables_removed_eq_zero.1 h
    rw [filterItems_keepDeclarations_self _ _ fun x hx => by simp [hkeep x hx], hs]
  · simp only [StyleSheet.pruneUnusedVariables] at h ⊢
    rw [if_pos (Nat.pos_of_ne_zero h)]

/-- The declarations a round leaves are among those its filter leaves. -/
theorem StyleSheet.declarations_pruneUnusedVariables_sublist (s : StyleSheet)
    (used : String → Bool) :
    (itemsDeclarations {} (s.pruneUnusedVariables used).1.items).Sublist (itemsDeclarations {}
      (filterItems (keepDeclarations fun _ d => !(d.isCustom && !used d.property)) {}
        s.items)) := by
  simp only [StyleSheet.pruneUnusedVariables]
  split
  · exact (pruneEmpty_embeds _).declarations {}
  · exact List.Sublist.refl _

/-- The declarations a round leaves were there before. -/
theorem StyleSheet.declarations_pruneUnusedVariables (s : StyleSheet) (used : String → Bool) :
    (itemsDeclarations {} (s.pruneUnusedVariables used).1.items).Sublist
      (itemsDeclarations {} s.items) := by
  -- the round's filter removes only custom property definitions
  have hf := filterItems_keepDeclarations_embeds
    (p := fun _ d => !(d.isCustom && !used d.property)) (fun _ d h => by
      simp only [Bool.not_eq_false', Bool.and_eq_true] at h
      exact h.1) {} s.items
  exact (s.declarations_pruneUnusedVariables_sublist used).trans (hf.declarations {})

/-- After a round, every custom property defined is one the round kept. -/
theorem StyleSheet.pruneUnusedVariables_unused (s : StyleSheet) (used : String → Bool) :
    ∀ x ∈ itemsDeclarations {} (s.pruneUnusedVariables used).1.items,
      (x.2.isCustom && !used x.2.property) = false := by
  intro x hx
  simpa only [Bool.not_eq_true'] using declarations_filterItems_keepDeclarations _ _ x
    ((s.declarations_pruneUnusedVariables_sublist used).subset hx)

/-- The names `eraseDups` leaves are distinct. -/
theorem nodup_eraseDups {α : Type} [BEq α] [LawfulBEq α] : ∀ l : List α, l.eraseDups.Nodup
  | [] => List.nodup_nil
  | a :: as => by
    have : (as.filter fun b => !b == a).length < as.length + 1 :=
      Nat.lt_add_one_of_le (List.length_filter_le _ as)
    rw [List.eraseDups_cons, List.nodup_cons]
    exact ⟨by simp, nodup_eraseDups _⟩
termination_by l => l.length

/-- A sheet inside another, neither with empty blocks: what the rounds of removing custom
properties keep. -/
structure StyleSheet.EmbedsPruned (s t : StyleSheet) : Prop where
  embeds : s.Embeds t
  left : s.EmptiesPruned
  right : t.EmptiesPruned

/-- A round on the smaller sheet, keeping the definitions of fewer names, keeps less. -/
theorem StyleSheet.EmbedsPruned.pruneUnusedVariables {s t : StyleSheet} (h : s.EmbedsPruned t)
    {u₁ u₂ : String → Bool} (hu : ∀ x, u₁ x = true → u₂ x = true) :
    (s.pruneUnusedVariables u₁).1.EmbedsPruned (t.pruneUnusedVariables u₂).1 := by
  rw [StyleSheet.pruneUnusedVariables_fst h.left, StyleSheet.pruneUnusedVariables_fst h.right]
  exact ⟨⟨h.embeds.source_eq, h.embeds.errors_eq,
    (h.embeds.items.filterItems (keepUsed_keepsMore hu) {}).pruneEmpty⟩,
    pruneEmpty_pruneEmpty _, pruneEmpty_pruneEmpty _⟩

/-- Pruning fonts for a larger whitelist keeps more. -/
theorem StyleSheet.Embeds.pruneFonts {s t : StyleSheet} (h : s.Embeds t) {w₁ w₂ : String → Bool}
    (hw : ∀ f, w₁ f = true → w₂ f = true) : (s.pruneFonts w₁).Embeds (t.pruneFonts w₂) :=
  ⟨h.source_eq, h.errors_eq, h.items.filterItems (keepFontFace_keepsMore hw) {}⟩

end CriticalCss.Css

namespace CriticalCss.Generate

open CriticalCss.Css

/-- Related lists keep related what two filters keep, when the second keeps the match of what
the first keeps. -/
theorem sublistForall₂_filter {α β : Type} {R : α → β → Prop} {p : α → Bool} {q : β → Bool}
    (hpq : ∀ a b, R a b → p a = true → q b = true) :
    ∀ {l₁ : List α} {l₂ : List β}, List.Forall₂ R l₁ l₂ →
      List.SublistForall₂ R (l₁.filter p) (l₂.filter q)
  | _, _, .nil => .nil
  | _, _, .cons (a := a) (b := b) hab t => by
    by_cases ha : p a = true
    · rw [List.filter_cons_of_pos ha, List.filter_cons_of_pos (hpq a b hab ha)]
      exact .cons hab (sublistForall₂_filter hpq t)
    · rw [List.filter_cons_of_neg ha]
      by_cases hb : q b = true
      · rw [List.filter_cons_of_pos hb]
        exact .cons_right (sublistForall₂_filter hpq t)
      · rw [List.filter_cons_of_neg hb]
        exact sublistForall₂_filter hpq t

/-- What is read off each of related lists, element by element, grows with the relation. -/
theorem eraseDups_flatMap_subset_of_forall₂ {α β γ : Type} [BEq γ] [LawfulBEq γ]
    {R : α → β → Prop} {f : α → List γ} {g : β → List γ} (hfg : ∀ a b, R a b → f a ⊆ g b)
    {l₁ : List α} {l₂ : List β} (h : List.Forall₂ R l₁ l₂) :
    (l₁.flatMap f).eraseDups ⊆ (l₂.flatMap g).eraseDups := by
  intro x hx
  rw [List.mem_eraseDups] at hx ⊢
  induction h with
  | nil => simp at hx
  | cons hab _ ih =>
    rw [List.flatMap_cons, List.mem_append] at hx ⊢
    exact hx.imp (hfg _ _ hab ·) ih

namespace Store

/-! ### The rounds of removing custom properties -/

/-- The names that some sheet of a list refers to, as a round reads them. -/
def usedVariablesOf (sheets : List StyleSheet) : List String :=
  (sheets.flatMap StyleSheet.usedVariables).eraseDups

/-- The sheets of a round, each with the number of definitions it removes. -/
def variableRoundResults (sheets : List StyleSheet) : List (StyleSheet × Nat) :=
  sheets.map fun sh => sh.pruneUnusedVariables ((usedVariablesOf sheets).contains ·)

/-- One round of removing the custom properties that no sheet of a list refers to. -/
def variableRound (sheets : List StyleSheet) : List StyleSheet :=
  (variableRoundResults sheets).map (·.1)

theorem pruneVariables_succ (rounds : Nat) (prevUsed : Int) (sheets : List StyleSheet) :
    pruneVariables (rounds + 1) prevUsed sheets =
      if ((usedVariablesOf sheets).length : Int) == prevUsed then sheets
      else if ((variableRoundResults sheets).map (·.2)).foldr (· + ·) 0 == 0 then
        variableRound sheets
      else pruneVariables rounds (usedVariablesOf sheets).length (variableRound sheets) :=
  rfl

theorem variableRound_eq_map (sheets : List StyleSheet) :
    variableRound sheets =
      sheets.map fun sh => (sh.pruneUnusedVariables ((usedVariablesOf sheets).contains ·)).1 := by
  rw [variableRound, variableRoundResults, List.map_map]
  rfl

theorem mem_variableRound {sheets : List StyleSheet} {sh : StyleSheet} :
    sh ∈ variableRound sheets ↔
      ∃ t ∈ sheets, (t.pruneUnusedVariables ((usedVariablesOf sheets).contains ·)).1 = sh := by
  rw [variableRound_eq_map, List.mem_map]

/-- A round that removes nothing changes nothing. -/
theorem variableRound_eq_self {sheets : List StyleSheet}
    (h : ∀ sh ∈ sheets, (sh.pruneUnusedVariables ((usedVariablesOf sheets).contains ·)).2 = 0) :
    variableRound sheets = sheets := by
  rw [variableRound_eq_map]
  conv_rhs => rw [← List.map_id sheets]
  exact List.map_congr_left fun sh hsh => StyleSheet.pruneUnusedVariables_of_removed (h sh hsh)

/-- A round refers to no name the sheets before it did not. -/
theorem usedVariablesOf_variableRound_subset (sheets : List StyleSheet) :
    usedVariablesOf (variableRound sheets) ⊆ usedVariablesOf sheets := by
  intro x hx
  simp only [usedVariablesOf, List.mem_eraseDups, List.mem_flatMap] at hx ⊢
  obtain ⟨sh, hsh, hx⟩ := hx
  obtain ⟨t, ht, rfl⟩ := mem_variableRound.1 hsh
  exact ⟨t, ht, StyleSheet.usedVariables_subset (t.declarations_pruneUnusedVariables _) hx⟩

/-- When a round leaves as many referred names as before, it leaves the same names, and the
next round has nothing to remove. -/
theorem variableRound_variableRound {sheets : List StyleSheet}
    (hlen : (usedVariablesOf (variableRound sheets)).length = (usedVariablesOf sheets).length) :
    variableRound (variableRound sheets) = variableRound sheets := by
  have hsub := usedVariablesOf_variableRound_subset sheets
  have hperm := (List.subperm_of_subset (nodup_eraseDups _) hsub).perm_of_length_le
    (Nat.le_of_eq hlen.symm)
  apply variableRound_eq_self
  intro sh hsh
  obtain ⟨t, -, rfl⟩ := mem_variableRound.1 hsh
  -- every definition left names a name the round before kept, which is still referred to
  refine StyleSheet.pruneUnusedVariables_removed_eq_zero.2 fun x hx => ?_
  have hkept := StyleSheet.pruneUnusedVariables_unused t _ x hx
  cases hcustom : x.2.isCustom
  · rfl
  · rw [hcustom] at hkept
    simp only [Bool.true_and, Bool.not_eq_false', List.contains_iff_mem] at hkept ⊢
    exact hperm.mem_iff.2 hkept

/-- **The rounds of removing custom properties.** Given the count of names that the sheets
before the last round referred to, or none, the loop gives the sheets after all its rounds: it
stops early only at a fixed point of a round. -/
theorem pruneVariables_eq_iterate :
    ∀ (rounds : Nat) {prevUsed : Int} {sheets : List StyleSheet},
      (prevUsed = -1 ∨ ∃ before, sheets = variableRound before ∧
        prevUsed = (usedVariablesOf before).length) →
      pruneVariables rounds prevUsed sheets = variableRound^[rounds] sheets
  | 0, _, _, _ => rfl
  | rounds + 1, prevUsed, sheets, hprev => by
    rw [pruneVariables_succ]
    by_cases hu : ((usedVariablesOf sheets).length : Int) == prevUsed
    · -- the count came back: the round before left the same names, so this is a fixed point
      rw [if_pos hu]
      have hu' : ((usedVariablesOf sheets).length : Int) = prevUsed := by simpa using hu
      obtain ⟨before, rfl, rfl⟩ := hprev.resolve_left (by omega)
      exact (Function.iterate_fixed (variableRound_variableRound (by omega)) _).symm
    rw [if_neg hu]
    by_cases hr : ((variableRoundResults sheets).map (·.2)).foldr (· + ·) 0 == 0
    · -- nothing was removed, so nothing changed
      have hfix : variableRound sheets = sheets := by
        apply variableRound_eq_self
        have hzero := List.sum_eq_zero_iff_forall_eq_nat.1 (beq_iff_eq.1 hr)
        intro sh hsh
        exact hzero _ (List.mem_map_of_mem (List.mem_map_of_mem hsh))
      rw [if_pos hr, hfix, Function.iterate_fixed hfix]
    · rw [if_neg hr, pruneVariables_eq_iterate rounds (.inr ⟨sheets, rfl, rfl⟩),
        Function.iterate_succ_apply]

/-- Names referred to by the smaller sheets are referred to by the larger ones. -/
theorem usedVariablesOf_subset {A B : List StyleSheet} (h : List.Forall₂ StyleSheet.Embeds A B) :
    usedVariablesOf A ⊆ usedVariablesOf B :=
  eraseDups_flatMap_subset_of_forall₂ (fun _ _ hab => StyleSheet.usedVariables_subset
    hab.declarations) h

/-- A round keeps the embedding of lists of sheets without empty blocks. -/
theorem variableRound_embeds {A B : List StyleSheet}
    (h : List.Forall₂ StyleSheet.EmbedsPruned A B) :
    List.Forall₂ StyleSheet.EmbedsPruned (variableRound A) (variableRound B) := by
  have hused := usedVariablesOf_subset (h.imp fun _ _ hab => hab.embeds)
  rw [variableRound_eq_map, variableRound_eq_map]
  refine List.forall₂_map_left_iff.2 (List.forall₂_map_right_iff.2 (h.imp fun a b hab => ?_))
  exact hab.pruneUnusedVariables fun x hx => by
    simp only [List.contains_iff_mem] at hx ⊢
    exact hused hx

theorem iterate_variableRound_embeds {A B : List StyleSheet}
    (h : List.Forall₂ StyleSheet.EmbedsPruned A B) (n : Nat) :
    List.Forall₂ StyleSheet.EmbedsPruned (variableRound^[n] A) (variableRound^[n] B) := by
  induction n with
  | zero => exact h
  | succ n ih =>
    rw [Function.iterate_succ_apply', Function.iterate_succ_apply']
    exact variableRound_embeds ih

/-! ### The critical sheets of a store -/

/-- **More critical selectors keep more.** For a larger set of critical selectors, every
critical sheet of a store is kept, in order, and each sits inside the sheet kept for the larger
set. -/
theorem prunedSheets_embed (s : Store) {c₁ c₂ : String → Bool}
    (hc : ∀ sel, c₁ sel = true → c₂ sel = true) :
    List.SublistForall₂ StyleSheet.Embeds (s.prunedSheets c₁) (s.prunedSheets c₂) := by
  -- each sheet's critical part for the smaller set sits inside that for the larger one
  have hpruned : List.Forall₂ StyleSheet.EmbedsPruned (s.sorted.map fun f => f.sheet.pruned c₁)
      (s.sorted.map fun f => f.sheet.pruned c₂) := by
    refine List.forall₂_map_left_iff.2 (List.forall₂_map_right_iff.2
      (List.forall₂_same.2 fun f _ => ?_))
    exact ⟨f.sheet.pruned_embeds hc, f.sheet.emptiesPruned_pruned c₁,
      f.sheet.emptiesPruned_pruned c₂⟩
  -- both runs of the variable rounds make all their rounds, keeping the embedding
  have hvars := iterate_variableRound_embeds hpruned maxVariableRounds
  simp only [prunedSheets, prunedSheetsOf]
  rw [pruneVariables_eq_iterate _ (.inl rfl), pruneVariables_eq_iterate _ (.inl rfl)]
  generalize variableRound^[maxVariableRounds] (s.sorted.map fun f => f.sheet.pruned c₁) = A
    at hvars ⊢
  generalize variableRound^[maxVariableRounds] (s.sorted.map fun f => f.sheet.pruned c₂) = B
    at hvars ⊢
  -- the larger sheets use more font families, so their whitelist is larger
  have hembeds : List.Forall₂ StyleSheet.Embeds A B := hvars.imp fun _ _ hab => hab.embeds
  have hfonts := eraseDups_flatMap_subset_of_forall₂ (fun _ _ hab =>
    StyleSheet.usedFontFamilies_subset (StyleSheet.Embeds.declarations hab)) hembeds
  refine sublistForall₂_filter (fun a b hab ha => ?_) (List.forall₂_map_left_iff.2
    (List.forall₂_map_right_iff.2 (hembeds.imp fun a b hab => hab.pruneFonts fun x hx => ?_)))
  · -- a sheet with a rule for the smaller set has one for the larger set
    have := hab.ruleCount_le
    simp only [bne_iff_ne, ne_eq] at ha ⊢
    omega
  · simp only [List.contains_iff_mem] at hx ⊢
    exact hfonts hx

/-- A store with one stylesheet of two rules. -/
def oneSheet : Store :=
  (Store.load {} "https://s.test/a.css" ".a{color:red}.b{color:blue}").1

theorem prunedSheets_embed_one_sheet :
    (∀ sel, (sel == ".a") = true → (fun _ => true) sel = true) ∧
      List.SublistForall₂ StyleSheet.Embeds (oneSheet.prunedSheets (· == ".a"))
        (oneSheet.prunedSheets fun _ => true) :=
  ⟨fun _ _ => rfl, prunedSheets_embed oneSheet fun _ _ => rfl⟩

end Store

end CriticalCss.Generate
