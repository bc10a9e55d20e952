import CriticalCss.Proofs.PrunedRules

/-!
# One item tree inside another

Pruning a sheet for more critical selectors should keep more of it. "More" is an embedding of
item trees: the items of the smaller tree sit, in order and under the same parents, among the
items of the larger one; a style rule may have fewer selectors, and the larger tree may hold
items the smaller one lost. Only items some pass removes for one run and keeps for another
may be missing: style rules, at-rules and custom property definitions (`Item.Droppable`).
Every other declaration is removed from both trees alike or from neither, so the two trees
have the same such declarations in each pair of matching blocks, which is what the decisions
that read a block (a `grid-area` declaration, the descriptors of a `@font-face`) need.

Each pass keeps the embedding: a filter whose decision keeps, of two embedding items, what the
other keeps (`KeepsMore`), and the removals of emptied blocks.

## Main definitions

* `Item.Droppable`: the items one tree may have and the other lack.
* `Item.Embeds`, `ItemsEmbed`: one tree inside another.
* `KeepsMore`: a decision keeping, of an embedding pair, at least what another keeps.

## Main results

* `ItemsEmbed.filterItems`, `ItemsEmbed.pruneGroups`, `ItemsEmbed.pruneEmpty`: the passes
  keep the embedding.
* `pruneEmpty_embeds`: removing emptied blocks leaves a tree inside the tree.
* `ItemsEmbed.declarations`, `ItemsEmbed.ruleCount_le`, `ItemsEmbed.exists_of_mem_nodes`: the
  declarations, rules and nodes of the smaller tree are found in the larger one.
* `ItemsEmbed.filter_eq`, `ItemsEmbed.declares_eq`: matching blocks have the same declarations
  of a property that is not custom.
-/

namespace CriticalCss.Css

/-- An item that a pass may remove from a block for one run and keep for another: a style
rule, an at-rule, or the definition of a custom property. -/
def Item.Droppable : Item → Prop
  | .rule _ _ | .atRule _ _ _ _ => True
  | .declaration d => d.isCustom = true
  | .comment _ => False

mutual

/-- The tree `a` sits inside the tree `b`: a style rule with some of the other's selectors in
order, an at-rule with the same name, prelude and kind of block, a declaration or a comment
equal to the other, and their blocks embedding. -/
inductive Item.Embeds : Item → Item → Prop
  | rule {sels sels' : List String} {items items' : List Item} :
      sels.Sublist sels' → ItemsEmbed items items' →
        Item.Embeds (.rule sels items) (.rule sels' items')
  | atRule {name prelude : String} {block : Bool} {items items' : List Item} :
      ItemsEmbed items items' →
        Item.Embeds (.atRule name prelude block items) (.atRule name prelude block items')
  | declaration (d : Declaration) : Item.Embeds (.declaration d) (.declaration d)
  | comment (text : String) : Item.Embeds (.comment text) (.comment text)

/-- The items of a block embed, in order, into the items of another block, whose other items
are droppable. -/
inductive ItemsEmbed : List Item → List Item → Prop
  | nil : ItemsEmbed [] []
  | cons {a b : Item} {l l' : List Item} :
      a.Embeds b → ItemsEmbed l l' → ItemsEmbed (a :: l) (b :: l')
  | skip {b : Item} {l l' : List Item} : b.Droppable → ItemsEmbed l l' → ItemsEmbed l (b :: l')

end

mutual

theorem Item.Embeds.refl : ∀ it : Item, it.Embeds it
  | .rule sels items => .rule (List.Sublist.refl sels) (ItemsEmbed.refl items)
  | .atRule _ _ _ items => .atRule (ItemsEmbed.refl items)
  | .declaration d => .declaration d
  | .comment text => .comment text

theorem ItemsEmbed.refl : ∀ l : List Item, ItemsEmbed l l
  | [] => .nil
  | it :: rest => .cons (Item.Embeds.refl it) (ItemsEmbed.refl rest)

end

theorem ItemsEmbed.eq_nil {l : List Item} (h : ItemsEmbed l []) : l = [] := by
  cases h
  rfl

/-- Whether an item may be missing is read off its head. -/
theorem Item.Droppable.of_head_eq {b b' : Item} (hb : b.Droppable) (h : b'.head = b.head) :
    b'.Droppable := by
  cases b <;> cases b' <;> simp_all [Item.head, Item.Droppable]

/-- A decision that keeps items of their kind keeps droppable items droppable. -/
theorem KeepsRules.droppable {keep : Scope → Item → Option Item} (hk : KeepsRules keep)
    (sc : Scope) {b b' : Item} (hb : b.Droppable) (h : keep sc b = some b') : b'.Droppable := by
  cases b with
  | rule sels items =>
    rw [hk.rule _ _ _ _ h]
    trivial
  | atRule name prelude block items =>
    obtain ⟨_, _, _, rfl, -⟩ := hk.atRule _ _ _ _ _ _ h
    trivial
  | declaration d =>
    rw [hk.declaration _ _ _ h]
    exact hb
  | comment text => exact hb.elim

/-! ### What a pass makes of an embedding pair -/

/-- What a pass makes of two embedding items: both kept and still embedding, the first
removed and the second removed or droppable, but never the second removed alone. -/
def OptEmbeds : Option Item → Option Item → Prop
  | some a, some b => a.Embeds b
  | none, some b => b.Droppable
  | none, none => True
  | some _, none => False

theorem ItemsEmbed.append_opt {oa ob : Option Item} (h : OptEmbeds oa ob) {l l' : List Item}
    (hl : ItemsEmbed l l') : ItemsEmbed (oa.toList ++ l) (ob.toList ++ l') := by
  cases oa with
  | some a =>
    cases ob with
    | some b => exact .cons h hl
    | none => exact h.elim
  | none =>
    cases ob with
    | some b => exact .skip h hl
    | none => exact hl

/-- A pass that keeps an item under a condition keeps more when the larger item's condition is
weaker. -/
theorem OptEmbeds.ite {p₁ p₂ : Prop} [Decidable p₁] [Decidable p₂] (h : p₁ → p₂) {a b : Item}
    (hab : a.Embeds b) (hb : b.Droppable) :
    OptEmbeds (if p₁ then some a else none) (if p₂ then some b else none) := by
  by_cases h₁ : p₁
  · rw [if_pos h₁, if_pos (h h₁)]
    exact hab
  · rw [if_neg h₁]
    split <;> trivial

/-- A pass that removes an item under a condition keeps more when the larger item's condition is
stronger. -/
theorem OptEmbeds.ite_none {p₁ p₂ : Prop} [Decidable p₁] [Decidable p₂] (h : p₂ → p₁)
    {a b : Item} (hab : a.Embeds b) (hb : b.Droppable) :
    OptEmbeds (if p₁ then none else some a) (if p₂ then none else some b) := by
  by_cases h₁ : p₁
  · rw [if_pos h₁]
    split <;> trivial
  · rw [if_neg h₁, if_neg (mt h h₁)]
    exact hab

/-- A droppable item that a pass keeps stays droppable. -/
theorem ItemsEmbed.append_droppable {ob : Option Item} (hb : ∀ b, ob = some b → b.Droppable)
    {l l' : List Item} (hl : ItemsEmbed l l') : ItemsEmbed l (ob.toList ++ l') := by
  cases ob with
  | some b => exact .skip (hb b rfl) hl
  | none => exact hl

/-! ### Filters -/

theorem filterItems_cons (keep : Scope → Item → Option Item) (sc : Scope) (it : Item)
    (rest : List Item) :
    filterItems keep sc (it :: rest) =
      (it.filterWith keep sc).toList ++ filterItems keep sc rest := by
  cases h : it.filterWith keep sc <;> simp [filterItems, h]

/-- A decision `k₂` that keeps, of two embedding items, what `k₁` keeps of the first, keeps
their embedding, and keeps droppable items droppable. -/
structure KeepsMore (k₁ k₂ : Scope → Item → Option Item) : Prop where
  opt : ∀ sc {a b : Item}, a.Embeds b → OptEmbeds (k₁ sc a) (k₂ sc b)
  droppable : ∀ sc {b b' : Item}, b.Droppable → k₂ sc b = some b' → b'.Droppable

section Filter

variable {k₁ k₂ : Scope → Item → Option Item}

theorem KeepsMore.filterWith_droppable (hk : KeepsMore k₁ k₂) {b : Item} (hb : b.Droppable)
    (sc : Scope) {b' : Item} (h : b.filterWith k₂ sc = some b') : b'.Droppable := by
  cases b with
  | rule sels items =>
    exact hk.droppable sc (b := .rule sels (filterItems k₂ _ items)) trivial h
  | atRule name prelude block items =>
    exact hk.droppable sc (b := .atRule name prelude block (filterItems k₂ _ items)) trivial h
  | declaration d => exact hk.droppable sc hb h
  | comment text => exact hb.elim

mutual

theorem Item.Embeds.filterWith (hk : KeepsMore k₁ k₂) :
    ∀ {a b : Item}, a.Embeds b → ∀ sc, OptEmbeds (a.filterWith k₁ sc) (b.filterWith k₂ sc)
  | _, _, .rule hs hi, sc => hk.opt sc (.rule hs (hi.filterItems hk _))
  | _, _, .atRule hi, sc => hk.opt sc (.atRule (hi.filterItems hk _))
  | _, _, .declaration d, sc => hk.opt sc (.declaration d)
  | _, _, .comment text, sc => hk.opt sc (.comment text)

/-- A filter keeps the embedding when its decision on the larger tree keeps more. -/
theorem ItemsEmbed.filterItems (hk : KeepsMore k₁ k₂) :
    ∀ {l l' : List Item}, ItemsEmbed l l' → ∀ sc,
      ItemsEmbed (filterItems k₁ sc l) (filterItems k₂ sc l')
  | _, _, .nil, _ => .nil
  | _, _, .cons h t, sc => by
    rw [filterItems_cons, filterItems_cons]
    exact ItemsEmbed.append_opt (h.filterWith hk sc) (t.filterItems hk sc)
  | _, _, .skip hb t, sc => by
    rw [filterItems_cons]
    exact ItemsEmbed.append_droppable (fun _ h => hk.filterWith_droppable hb sc h)
      (t.filterItems hk sc)

end

/-- A decision that removes only declarations keeps more when it keeps every declaration the
other keeps and removes no declaration but custom ones that the other keeps. -/
theorem keepDeclarations_keepsMore {p₁ p₂ : Scope → Declaration → Bool}
    (hp : ∀ sc d, p₁ sc d = true → p₂ sc d = true)
    (hcustom : ∀ sc d, p₁ sc d = false → p₂ sc d = true → d.isCustom = true) :
    KeepsMore (keepDeclarations p₁) (keepDeclarations p₂) where
  opt sc a b h := by
    cases h with
    | declaration d =>
      by_cases h₁ : p₁ sc d = true
      · simp [keepDeclarations, h₁, hp sc d h₁, OptEmbeds, Item.Embeds.refl]
      · by_cases h₂ : p₂ sc d = true
        · simp only [keepDeclarations, h₁, h₂, if_true, if_false, Bool.false_eq_true, OptEmbeds,
            Item.Droppable]
          exact hcustom sc d (by simpa using h₁) h₂
        · simp [keepDeclarations, h₁, h₂, OptEmbeds]
    | rule hs hi => exact .rule hs hi
    | atRule hi => exact .atRule hi
    | comment text => exact .comment text
  droppable sc _ _ hb h := (keepDeclarations_keepsHeads p₂).droppable sc hb h

/-- Removing comments keeps more of a larger tree. -/
theorem keepNonComment_keepsMore : KeepsMore keepNonComment keepNonComment where
  opt sc a b h := by
    cases h with
    | rule hs hi => exact .rule hs hi
    | atRule hi => exact .atRule hi
    | declaration d => exact .declaration d
    | comment text => trivial
  droppable sc _ _ hb h := keepNonComment_keepsHeads.droppable sc hb h

end Filter

/-! ### Removing emptied blocks -/

section Empty

variable {g : String → Bool}

theorem hasRules_cons (it : Item) (rest : List Item) :
    hasRules (it :: rest) = (hasRules [it] || hasRules rest) := by
  simp [CriticalCss.Css.hasRules]

/-- A block of a larger tree has a rule where a smaller tree's matching block has one. -/
theorem ItemsEmbed.hasRules {l l' : List Item} (h : ItemsEmbed l l') (hl : hasRules l = true) :
    hasRules l' = true := by
  cases h with
  | nil => exact hl
  | cons ha t =>
    rw [hasRules_cons, Bool.or_eq_true] at hl ⊢
    rcases hl with hl | hl
    · -- embedding items are of one kind
      exact .inl (by cases ha <;> simp_all [CriticalCss.Css.hasRules])
    · exact .inr (t.hasRules hl)
  | skip _ t =>
    rw [hasRules_cons, Bool.or_eq_true]
    exact .inr (t.hasRules hl)

/-- A larger block keeps its group where the smaller one does. -/
theorem ItemsEmbed.removesGroup {g : String → Bool} {name : String} {l l' : List Item}
    (h : ItemsEmbed l l') (hl : (g name && !CriticalCss.Css.hasRules l') = true) :
    (g name && !CriticalCss.Css.hasRules l) = true := by
  simp only [Bool.and_eq_true, Bool.not_eq_true'] at hl ⊢
  refine ⟨hl.1, ?_⟩
  cases hr : CriticalCss.Css.hasRules l with
  | false => rfl
  | true => simpa [h.hasRules hr] using hl.2

theorem pruneGroups_cons (it : Item) (rest : List Item) :
    pruneGroups g (it :: rest) = (it.pruneGroups g).toList ++ pruneGroups g rest := by
  cases h : it.pruneGroups g <;> simp [pruneGroups, h]

theorem pruneEmpty_cons (it : Item) (rest : List Item) :
    pruneEmpty g (it :: rest) = (it.pruneEmpty g).toList ++ pruneEmpty g rest := by
  cases h : it.pruneEmpty g <;> simp [pruneEmpty, h]

mutual

theorem Item.Embeds.pruneGroups :
    ∀ {a b : Item}, a.Embeds b → OptEmbeds (a.pruneGroups g) (b.pruneGroups g)
  | _, _, .rule hs hi => .rule hs hi.pruneGroups
  | .atRule _ _ true _, .atRule _ _ _ _, .atRule hi => by
    simp only [Item.pruneGroups]
    exact OptEmbeds.ite_none hi.pruneGroups.removesGroup (.atRule hi.pruneGroups) trivial
  | .atRule _ _ false _, _, .atRule hi => .atRule hi
  | _, _, .declaration d => .declaration d
  | _, _, .comment text => .comment text

/-- Removing emptied grouping blocks keeps the embedding. -/
theorem ItemsEmbed.pruneGroups :
    ∀ {l l' : List Item}, ItemsEmbed l l' → ItemsEmbed (pruneGroups g l) (pruneGroups g l')
  | _, _, .nil => .nil
  | _, _, .cons h t => by
    rw [pruneGroups_cons, pruneGroups_cons]
    exact ItemsEmbed.append_opt h.pruneGroups t.pruneGroups
  | _, _, .skip hb t => by
    rw [pruneGroups_cons]
    exact ItemsEmbed.append_droppable (fun _ h => hb.of_head_eq (Item.head_of_pruneGroups h))
      t.pruneGroups

end

mutual

theorem Item.Embeds.pruneEmpty :
    ∀ {a b : Item}, a.Embeds b → OptEmbeds (a.pruneEmpty g) (b.pruneEmpty g)
  | .rule _ _, .rule _ _, .rule hs hi => by
    simp only [Item.pruneEmpty]
    -- the larger rule is emptied only when the smaller one is
    refine OptEmbeds.ite_none (fun h => ?_) (.rule hs hi.pruneEmpty) trivial
    rw [List.isEmpty_iff] at h ⊢
    exact (h ▸ hi.pruneEmpty).eq_nil
  | .atRule _ _ true _, .atRule _ _ _ _, .atRule hi => by
    simp only [Item.pruneEmpty]
    exact OptEmbeds.ite_none hi.pruneEmpty.removesGroup (.atRule hi.pruneEmpty) trivial
  | .atRule _ _ false _, _, .atRule hi => .atRule hi
  | _, _, .declaration d => .declaration d
  | _, _, .comment text => .comment text

/-- Removing empty rules and emptied groups keeps the embedding. -/
theorem ItemsEmbed.pruneEmpty :
    ∀ {l l' : List Item}, ItemsEmbed l l' → ItemsEmbed (pruneEmpty g l) (pruneEmpty g l')
  | _, _, .nil => .nil
  | _, _, .cons h t => by
    rw [pruneEmpty_cons, pruneEmpty_cons]
    exact ItemsEmbed.append_opt h.pruneEmpty t.pruneEmpty
  | _, _, .skip hb t => by
    rw [pruneEmpty_cons]
    exact ItemsEmbed.append_droppable (fun _ h => hb.of_head_eq (Item.head_of_pruneEmpty h))
      t.pruneEmpty

end

mutual

theorem Item.pruneEmpty_embeds : ∀ it : Item, OptEmbeds (it.pruneEmpty g) (some it)
  | .rule sels items => by
    simp only [Item.pruneEmpty]
    split
    · trivial
    · exact .rule (List.Sublist.refl sels) (pruneEmpty_embeds items)
  | .atRule name prelude true items => by
    simp only [Item.pruneEmpty]
    split
    · trivial
    · exact .atRule (pruneEmpty_embeds items)
  | .atRule name prelude false items => Item.Embeds.refl _
  | .declaration d => .declaration d
  | .comment text => .comment text

/-- What the removal of emptied blocks leaves sits inside the tree it started from. -/
theorem pruneEmpty_embeds : ∀ l : List Item, ItemsEmbed (pruneEmpty g l) l
  | [] => .nil
  | it :: rest => by
    rw [pruneEmpty_cons]
    exact ItemsEmbed.append_opt (Item.pruneEmpty_embeds it) (pruneEmpty_embeds rest)

end

end Empty

/-! ### What the smaller tree has -/

mutual

theorem Item.Embeds.declarationsIn :
    ∀ {a b : Item}, a.Embeds b → ∀ sc, (a.declarationsIn sc).Sublist (b.declarationsIn sc)
  | _, _, .rule _ hi, _ => hi.declarations _
  | _, _, .atRule hi, _ => hi.declarations _
  | _, _, .declaration _, _ => List.Sublist.refl _
  | _, _, .comment _, _ => List.Sublist.refl _

/-- The declarations of the smaller tree, with their scopes, are among the larger's, in order. -/
theorem ItemsEmbed.declarations :
    ∀ {l l' : List Item}, ItemsEmbed l l' → ∀ sc,
      (itemsDeclarations sc l).Sublist (itemsDeclarations sc l')
  | _, _, .nil, _ => List.Sublist.refl _
  | _, _, .cons h t, sc => (h.declarationsIn sc).append (t.declarations sc)
  | _, _, .skip _ t, sc => (t.declarations sc).trans (List.sublist_append_right _ _)

end

mutual

theorem Item.Embeds.ruleCount_le : ∀ {a b : Item}, a.Embeds b → a.ruleCount ≤ b.ruleCount
  | _, _, .rule _ hi => Nat.add_le_add_left hi.ruleCount_le 1
  | _, _, .atRule hi => hi.ruleCount_le
  | _, _, .declaration _ => Nat.le_refl _
  | _, _, .comment _ => Nat.le_refl _

/-- The smaller tree has at most as many style rules. -/
theorem ItemsEmbed.ruleCount_le :
    ∀ {l l' : List Item}, ItemsEmbed l l' → itemsRuleCount l ≤ itemsRuleCount l'
  | _, _, .nil => Nat.le_refl _
  | _, _, .cons h t => Nat.add_le_add h.ruleCount_le t.ruleCount_le
  | _, _, .skip _ t => Nat.le_trans t.ruleCount_le (Nat.le_add_left _ _)

end

/-! ### Declarations both trees have -/

/-- A test on items that only declarations of a property that is not custom pass. -/
def TestsPlainDeclarations (q : Item → Bool) : Prop :=
  ∀ it, q it = true → ∃ d, it = .declaration d ∧ d.isCustom = false

section Plain

variable {q : Item → Bool}

theorem TestsPlainDeclarations.eq (hq : TestsPlainDeclarations q) {a b : Item} (h : a.Embeds b)
    (ha : q a = true) : a = b := by
  obtain ⟨d, rfl, -⟩ := hq a ha
  cases h
  rfl

/-- Embedding items pass such a test together. -/
theorem TestsPlainDeclarations.eq_of_embeds (hq : TestsPlainDeclarations q) {a b : Item}
    (h : a.Embeds b) : q a = q b := by
  by_cases ha : q a = true
  · rw [hq.eq h ha]
  · by_cases hb : q b = true
    · obtain ⟨d, rfl, -⟩ := hq b hb
      cases h
      exact absurd hb ha
    · simp only [Bool.not_eq_true] at ha hb
      rw [ha, hb]

theorem TestsPlainDeclarations.of_droppable (hq : TestsPlainDeclarations q) {b : Item}
    (hb : b.Droppable) : q b = false := by
  cases h : q b with
  | false => rfl
  | true =>
    obtain ⟨d, rfl, hd⟩ := hq _ h
    simp [Item.Droppable, hd] at hb

/-- Matching blocks have the same declarations of a property that is not custom, in order. -/
theorem ItemsEmbed.filter_eq (hq : TestsPlainDeclarations q) :
    ∀ {l l' : List Item}, ItemsEmbed l l' → l.filter q = l'.filter q
  | _, _, .nil => rfl
  | _, _, .cons (a := a) h t => by
    by_cases ha : q a = true
    · rw [List.filter_cons_of_pos ha, hq.eq h ha, List.filter_cons_of_pos (hq.eq h ha ▸ ha),
        t.filter_eq hq]
    · have hb : ¬ q _ = true := hq.eq_of_embeds h ▸ ha
      rw [List.filter_cons_of_neg ha, List.filter_cons_of_neg hb, t.filter_eq hq]
  | _, _, .skip hb t => by
    rw [List.filter_cons_of_neg (by simp [hq.of_droppable hb]), t.filter_eq hq]

theorem ItemsEmbed.any_eq (hq : TestsPlainDeclarations q) {l l' : List Item}
    (h : ItemsEmbed l l') : l.any q = l'.any q := by
  have hany : ∀ l : List Item, l.any q = (l.filter q).any fun _ => true := fun l => by
    simp [List.any_filter]
  rw [hany l, hany l', h.filter_eq hq]

end Plain

/-- A test that embedding items pass together keeps the embedding. -/
theorem ItemsEmbed.filter {q : Item → Bool} (hq : ∀ {a b : Item}, a.Embeds b → q a = q b) :
    ∀ {l l' : List Item}, ItemsEmbed l l' → ItemsEmbed (l.filter q) (l'.filter q)
  | _, _, .nil => .nil
  | _, _, .cons (a := a) h t => by
    by_cases ha : q a = true
    · rw [List.filter_cons_of_pos ha, List.filter_cons_of_pos (hq h ▸ ha)]
      exact .cons h (t.filter hq)
    · rw [List.filter_cons_of_neg ha, List.filter_cons_of_neg (hq h ▸ ha)]
      exact t.filter hq
  | _, _, .skip (b := b) hb t => by
    by_cases h : q b = true
    · rw [List.filter_cons_of_pos h]
      exact .skip hb (t.filter hq)
    · rw [List.filter_cons_of_neg h]
      exact t.filter hq

/-- The test of a declaration of one property that is not custom. -/
theorem testsPlainDeclarations_of_property {q : Item → Bool} {p : String}
    (hq : ∀ it, q it = true → ∃ d, it = .declaration d ∧ d.property = p)
    (hp : p.startsWith "--" = false) : TestsPlainDeclarations q := by
  intro it hit
  obtain ⟨d, rfl, hd⟩ := hq it hit
  exact ⟨d, rfl, by rw [Declaration.isCustom, hd, hp]⟩

/-- The last of the matching blocks' declarations of such a property is the same; stated apart
so that a rewrite finds this filter and no other one of the block. -/
theorem ItemsEmbed.getLast?_filter_eq {q : Item → Bool} (hq : TestsPlainDeclarations q)
    {l l' : List Item} (h : ItemsEmbed l l') : (l.filter q).getLast? = (l'.filter q).getLast? := by
  rw [h.filter_eq hq]

/-- A block declares a property that is not custom exactly when its match does. -/
theorem ItemsEmbed.declares_eq {l l' : List Item} (h : ItemsEmbed l l') {p : String}
    (hp : p.startsWith "--" = false) : declares l p = declares l' p :=
  h.any_eq (testsPlainDeclarations_of_property (fun it hit => by cases it <;> simp_all) hp)

/-! ### Nodes -/

/-- An item's nodes embed into its match's once those of the blocks do. -/
theorem Item.Embeds.exists_of_mem_nodes_of {a b : Item} (h : a.Embeds b)
    (hc : ∀ x ∈ itemsNodes a.children, ∃ y ∈ itemsNodes b.children, x.Embeds y) :
    ∀ x ∈ a.nodes, ∃ y ∈ b.nodes, x.Embeds y := by
  intro x hx
  rw [Item.nodes_eq] at hx
  rcases List.mem_cons.1 hx with rfl | hx
  · exact ⟨b, by simp [Item.nodes_eq], h⟩
  · obtain ⟨y, hy, hxy⟩ := hc x hx
    exact ⟨y, Item.nodes_children_subset hy, hxy⟩

mutual

theorem Item.Embeds.exists_of_mem_nodes :
    ∀ {a b : Item}, a.Embeds b → ∀ x ∈ a.nodes, ∃ y ∈ b.nodes, x.Embeds y
  | _, _, h@(.rule _ hi) => h.exists_of_mem_nodes_of hi.exists_of_mem_nodes
  | _, _, h@(.atRule hi) => h.exists_of_mem_nodes_of hi.exists_of_mem_nodes
  | _, _, h@(.declaration _) => h.exists_of_mem_nodes_of fun _ hx => by simp [Item.children] at hx
  | _, _, h@(.comment _) => h.exists_of_mem_nodes_of fun _ hx => by simp [Item.children] at hx

/-- Every node of the smaller tree, at any depth, embeds into a node of the larger one. -/
theorem ItemsEmbed.exists_of_mem_nodes :
    ∀ {l l' : List Item}, ItemsEmbed l l' → ∀ x ∈ itemsNodes l, ∃ y ∈ itemsNodes l', x.Embeds y
  | _, _, .nil, x, hx => by simp at hx
  | _, _, .cons h t, x, hx => by
    rw [itemsNodes, List.mem_append] at hx
    rcases hx with hx | hx
    · obtain ⟨y, hy, hxy⟩ := h.exists_of_mem_nodes x hx
      exact ⟨y, itemsNodes_first_subset hy, hxy⟩
    · obtain ⟨y, hy, hxy⟩ := t.exists_of_mem_nodes x hx
      exact ⟨y, itemsNodes_rest_subset hy, hxy⟩
  | _, _, .skip _ t, x, hx => by
    obtain ⟨y, hy, hxy⟩ := t.exists_of_mem_nodes x hx
    exact ⟨y, itemsNodes_rest_subset hy, hxy⟩

end

end CriticalCss.Css
