import CriticalCss.Proofs.Subtree

/-!
# Pruning only deletes

The critical part of a sheet is the sheet with parts deleted. Its items sit, in order and under
the same parents, among the items of the sheet, and each equals the item it sits on but in two
ways: a style rule may have lost some of its selectors, and an `@media` rule may have its
prelude cut down to some of its queries. Nothing is added, repeated, moved or rewritten
otherwise.

The relation between the two trees is `Item.Shrinks pre`, where `pre` says how a prelude may
change. The first pass of pruning rewrites `@media` preludes (`MediaNarrows`); every later pass
keeps preludes (`PreludeKept`). Cutting the queries of a prelude twice is not cutting them once
(the joined texts of some queries need not read back as those queries), so the passes compose
through `ItemsShrink.trans`, which composes the prelude relations as well.

## Main definitions

* `Item.Shrinks`, `ItemsShrink`: one tree is another with parts deleted.
* `MediaNarrows`, `PreludeKept`: how pruning may change a prelude.
* `KeepsShrinking`: a decision that keeps an item's block and shrinks its head.

## Main results

* `ItemsShrink.trans`: deleting parts twice is deleting parts.
* `filterItems_shrinks`, `pruneGroups_shrinks`, `pruneEmpty_shrinks`: each pass deletes.
* `StyleSheet.pruned_items_shrink`, `StyleSheet.pruned_shrinks`: the critical part of a sheet
  is the sheet with parts deleted, and it has at most as many style rules.
-/

namespace CriticalCss.Css

/-- How pruning may change the prelude of an at-rule named `name`: an `@media` prelude (vendor
prefix aside) may become the texts of some of its queries, in order, joined by commas; any
other prelude stays as it is. -/
def MediaNarrows (name prelude prelude' : String) : Prop :=
  prelude = prelude' ∨ baseName name = "media" ∧
    ∃ qs : List MediaQuery, qs.Sublist (parseMediaQueries prelude') ∧
      prelude = ",".intercalate (qs.map (·.raw))

/-- A prelude left as it is. -/
def PreludeKept (_ prelude prelude' : String) : Prop :=
  prelude = prelude'

mutual

/-- The tree `a` is the tree `b` with parts deleted: a style rule with some of the other's
selectors in order, an at-rule with the same name and kind of block and a prelude related by
`pre`, a declaration or a comment equal to the other, and their blocks alike. -/
inductive Item.Shrinks (pre : String → String → String → Prop) : Item → Item → Prop
  | rule {sels sels' : List String} {items items' : List Item} :
      sels.Sublist sels' → ItemsShrink pre items items' →
        Item.Shrinks pre (.rule sels items) (.rule sels' items')
  | atRule {name prelude prelude' : String} {block : Bool} {items items' : List Item} :
      pre name prelude prelude' → ItemsShrink pre items items' →
        Item.Shrinks pre (.atRule name prelude block items) (.atRule name prelude' block items')
  | declaration (d : Declaration) : Item.Shrinks pre (.declaration d) (.declaration d)
  | comment (text : String) : Item.Shrinks pre (.comment text) (.comment text)

/-- The items of a block are those of another block with items deleted, each of those left with
parts deleted, in order. -/
inductive ItemsShrink (pre : String → String → String → Prop) : List Item → List Item → Prop
  | nil : ItemsShrink pre [] []
  | cons {a b : Item} {l l' : List Item} :
      a.Shrinks pre b → ItemsShrink pre l l' → ItemsShrink pre (a :: l) (b :: l')
  | skip (b : Item) {l l' : List Item} : ItemsShrink pre l l' → ItemsShrink pre l (b :: l')

end

variable {pre pre₁ pre₂ pre₃ : String → String → String → Prop}

theorem ItemsShrink.eq_nil {l : List Item} (h : ItemsShrink pre l []) : l = [] := by
  cases h
  rfl

/-! ### Composing deletions -/

mutual

theorem Item.Shrinks.trans (hcomp : ∀ n p p' p'', pre₁ n p p' → pre₂ n p' p'' → pre₃ n p p'') :
    ∀ {a b c : Item}, a.Shrinks pre₁ b → b.Shrinks pre₂ c → a.Shrinks pre₃ c
  | _, _, _, .rule hs hi, .rule hs' hi' => .rule (hs.trans hs') (hi.trans hcomp hi')
  | _, _, _, .atRule hp hi, .atRule hp' hi' =>
    .atRule (hcomp _ _ _ _ hp hp') (hi.trans hcomp hi')
  | _, _, _, .declaration d, .declaration _ => .declaration d
  | _, _, _, .comment text, .comment _ => .comment text

/-- Deleting parts of a tree that is another with parts deleted deletes parts of the other,
the changes of preludes composing. -/
theorem ItemsShrink.trans (hcomp : ∀ n p p' p'', pre₁ n p p' → pre₂ n p' p'' → pre₃ n p p'') :
    ∀ {l₁ l₂ l₃ : List Item}, ItemsShrink pre₁ l₁ l₂ → ItemsShrink pre₂ l₂ l₃ →
      ItemsShrink pre₃ l₁ l₃
  | _, _, _, h, .nil => by
    rw [h.eq_nil]
    exact .nil
  | _, _, _, .cons ha t, .cons hb t' => .cons (ha.trans hcomp hb) (t.trans hcomp t')
  | _, _, _, .skip _ t, .cons _ t' => .skip _ (t.trans hcomp t')
  | _, _, _, h, .skip c t' => .skip c (h.trans hcomp t')

end

/-- A prelude kept and then cut is cut. -/
theorem PreludeKept.mediaNarrows {n p p' p'' : String} (h : PreludeKept n p p')
    (h' : MediaNarrows n p' p'') : MediaNarrows n p p'' := by
  rw [PreludeKept] at h
  rw [h]
  exact h'

theorem PreludeKept.trans {n p p' p'' : String} (h : PreludeKept n p p')
    (h' : PreludeKept n p' p'') : PreludeKept n p p'' :=
  Eq.trans h h'

mutual

theorem Item.Shrinks.ruleCount_le : ∀ {a b : Item}, a.Shrinks pre b → a.ruleCount ≤ b.ruleCount
  | _, _, .rule _ hi => Nat.add_le_add_left hi.ruleCount_le 1
  | _, _, .atRule _ hi => hi.ruleCount_le
  | _, _, .declaration _ => Nat.le_refl _
  | _, _, .comment _ => Nat.le_refl _

/-- A tree with parts deleted has at most as many style rules. -/
theorem ItemsShrink.ruleCount_le :
    ∀ {l l' : List Item}, ItemsShrink pre l l' → itemsRuleCount l ≤ itemsRuleCount l'
  | _, _, .nil => Nat.le_refl _
  | _, _, .cons h t => Nat.add_le_add h.ruleCount_le t.ruleCount_le
  | _, _, .skip _ t => Nat.le_trans t.ruleCount_le (Nat.le_add_left _ _)

end

/-! ### Trees that embed -/

mutual

theorem Item.Embeds.shrinks (hrefl : ∀ n p, pre n p p) :
    ∀ {a b : Item}, a.Embeds b → a.Shrinks pre b
  | _, _, .rule hs hi => .rule hs (hi.shrink hrefl)
  | _, _, .atRule hi => .atRule (hrefl _ _) (hi.shrink hrefl)
  | _, _, .declaration d => .declaration d
  | _, _, .comment text => .comment text

/-- A tree that sits inside another is the other with parts deleted. -/
theorem ItemsEmbed.shrink (hrefl : ∀ n p, pre n p p) :
    ∀ {l l' : List Item}, ItemsEmbed l l' → ItemsShrink pre l l'
  | _, _, .nil => .nil
  | _, _, .cons h t => .cons (h.shrinks hrefl) (t.shrink hrefl)
  | _, _, .skip _ t => .skip _ (t.shrink hrefl)

end

theorem Item.Shrinks.refl (hrefl : ∀ n p, pre n p p) (it : Item) : it.Shrinks pre it :=
  (Item.Embeds.refl it).shrinks hrefl

/-! ### Nodes of a tree with parts deleted -/

theorem Item.Shrinks.children {a b : Item} (h : a.Shrinks pre b) :
    ItemsShrink pre a.children b.children := by
  cases h with
  | rule _ hi => exact hi
  | atRule _ hi => exact hi
  | declaration d => exact .nil
  | comment text => exact .nil

theorem Item.Shrinks.exists_of_mem_nodes_of {a b : Item} (h : a.Shrinks pre b)
    (hc : ∀ x ∈ itemsNodes a.children, ∃ y ∈ itemsNodes b.children, x.Shrinks pre y) :
    ∀ x ∈ a.nodes, ∃ y ∈ b.nodes, x.Shrinks pre y := by
  intro x hx
  rw [Item.nodes_eq] at hx
  rcases List.mem_cons.1 hx with rfl | hx
  · exact ⟨b, by simp [Item.nodes_eq], h⟩
  · obtain ⟨y, hy, hxy⟩ := hc x hx
    exact ⟨y, Item.nodes_children_subset hy, hxy⟩

mutual

theorem Item.Shrinks.exists_of_mem_nodes :
    ∀ {a b : Item}, a.Shrinks pre b → ∀ x ∈ a.nodes, ∃ y ∈ b.nodes, x.Shrinks pre y
  | _, _, h@(.rule _ hi) => h.exists_of_mem_nodes_of hi.exists_of_mem_nodes
  | _, _, h@(.atRule _ hi) => h.exists_of_mem_nodes_of hi.exists_of_mem_nodes
  | _, _, h@(.declaration _) => h.exists_of_mem_nodes_of fun _ hx => by simp [Item.children] at hx
  | _, _, h@(.comment _) => h.exists_of_mem_nodes_of fun _ hx => by simp [Item.children] at hx

/-- Every node of a tree with parts deleted, at any depth, is a node of the tree with parts
deleted. -/
theorem ItemsShrink.exists_of_mem_nodes :
    ∀ {l l' : List Item}, ItemsShrink pre l l' → ∀ x ∈ itemsNodes l, ∃ y ∈ itemsNodes l', x.Shrinks pre y
  | _, _, .nil, x, hx => by simp at hx
  | _, _, .cons h t, x, hx => by
    rw [itemsNodes, List.mem_append] at hx
    rcases hx with hx | hx
    · obtain ⟨y, hy, hxy⟩ := h.exists_of_mem_nodes x hx
      exact ⟨y, itemsNodes_first_subset hy, hxy⟩
    · obtain ⟨y, hy, hxy⟩ := t.exists_of_mem_nodes x hx
      exact ⟨y, itemsNodes_rest_subset hy, hxy⟩
  | _, _, .skip _ t, x, hx => by
    obtain ⟨y, hy, hxy⟩ := t.exists_of_mem_nodes x hx
    exact ⟨y, itemsNodes_rest_subset hy, hxy⟩

end

/-! ### Each pass deletes -/

/-- An item shrunk from the head of the item, with the block of the item shrunk, is shrunk from
the item. -/
theorem Item.Shrinks.of_head {a b : Item} (hh : a.head.Shrinks pre b.head)
    (hc : ItemsShrink pre a.children b.children) : a.Shrinks pre b := by
  cases a <;> cases b <;> cases hh
  case rule.rule hs _ => exact .rule hs hc
  case atRule.atRule hp _ => exact .atRule hp hc
  case declaration.declaration => exact .declaration _
  case comment.comment => exact .comment _

theorem ItemsShrink.append_opt {o : Option Item} {b : Item} (h : ∀ a, o = some a → a.Shrinks pre b)
    {l l' : List Item} (hl : ItemsShrink pre l l') : ItemsShrink pre (o.toList ++ l) (b :: l') := by
  cases o with
  | some a => exact .cons (h a rfl) hl
  | none => exact .skip b hl

/-- A decision that keeps an item with its block, changing at most its head, as far as
`Item.Shrinks pre` allows. -/
structure KeepsShrinking (pre : String → String → String → Prop)
    (keep : Scope → Item → Option Item) : Prop where
  children : ∀ sc it it', keep sc it = some it' → it'.children = it.children
  head : ∀ sc it it', keep sc it = some it' → it'.head.Shrinks pre it.head

section Filter

variable {keep : Scope → Item → Option Item}

/-- The decision on an item with its block filtered, its block shrunk, shrinks the item. -/
theorem KeepsShrinking.shrinks (hk : KeepsShrinking pre keep) {sc : Scope} {it it' : Item}
    {items : List Item} (h : keep sc it = some it') (hi : ItemsShrink pre it.children items)
    (b : Item) (hb : b.children = items) (hh : it.head = b.head) : it'.Shrinks pre b := by
  refine Item.Shrinks.of_head ?_ ?_
  · rw [← hh]
    exact hk.head _ _ _ h
  · rw [hk.children _ _ _ h, hb]
    exact hi

mutual

theorem Item.filterWith_shrinks (hk : KeepsShrinking pre keep) :
    ∀ (it : Item) (sc : Scope) {it' : Item}, it.filterWith keep sc = some it' → it'.Shrinks pre it
  | .rule _ items, sc, _, h =>
    hk.shrinks h (filterItems_shrinks hk { sc with inRule := true } items) _ rfl rfl
  | .atRule name _ _ items, sc, _, h =>
    hk.shrinks h (filterItems_shrinks hk { sc with atRule := some name } items) _ rfl rfl
  | .declaration _, _, _, h => hk.shrinks h .nil _ rfl rfl
  | .comment _, _, _, h => hk.shrinks h .nil _ rfl rfl

/-- A filter whose decision keeps blocks and shrinks heads deletes parts of the tree. -/
theorem filterItems_shrinks (hk : KeepsShrinking pre keep) (sc : Scope) :
    ∀ l : List Item, ItemsShrink pre (filterItems keep sc l) l
  | [] => .nil
  | it :: rest => by
    rw [filterItems_cons]
    exact ItemsShrink.append_opt (fun _ h => Item.filterWith_shrinks hk it sc h)
      (filterItems_shrinks hk sc rest)

end

end Filter

section Groups

variable {g : String → Bool}

mutual

theorem Item.pruneGroups_shrinks (hrefl : ∀ n p, pre n p p) :
    ∀ (it : Item) {it' : Item}, it.pruneGroups g = some it' → it'.Shrinks pre it
  | .rule sels items, _, h => by
    simp only [Item.pruneGroups, Option.some.injEq] at h
    subst h
    exact .rule (List.Sublist.refl sels) (pruneGroups_shrinks hrefl items)
  | .atRule name prelude true items, _, h => by
    simp only [Item.pruneGroups] at h
    split at h
    · cases h
    · cases h
      exact .atRule (hrefl _ _) (pruneGroups_shrinks hrefl items)
  | .atRule name prelude false items, _, h => by
    simp only [Item.pruneGroups, Option.some.injEq] at h
    subst h
    exact Item.Shrinks.refl hrefl _
  | .declaration d, _, h => by
    simp only [Item.pruneGroups, Option.some.injEq] at h
    subst h
    exact .declaration d
  | .comment text, _, h => by
    simp only [Item.pruneGroups, Option.some.injEq] at h
    subst h
    exact .comment text

/-- Removing emptied groups deletes parts of the tree. -/
theorem pruneGroups_shrinks (hrefl : ∀ n p, pre n p p) :
    ∀ l : List Item, ItemsShrink pre (pruneGroups g l) l
  | [] => .nil
  | it :: rest => by
    rw [pruneGroups_cons]
    exact ItemsShrink.append_opt (fun _ h => Item.pruneGroups_shrinks hrefl it h)
      (pruneGroups_shrinks hrefl rest)

end

/-- Removing emptied blocks deletes parts of the tree. -/
theorem pruneEmpty_shrinks (hrefl : ∀ n p, pre n p p) (l : List Item) :
    ItemsShrink pre (pruneEmpty g l) l :=
  (pruneEmpty_embeds l).shrink hrefl

end Groups

/-! ### The decisions of pruning -/

/-- A decision that keeps what it keeps as it is deletes only whole items. -/
theorem KeepsShrinking.of_eq (hrefl : ∀ n p, pre n p p) {keep : Scope → Item → Option Item}
    (hk : ∀ sc it it', keep sc it = some it' → it' = it) : KeepsShrinking pre keep where
  children sc it it' h := by rw [hk sc it it' h]
  head sc it it' h := by
    rw [hk sc it it' h]
    exact Item.Shrinks.refl hrefl _

theorem keepAtRule_eq {sc : Scope} {it it' : Item} (h : keepAtRule sc it = some it') : it' = it := by
  cases it with
  | atRule name prelude block items =>
    simp only [keepAtRule] at h
    split at h
    · cases h
    · cases h; rfl
  | _ => simp only [keepAtRule, Option.some.injEq] at h; exact h.symm

theorem keepDeclarations_eq {p : Scope → Declaration → Bool} {sc : Scope} {it it' : Item}
    (h : keepDeclarations p sc it = some it') : it' = it := by
  cases it with
  | declaration d =>
    simp only [keepDeclarations] at h
    split at h
    · cases h; rfl
    · cases h
  | _ => simp only [keepDeclarations, Option.some.injEq] at h; exact h.symm

theorem keepNonComment_eq {sc : Scope} {it it' : Item} (h : keepNonComment sc it = some it') :
    it' = it := by
  cases it with
  | comment text => simp [keepNonComment] at h
  | _ => simp only [keepNonComment, Option.some.injEq] at h; exact h.symm

theorem keepMedia_keepsShrinking : KeepsShrinking MediaNarrows keepMedia where
  children := by
    intro sc it it' h
    cases it with
    | atRule name prelude block items =>
      simp only [keepMedia] at h
      split at h
      · cases h; rfl
      · split at h
        · cases h
        · cases h; rfl
    | _ => simp only [keepMedia, Option.some.injEq] at h; rw [h]
  head := by
    intro sc it it' h
    cases it with
    | atRule name prelude block items =>
      simp only [keepMedia] at h
      split at h
      · cases h
        exact .atRule (.inl rfl) .nil
      · rename_i hmedia
        simp only [Bool.or_eq_true, bne_iff_ne, ne_eq, String.isEmpty_iff, not_or,
          Classical.not_not] at hmedia
        split at h
        · cases h
        · cases h
          -- the prelude becomes the texts of the useful queries, which are some of its queries
          exact .atRule (.inr ⟨hmedia.1, _, List.filter_sublist, rfl⟩) .nil
    | _ =>
      simp only [keepMedia, Option.some.injEq] at h
      subst h
      exact Item.Shrinks.refl (fun _ _ => .inl rfl) _

theorem keepCritical_keepsShrinking (critical : String → Bool) :
    KeepsShrinking PreludeKept (keepCritical critical) where
  children := by
    intro sc it it' h
    cases it with
    | rule sels items =>
      obtain ⟨_, rfl⟩ := keepCritical_rule h
      rfl
    | _ => simp only [keepCritical, Option.some.injEq] at h; rw [h]
  head := by
    intro sc it it' h
    cases it with
    | rule sels items =>
      simp only [keepCritical] at h
      split at h
      · cases h
        exact .rule (List.Sublist.refl sels) .nil
      · split at h
        · split at h
          · cases h
          · cases h
            exact .rule (List.Sublist.refl sels) .nil
        · split at h
          · cases h
          · -- the selectors kept are those the filter lets through
            cases h
            exact .rule List.filter_sublist .nil
    | _ =>
      simp only [keepCritical, Option.some.injEq] at h
      subst h
      exact Item.Shrinks.refl (fun _ _ => rfl) _

/-! ### The critical part of a sheet -/

/-- Every pass of pruning deletes parts of a tree, and only the first changes preludes. -/
theorem StyleSheet.pruned_items_shrink (s : StyleSheet) (critical : String → Bool) :
    ItemsShrink MediaNarrows (s.pruned critical).items s.items := by
  have hkept : ∀ n p, PreludeKept n p p := fun _ _ => rfl
  have htrans : ∀ n p p' p'', PreludeKept n p p' → PreludeKept n p' p'' → PreludeKept n p p'' :=
    fun _ _ _ _ => PreludeKept.trans
  -- the stages of pruning, as `StyleSheet.pruned` makes them
  let l₁ := filterItems keepMedia {} s.items
  let l₂ := filterItems keepAtRule {} l₁
  let l₃ := pruneGroups isGrouping (filterItems (keepCritical critical) {} l₂)
  let l₄ := filterItems (keepDeclarations fun _ d => !isExcludedProperty d.property) {} l₃
  let l₅ := filterItems (keepDeclarations fun _ d => !hasLargeBase64 d.value) {} l₄
  let l₆ := filterItems keepNonComment {} l₅
  have h₁ : ItemsShrink MediaNarrows l₁ s.items := filterItems_shrinks keepMedia_keepsShrinking {} _
  have h₂ : ItemsShrink PreludeKept l₂ l₁ :=
    filterItems_shrinks (.of_eq hkept fun _ _ _ => keepAtRule_eq) {} _
  have h₃ : ItemsShrink PreludeKept l₃ l₂ :=
    (pruneGroups_shrinks hkept _).trans htrans
      (filterItems_shrinks (keepCritical_keepsShrinking critical) {} _)
  have h₄ : ItemsShrink PreludeKept l₄ l₃ :=
    filterItems_shrinks (.of_eq hkept fun _ _ _ => keepDeclarations_eq) {} _
  have h₅ : ItemsShrink PreludeKept l₅ l₄ :=
    filterItems_shrinks (.of_eq hkept fun _ _ _ => keepDeclarations_eq) {} _
  have h₆ : ItemsShrink PreludeKept l₆ l₅ :=
    filterItems_shrinks (.of_eq hkept fun _ _ _ => keepNonComment_eq) {} _
  have h₇ : ItemsShrink PreludeKept (s.pruned critical).items l₆ := pruneEmpty_shrinks hkept _
  -- every pass after the first keeps preludes; the first cuts `@media` preludes
  have hlater : ItemsShrink PreludeKept (s.pruned critical).items l₁ :=
    h₇.trans htrans (h₆.trans htrans (h₅.trans htrans (h₄.trans htrans (h₃.trans htrans h₂))))
  have hmedia : ∀ n p p' p'', PreludeKept n p p' → MediaNarrows n p' p'' → MediaNarrows n p p'' :=
    fun _ _ _ _ => PreludeKept.mediaNarrows
  exact hlater.trans hmedia h₁

/-- **Pruning only deletes.** The critical part of a sheet is the sheet with parts deleted: its
items sit in order and under the same parents among the sheet's items, each equal to its image
but for a rule's selectors, some of the image's in order, and an `@media` prelude, the texts of
some of the image's queries joined by commas. It has at most as many style rules. -/
theorem StyleSheet.pruned_shrinks (s : StyleSheet) (critical : String → Bool) :
    ItemsShrink MediaNarrows (s.pruned critical).items s.items ∧
      (s.pruned critical).ruleCount ≤ s.ruleCount := by
  have h := s.pruned_items_shrink critical
  exact ⟨h, h.ruleCount_le⟩

end CriticalCss.Css
