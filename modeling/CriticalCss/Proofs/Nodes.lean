import CriticalCss.Css.Sheet.Walk
import CriticalCss.Css.Prune

/-!
# The nodes of an item tree

Every pass over a style sheet keeps, changes or drops items at any depth: a
filter decides on each item after filtering its block, and the removal of
emptied blocks works from the inside out. To say what a pass leaves, the tree
is read as the list of its nodes, parents first, and each node left by a pass is
traced back to the node it was made from. A decision that keeps rules as they
are, with their selectors, leaves only rules that were there; one that also
keeps the names and preludes of at-rules leaves only heads that were there.

## Main definitions

* `Item.nodes`, `itemsNodes`: an item or a list of items with everything nested
  in them.
* `Item.head`, `itemsHeads`: an item without its block, and the heads of a tree.
* `KeepsRules`, `KeepsHeads`: decisions that keep what they keep.

## Main results

* `exists_of_mem_itemsNodes_filterItems`: a node left by a filter is the filtered
  form of a node of the tree, decided in a scope the tree has.
* `exists_of_mem_itemsNodes_pruneGroups`, `exists_of_mem_itemsNodes_pruneEmpty`:
  the same for the removal of emptied blocks.
* `filterItems_eq_self`: a filter whose decision keeps every node changes nothing.
* `pruneGroups_pruneEmpty`, `pruneEmpty_pruneEmpty`: once empty rules and groups
  are gone, neither removal changes anything.
* `KeepsHeads.itemsHeads_filterItems`: such a filter leaves only heads the tree had.
-/

namespace CriticalCss.Css

/-- The items directly in the block of an item. -/
def Item.children : Item → List Item
  | .rule _ items | .atRule _ _ _ items => items
  | .declaration _ | .comment _ => []

mutual

/-- An item and every item nested in its block, at any depth, parents first. -/
def Item.nodes : Item → List Item
  | .rule selectors items => .rule selectors items :: itemsNodes items
  | .atRule name prelude block items => .atRule name prelude block items :: itemsNodes items
  | .declaration d => [.declaration d]
  | .comment text => [.comment text]

/-- The items of a list and every item nested in their blocks, at any depth. -/
def itemsNodes : List Item → List Item
  | [] => []
  | it :: rest => it.nodes ++ itemsNodes rest

end

theorem Item.nodes_eq (it : Item) : it.nodes = it :: itemsNodes it.children := by
  cases it <;> simp [Item.nodes, Item.children, itemsNodes]

@[simp] theorem itemsNodes_nil : itemsNodes [] = [] := rfl

@[simp] theorem itemsNodes_cons (it : Item) (rest : List Item) :
    itemsNodes (it :: rest) = it :: itemsNodes it.children ++ itemsNodes rest := by
  rw [itemsNodes, Item.nodes_eq, List.cons_append]

theorem itemsNodes_append (l l' : List Item) :
    itemsNodes (l ++ l') = itemsNodes l ++ itemsNodes l' := by
  induction l with
  | nil => rfl
  | cons it rest ih => simp [ih]

theorem itemsNodes_sublist {xs ys : List Item} (h : xs.Sublist ys) :
    (itemsNodes xs).Sublist (itemsNodes ys) := by
  induction h with
  | slnil => exact .slnil
  | cons it _ ih =>
    rw [itemsNodes_cons, List.cons_append]
    exact (ih.trans (List.sublist_append_right _ _)).cons it
  | cons_cons it _ ih =>
    rw [itemsNodes_cons, itemsNodes_cons, List.cons_append, List.cons_append]
    exact (ih.append_left _).cons_cons it

theorem Item.nodes_children_subset {it : Item} : itemsNodes it.children ⊆ it.nodes := by
  rw [Item.nodes_eq]
  exact List.subset_cons_self _ _

theorem itemsNodes_first_subset {it : Item} {rest : List Item} :
    it.nodes ⊆ itemsNodes (it :: rest) := by
  rw [itemsNodes]
  exact List.subset_append_left _ _

theorem itemsNodes_rest_subset {it : Item} {rest : List Item} :
    itemsNodes rest ⊆ itemsNodes (it :: rest) := by
  rw [itemsNodes]
  exact List.subset_append_right _ _

/-- A decision that, keeping an item, keeps a part of the items of its block. -/
def ShrinksBlocks (keep : Scope → Item → Option Item) : Prop :=
  ∀ sc it it', keep sc it = some it' → it'.children.Sublist it.children

/-- The scope `sc'` occurs below the scope `sc` in a tree: it names the same
closest at-rule, or one of the tree's at-rules. -/
def ScopeBelow (sc : Scope) (nodes : List Item) (sc' : Scope) : Prop :=
  sc'.atRule = sc.atRule ∨
    ∃ n p b items, sc'.atRule = some n ∧ Item.atRule n p b items ∈ nodes

theorem ScopeBelow.mono {sc sc' : Scope} {nodes nodes' : List Item} (h : nodes ⊆ nodes')
    (hsc : ScopeBelow sc nodes sc') : ScopeBelow sc nodes' sc' := by
  rcases hsc with hsc | ⟨n, p, b, items, hn, hmem⟩
  · exact .inl hsc
  · exact .inr ⟨n, p, b, items, hn, h hmem⟩

variable {keep : Scope → Item → Option Item}

mutual

theorem Item.exists_of_mem_nodes_filterWith (hk : ShrinksBlocks keep) {sc : Scope}
    {it it' x : Item} (h : it.filterWith keep sc = some it') (hx : x ∈ it'.nodes) :
    ∃ y ∈ it.nodes, ∃ sc', ScopeBelow sc it.nodes sc' ∧ y.filterWith keep sc' = some x := by
  rw [Item.nodes_eq, List.mem_cons] at hx
  rcases hx with rfl | hx
  · exact ⟨it, by simp [Item.nodes_eq], sc, .inl rfl, h⟩
  cases it with
  | rule sels items =>
    have hsub := hk _ _ _ h
    obtain ⟨y, hy, sc', hsc, hyx⟩ :=
      exists_of_mem_itemsNodes_filterItems hk ((itemsNodes_sublist hsub).subset hx)
    exact ⟨y, Item.nodes_children_subset hy, sc', hsc.mono Item.nodes_children_subset, hyx⟩
  | atRule name prelude block items =>
    have hsub := hk _ _ _ h
    obtain ⟨y, hy, sc', hsc, hyx⟩ :=
      exists_of_mem_itemsNodes_filterItems hk ((itemsNodes_sublist hsub).subset hx)
    refine ⟨y, Item.nodes_children_subset hy, sc', ?_, hyx⟩
    -- the block of an at-rule is decided in the scope the at-rule opens
    rcases hsc with hsc | ⟨n, p, b, its, hn, hmem⟩
    · exact .inr ⟨name, prelude, block, items, hsc, by simp [Item.nodes_eq]⟩
    · exact .inr ⟨n, p, b, its, hn, Item.nodes_children_subset hmem⟩
  | declaration d =>
    have hsub : it'.children = [] := List.sublist_nil.1 (hk _ _ _ h)
    simp [hsub] at hx
  | comment text =>
    have hsub : it'.children = [] := List.sublist_nil.1 (hk _ _ _ h)
    simp [hsub] at hx
termination_by structural it

theorem exists_of_mem_itemsNodes_filterItems (hk : ShrinksBlocks keep) {sc : Scope}
    {its : List Item} {x : Item} (hx : x ∈ itemsNodes (filterItems keep sc its)) :
    ∃ y ∈ itemsNodes its, ∃ sc', ScopeBelow sc (itemsNodes its) sc' ∧
      y.filterWith keep sc' = some x := by
  cases its with
  | nil => simp [filterItems] at hx
  | cons it rest =>
    have hrest : ∀ {x}, x ∈ itemsNodes (filterItems keep sc rest) → ∃ y ∈ itemsNodes (it :: rest),
        ∃ sc', ScopeBelow sc (itemsNodes (it :: rest)) sc' ∧ y.filterWith keep sc' = some x := by
      intro x hx
      obtain ⟨y, hy, sc', hsc, hyx⟩ := exists_of_mem_itemsNodes_filterItems hk hx
      exact ⟨y, itemsNodes_rest_subset hy, sc', hsc.mono itemsNodes_rest_subset, hyx⟩
    simp only [filterItems] at hx
    split at hx
    · rename_i it' hit
      rw [itemsNodes, List.mem_append] at hx
      rcases hx with hx | hx
      · obtain ⟨y, hy, sc', hsc, hyx⟩ := Item.exists_of_mem_nodes_filterWith hk hit hx
        exact ⟨y, itemsNodes_first_subset hy, sc', hsc.mono itemsNodes_first_subset, hyx⟩
      · exact hrest hx
    · exact hrest hx
termination_by structural its

end

/-! ### Removing emptied blocks -/

variable {g : String → Bool}

mutual

theorem Item.exists_of_mem_nodes_pruneGroups {it it' x : Item} (h : it.pruneGroups g = some it')
    (hx : x ∈ it'.nodes) : ∃ y ∈ it.nodes, y.pruneGroups g = some x ∨ y = x := by
  cases it with
  | rule sels items =>
    simp only [Item.pruneGroups, Option.some.injEq] at h
    subst h
    rw [Item.nodes_eq, List.mem_cons] at hx
    rcases hx with rfl | hx
    · exact ⟨.rule sels items, by simp [Item.nodes_eq], .inl rfl⟩
    · obtain ⟨y, hy, hyx⟩ := exists_of_mem_itemsNodes_pruneGroups hx
      exact ⟨y, Item.nodes_children_subset hy, hyx⟩
  | atRule name prelude block items =>
    cases block with
    | false =>
      simp only [Item.pruneGroups, Option.some.injEq] at h
      subst h
      exact ⟨x, hx, .inr rfl⟩
    | true =>
      simp only [Item.pruneGroups] at h
      split at h
      · cases h
      · cases h
        rw [Item.nodes_eq, List.mem_cons] at hx
        rcases hx with rfl | hx
        · refine ⟨.atRule name prelude true items, by simp [Item.nodes_eq], .inl ?_⟩
          simp only [Item.pruneGroups]
          rw [if_neg ‹_›]
        · obtain ⟨y, hy, hyx⟩ := exists_of_mem_itemsNodes_pruneGroups hx
          exact ⟨y, Item.nodes_children_subset hy, hyx⟩
  | declaration d =>
    simp only [Item.pruneGroups, Option.some.injEq] at h
    subst h
    exact ⟨x, hx, .inr rfl⟩
  | comment text =>
    simp only [Item.pruneGroups, Option.some.injEq] at h
    subst h
    exact ⟨x, hx, .inr rfl⟩
termination_by structural it

theorem exists_of_mem_itemsNodes_pruneGroups {its : List Item} {x : Item}
    (hx : x ∈ itemsNodes (pruneGroups g its)) :
    ∃ y ∈ itemsNodes its, y.pruneGroups g = some x ∨ y = x := by
  cases its with
  | nil => simp [pruneGroups] at hx
  | cons it rest =>
    have hrest : ∀ {x}, x ∈ itemsNodes (pruneGroups g rest) →
        ∃ y ∈ itemsNodes (it :: rest), y.pruneGroups g = some x ∨ y = x := by
      intro x hx
      obtain ⟨y, hy, hyx⟩ := exists_of_mem_itemsNodes_pruneGroups hx
      exact ⟨y, itemsNodes_rest_subset hy, hyx⟩
    simp only [pruneGroups] at hx
    split at hx
    · rename_i it' hit
      rw [itemsNodes, List.mem_append] at hx
      rcases hx with hx | hx
      · obtain ⟨y, hy, hyx⟩ := Item.exists_of_mem_nodes_pruneGroups hit hx
        exact ⟨y, itemsNodes_first_subset hy, hyx⟩
      · exact hrest hx
    · exact hrest hx
termination_by structural its

end

mutual

theorem Item.exists_of_mem_nodes_pruneEmpty {it it' x : Item} (h : it.pruneEmpty g = some it')
    (hx : x ∈ it'.nodes) : ∃ y ∈ it.nodes, y.pruneEmpty g = some x ∨ y = x := by
  cases it with
  | rule sels items =>
    simp only [Item.pruneEmpty] at h
    split at h
    · cases h
    · cases h
      rw [Item.nodes_eq, List.mem_cons] at hx
      rcases hx with rfl | hx
      · refine ⟨.rule sels items, by simp [Item.nodes_eq], .inl ?_⟩
        simp only [Item.pruneEmpty]
        rw [if_neg ‹_›]
      · obtain ⟨y, hy, hyx⟩ := exists_of_mem_itemsNodes_pruneEmpty hx
        exact ⟨y, Item.nodes_children_subset hy, hyx⟩
  | atRule name prelude block items =>
    cases block with
    | false =>
      simp only [Item.pruneEmpty, Option.some.injEq] at h
      subst h
      exact ⟨x, hx, .inr rfl⟩
    | true =>
      simp only [Item.pruneEmpty] at h
      split at h
      · cases h
      · cases h
        rw [Item.nodes_eq, List.mem_cons] at hx
        rcases hx with rfl | hx
        · refine ⟨.atRule name prelude true items, by simp [Item.nodes_eq], .inl ?_⟩
          simp only [Item.pruneEmpty]
          rw [if_neg ‹_›]
        · obtain ⟨y, hy, hyx⟩ := exists_of_mem_itemsNodes_pruneEmpty hx
          exact ⟨y, Item.nodes_children_subset hy, hyx⟩
  | declaration d =>
    simp only [Item.pruneEmpty, Option.some.injEq] at h
    subst h
    exact ⟨x, hx, .inr rfl⟩
  | comment text =>
    simp only [Item.pruneEmpty, Option.some.injEq] at h
    subst h
    exact ⟨x, hx, .inr rfl⟩
termination_by structural it

theorem exists_of_mem_itemsNodes_pruneEmpty {its : List Item} {x : Item}
    (hx : x ∈ itemsNodes (pruneEmpty g its)) :
    ∃ y ∈ itemsNodes its, y.pruneEmpty g = some x ∨ y = x := by
  cases its with
  | nil => simp [pruneEmpty] at hx
  | cons it rest =>
    have hrest : ∀ {x}, x ∈ itemsNodes (pruneEmpty g rest) →
        ∃ y ∈ itemsNodes (it :: rest), y.pruneEmpty g = some x ∨ y = x := by
      intro x hx
      obtain ⟨y, hy, hyx⟩ := exists_of_mem_itemsNodes_pruneEmpty hx
      exact ⟨y, itemsNodes_rest_subset hy, hyx⟩
    simp only [pruneEmpty] at hx
    split at hx
    · rename_i it' hit
      rw [itemsNodes, List.mem_append] at hx
      rcases hx with hx | hx
      · obtain ⟨y, hy, hyx⟩ := Item.exists_of_mem_nodes_pruneEmpty hit hx
        exact ⟨y, itemsNodes_first_subset hy, hyx⟩
      · exact hrest hx
    · exact hrest hx
termination_by structural its

end

mutual

/-- Removing emptied grouping blocks changes nothing once empty rules and groups are gone. -/
theorem Item.pruneGroups_of_pruneEmpty {it it' : Item} (h : it.pruneEmpty g = some it') :
    it'.pruneGroups g = some it' := by
  cases it with
  | rule sels items =>
    simp only [Item.pruneEmpty] at h
    split at h
    · cases h
    · cases h
      simp [Item.pruneGroups, pruneGroups_pruneEmpty]
  | atRule name prelude block items =>
    cases block with
    | false =>
      simp only [Item.pruneEmpty, Option.some.injEq] at h
      subst h
      rfl
    | true =>
      simp only [Item.pruneEmpty] at h
      split at h
      · cases h
      · cases h
        simp only [Item.pruneGroups, pruneGroups_pruneEmpty]
        rw [if_neg ‹_›]
  | declaration d =>
    simp only [Item.pruneEmpty, Option.some.injEq] at h
    subst h
    rfl
  | comment text =>
    simp only [Item.pruneEmpty, Option.some.injEq] at h
    subst h
    rfl
termination_by structural it

theorem pruneGroups_pruneEmpty (its : List Item) : pruneGroups g (pruneEmpty g its) = pruneEmpty g its := by
  cases its with
  | nil => rfl
  | cons it rest =>
    simp only [pruneEmpty]
    split
    · rename_i it' hit
      simp [pruneGroups, Item.pruneGroups_of_pruneEmpty hit, pruneGroups_pruneEmpty rest]
    · exact pruneGroups_pruneEmpty rest
termination_by structural its

end

mutual

theorem Item.pruneEmpty_of_pruneEmpty {it it' : Item} (h : it.pruneEmpty g = some it') :
    it'.pruneEmpty g = some it' := by
  cases it with
  | rule sels items =>
    simp only [Item.pruneEmpty] at h
    split at h
    · cases h
    · cases h
      simp only [Item.pruneEmpty, pruneEmpty_pruneEmpty]
      rw [if_neg ‹_›]
  | atRule name prelude block items =>
    cases block with
    | false =>
      simp only [Item.pruneEmpty, Option.some.injEq] at h
      subst h
      rfl
    | true =>
      simp only [Item.pruneEmpty] at h
      split at h
      · cases h
      · cases h
        simp only [Item.pruneEmpty, pruneEmpty_pruneEmpty]
        rw [if_neg ‹_›]
  | declaration d =>
    simp only [Item.pruneEmpty, Option.some.injEq] at h
    subst h
    rfl
  | comment text =>
    simp only [Item.pruneEmpty, Option.some.injEq] at h
    subst h
    rfl
termination_by structural it

/-- Removing empty rules and groups is idempotent. -/
theorem pruneEmpty_pruneEmpty (its : List Item) : pruneEmpty g (pruneEmpty g its) = pruneEmpty g its := by
  cases its with
  | nil => rfl
  | cons it rest =>
    simp only [pruneEmpty]
    split
    · rename_i it' hit
      simp [pruneEmpty, Item.pruneEmpty_of_pruneEmpty hit, pruneEmpty_pruneEmpty rest]
    · exact pruneEmpty_pruneEmpty rest
termination_by structural its

end

/-! ### Decisions that keep every node -/

variable {keep : Scope → Item → Option Item}

mutual

theorem Item.filterWith_eq_self {it : Item} (h : ∀ y ∈ it.nodes, ∀ sc, keep sc y = some y)
    (sc : Scope) : it.filterWith keep sc = some it := by
  cases it with
  | rule sels items =>
    have hitems : filterItems keep { sc with inRule := true } items = items :=
      filterItems_eq_self (fun y hy => h y (Item.nodes_children_subset hy)) _
    rw [Item.filterWith, hitems]
    exact h _ (by simp [Item.nodes_eq]) sc
  | atRule name prelude block items =>
    have hitems : filterItems keep { sc with atRule := some name } items = items :=
      filterItems_eq_self (fun y hy => h y (Item.nodes_children_subset hy)) _
    rw [Item.filterWith, hitems]
    exact h _ (by simp [Item.nodes_eq]) sc
  | declaration d => exact h _ (by simp [Item.nodes_eq]) sc
  | comment text => exact h _ (by simp [Item.nodes_eq]) sc
termination_by structural it

/-- A filter whose decision keeps every node of a tree as it is leaves the tree unchanged. -/
theorem filterItems_eq_self {its : List Item} (h : ∀ y ∈ itemsNodes its, ∀ sc, keep sc y = some y)
    (sc : Scope) : filterItems keep sc its = its := by
  cases its with
  | nil => rfl
  | cons it rest =>
    have hit : it.filterWith keep sc = some it :=
      Item.filterWith_eq_self (fun y hy => h y (itemsNodes_first_subset hy)) sc
    have hrest : filterItems keep sc rest = rest :=
      filterItems_eq_self (fun y hy => h y (itemsNodes_rest_subset hy)) sc
    rw [filterItems, hit, hrest]
termination_by structural its

end

/-! ### Decisions that keep what they keep -/

/-- An item with its block emptied: what the item says of itself. -/
def Item.head : Item → Item
  | .rule selectors _ => .rule selectors []
  | .atRule name prelude block _ => .atRule name prelude block []
  | it => it

/-- The heads of the nodes of a tree. -/
def itemsHeads (its : List Item) : List Item :=
  (itemsNodes its).map Item.head

/-- A decision that keeps style rules, declarations and comments as they are, and an at-rule
as an at-rule of the same kind over part of its block. -/
structure KeepsRules (keep : Scope → Item → Option Item) : Prop where
  rule : ∀ sc sels items it, keep sc (.rule sels items) = some it → it = .rule sels items
  atRule : ∀ sc n p b items it, keep sc (.atRule n p b items) = some it →
    ∃ n' p' items', it = .atRule n' p' b items' ∧ items'.Sublist items
  declaration : ∀ sc d it, keep sc (.declaration d) = some it → it = .declaration d
  comment : ∀ sc c it, keep sc (.comment c) = some it → it = .comment c

/-- A decision that, besides, keeps the name and prelude of the at-rules it keeps. -/
structure KeepsHeads (keep : Scope → Item → Option Item) : Prop extends KeepsRules keep where
  atRule_head : ∀ sc n p b items it, keep sc (.atRule n p b items) = some it →
    it.head = .atRule n p b []

theorem KeepsRules.shrinksBlocks (hk : KeepsRules keep) : ShrinksBlocks keep := by
  intro sc it it' h
  cases it with
  | rule sels items => obtain rfl := hk.rule _ _ _ _ h; exact .refl _
  | atRule n p b items =>
    obtain ⟨n', p', items', rfl, hsub⟩ := hk.atRule _ _ _ _ _ _ h
    exact hsub
  | declaration d => obtain rfl := hk.declaration _ _ _ h; exact .refl _
  | comment text => obtain rfl := hk.comment _ _ _ h; exact .refl _

theorem KeepsHeads.head_eq (hk : KeepsHeads keep) {sc : Scope} {it it' : Item}
    (h : keep sc it = some it') : it'.head = it.head := by
  cases it with
  | rule sels items => rw [hk.rule _ _ _ _ h]
  | atRule n p b items => exact hk.atRule_head _ _ _ _ _ _ h
  | declaration d => rw [hk.declaration _ _ _ h]
  | comment text => rw [hk.comment _ _ _ h]

theorem KeepsHeads.head_filterWith (hk : KeepsHeads keep) {sc : Scope} {it it' : Item}
    (h : it.filterWith keep sc = some it') : it'.head = it.head := by
  cases it <;> simpa [Item.filterWith, Item.head] using hk.head_eq h

theorem KeepsHeads.itemsHeads_filterItems (hk : KeepsHeads keep) (sc : Scope) (its : List Item) :
    itemsHeads (filterItems keep sc its) ⊆ itemsHeads its := by
  intro h hh
  obtain ⟨x, hx, rfl⟩ := List.mem_map.1 hh
  obtain ⟨y, hy, _, _, hyx⟩ := exists_of_mem_itemsNodes_filterItems hk.shrinksBlocks hx
  exact List.mem_map.2 ⟨y, hy, (hk.head_filterWith hyx).symm⟩

theorem Item.head_of_pruneGroups {it it' : Item} (h : it.pruneGroups g = some it') :
    it'.head = it.head := by
  cases it with
  | rule sels items => cases h; rfl
  | atRule n p b items =>
    cases b with
    | false => cases h; rfl
    | true =>
      simp only [Item.pruneGroups] at h
      split at h
      · cases h
      · cases h; rfl
  | declaration d => cases h; rfl
  | comment text => cases h; rfl

theorem Item.head_of_pruneEmpty {it it' : Item} (h : it.pruneEmpty g = some it') :
    it'.head = it.head := by
  cases it with
  | rule sels items =>
    simp only [Item.pruneEmpty] at h
    split at h
    · cases h
    · cases h; rfl
  | atRule n p b items =>
    cases b with
    | false => cases h; rfl
    | true =>
      simp only [Item.pruneEmpty] at h
      split at h
      · cases h
      · cases h; rfl
  | declaration d => cases h; rfl
  | comment text => cases h; rfl

theorem itemsHeads_pruneGroups (its : List Item) : itemsHeads (pruneGroups g its) ⊆ itemsHeads its := by
  intro h hh
  obtain ⟨x, hx, rfl⟩ := List.mem_map.1 hh
  obtain ⟨y, hy, hyx | rfl⟩ := exists_of_mem_itemsNodes_pruneGroups hx
  · exact List.mem_map.2 ⟨y, hy, (Item.head_of_pruneGroups hyx).symm⟩
  · exact List.mem_map.2 ⟨y, hy, rfl⟩

theorem itemsHeads_pruneEmpty (its : List Item) : itemsHeads (pruneEmpty g its) ⊆ itemsHeads its := by
  intro h hh
  obtain ⟨x, hx, rfl⟩ := List.mem_map.1 hh
  obtain ⟨y, hy, hyx | rfl⟩ := exists_of_mem_itemsNodes_pruneEmpty hx
  · exact List.mem_map.2 ⟨y, hy, (Item.head_of_pruneEmpty hyx).symm⟩
  · exact List.mem_map.2 ⟨y, hy, rfl⟩

/-! ### Declarations of a block -/

/-- A block declares a property directly when one of its items is a declaration of it. -/
theorem declares_eq_true_iff {items : List Item} {property : String} :
    declares items property = true ↔ ∃ d, Item.declaration d ∈ items ∧ d.property = property := by
  simp only [declares, List.any_eq_true]
  constructor
  · rintro ⟨it, hit, hd⟩
    cases it with
    | declaration d => exact ⟨d, hit, by simpa using hd⟩
    | _ => simp at hd
  · rintro ⟨d, hd, rfl⟩
    exact ⟨_, hd, by simp⟩

/-- Filtering keeps a declaration of a block that its decision keeps. -/
theorem declaration_mem_filterItems {sc : Scope} {its : List Item} {d : Declaration}
    (hd : Item.declaration d ∈ its) (hkeep : keep sc (.declaration d) = some (.declaration d)) :
    Item.declaration d ∈ filterItems keep sc its := by
  induction its with
  | nil => cases hd
  | cons it rest ih =>
    simp only [filterItems]
    rcases List.mem_cons.1 hd with rfl | hd
    · simp [Item.filterWith, hkeep]
    · split <;> simp [ih hd]

/-- A declaration left by filtering was in the block, when the decision makes no declaration
of anything else. -/
theorem mem_of_declaration_mem_filterItems
    (hk : ∀ sc it d, keep sc it = some (.declaration d) → it = .declaration d)
    {sc : Scope} {its : List Item} {d : Declaration}
    (hd : Item.declaration d ∈ filterItems keep sc its) : Item.declaration d ∈ its := by
  induction its with
  | nil => simp [filterItems] at hd
  | cons it rest ih =>
    simp only [filterItems] at hd
    split at hd
    · rename_i it' hit
      rcases List.mem_cons.1 hd with rfl | hd
      · have : it = .declaration d := by
          cases it <;> simpa [Item.filterWith] using hk _ _ _ hit
        simp [this]
      · exact List.mem_cons_of_mem _ (ih hd)
    · exact List.mem_cons_of_mem _ (ih hd)

theorem declaration_mem_pruneGroups_iff {its : List Item} {d : Declaration} :
    Item.declaration d ∈ pruneGroups g its ↔ Item.declaration d ∈ its := by
  induction its with
  | nil => simp [pruneGroups]
  | cons it rest ih =>
    simp only [pruneGroups]
    split
    · rename_i it' hit
      have hhead := Item.head_of_pruneGroups hit
      cases it <;> cases it' <;> simp_all [Item.head]
    · rename_i hit
      cases it with
      | rule sels items => simp [Item.pruneGroups] at hit
      | declaration d' => simp [Item.pruneGroups] at hit
      | comment c => simp [Item.pruneGroups] at hit
      | atRule n p b items => simp [ih]

theorem declaration_mem_pruneEmpty_iff {its : List Item} {d : Declaration} :
    Item.declaration d ∈ pruneEmpty g its ↔ Item.declaration d ∈ its := by
  induction its with
  | nil => simp [pruneEmpty]
  | cons it rest ih =>
    simp only [pruneEmpty]
    split
    · rename_i it' hit
      have hhead := Item.head_of_pruneEmpty hit
      cases it <;> cases it' <;> simp_all [Item.head]
    · rename_i hit
      cases it with
      | declaration d' => simp [Item.pruneEmpty] at hit
      | comment c => simp [Item.pruneEmpty] at hit
      | rule sels items => simp [ih]
      | atRule n p b items => simp [ih]

end CriticalCss.Css
