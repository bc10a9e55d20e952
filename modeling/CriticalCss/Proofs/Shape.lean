import CriticalCss.Proofs.Shrinks

/-!
# The shape of a parsed sheet

The item type lets an at-rule without a block hold items, and the block of `@media` hold
declarations next to its rules. Parsing never builds either: an at-rule ended by `;` is added
with no items, and the block a grouping at-rule opens is read as a block of rules or passed
over (`StyleSheet.parse_shaped`). The passes
over sheets rely on both. The removal of emptied blocks does not look inside an at-rule without
a block, and it removes a grouping block left without rules together with whatever else it
holds.

These are the two parts of the shape here: `StatementsEmpty` and `GroupsWithoutDeclarations`.
Both are read off the nodes of a tree one by one, so they can be decided, and both survive any
deletion of parts of a tree (`ItemsShrink`), hence every pass of pruning.

## Main definitions

* `StatementsEmpty`: every at-rule without a block holds no items.
* `GroupsWithoutDeclarations`: no grouping block holds a declaration directly.

## Main results

* `ItemsShrink.statementsEmpty`, `ItemsShrink.groupsWithoutDeclarations`: deleting parts of a
  tree keeps its shape.
-/

namespace CriticalCss.Css

/-- An at-rule without a block holds no items. -/
def Item.statementEmpty : Item → Bool
  | .atRule _ _ false items => items.isEmpty
  | _ => true

/-- The block of a grouping at-rule holds no declaration directly. -/
def Item.groupWithoutDeclarations : Item → Bool
  | .atRule name _ true items => !isGrouping name || !items.any Item.isDeclaration
  | _ => true

/-- Every at-rule without a block in a tree holds no items. -/
def StatementsEmpty (its : List Item) : Prop :=
  ∀ x ∈ itemsNodes its, x.statementEmpty = true

/-- No grouping block in a tree holds a declaration directly. -/
def GroupsWithoutDeclarations (its : List Item) : Prop :=
  ∀ x ∈ itemsNodes its, x.groupWithoutDeclarations = true

instance (its : List Item) : Decidable (StatementsEmpty its) :=
  inferInstanceAs (Decidable (∀ x ∈ itemsNodes its, x.statementEmpty = true))

instance (its : List Item) : Decidable (GroupsWithoutDeclarations its) :=
  inferInstanceAs (Decidable (∀ x ∈ itemsNodes its, x.groupWithoutDeclarations = true))

theorem statementsEmpty_iff {its : List Item} :
    StatementsEmpty its ↔ ∀ n p items, Item.atRule n p false items ∈ itemsNodes its → items = [] := by
  constructor
  · intro h n p items hmem
    simpa [Item.statementEmpty] using h _ hmem
  · intro h x hx
    cases x with
    | atRule n p b items =>
      cases b with
      | false => simp [Item.statementEmpty, h n p items hx]
      | true => rfl
    | _ => rfl

theorem groupsWithoutDeclarations_iff {its : List Item} :
    GroupsWithoutDeclarations its ↔ ∀ n p items, Item.atRule n p true items ∈ itemsNodes its →
      isGrouping n = true → ∀ d, Item.declaration d ∉ items := by
  constructor
  · intro h n p items hmem hg d hd
    have := h _ hmem
    simp only [Item.groupWithoutDeclarations, hg, Bool.not_true, Bool.false_or, Bool.not_eq_true',
      List.any_eq_false] at this
    exact absurd rfl (this _ hd)
  · intro h x hx
    cases x with
    | atRule n p b items =>
      cases b with
      | false => rfl
      | true =>
        simp only [Item.groupWithoutDeclarations, Bool.or_eq_true, Bool.not_eq_true',
          List.any_eq_false]
        cases hg : isGrouping n with
        | false => exact .inl rfl
        | true =>
          refine .inr fun y hy => ?_
          cases y with
          | declaration d => exact absurd hy (h n p items hx hg d)
          | _ => simp [Item.isDeclaration]
    | _ => rfl

/-! ### Trees built of trees of the shape -/

theorem statementsEmpty_singleton {it : Item} :
    StatementsEmpty [it] ↔ it.statementEmpty = true ∧ StatementsEmpty it.children := by
  simp [StatementsEmpty]

theorem groupsWithoutDeclarations_singleton {it : Item} :
    GroupsWithoutDeclarations [it] ↔
      it.groupWithoutDeclarations = true ∧ GroupsWithoutDeclarations it.children := by
  simp [GroupsWithoutDeclarations]

theorem StatementsEmpty.append {l l' : List Item} (h : StatementsEmpty l) (h' : StatementsEmpty l') :
    StatementsEmpty (l ++ l') := by
  intro x hx
  rw [itemsNodes_append, List.mem_append] at hx
  exact hx.elim (h x) (h' x)

theorem GroupsWithoutDeclarations.append {l l' : List Item} (h : GroupsWithoutDeclarations l)
    (h' : GroupsWithoutDeclarations l') : GroupsWithoutDeclarations (l ++ l') := by
  intro x hx
  rw [itemsNodes_append, List.mem_append] at hx
  exact hx.elim (h x) (h' x)

/-! ### Deleting parts keeps the shape -/

section Shrink

variable {pre : String → String → String → Prop} {l l' : List Item}

theorem ItemsShrink.statementsEmpty (h : ItemsShrink pre l l') (hs : StatementsEmpty l') :
    StatementsEmpty l := by
  rw [statementsEmpty_iff] at hs ⊢
  intro n p items hmem
  obtain ⟨y, hy, hxy⟩ := h.exists_of_mem_nodes _ hmem
  cases hxy with
  | atRule _ hi =>
    -- the at-rule it was cut from has no block either, hence no items
    rw [hs _ _ _ hy] at hi
    exact hi.eq_nil

theorem Item.Shrinks.isDeclaration_eq {a b : Item} (h : a.Shrinks pre b) :
    a.isDeclaration = b.isDeclaration := by
  cases h <;> rfl

/-- A block with items deleted holds a declaration directly only where the block held one. -/
theorem ItemsShrink.any_isDeclaration {l l' : List Item} (h : ItemsShrink pre l l')
    (hl : l.any Item.isDeclaration = true) : l'.any Item.isDeclaration = true := by
  cases h with
  | nil => exact hl
  | cons hab t =>
    rw [List.any_cons, Bool.or_eq_true] at hl ⊢
    exact hl.imp (fun ha => hab.isDeclaration_eq ▸ ha) t.any_isDeclaration
  | skip b t =>
    rw [List.any_cons, t.any_isDeclaration hl, Bool.or_true]

theorem ItemsShrink.groupsWithoutDeclarations (h : ItemsShrink pre l l')
    (hs : GroupsWithoutDeclarations l') : GroupsWithoutDeclarations l := by
  intro x hx
  obtain ⟨y, hy, hxy⟩ := h.exists_of_mem_nodes _ hx
  have hgy := hs y hy
  cases hxy with
  | @atRule n _ _ b _ _ _ hi =>
    cases b with
    | false => rfl
    | true =>
      simp only [Item.groupWithoutDeclarations, Bool.or_eq_true, Bool.not_eq_true'] at hgy ⊢
      -- a declaration left directly in the block was one of the block's
      refine hgy.imp id fun hnone => ?_
      cases hany : List.any _ Item.isDeclaration with
      | false => rfl
      | true => rw [hi.any_isDeclaration hany] at hnone; cases hnone
  | rule _ _ => rfl
  | declaration _ => rfl
  | comment _ => rfl

theorem GroupsWithoutDeclarations.filterItems_keepDeclarations (hg : GroupsWithoutDeclarations l)
    (p : Scope → Declaration → Bool) (sc : Scope) :
    GroupsWithoutDeclarations (filterItems (keepDeclarations p) sc l) := by
  have h : ItemsShrink PreludeKept (filterItems (keepDeclarations p) sc l) l :=
    filterItems_shrinks (.of_eq (fun _ _ => rfl) fun _ _ _ => keepDeclarations_eq) sc l
  exact h.groupsWithoutDeclarations hg

theorem GroupsWithoutDeclarations.pruneEmpty (hg : GroupsWithoutDeclarations l) (g : String → Bool) :
    GroupsWithoutDeclarations (Css.pruneEmpty g l) := by
  have h : ItemsShrink PreludeKept (Css.pruneEmpty g l) l := pruneEmpty_shrinks (fun _ _ => rfl) l
  exact h.groupsWithoutDeclarations hg

end Shrink

end CriticalCss.Css
