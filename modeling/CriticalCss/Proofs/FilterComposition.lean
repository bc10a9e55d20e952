import CriticalCss.Proofs.Nodes

/-!
# Filters compose

User filters decide on each declaration by its property and value, and on each at-rule by its
name; a rejected item goes with its whole block, which is then never looked at. Filtering by
`f` and then by `g` is filtering once by both, an item staying when each of them keeps it. So
the order of two filters does not matter, a second run of one filter changes nothing, and what
a filter leaves satisfies it at every depth.

The argument is one induction over the tree. A filter decides on an item by its head alone,
which filtering the item's block leaves as it is; so the second filter sees every item the
first one kept with the same head, and an item the first one removed, block and all, is one
that both together remove too (`Item.filterWith_both`).

## Main definitions

* `Filters.keeps`: whether filters keep an item, read off its head.
* `Filters.both`: the filters that keep what two filters both keep.

## Main results

* `filterItems_both`: filtering a tree twice is filtering it by both filters.
* `StyleSheet.applyFilters_compose`: filters on a sheet compose by conjunction, commute, and are
  idempotent, and what they leave satisfies them.
-/

namespace CriticalCss.Css

/-- Whether filters keep an item: a declaration by its property and value, an at-rule by its
name, anything else always. -/
def Filters.keeps (f : Filters) : Item → Bool
  | .declaration d => (f.properties.map fun p => p d.property d.value).getD true
  | .atRule name _ _ _ => (f.atRules.map (· name)).getD true
  | _ => true

/-- The filters that keep an item exactly when `f` and `g` both keep it; a predicate missing
from one of them is the other's. -/
def Filters.both (f g : Filters) : Filters where
  properties := Option.merge (fun p q name value => p name value && q name value)
    f.properties g.properties
  atRules := Option.merge (fun p q name => p name && q name) f.atRules g.atRules

namespace Filters

variable (f g : Filters)

/-- The decision of filters keeps an item as it is, or drops it. -/
theorem keep_eq (sc : Scope) (it : Item) : f.keep sc it = if f.keeps it then some it else none := by
  cases it with
  | declaration d => cases hp : f.properties <;> simp [keep, keeps, hp]
  | atRule name prelude block items => cases ha : f.atRules <;> simp [keep, keeps, ha]
  | rule sels items => rfl
  | comment text => rfl

@[simp] theorem keeps_both (it : Item) : (f.both g).keeps it = (f.keeps it && g.keeps it) := by
  cases it with
  | declaration d =>
    cases hf : f.properties <;> cases hg : g.properties <;> simp [keeps, both, hf, hg]
  | atRule name prelude block items =>
    cases hf : f.atRules <;> cases hg : g.atRules <;> simp [keeps, both, hf, hg]
  | rule sels items => rfl
  | comment text => rfl

theorem keep_both_comm : (f.both g).keep = (g.both f).keep := by
  funext sc it
  rw [keep_eq, keep_eq, keeps_both, keeps_both, Bool.and_comm]

theorem keep_both_self : (f.both f).keep = f.keep := by
  funext sc it
  rw [keep_eq, keep_eq, keeps_both, Bool.and_self]

/-- Filters without predicates keep every item. -/
theorem keeps_of_isNone (h : f.properties.isNone && f.atRules.isNone) (it : Item) :
    f.keeps it = true := by
  simp only [Bool.and_eq_true, Option.isNone_iff_eq_none] at h
  cases it <;> simp [keeps, h.1, h.2]

/-- An item left by filtering satisfies the filters. -/
theorem keeps_of_filterWith {sc : Scope} {it x : Item} (h : it.filterWith f.keep sc = some x) :
    f.keeps x = true := by
  cases it <;>
    simp only [Item.filterWith, keep_eq, Option.ite_none_right_eq_some, Option.some.injEq] at h <;>
    obtain ⟨hk, rfl⟩ := h <;> exact hk

theorem shrinksBlocks_keep : ShrinksBlocks f.keep := by
  intro sc it it' h
  rw [keep_eq, Option.ite_none_right_eq_some, Option.some.injEq] at h
  obtain ⟨-, rfl⟩ := h
  exact List.Sublist.refl _

end Filters

variable (f g : Filters)

mutual

/-- Filtering an item by `f`, then what is left by `g`, is filtering it by both. -/
theorem Item.filterWith_both (sc : Scope) (it : Item) :
    (it.filterWith f.keep sc).bind (·.filterWith g.keep sc) =
      it.filterWith (f.both g).keep sc := by
  cases it with
  | rule sels items =>
    simp only [Item.filterWith, Filters.keep_eq, Filters.keeps, if_true, Option.bind_some,
      filterItems_both _ items]
  | atRule name prelude block items =>
    -- the decision reads the name alone, which filtering the block keeps
    have hk : ∀ (h : Filters) its, h.keeps (.atRule name prelude block its) =
        h.keeps (.atRule name prelude block []) := fun _ _ => rfl
    simp only [Item.filterWith, Filters.keep_eq]
    rw [hk f, hk (f.both g), Filters.keeps_both]
    cases hf : f.keeps (.atRule name prelude block [])
    · simp
    · simp only [if_true, Option.bind_some, Item.filterWith, Filters.keep_eq, Bool.true_and,
        filterItems_both _ items]
      rw [hk g]
  | declaration d =>
    cases hf : f.keeps (.declaration d) <;> cases hg : g.keeps (.declaration d) <;>
      simp [Item.filterWith, Filters.keep_eq, hf, hg]
  | comment text => rfl
termination_by structural it

/-- Filtering a tree by `f` and then by `g` is filtering it by both. -/
theorem filterItems_both (sc : Scope) (l : List Item) :
    filterItems g.keep sc (filterItems f.keep sc l) = filterItems (f.both g).keep sc l := by
  cases l with
  | nil => rfl
  | cons it rest =>
    have hboth := Item.filterWith_both sc it
    cases hf : it.filterWith f.keep sc with
    | none =>
      rw [hf] at hboth
      simp only [filterItems, hf, ← hboth, Option.bind_none, filterItems_both sc rest]
    | some it' =>
      rw [hf, Option.bind_some] at hboth
      cases hg : it'.filterWith g.keep sc <;>
        simp only [filterItems, hf, hg, ← hboth, filterItems_both sc rest]
termination_by structural l

end

/-- Filtering a sheet filters its items, also when there is nothing to filter by. -/
theorem StyleSheet.applyFilters_eq (s : StyleSheet) :
    s.applyFilters f = { s with items := filterItems f.keep {} s.items } := by
  unfold StyleSheet.applyFilters
  split
  · -- no predicate at all: the decision keeps every item
    rename_i h
    rw [filterItems_eq_self fun y _ sc => by
      rw [Filters.keep_eq, Filters.keeps_of_isNone f h, if_pos rfl]]
  · rfl

/-- Every item at every depth of a filtered tree satisfies the filters. -/
theorem keeps_of_mem_itemsNodes_filterItems {sc : Scope} {l : List Item} {x : Item}
    (hx : x ∈ itemsNodes (filterItems f.keep sc l)) : f.keeps x = true := by
  obtain ⟨y, -, sc', -, hy⟩ :=
    exists_of_mem_itemsNodes_filterItems (Filters.shrinksBlocks_keep f) hx
  exact Filters.keeps_of_filterWith f hy

/-- **Filters compose.** Filtering a sheet by `f` and then by `g` is filtering it once by both,
an item staying when each keeps it; hence two filters commute, a filter applied twice changes
nothing more, and afterwards every declaration, at any depth, satisfies the property predicate
of `f` and every at-rule its at-rule predicate. -/
theorem StyleSheet.applyFilters_compose (s : StyleSheet) :
    (s.applyFilters f).applyFilters g = s.applyFilters (f.both g) ∧
      (s.applyFilters f).applyFilters g = (s.applyFilters g).applyFilters f ∧
      (s.applyFilters f).applyFilters f = s.applyFilters f ∧
      (∀ d, Item.declaration d ∈ itemsNodes (s.applyFilters f).items →
        ∀ p, f.properties = some p → p d.property d.value = true) ∧
      ∀ name prelude block items, Item.atRule name prelude block items ∈
        itemsNodes (s.applyFilters f).items → ∀ p, f.atRules = some p → p name = true := by
  have hcompose : ∀ f g : Filters,
      (s.applyFilters f).applyFilters g = s.applyFilters (f.both g) := by
    intro f g
    simp only [StyleSheet.applyFilters_eq, filterItems_both]
  refine ⟨hcompose f g, ?_, ?_, fun d hd p hp => ?_, fun name prelude block items ha p hp => ?_⟩
  · rw [hcompose, hcompose, StyleSheet.applyFilters_eq, StyleSheet.applyFilters_eq,
      Filters.keep_both_comm]
  · rw [hcompose, StyleSheet.applyFilters_eq, StyleSheet.applyFilters_eq, Filters.keep_both_self]
  · rw [StyleSheet.applyFilters_eq] at hd
    simpa [Filters.keeps, hp] using keeps_of_mem_itemsNodes_filterItems f hd
  · rw [StyleSheet.applyFilters_eq] at ha
    simpa [Filters.keeps, hp] using keeps_of_mem_itemsNodes_filterItems f ha

end CriticalCss.Css
