import CriticalCss.Proofs.Shape
import CriticalCss.Proofs.MoreCritical

/-!
# Removing unused custom properties

The critical parts of all sheets are freed of custom properties in rounds. A round collects
the names that some declaration of some sheet refers to with `var()`, then removes from every
sheet the definitions of the other names, and the blocks that this empties. Removing a
definition may leave a name it referred to unused, so rounds go on while they remove something
and the number of names referred to changes, for at most ten rounds.

A round removes exactly the definitions of names no declaration refers to: the blocks it
empties hold no other declaration (`StyleSheet.declarations_pruneUnusedVariables_eq`). This
needs grouping blocks to hold no declaration directly, as in every parsed sheet
(`StyleSheet.parse_shaped`): a group is
removed with whatever it holds once it holds no rule. Since declarations only go, the names
referred to only shrink, so a round that keeps their number keeps them, and the next round has
nothing to remove. The loop's stop on an unchanged number is sound for that reason, and when
it stops by either test every definition left is referred to.

## Main results

* `itemsDeclarations_pruneEmpty`: removing emptied blocks removes no declaration of a tree
  whose groups hold none directly.
* `StyleSheet.declarations_pruneUnusedVariables_eq`: a round removes exactly the definitions of
  the names not referred to.
* `Store.variableRound_pruneVariables`: when the loop stops by one of its tests, its result is
  a fixed point of a round.
* `Store.pruneVariables_sound`: the three properties of the rounds.
-/

namespace CriticalCss.Css

theorem itemsDeclarations_append (sc : Scope) :
    ∀ l l' : List Item, itemsDeclarations sc (l ++ l') = itemsDeclarations sc l ++ itemsDeclarations sc l'
  | [], _ => rfl
  | it :: rest, l' => by
    rw [List.cons_append, itemsDeclarations, itemsDeclarations, itemsDeclarations_append sc rest l',
      List.append_assoc]

/-! ### Filters of declarations -/

section Filter

variable (p : Scope → Declaration → Bool)

mutual

theorem Item.declarationsIn_filterWith_keepDeclarations_eq :
    ∀ (it : Item) (sc : Scope), itemsDeclarations sc (it.filterWith (keepDeclarations p) sc).toList =
      (it.declarationsIn sc).filter fun x => p x.1 x.2
  | .rule sels items, sc => by
    simp only [Item.filterWith, keepDeclarations, Option.toList_some, itemsDeclarations,
      Item.declarationsIn, List.append_nil]
    exact itemsDeclarations_filterItems_keepDeclarations items _
  | .atRule name prelude block items, sc => by
    simp only [Item.filterWith, keepDeclarations, Option.toList_some, itemsDeclarations,
      Item.declarationsIn, List.append_nil]
    exact itemsDeclarations_filterItems_keepDeclarations items _
  | .declaration d, sc => by
    by_cases h : p sc d = true <;>
      simp [h, Item.filterWith, keepDeclarations, itemsDeclarations, Item.declarationsIn]
  | .comment _, _ => by
    simp [Item.filterWith, keepDeclarations, itemsDeclarations, Item.declarationsIn]

/-- A filter of declarations leaves, with their scopes and in order, the declarations it
keeps. -/
theorem itemsDeclarations_filterItems_keepDeclarations :
    ∀ (l : List Item) (sc : Scope), itemsDeclarations sc (filterItems (keepDeclarations p) sc l) =
      (itemsDeclarations sc l).filter fun x => p x.1 x.2
  | [], _ => rfl
  | it :: rest, sc => by
    rw [filterItems_cons, itemsDeclarations_append,
      Item.declarationsIn_filterWith_keepDeclarations_eq it sc,
      itemsDeclarations_filterItems_keepDeclarations rest sc, itemsDeclarations, List.filter_append]

end

end Filter

/-! ### Removing emptied blocks keeps the declarations -/

section Empty

variable {g : String → Bool}

theorem Item.isDeclaration_of_pruneEmpty {it it' : Item} (h : it.pruneEmpty g = some it') :
    it'.isDeclaration = it.isDeclaration := by
  cases it with
  | rule sels items =>
    simp only [Item.pruneEmpty] at h
    split at h
    · cases h
    · cases h; rfl
  | atRule n p b items =>
    cases b with
    | true =>
      simp only [Item.pruneEmpty] at h
      split at h
      · cases h
      · cases h; rfl
    | false => simp only [Item.pruneEmpty, Option.some.injEq] at h; rw [h]
  | _ => simp only [Item.pruneEmpty, Option.some.injEq] at h; rw [h]

/-- Removing emptied blocks keeps the declarations directly in a block. -/
theorem any_isDeclaration_pruneEmpty (l : List Item) :
    (pruneEmpty g l).any Item.isDeclaration = l.any Item.isDeclaration := by
  induction l with
  | nil => rfl
  | cons it rest ih =>
    rw [pruneEmpty_cons, List.any_append, ih, List.any_cons]
    cases h : it.pruneEmpty g with
    | some it' => simp [Item.isDeclaration_of_pruneEmpty h]
    | none =>
      -- only declarations always stay
      cases it <;> simp_all [Item.pruneEmpty, Item.isDeclaration]

/-- A block that holds no rule, at-rule or declaration directly holds no declaration at all. -/
theorem itemsDeclarations_eq_nil {l : List Item} (hr : hasRules l = false)
    (hd : l.any Item.isDeclaration = false) (sc : Scope) : itemsDeclarations sc l = [] := by
  induction l with
  | nil => rfl
  | cons it rest ih =>
    rw [hasRules_cons, Bool.or_eq_false_iff] at hr
    rw [List.any_cons, Bool.or_eq_false_iff] at hd
    rw [itemsDeclarations, ih hr.2 hd.2]
    cases it <;> simp_all [hasRules, Item.isDeclaration, Item.declarationsIn]

mutual

theorem Item.declarationsIn_pruneEmpty :
    ∀ (it : Item), (∀ x ∈ it.nodes, x.groupWithoutDeclarations = true) → ∀ sc,
      itemsDeclarations sc (it.pruneEmpty isGrouping).toList = it.declarationsIn sc
  | .rule sels items, hg, sc => by
    have ih := itemsDeclarations_pruneEmpty items
      (fun y hy => hg y (Item.nodes_children_subset hy)) { sc with inRule := true }
    simp only [Item.pruneEmpty]
    split
    · -- a rule left empty held no declaration
      rename_i hempty
      rw [List.isEmpty_iff] at hempty
      rw [Option.toList_none, Item.declarationsIn, ← ih, hempty]
      rfl
    · simp only [Option.toList_some, itemsDeclarations, Item.declarationsIn, List.append_nil]
      exact ih
  | .atRule n p true items, hg, sc => by
    have ih := itemsDeclarations_pruneEmpty items
      (fun y hy => hg y (Item.nodes_children_subset hy)) { sc with atRule := some n }
    simp only [Item.pruneEmpty]
    split
    · -- a group left without rules held no declaration directly, hence none at all
      rename_i hdrop
      simp only [Bool.and_eq_true, Bool.not_eq_eq_eq_not, Bool.not_true] at hdrop
      have hnode := hg (.atRule n p true items) (by simp [Item.nodes_eq])
      simp only [Item.groupWithoutDeclarations, hdrop.1, Bool.not_true, Bool.false_or,
        Bool.not_eq_true'] at hnode
      rw [Option.toList_none, Item.declarationsIn, ← ih]
      exact (itemsDeclarations_eq_nil hdrop.2 (by rw [any_isDeclaration_pruneEmpty]; exact hnode)
        _).symm
    · simp only [Option.toList_some, itemsDeclarations, Item.declarationsIn, List.append_nil]
      exact ih
  | .atRule n p false items, _, sc => by
    simp [Item.pruneEmpty, itemsDeclarations]
  | .declaration d, _, sc => by
    simp [Item.pruneEmpty, itemsDeclarations]
  | .comment text, _, sc => by
    simp [Item.pruneEmpty, itemsDeclarations]

/-- Removing emptied blocks from a tree whose groups hold no declaration directly removes no
declaration. -/
theorem itemsDeclarations_pruneEmpty :
    ∀ (l : List Item), GroupsWithoutDeclarations l → ∀ sc,
      itemsDeclarations sc (pruneEmpty isGrouping l) = itemsDeclarations sc l
  | [], _, _ => rfl
  | it :: rest, hg, sc => by
    rw [pruneEmpty_cons, itemsDeclarations_append,
      Item.declarationsIn_pruneEmpty it (fun y hy => hg y (itemsNodes_first_subset hy)) sc,
      itemsDeclarations_pruneEmpty rest (fun y hy => hg y (itemsNodes_rest_subset hy)) sc]
    rfl

end

end Empty

/-! ### A round on one sheet -/

theorem StyleSheet.pruneUnusedVariables_groups {s : StyleSheet} (hg : GroupsWithoutDeclarations s.items)
    (used : String → Bool) : GroupsWithoutDeclarations (s.pruneUnusedVariables used).1.items := by
  have hf := hg.filterItems_keepDeclarations (fun _ d => !(d.isCustom && !used d.property)) {}
  simp only [StyleSheet.pruneUnusedVariables]
  split
  · exact hf.pruneEmpty isGrouping
  · exact hf

/-- A round removes from a sheet whose groups hold no declaration directly exactly the
definitions of the names it does not keep. -/
theorem StyleSheet.declarations_pruneUnusedVariables_eq {s : StyleSheet}
    (hg : GroupsWithoutDeclarations s.items) (used : String → Bool) :
    itemsDeclarations {} (s.pruneUnusedVariables used).1.items =
      (itemsDeclarations {} s.items).filter fun x => !(x.2.isCustom && !used x.2.property) := by
  have hf := hg.filterItems_keepDeclarations (fun _ d => !(d.isCustom && !used d.property)) {}
  simp only [StyleSheet.pruneUnusedVariables]
  split
  · rw [itemsDeclarations_pruneEmpty _ hf, itemsDeclarations_filterItems_keepDeclarations]
  · rw [itemsDeclarations_filterItems_keepDeclarations]

end CriticalCss.Css

namespace CriticalCss.Generate

open CriticalCss.Css

namespace Store

/-! ### The rounds -/

theorem groupsWithoutDeclarations_iterate {sheets : List StyleSheet}
    (hs : ∀ sh ∈ sheets, GroupsWithoutDeclarations sh.items) :
    ∀ k, ∀ sh ∈ variableRound^[k] sheets, GroupsWithoutDeclarations sh.items
  | 0 => hs
  | k + 1 => by
    intro sh hsh
    rw [Function.iterate_succ_apply'] at hsh
    obtain ⟨t, ht, rfl⟩ := mem_variableRound.1 hsh
    exact StyleSheet.pruneUnusedVariables_groups (groupsWithoutDeclarations_iterate hs k t ht) _

/-- A round keeps every definition of a name that some declaration refers to. -/
theorem variableRound_keeps {sheets : List StyleSheet}
    (hs : ∀ sh ∈ sheets, GroupsWithoutDeclarations sh.items) :
    List.Forall₂ (fun sh sh' => ∀ x ∈ itemsDeclarations {} sh.items, x.2.isCustom = true →
        x.2.property ∈ usedVariablesOf sheets → x ∈ itemsDeclarations {} sh'.items)
      sheets (variableRound sheets) := by
  rw [variableRound_eq_map]
  refine List.forall₂_map_right_iff.2 (List.forall₂_same.2 fun sh hsh x hx _ hused => ?_)
  rw [StyleSheet.declarations_pruneUnusedVariables_eq (hs sh hsh), List.mem_filter]
  refine ⟨hx, ?_⟩
  simp [hused]

/-- When a round keeps the number of names referred to, it keeps the names. -/
theorem mem_usedVariablesOf_variableRound_iff {sheets : List StyleSheet}
    (hlen : (usedVariablesOf (variableRound sheets)).length = (usedVariablesOf sheets).length)
    (n : String) : n ∈ usedVariablesOf (variableRound sheets) ↔ n ∈ usedVariablesOf sheets :=
  ((List.subperm_of_subset (nodup_eraseDups _) (usedVariablesOf_variableRound_subset sheets)).perm_of_length_le
    (Nat.le_of_eq hlen.symm)).mem_iff

/-- At a fixed point of a round, every definition left is of a name some declaration refers
to. -/
theorem referred_of_variableRound_eq {sheets : List StyleSheet}
    (hfix : variableRound sheets = sheets) {sh : StyleSheet} (hsh : sh ∈ sheets)
    {x : Scope × Declaration} (hx : x ∈ itemsDeclarations {} sh.items) (hc : x.2.isCustom = true) :
    ∃ sh' ∈ sheets, x.2.property ∈ sh'.usedVariables := by
  rw [← hfix] at hsh
  obtain ⟨t, -, rfl⟩ := mem_variableRound.1 hsh
  have hkept := StyleSheet.pruneUnusedVariables_unused t _ x hx
  rw [hc] at hkept
  simp only [Bool.true_and, Bool.not_eq_false', List.contains_iff_mem] at hkept
  simpa [usedVariablesOf, List.mem_eraseDups, List.mem_flatMap] using hkept

theorem variableRounds_succ (rounds round : Nat) (prevUsed : Int) (sheets : List StyleSheet) :
    variableRounds (rounds + 1) round prevUsed sheets =
      if ((usedVariablesOf sheets).length : Int) == prevUsed then []
      else (round, (usedVariablesOf sheets).length,
          ((variableRoundResults sheets).map (·.2)).foldr (· + ·) 0) ::
        if ((variableRoundResults sheets).map (·.2)).foldr (· + ·) 0 == 0 then []
        else variableRounds rounds (round + 1) (usedVariablesOf sheets).length (variableRound sheets) :=
  rfl

/-- **The loop stops at a fixed point.** Whenever the rounds stop by one of their tests, on an
unchanged number of names referred to or on a round that removed nothing, rather than by
running out of rounds, the sheets left are a fixed point of a round. -/
theorem variableRound_pruneVariables :
    ∀ (rounds round : Nat) {prevUsed : Int} {sheets : List StyleSheet},
      (prevUsed = -1 ∨ ∃ before, sheets = variableRound before ∧
        prevUsed = (usedVariablesOf before).length) →
      ((variableRounds rounds round prevUsed sheets).length < rounds ∨
        (variableRounds rounds round prevUsed sheets).getLast?.map (·.2.2) = some 0) →
      variableRound (pruneVariables rounds prevUsed sheets) = pruneVariables rounds prevUsed sheets
  | 0, _, _, _, _, hstop => by simp [variableRounds] at hstop
  | rounds + 1, round, prevUsed, sheets, hprev, hstop => by
    rw [pruneVariables_succ]
    rw [variableRounds_succ] at hstop
    by_cases hu : ((usedVariablesOf sheets).length : Int) == prevUsed
    · -- the count came back: the round before left the same names
      rw [if_pos hu]
      have hu' : ((usedVariablesOf sheets).length : Int) = prevUsed := by simpa using hu
      obtain ⟨before, rfl, rfl⟩ := hprev.resolve_left (by omega)
      exact variableRound_variableRound (by omega)
    rw [if_neg hu]
    rw [if_neg hu] at hstop
    by_cases hr : ((variableRoundResults sheets).map (·.2)).foldr (· + ·) 0 == 0
    · -- nothing was removed, so nothing changed
      have hfix : variableRound sheets = sheets := by
        apply variableRound_eq_self
        have hzero := List.sum_eq_zero_iff_forall_eq_nat.1 (beq_iff_eq.1 hr)
        intro sh hsh
        exact hzero _ (List.mem_map_of_mem (List.mem_map_of_mem hsh))
      rw [if_pos hr, hfix, hfix]
    · rw [if_neg hr]
      rw [if_neg hr] at hstop
      -- the stop came in a later round, which is still a round of this loop
      refine variableRound_pruneVariables rounds (round + 1) (.inr ⟨sheets, rfl, rfl⟩) ?_
      rcases hstop with hlen | hlast
      · exact .inl (by simpa using hlen)
      · -- the last round logged is a later one: this one removed something
        right
        cases htail : variableRounds rounds (round + 1) (usedVariablesOf sheets).length
            (variableRound sheets) with
        | nil =>
          rw [htail] at hlast
          exact absurd (by simpa using hlast) hr
        | cons e es =>
          rw [htail, List.getLast?_cons_cons] at hlast
          exact hlast

/-- **Removing unused custom properties is sound and ends at a fixed point.** For the critical
parts of any sheets whose groups hold no declaration directly (as in every parsed sheet,
`StyleSheet.parse_shaped`):
(a) a round keeps every definition of a name that some declaration of some sheet refers to;
(b) the names referred to only shrink from round to round, so a round that keeps their number
keeps them; (c) when the loop stops by one of its tests, every definition left is of a name
that some declaration left refers to. -/
theorem pruneVariables_sound (sheets : List StyleSheet) (critical : String → Bool)
    (hs : ∀ sh ∈ sheets, GroupsWithoutDeclarations sh.items) :
    let ss := sheets.map (·.pruned critical)
    (∀ k, List.Forall₂ (fun sh sh' => ∀ x ∈ itemsDeclarations {} sh.items, x.2.isCustom = true →
        x.2.property ∈ usedVariablesOf (variableRound^[k] ss) → x ∈ itemsDeclarations {} sh'.items)
      (variableRound^[k] ss) (variableRound^[k + 1] ss)) ∧
    (∀ k, usedVariablesOf (variableRound^[k + 1] ss) ⊆ usedVariablesOf (variableRound^[k] ss) ∧
      ((usedVariablesOf (variableRound^[k + 1] ss)).length =
          (usedVariablesOf (variableRound^[k] ss)).length →
        ∀ n, n ∈ usedVariablesOf (variableRound^[k + 1] ss) ↔
          n ∈ usedVariablesOf (variableRound^[k] ss))) ∧
    ((variableRounds maxVariableRounds 0 (-1) ss).length < maxVariableRounds ∨
        (variableRounds maxVariableRounds 0 (-1) ss).getLast?.map (·.2.2) = some 0 →
      ∀ sh ∈ pruneVariables maxVariableRounds (-1) ss, ∀ x ∈ itemsDeclarations {} sh.items,
        x.2.isCustom = true → ∃ sh' ∈ pruneVariables maxVariableRounds (-1) ss,
          x.2.property ∈ sh'.usedVariables) := by
  intro ss
  -- the critical parts keep the shape of the sheets
  have hss : ∀ sh ∈ ss, GroupsWithoutDeclarations sh.items := by
    intro sh hsh
    obtain ⟨t, ht, rfl⟩ := List.mem_map.1 hsh
    exact (t.pruned_items_shrink critical).groupsWithoutDeclarations (hs t ht)
  refine ⟨fun k => ?_, fun k => ?_, fun hstop => ?_⟩
  · rw [Function.iterate_succ_apply']
    exact variableRound_keeps (groupsWithoutDeclarations_iterate hss k)
  · rw [Function.iterate_succ_apply']
    exact ⟨usedVariablesOf_variableRound_subset _, mem_usedVariablesOf_variableRound_iff⟩
  · intro sh hsh x hx hc
    exact referred_of_variableRound_eq (variableRound_pruneVariables _ 0 (.inl rfl) hstop) hsh hx hc

/-- Two sheets of one rule each: the first refers to `--a`, defined by reference to `--b` in
the first sheet and to `--b` in the second, which also defines the unused `--y`. -/
def chainSheets : List StyleSheet :=
  [{ source := "", items := [.rule [".a"] [.declaration { property := "color", value := "var(--a)" },
      .declaration { property := "--a", value := "var(--b)" }]] },
    { source := "", items := [.rule [".a"] [.declaration { property := "--b", value := "red" },
      .declaration { property := "--y", value := "blue" }]] }]

theorem pruneVariables_sound_chain :
    (∀ sh ∈ chainSheets, GroupsWithoutDeclarations sh.items) ∧
      let ss := chainSheets.map (·.pruned (· == ".a"))
      (∀ k, List.Forall₂ (fun sh sh' => ∀ x ∈ itemsDeclarations {} sh.items, x.2.isCustom = true →
          x.2.property ∈ usedVariablesOf (variableRound^[k] ss) →
            x ∈ itemsDeclarations {} sh'.items)
        (variableRound^[k] ss) (variableRound^[k + 1] ss)) ∧
      (∀ k, usedVariablesOf (variableRound^[k + 1] ss) ⊆ usedVariablesOf (variableRound^[k] ss) ∧
        ((usedVariablesOf (variableRound^[k + 1] ss)).length =
            (usedVariablesOf (variableRound^[k] ss)).length →
          ∀ n, n ∈ usedVariablesOf (variableRound^[k + 1] ss) ↔
            n ∈ usedVariablesOf (variableRound^[k] ss))) ∧
      ((variableRounds maxVariableRounds 0 (-1) ss).length < maxVariableRounds ∨
          (variableRounds maxVariableRounds 0 (-1) ss).getLast?.map (·.2.2) = some 0 →
        ∀ sh ∈ pruneVariables maxVariableRounds (-1) ss, ∀ x ∈ itemsDeclarations {} sh.items,
          x.2.isCustom = true → ∃ sh' ∈ pruneVariables maxVariableRounds (-1) ss,
            x.2.property ∈ sh'.usedVariables) :=
  ⟨by decide, pruneVariables_sound chainSheets (· == ".a") (by decide)⟩

end Store

end CriticalCss.Generate
