import CriticalCss.Proofs.VariableRounds
import CriticalCss.Proofs.Shrinks
import CriticalCss.Proofs.StoreSteps

/-!
# The font faces of the critical sheets

The critical sheets keep a `@font-face` rule only where a remaining style rule uses one of its
families, and without its `src` descriptors. The families used are read once, from every sheet
after the rounds of removing custom properties, and each sheet then keeps the faces of those
families; a sheet left without style rules is dropped last.

## The statement, and the clause it costs

`Store.prunedSheetsOf_font_faces`: where the faces of the files sit plainly (no `@font-face`
holds a style rule or an at-rule, and no style rule holds a `@font-face`), every face of the
critical sheets has a `font-family` descriptor and no `src` descriptor, and names a family that
a style rule of the critical sheets uses; and every face with both descriptors naming such a
family is kept, in every sheet that is not dropped.

The families are read before the faces go. A face that holds a style rule takes that rule
with it when it goes, and a family only that rule used stays on the list, so its face stays
with no rule left that uses it (`prunedSheets_keeps_unused_face`).

## Main definitions

* `faceFamilies`: the families a face declares, by its last `font-family` descriptor.
* `FacesPlain`: faces hold only descriptors, and style rules hold no faces.

## Main results

* `ItemsShrink.facesPlain`: a tree with parts deleted keeps its faces plain.
* `face_kept_of_mem_filterItems`: a face that pruning leaves has a kept family and no `src`.
* `face_mem_filterItems`: a face of a plain tree whose family is kept stays, without `src`.
* `ruleDeclarations_filterItems`, `itemsRuleCount_filterItems`: pruning the faces of a plain
  tree keeps its style rules and what they declare.
* `Store.prunedSheetsOf_font_faces`: the faces of the critical sheets.
-/

namespace CriticalCss.Css

/-- A `@font-face` rule, vendor prefix aside. -/
def Item.isFontFace : Item → Bool
  | .atRule name _ _ _ => baseName name == "font-face"
  | _ => false

/-- A declaration or a comment: an item without a block. -/
def Item.isLeaf : Item → Bool
  | .declaration _ | .comment _ => true
  | _ => false

def Item.isStyleRule : Item → Bool
  | .rule _ _ => true
  | _ => false

/-- A declaration of the property. -/
def Item.declaresProperty (p : String) : Item → Bool
  | .declaration d => d.property == p
  | _ => false

/-- The families a face declares: those of its last `font-family` descriptor. -/
def faceFamilies (items : List Item) : List String :=
  match (items.filter (Item.declaresProperty "font-family")).getLast? with
  | some (.declaration d) => fontFamilies (valueTokens d.value)
  | _ => []

/-- A node where faces sit plainly: a `@font-face` holds only descriptors and comments, and a
style rule holds no `@font-face`, at any depth. -/
def Item.FacePlain (x : Item) : Prop :=
  ∀ y ∈ itemsNodes x.children,
    (x.isFontFace = true → y.isLeaf = true) ∧ (x.isStyleRule = true → y.isFontFace = false)

/-- A tree whose faces sit plainly at every node. -/
def FacesPlain (items : List Item) : Prop :=
  ∀ x ∈ itemsNodes items, x.FacePlain

instance (x : Item) : Decidable x.FacePlain :=
  inferInstanceAs (Decidable (∀ y ∈ itemsNodes x.children, _))

instance (items : List Item) : Decidable (FacesPlain items) :=
  inferInstanceAs (Decidable (∀ x ∈ itemsNodes items, x.FacePlain))

/-! ### Deleting parts keeps faces plain -/

section Shrink

variable {pre : String → String → String → Prop} {a b : Item}

theorem Item.Shrinks.isFontFace_eq (h : a.Shrinks pre b) : a.isFontFace = b.isFontFace := by
  cases h <;> rfl

theorem Item.Shrinks.isLeaf_eq (h : a.Shrinks pre b) : a.isLeaf = b.isLeaf := by
  cases h <;> rfl

theorem Item.Shrinks.isStyleRule_eq (h : a.Shrinks pre b) : a.isStyleRule = b.isStyleRule := by
  cases h <;> rfl

theorem Item.Shrinks.facePlain (h : a.Shrinks pre b) (hb : b.FacePlain) : a.FacePlain := by
  intro y hy
  obtain ⟨z, hz, hyz⟩ := h.children.exists_of_mem_nodes y hy
  rw [h.isFontFace_eq, h.isStyleRule_eq, hyz.isLeaf_eq, hyz.isFontFace_eq]
  exact hb z hz

/-- A tree with parts deleted from a tree whose faces sit plainly has its faces plain. -/
theorem ItemsShrink.facesPlain {l l' : List Item} (h : ItemsShrink pre l l') (hl' : FacesPlain l') :
    FacesPlain l := by
  intro x hx
  obtain ⟨y, hy, hxy⟩ := h.exists_of_mem_nodes x hx
  exact hxy.facePlain (hl' y hy)

end Shrink

theorem StyleSheet.pruneUnusedVariables_shrinks (sh : StyleSheet) (used : String → Bool) :
    ItemsShrink PreludeKept (sh.pruneUnusedVariables used).1.items sh.items := by
  have hkept : ∀ n p, PreludeKept n p p := fun _ _ => rfl
  have hfilter : ItemsShrink PreludeKept
      (filterItems (keepDeclarations fun _ d => !(d.isCustom && !used d.property)) {} sh.items)
      sh.items :=
    filterItems_shrinks (.of_eq hkept fun _ _ _ => keepDeclarations_eq) {} sh.items
  simp only [StyleSheet.pruneUnusedVariables]
  split
  · have htrans : ∀ n p p' p'', PreludeKept n p p' → PreludeKept n p' p'' → PreludeKept n p p'' :=
      fun _ _ _ _ => PreludeKept.trans
    exact (pruneEmpty_shrinks hkept _).trans htrans hfilter
  · exact hfilter

/-! ### Leaves, rules and the scope of a declaration -/

theorem mem_itemsNodes_of_mem {y : Item} {its : List Item} (h : y ∈ its) : y ∈ itemsNodes its := by
  induction its with
  | nil => cases h
  | cons it rest ih =>
    rcases List.mem_cons.1 h with rfl | h
    · simp
    · exact itemsNodes_rest_subset (ih h)

theorem itemsRuleCount_eq_zero_of_leaves {its : List Item} (h : ∀ y ∈ its, y.isLeaf = true) :
    itemsRuleCount its = 0 := by
  induction its with
  | nil => rfl
  | cons it rest ih =>
    have hit : it.ruleCount = 0 := by
      have hleaf := h it List.mem_cons_self
      cases it <;> simp [Item.isLeaf] at hleaf <;> rfl
    rw [itemsRuleCount, hit, ih fun y hy => h y (List.mem_cons_of_mem _ hy)]

mutual

theorem Item.inRule_of_mem_declarationsIn {it : Item} {sc : Scope} {x : Scope × Declaration}
    (hx : x ∈ it.declarationsIn sc) (hin : x.1.inRule = true) :
    sc.inRule = true ∨ it.ruleCount ≠ 0 := by
  cases it with
  | rule sels items => exact .inr (by simp [Item.ruleCount])
  | atRule name prelude block items =>
    rw [Item.declarationsIn] at hx
    -- the block is walked in the at-rule's scope, inside a rule exactly when the at-rule is
    have h := inRule_of_mem_itemsDeclarations hx hin
    exact h
  | declaration d =>
    rw [Item.declarationsIn, List.mem_singleton] at hx
    subst hx
    exact .inl hin
  | comment text => simp [Item.declarationsIn] at hx
termination_by structural it

/-- A declaration read as inside a style rule is inside one, unless the walk starts inside one. -/
theorem inRule_of_mem_itemsDeclarations {its : List Item} {sc : Scope} {x : Scope × Declaration}
    (hx : x ∈ itemsDeclarations sc its) (hin : x.1.inRule = true) :
    sc.inRule = true ∨ itemsRuleCount its ≠ 0 := by
  cases its with
  | nil => simp [itemsDeclarations] at hx
  | cons it rest =>
    rw [itemsDeclarations, List.mem_append] at hx
    rw [itemsRuleCount]
    rcases hx with hx | hx
    · exact (Item.inRule_of_mem_declarationsIn hx hin).imp id fun h => by omega
    · exact (inRule_of_mem_itemsDeclarations hx hin).imp id fun h => by omega
termination_by structural its

end

/-! ### The decision on a face -/

section Decision

variable {w : String → Bool}

/-- A face stays when it declares `src` and `font-family` and one of its families is kept, and
loses its `src` descriptors. -/
theorem keepFontFace_face (sc : Scope) {name : String} (prelude : String) (block : Bool)
    (items : List Item) (hname : baseName name = "font-face") :
    keepFontFace w sc (.atRule name prelude block items) =
      if declares items "src" && declares items "font-family" && (faceFamilies items).any w then
        some (.atRule name prelude block (items.filter fun it => !it.declaresProperty "src"))
      else none := by
  simp only [keepFontFace, hname, bne_self_eq_false, Bool.false_eq_true, if_false]
  rfl

theorem keepFontFace_of_not_face {sc : Scope} {it : Item} (h : it.isFontFace = false) :
    keepFontFace w sc it = some it := by
  cases it with
  | atRule name prelude block items =>
    have hname : (baseName name != "font-face") = true := by simpa [Item.isFontFace] using h
    simp only [keepFontFace, hname, if_true]
  | _ => rfl

end Decision

/-! ### The faces pruning leaves -/

section Prune

variable {w : String → Bool}

theorem Item.mem_nodes_self (it : Item) : it ∈ it.nodes := by
  rw [Item.nodes_eq]
  exact List.mem_cons_self

theorem Item.isFontFace_eq_false_of_isLeaf {y : Item} (h : y.isLeaf = true) : y.isFontFace = false := by
  cases y <;> simp_all [Item.isLeaf, Item.isFontFace]

theorem itemsRuleCount_append (l l' : List Item) :
    itemsRuleCount (l ++ l') = itemsRuleCount l + itemsRuleCount l' := by
  induction l with
  | nil => simp [itemsRuleCount]
  | cons it rest ih => rw [List.cons_append, itemsRuleCount, itemsRuleCount, ih, Nat.add_assoc]

/-- A block of leaves is left as it is. -/
theorem filterItems_keepFontFace_leaves {its : List Item} (h : ∀ y ∈ itemsNodes its, y.isLeaf = true)
    (sc : Scope) : filterItems (keepFontFace w) sc its = its :=
  filterItems_eq_self (fun y hy _ => keepFontFace_of_not_face (Item.isFontFace_eq_false_of_isLeaf (h y hy))) sc

/-- Every node of a style rule of a plain tree is left as it is. -/
theorem keepFontFace_rule_nodes {sels : List String} {its : List Item}
    (hp : (Item.rule sels its).FacePlain) :
    ∀ y ∈ (Item.rule sels its).nodes, ∀ sc, keepFontFace w sc y = some y := by
  intro y hy sc
  apply keepFontFace_of_not_face
  rw [Item.nodes_eq, List.mem_cons] at hy
  rcases hy with rfl | hy
  · rfl
  · exact (hp y hy).2 rfl

/-- The block of a face whose faces sit plainly holds only leaves. -/
theorem Item.FacePlain.leaves {n p : String} {b : Bool} {its : List Item}
    (h : (Item.atRule n p b its).FacePlain) (hn : baseName n = "font-face") :
    ∀ y ∈ itemsNodes its, y.isLeaf = true :=
  fun y hy => (h y hy).1 (by simp [Item.isFontFace, hn])

/-- A plain face is decided on its own block, which pruning leaves as it is. -/
theorem filterWith_keepFontFace_face {n p : String} {b : Bool} {its : List Item}
    (hp : (Item.atRule n p b its).FacePlain) (hn : baseName n = "font-face") (sc : Scope) :
    (Item.atRule n p b its).filterWith (keepFontFace w) sc =
      if declares its "src" && declares its "font-family" && (faceFamilies its).any w then
        some (.atRule n p b (its.filter fun y => !y.declaresProperty "src"))
      else none := by
  rw [Item.filterWith, filterItems_keepFontFace_leaves (hp.leaves hn), keepFontFace_face _ _ _ _ hn]

/-- Any other at-rule stays, with its block pruned. -/
theorem filterWith_keepFontFace_atRule {n p : String} {b : Bool} {its : List Item}
    (hn : ¬baseName n = "font-face") (sc : Scope) :
    (Item.atRule n p b its).filterWith (keepFontFace w) sc =
      some (.atRule n p b (filterItems (keepFontFace w) { sc with atRule := some n } its)) := by
  rw [Item.filterWith, keepFontFace_of_not_face (by simpa [Item.isFontFace] using hn)]

/-- A style rule of a plain tree stays as it is. -/
theorem filterWith_keepFontFace_rule {sels : List String} {its : List Item}
    (hp : (Item.rule sels its).FacePlain) (sc : Scope) :
    (Item.rule sels its).filterWith (keepFontFace w) sc = some (.rule sels its) :=
  Item.filterWith_eq_self (keepFontFace_rule_nodes hp) sc

theorem declares_filter_src (items : List Item) :
    declares (items.filter fun it => !it.declaresProperty "src") "src" = false := by
  simp only [declares, List.any_filter, List.any_eq_false]
  intro it _
  cases it <;> simp [Item.declaresProperty]

theorem declaresProperty_family_and_not_src (it : Item) :
    (it.declaresProperty "font-family" && !it.declaresProperty "src") =
      it.declaresProperty "font-family" := by
  cases it with
  | declaration d =>
    by_cases h : d.property = "font-family" <;> simp [Item.declaresProperty, h]
  | _ => rfl

theorem declares_filter_src_family (items : List Item) :
    declares (items.filter fun it => !it.declaresProperty "src") "font-family" =
      declares items "font-family" := by
  simp only [declares, List.any_filter]
  congr 1
  funext it
  rw [Bool.and_comm]
  exact declaresProperty_family_and_not_src it

theorem faceFamilies_filter_src (items : List Item) :
    faceFamilies (items.filter fun it => !it.declaresProperty "src") = faceFamilies items := by
  simp only [faceFamilies, List.filter_filter, declaresProperty_family_and_not_src]

/-- Every face that pruning leaves has a `font-family` descriptor, no `src` descriptor, and a
family the whitelist keeps. -/
theorem face_kept_of_mem_filterItems {sc : Scope} {its : List Item} {name prelude : String}
    {block : Bool} {items : List Item}
    (hx : Item.atRule name prelude block items ∈ itemsNodes (filterItems (keepFontFace w) sc its))
    (hname : baseName name = "font-face") :
    declares items "src" = false ∧ declares items "font-family" = true ∧
      ∃ f ∈ faceFamilies items, w f = true := by
  -- the face was made by the decision on a face of the tree with its block filtered
  obtain ⟨y, -, sc', -, hy⟩ :=
    exists_of_mem_itemsNodes_filterItems (keepFontFace_keepsHeads w).shrinksBlocks hx
  have hhead := (keepFontFace_keepsHeads w).head_filterWith hy
  cases y with
  | atRule name' prelude' block' items' =>
    simp only [Item.head, Item.atRule.injEq, and_true] at hhead
    obtain ⟨rfl, rfl, rfl⟩ := hhead
    rw [Item.filterWith, keepFontFace_face _ _ _ _ hname] at hy
    split at hy
    · rename_i hkeep
      cases hy
      simp only [Bool.and_eq_true, List.any_eq_true] at hkeep
      obtain ⟨⟨-, hfam⟩, f, hf, hwf⟩ := hkeep
      refine ⟨declares_filter_src _, ?_, f, ?_, hwf⟩
      · rw [declares_filter_src_family]
        exact hfam
      · rw [faceFamilies_filter_src]
        exact hf
    · cases hy
  | _ => simp [Item.head] at hhead

mutual

theorem Item.face_mem_filterWith {it : Item} (hp : ∀ y ∈ it.nodes, y.FacePlain) (sc : Scope)
    {name prelude : String} {block : Bool} {items : List Item}
    (hx : Item.atRule name prelude block items ∈ it.nodes) (hname : baseName name = "font-face")
    (hkeep : (declares items "src" && declares items "font-family" &&
      (faceFamilies items).any w) = true) :
    ∃ it', it.filterWith (keepFontFace w) sc = some it' ∧
      Item.atRule name prelude block (items.filter fun y => !y.declaresProperty "src") ∈ it'.nodes := by
  have hface : (Item.atRule name prelude block items).isFontFace = true := by
    simp [Item.isFontFace, hname]
  rw [Item.nodes_eq, List.mem_cons] at hx
  rcases hx with rfl | hx
  · -- the face itself, whose block of leaves stays
    rw [filterWith_keepFontFace_face (hp _ (Item.mem_nodes_self _)) hname, if_pos hkeep]
    exact ⟨_, rfl, Item.mem_nodes_self _⟩
  cases it with
  | rule sels its =>
    have hnot := (hp _ (Item.mem_nodes_self _) _ hx).2 rfl
    rw [hface] at hnot
    cases hnot
  | atRule n p b its =>
    by_cases hn : baseName n = "font-face"
    · -- a face holds only leaves
      have hleaf := (hp _ (Item.mem_nodes_self _)).leaves hn _ hx
      simp [Item.isLeaf] at hleaf
    · have hmem := face_mem_filterItems (fun y hy => hp y (Item.nodes_children_subset hy))
        { sc with atRule := some n } hx hname hkeep
      rw [filterWith_keepFontFace_atRule hn]
      exact ⟨_, rfl, Item.nodes_children_subset hmem⟩
  | declaration d => simp [Item.children] at hx
  | comment text => simp [Item.children] at hx
termination_by structural it

/-- A face of a plain tree that declares `src` and `font-family`, with a family the whitelist
keeps, stays in the pruned tree, without its `src` descriptors. -/
theorem face_mem_filterItems {its : List Item} (hp : FacesPlain its) (sc : Scope)
    {name prelude : String} {block : Bool} {items : List Item}
    (hx : Item.atRule name prelude block items ∈ itemsNodes its) (hname : baseName name = "font-face")
    (hkeep : (declares items "src" && declares items "font-family" &&
      (faceFamilies items).any w) = true) :
    Item.atRule name prelude block (items.filter fun y => !y.declaresProperty "src") ∈
      itemsNodes (filterItems (keepFontFace w) sc its) := by
  cases its with
  | nil => simp at hx
  | cons it rest =>
    rw [filterItems_cons, itemsNodes_append]
    rw [itemsNodes, List.mem_append] at hx
    rcases hx with hx | hx
    · obtain ⟨it', hit, hmem⟩ :=
        Item.face_mem_filterWith (fun y hy => hp y (itemsNodes_first_subset hy)) sc hx hname hkeep
      rw [hit]
      exact List.mem_append_left _ (itemsNodes_first_subset hmem)
    · exact List.mem_append_right _
        (face_mem_filterItems (fun y hy => hp y (itemsNodes_rest_subset hy)) sc hx hname hkeep)
termination_by structural its

end

/-- The declarations of a block of leaves outside every style rule are none of them read as
inside one. -/
theorem ruleDeclarations_eq_nil_of_leaves {its : List Item} (h : ∀ y ∈ its, y.isLeaf = true)
    {sc : Scope} (hsc : sc.inRule = false) :
    (itemsDeclarations sc its).filter (·.1.inRule) = [] := by
  refine List.filter_eq_nil_iff.2 fun x hx hin => ?_
  rcases inRule_of_mem_itemsDeclarations hx hin with h' | h'
  · rw [hsc] at h'
    cases h'
  · exact h' (itemsRuleCount_eq_zero_of_leaves h)

mutual

theorem Item.ruleDeclarations_filterWith {it : Item} (hp : ∀ y ∈ it.nodes, y.FacePlain) {sc : Scope}
    (hsc : sc.inRule = false) :
    (itemsDeclarations sc (it.filterWith (keepFontFace w) sc).toList).filter (·.1.inRule) =
      (it.declarationsIn sc).filter (·.1.inRule) := by
  cases it with
  | rule sels its =>
    -- a style rule holds no face, and stays as it is
    rw [filterWith_keepFontFace_rule (hp _ (Item.mem_nodes_self _))]
    simp [itemsDeclarations]
  | atRule n p b its =>
    by_cases hn : baseName n = "font-face"
    · -- a face outside every rule: none of its descriptors is read as inside a rule
      have hleaves := (hp _ (Item.mem_nodes_self _)).leaves hn
      have hsc' : ({ sc with atRule := some n } : Scope).inRule = false := hsc
      rw [filterWith_keepFontFace_face (hp _ (Item.mem_nodes_self _)) hn, Item.declarationsIn,
        ruleDeclarations_eq_nil_of_leaves (fun y hy => hleaves y (mem_itemsNodes_of_mem hy)) hsc']
      split
      · simp only [Option.toList_some, itemsDeclarations, Item.declarationsIn, List.append_nil]
        exact ruleDeclarations_eq_nil_of_leaves
          (fun y hy => hleaves y (mem_itemsNodes_of_mem (List.mem_of_mem_filter hy))) hsc'
      · rfl
    · rw [filterWith_keepFontFace_atRule hn]
      simp only [Option.toList_some, itemsDeclarations, Item.declarationsIn, List.append_nil]
      exact ruleDeclarations_filterItems (fun y hy => hp y (Item.nodes_children_subset hy)) hsc
  | declaration d => simp [Item.filterWith, keepFontFace, itemsDeclarations]
  | comment text => simp [Item.filterWith, keepFontFace, itemsDeclarations]
termination_by structural it

/-- Pruning the faces of a plain tree keeps every declaration read as inside a style rule, in
its scope and in order. -/
theorem ruleDeclarations_filterItems {its : List Item} (hp : FacesPlain its) {sc : Scope}
    (hsc : sc.inRule = false) :
    (itemsDeclarations sc (filterItems (keepFontFace w) sc its)).filter (·.1.inRule) =
      (itemsDeclarations sc its).filter (·.1.inRule) := by
  cases its with
  | nil => rfl
  | cons it rest =>
    rw [filterItems_cons, itemsDeclarations_append, List.filter_append, itemsDeclarations,
      List.filter_append, Item.ruleDeclarations_filterWith (fun y hy => hp y (itemsNodes_first_subset hy)) hsc,
      ruleDeclarations_filterItems (fun y hy => hp y (itemsNodes_rest_subset hy)) hsc]
termination_by structural its

end

mutual

theorem Item.ruleCount_filterWith {it : Item} (hp : ∀ y ∈ it.nodes, y.FacePlain) (sc : Scope) :
    itemsRuleCount (it.filterWith (keepFontFace w) sc).toList = it.ruleCount := by
  cases it with
  | rule sels its =>
    rw [filterWith_keepFontFace_rule (hp _ (Item.mem_nodes_self _))]
    simp [itemsRuleCount]
  | atRule n p b its =>
    by_cases hn : baseName n = "font-face"
    · -- a face holds no rules, before and after
      have hleaves := (hp _ (Item.mem_nodes_self _)).leaves hn
      have h0 := itemsRuleCount_eq_zero_of_leaves fun y hy => hleaves y (mem_itemsNodes_of_mem hy)
      rw [filterWith_keepFontFace_face (hp _ (Item.mem_nodes_self _)) hn]
      split
      · simp only [Option.toList_some, itemsRuleCount, Item.ruleCount, h0, Nat.add_zero]
        exact itemsRuleCount_eq_zero_of_leaves
          fun y hy => hleaves y (mem_itemsNodes_of_mem (List.mem_of_mem_filter hy))
      · simp [itemsRuleCount, Item.ruleCount, h0]
    · rw [filterWith_keepFontFace_atRule hn]
      simp only [Option.toList_some, itemsRuleCount, Item.ruleCount, Nat.add_zero]
      exact itemsRuleCount_filterItems (fun y hy => hp y (Item.nodes_children_subset hy)) _
  | declaration d => rfl
  | comment text => rfl
termination_by structural it

/-- Pruning the faces of a plain tree keeps its style rules. -/
theorem itemsRuleCount_filterItems {its : List Item} (hp : FacesPlain its) (sc : Scope) :
    itemsRuleCount (filterItems (keepFontFace w) sc its) = itemsRuleCount its := by
  cases its with
  | nil => rfl
  | cons it rest =>
    rw [filterItems_cons, itemsRuleCount_append,
      Item.ruleCount_filterWith (fun y hy => hp y (itemsNodes_first_subset hy)) sc,
      itemsRuleCount_filterItems (fun y hy => hp y (itemsNodes_rest_subset hy)) sc, itemsRuleCount]
termination_by structural its

end

end Prune

/-! ### Sheets -/

/-- The families a list of declarations names are those its declarations read as inside a style
rule name. -/
theorem flatMap_declarationFamilies (l : List (Scope × Declaration)) :
    l.flatMap (fun x => declarationFamilies x.1 x.2) =
      (l.filter (·.1.inRule)).flatMap (fun x => declarationFamilies x.1 x.2) := by
  induction l with
  | nil => rfl
  | cons x rest ih =>
    cases h : x.1.inRule with
    | false =>
      have hnil : declarationFamilies x.1 x.2 = [] := by simp [declarationFamilies, h]
      rw [List.flatMap_cons, hnil, List.nil_append, ih, List.filter_cons_of_neg (by simp [h])]
    | true => rw [List.flatMap_cons, ih, List.filter_cons_of_pos (by simp [h]), List.flatMap_cons]

theorem StyleSheet.usedFontFamilies_eq (s : StyleSheet) :
    s.usedFontFamilies = (((itemsDeclarations {} s.items).filter (·.1.inRule)).flatMap
      fun x => declarationFamilies x.1 x.2).eraseDups := by
  rw [← flatMap_declarationFamilies]
  rfl

/-- Pruning the faces of a plain sheet leaves the families its style rules use. -/
theorem StyleSheet.usedFontFamilies_pruneFonts {sh : StyleSheet} (hp : FacesPlain sh.items)
    (w : String → Bool) : (sh.pruneFonts w).usedFontFamilies = sh.usedFontFamilies := by
  rw [StyleSheet.usedFontFamilies_eq, StyleSheet.usedFontFamilies_eq, StyleSheet.pruneFonts,
    ruleDeclarations_filterItems hp rfl]

theorem StyleSheet.ruleCount_pruneFonts {sh : StyleSheet} (hp : FacesPlain sh.items)
    (w : String → Bool) : (sh.pruneFonts w).ruleCount = sh.ruleCount :=
  itemsRuleCount_filterItems hp {}

/-- A sheet without style rules uses no family. -/
theorem StyleSheet.usedFontFamilies_eq_nil {s : StyleSheet} (h : s.ruleCount = 0) :
    s.usedFontFamilies = [] := by
  have hnone : (itemsDeclarations {} s.items).filter (·.1.inRule) = [] :=
    List.filter_eq_nil_iff.2 fun x hx hin =>
      ((inRule_of_mem_itemsDeclarations hx hin).resolve_left (by decide)) h
  rw [StyleSheet.usedFontFamilies_eq, hnone]
  rfl

end CriticalCss.Css

namespace CriticalCss.Generate

open CriticalCss.Css

namespace Store

/-- The sheets that the families used are read from, after the rounds of removing custom
properties, keep plain the faces of the files. -/
theorem facesPlain_pruneVariables {files : List SheetFile} (critical : String → Bool)
    (hplain : ∀ f ∈ files, FacesPlain f.sheet.items) :
    ∀ sh ∈ pruneVariables maxVariableRounds (-1) (files.map fun f => f.sheet.pruned critical),
      FacesPlain sh.items := by
  rw [pruneVariables_eq_iterate _ (.inl rfl)]
  -- each round deletes parts of the sheets of the round before
  induction maxVariableRounds with
  | zero =>
    intro sh hsh
    obtain ⟨f, hf, rfl⟩ := List.mem_map.1 hsh
    exact (f.sheet.pruned_shrinks critical).1.facesPlain (hplain f hf)
  | succ n ih =>
    intro sh hsh
    rw [Function.iterate_succ_apply'] at hsh
    obtain ⟨t, ht, rfl⟩ := mem_variableRound.1 hsh
    exact (t.pruneUnusedVariables_shrinks _).facesPlain (ih t ht)

/-- **The faces of the critical sheets.** Where the faces of the files sit plainly, every
`@font-face` of the critical sheets has a `font-family` descriptor and no `src` descriptor, and
names a family that a style rule of the critical sheets uses. Conversely, every face of a sheet
after the rounds of removing custom properties that declares `src` and `font-family` and names
such a family is kept, without its `src` descriptors, unless its sheet has no style rule and is
dropped. A face names the families of its last `font-family` descriptor. -/
theorem prunedSheetsOf_font_faces (files : List SheetFile) (critical : String → Bool)
    (hplain : ∀ f ∈ files, FacesPlain f.sheet.items) :
    (∀ sh ∈ prunedSheetsOf files critical, ∀ name prelude block items,
      Item.atRule name prelude block items ∈ itemsNodes sh.items → baseName name = "font-face" →
      declares items "src" = false ∧ declares items "font-family" = true ∧
        ∃ f ∈ faceFamilies items,
          f ∈ (prunedSheetsOf files critical).flatMap StyleSheet.usedFontFamilies) ∧
    ∀ sh ∈ pruneVariables maxVariableRounds (-1) (files.map fun f => f.sheet.pruned critical),
      sh.ruleCount ≠ 0 → ∃ sh' ∈ prunedSheetsOf files critical, ∀ name prelude block items,
        Item.atRule name prelude block items ∈ itemsNodes sh.items → baseName name = "font-face" →
        declares items "src" = true → declares items "font-family" = true →
        (∃ f ∈ faceFamilies items,
          f ∈ (prunedSheetsOf files critical).flatMap StyleSheet.usedFontFamilies) →
        Item.atRule name prelude block (items.filter fun it => !it.declaresProperty "src") ∈
          itemsNodes sh'.items := by
  have hmid := facesPlain_pruneVariables critical hplain
  -- the families read, from the sheets before their faces are pruned
  generalize hsheets : pruneVariables maxVariableRounds (-1)
    (files.map fun f => f.sheet.pruned critical) = sheets at hmid
  generalize hread : (sheets.flatMap StyleSheet.usedFontFamilies).eraseDups = read
  have hout : prunedSheetsOf files critical =
      (sheets.map fun sh => sh.pruneFonts (read.contains ·)).filter fun sh => sh.ruleCount != 0 := by
    rw [← hread, ← hsheets]
    rfl
  have hreadMem : ∀ f, f ∈ read ↔ ∃ sh ∈ sheets, f ∈ sh.usedFontFamilies := by
    intro f
    rw [← hread, List.mem_eraseDups, List.mem_flatMap]
  -- the sheets kept use exactly the families read
  have hused : ∀ f, f ∈ (prunedSheetsOf files critical).flatMap StyleSheet.usedFontFamilies ↔
      f ∈ read := by
    intro f
    rw [hout, hreadMem, List.mem_flatMap]
    constructor
    · rintro ⟨sh', hsh', hf⟩
      obtain ⟨sh, hsh, rfl⟩ := List.mem_map.1 (List.mem_filter.1 hsh').1
      exact ⟨sh, hsh, by rwa [StyleSheet.usedFontFamilies_pruneFonts (hmid sh hsh)] at hf⟩
    · rintro ⟨sh, hsh, hf⟩
      -- a sheet that uses a family has a style rule, and is kept
      have hrules : sh.ruleCount ≠ 0 := fun h0 => by
        rw [StyleSheet.usedFontFamilies_eq_nil h0] at hf
        cases hf
      refine ⟨sh.pruneFonts (read.contains ·), List.mem_filter.2 ⟨List.mem_map_of_mem hsh, ?_⟩, ?_⟩
      · simpa [StyleSheet.ruleCount_pruneFonts (hmid sh hsh)] using hrules
      · rwa [StyleSheet.usedFontFamilies_pruneFonts (hmid sh hsh)]
  refine ⟨fun sh' hsh' name prelude block items hx hname => ?_, fun sh hsh hrules => ?_⟩
  · rw [hout] at hsh'
    obtain ⟨sh, -, rfl⟩ := List.mem_map.1 (List.mem_filter.1 hsh').1
    obtain ⟨hsrc, hfam, f, hf, hwf⟩ := face_kept_of_mem_filterItems hx hname
    exact ⟨hsrc, hfam, f, hf, (hused f).2 (List.contains_iff_mem.1 hwf)⟩
  · refine ⟨sh.pruneFonts (read.contains ·), ?_, fun name prelude block items hx hname hsrc hfam hf => ?_⟩
    · rw [hout]
      exact List.mem_filter.2 ⟨List.mem_map_of_mem hsh,
        by simpa [StyleSheet.ruleCount_pruneFonts (hmid sh hsh)] using hrules⟩
    · obtain ⟨f, hf, hfu⟩ := hf
      refine face_mem_filterItems (hmid sh hsh) {} hx hname ?_
      simp only [hsrc, hfam, Bool.true_and, List.any_eq_true]
      exact ⟨f, hf, List.contains_iff_mem.2 ((hused f).1 hfu)⟩

/-- A sheet whose face is used by its one style rule. -/
def usedFaceFile : SheetFile where
  text := "@font-face\x7bfont-family:A;src:url(a)\x7d.x\x7bfont-family:A\x7d"
  sheet :=
    { source := "@font-face\x7bfont-family:A;src:url(a)\x7d.x\x7bfont-family:A\x7d"
      items := [.atRule "font-face" "" true [.declaration ⟨"font-family", "A", false⟩,
          .declaration ⟨"src", "url(a)", false⟩],
        .rule [".x"] [.declaration ⟨"font-family", "A", false⟩]] }
  pages := ["p"]
  urls := ["https://s.test/a.css"]
  order := 0

/-- The faces of the critical sheets of a plain sheet whose rule is critical. -/
theorem prunedSheetsOf_font_faces_used :
    (∀ f ∈ [usedFaceFile], FacesPlain f.sheet.items) ∧
    (∀ sh ∈ prunedSheetsOf [usedFaceFile] ([".x"].contains ·), ∀ name prelude block items,
      Item.atRule name prelude block items ∈ itemsNodes sh.items → baseName name = "font-face" →
      declares items "src" = false ∧ declares items "font-family" = true ∧
        ∃ f ∈ faceFamilies items, f ∈ (prunedSheetsOf [usedFaceFile] ([".x"].contains ·)).flatMap
          StyleSheet.usedFontFamilies) ∧
    ∀ sh ∈ pruneVariables maxVariableRounds (-1)
        ([usedFaceFile].map fun f => f.sheet.pruned ([".x"].contains ·)),
      sh.ruleCount ≠ 0 → ∃ sh' ∈ prunedSheetsOf [usedFaceFile] ([".x"].contains ·),
        ∀ name prelude block items,
        Item.atRule name prelude block items ∈ itemsNodes sh.items → baseName name = "font-face" →
        declares items "src" = true → declares items "font-family" = true →
        (∃ f ∈ faceFamilies items, f ∈ (prunedSheetsOf [usedFaceFile] ([".x"].contains ·)).flatMap
          StyleSheet.usedFontFamilies) →
        Item.atRule name prelude block (items.filter fun it => !it.declaresProperty "src") ∈
          itemsNodes sh'.items := by
  have hplain : ∀ f ∈ [usedFaceFile], FacesPlain f.sheet.items := by decide
  exact ⟨hplain, prunedSheetsOf_font_faces _ _ hplain⟩

/-- A fetcher that brings a face holding the one style rule that uses the family of another
face. -/
def faceInFaceSheets (_ : String) : Id (Except Failure String) :=
  .ok ("@font-face\x7bfont-family:B;src:url(b);.r\x7bfont-family:A\x7d\x7d" ++
    "@font-face\x7bfont-family:A;src:url(a)\x7d.x\x7bcolor:red\x7d")

/-- **A face outlives the rule that used it.** The face of `B` goes, and with it the rule it
holds, the only one that uses `A`; the face of `A` stays in the critical sheet, where no style
rule uses any family. -/
theorem prunedSheets_keeps_unused_face :
    ∃ s, runCalls faceInFaceSheets {} [.add "p" "https://s.test/a.css"] = .ok s ∧
      (s.prunedSheets ([".r", ".x"].contains ·)).map StyleSheet.css =
        ["@font-face\x7bfont-family:A\x7d.x\x7bcolor:red\x7d"] ∧
      (s.prunedSheets ([".r", ".x"].contains ·)).flatMap StyleSheet.usedFontFamilies = [] := by
  have hrun : (runCalls faceInFaceSheets {} [.add "p" "https://s.test/a.css"]).toOption.map
      (fun s => ((s.prunedSheets ([".r", ".x"].contains ·)).map StyleSheet.css,
        (s.prunedSheets ([".r", ".x"].contains ·)).flatMap StyleSheet.usedFontFamilies)) =
      some (["@font-face\x7bfont-family:A\x7d.x\x7bcolor:red\x7d"], []) := by
    decide +kernel
  cases h : runCalls faceInFaceSheets {} [.add "p" "https://s.test/a.css"] with
  | error e => simp [h, Except.toOption] at hrun
  | ok s =>
    simp only [h, Except.toOption, Option.map_some, Option.some.injEq, Prod.mk.injEq] at hrun
    exact ⟨s, rfl, hrun⟩

end Store

end CriticalCss.Generate
