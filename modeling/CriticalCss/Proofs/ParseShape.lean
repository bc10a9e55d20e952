import CriticalCss.Css.Sheet.Parse
import CriticalCss.Proofs.Shape
import Mathlib.Data.List.Forall2
import Mathlib.Data.String.Basic

/-!
# Every parsed sheet has the shape

The passes over a sheet rely on its shape (`StatementsEmpty`, `GroupsWithoutDeclarations`): no
at-rule without a block holds items, and no grouping block holds a declaration directly. Parsing
runs in two stages, and neither ensures the second part alone. The reader turns tokens into
events and keeps the stack of open blocks, choosing what a block reads by the name of its
at-rule as written; the assembler turns events into a tree and keeps a stack of open frames,
adding a declaration to whatever frame is innermost and naming an at-rule by its lower-case
name. The proof runs the two in lockstep.

* Each event moves the reader's blocks in one of a few ways (`Moves`): it opens the block it
  names, closes the innermost one, or leaves them, and a declaration is read only in a block of
  declarations. `Reader.next_moves` shows it construct by construct.
* The frames follow the blocks (`Assembly.Follows`): the frame of an at-rule whose name groups
  rules stands for a block of rules or one passed over, never one of descriptors, since no
  grouping name ends in `font-face` or `page` and neither of these ends in a grouping name
  (`isGrouping_atRuleName_of_blockOf`). So no declaration reaches such a frame. One event keeps
  the frames following (`Assembly.Follows.step`), hence every run of the reader.

## Main definitions

* `Moves`: how one event moves the open blocks of the reader.
* `FrameFor`, `Frame.Shaped`, `Assembly.Follows`: the frames of the assembler against the
  blocks of the reader.

## Main results

* `isGrouping_atRuleName_of_blockOf`: a block of descriptors is never opened by a grouping name.
* `Reader.next_moves`: every event the reader yields moves its blocks so.
* `Assembly.Follows.step`, `follows_of_assemble_eventsFrom`: the frames follow the blocks along
  every run.
* `StyleSheet.parse_shaped`: every sheet that parses has the shape.
-/

namespace CriticalCss.Css

open CriticalCss.Text

/-! ### Names of at-rules -/

/-- A block of descriptors is opened by a name that ends in `font-face` or `page`. -/
theorem exists_suffix_of_blockOf {name : String} (h : blockOf name = .descriptors) :
    ∃ U, U <:+ name.toList ∧ (U = "font-face".toList ∨ U = "page".toList) := by
  have hbody : name.toList.drop 1 <:+ name.toList := List.drop_suffix _ _
  simp only [blockOf] at h
  split at h <;> try cases h
  case h_1 heq | h_2 heq =>
    first
      | refine ⟨_, ?_, .inl (String.ofList_eq.1 heq)⟩
      | refine ⟨_, ?_, .inr (String.ofList_eq.1 heq)⟩
    -- the name without `@` and without a vendor prefix ends the name
    split
    · rename_i rest hrest
      split
      · rename_i tail htail
        have hrest' : '-' :: rest <:+ name.toList := hrest ▸ hbody
        exact (List.suffix_cons _ _).trans ((htail ▸ List.dropWhile_suffix _).trans
          ((List.suffix_cons _ _).trans hrest'))
      · exact hbody
    · exact hbody

/-- A name without its vendor prefix ends the name. -/
theorem baseName_suffix (x : String) : (baseName x).toList <:+ x.toList := by
  unfold baseName
  split
  · rename_i c rest hx
    split
    · exact List.suffix_refl _
    · split
      · rename_i tail htail
        rw [String.toList_ofList]
        have hcr : c :: rest <:+ x.toList := hx ▸ List.suffix_cons _ _
        exact (List.suffix_cons _ _).trans ((htail ▸ List.dropWhile_suffix _).trans hcr)
      · exact List.suffix_refl _
  · exact List.suffix_refl _

/-- The name of an at-rule is an end of its keyword in lower case. -/
theorem exists_suffix_atRuleName (keyword : String) :
    ∃ T, T <:+ keyword.toList ∧ (atRuleName keyword).toList = T.map lowerChar := by
  unfold atRuleName lower
  split
  · exact ⟨_, List.drop_suffix 1 _, by rw [String.toList_map, String.toList_ofList]⟩
  · exact ⟨_, List.suffix_refl _, String.toList_map⟩

/-- No name of a grouping at-rule ends a name of a descriptor block, nor the other way round. -/
theorem grouping_descriptor_not_suffix :
    ∀ W ∈ groupingAtRules, ∀ U ∈ ["font-face".toList, "page".toList],
      ¬ U <:+ W.toList ∧ ¬ W.toList <:+ U := by
  decide

/-- An at-rule that opens a block of descriptors has no grouping name, lower case, vendor
prefix and all. -/
theorem isGrouping_atRuleName_of_blockOf {name : String} (h : blockOf name = .descriptors) :
    isGrouping (atRuleName name) = false := by
  obtain ⟨U, hU, hUw⟩ := exists_suffix_of_blockOf h
  have hUl : U.map lowerChar = U := by
    rcases hUw with rfl | rfl <;> decide
  have hUmem : U ∈ ["font-face".toList, "page".toList] := by
    rcases hUw with rfl | rfl <;> simp
  rw [Bool.eq_false_iff]
  intro hg
  have hW : baseName (atRuleName name) ∈ groupingAtRules := List.elem_iff.1 hg
  obtain ⟨T, hT, hTl⟩ := exists_suffix_atRuleName name
  obtain ⟨T', hT', hWT⟩ := List.suffix_map_iff.1 (hTl ▸ baseName_suffix (atRuleName name))
  have hnot := grouping_descriptor_not_suffix _ hW U hUmem
  -- two ends of one name: the shorter ends the longer
  rcases List.suffix_or_suffix_of_suffix hU (hT'.trans hT) with hUT | hTU
  · exact hnot.1 (hWT ▸ hUl ▸ hUT.map lowerChar)
  · exact hnot.2 (hWT ▸ hUl ▸ hTU.map lowerChar)

/-! ### What an event does to the open blocks -/

/-- Whether an event adds a declaration to the innermost open block. -/
def Event.addsDeclaration : Event → Bool
  | .declaration _ _ | .customProperty _ _ => true
  | _ => false

/-- The block an event opens. -/
def Event.opens : Event → Option Block
  | .beginRule _ => some .style
  | .beginAtRule name _ => some (blockOf name)
  | _ => none

/-- Whether an event closes the innermost open block. -/
def Event.closes : Event → Bool
  | .endAtRule | .endRule => true
  | _ => false

/-- Whether declarations are read in a block: in all but a block of rules and one passed over. -/
def Block.holdsDeclarations : Block → Bool
  | .rules | .skipped => false
  | _ => true

/-- How one event moves the open blocks of the reader, innermost first. -/
inductive Moves : List Block → Event → List Block → Prop
  | opens (e : Event) (b : Block) (bs : List Block) : e.opens = some b → Moves bs e (b :: bs)
  | endAtRule (b : Block) (bs : List Block) : b ≠ .style → b ≠ .sheet → Moves (b :: bs) .endAtRule bs
  | endRule (bs : List Block) : Moves (.style :: bs) .endRule bs
  | stays (e : Event) (bs : List Block) : e.opens = none → e.closes = false →
      (e.addsDeclaration = true → ∀ b ∈ bs.head?, b.holdsDeclarations = true) → Moves bs e bs

/-- An event that neither opens nor closes a block nor adds a declaration leaves the blocks. -/
theorem Moves.plain (e : Event) (bs : List Block) (ho : e.opens = none) (hc : e.closes = false)
    (hd : e.addsDeclaration = false) : Moves bs e bs :=
  .stays e bs ho hc fun h => absurd (hd ▸ h) Bool.false_ne_true

/-- Moves from blocks equal to the reader's: the form in which a construct read with the tokens
changed is cited. -/
theorem Moves.of_blocks_eq {bs cs bs' : List Block} {e : Event} (h : Moves bs e bs') (hb : bs = cs) :
    Moves cs e bs' :=
  hb ▸ h

/-- An outcome opens the block its event opens and closes none; it carries a declaration only
where `decl` allows one. -/
structure Outcome.Fits (decl : Bool) (o : Outcome) : Prop where
  opens : o.opens = o.event.opens
  closes : o.event.closes = false
  declaration : o.event.addsDeclaration = true → decl = true

theorem Reader.apply_moves (r : Reader) {o : Outcome} {decl : Bool} (toks : List Located)
    (ho : o.Fits decl) (hd : decl = true → ∀ b ∈ r.blocks.head?, b.holdsDeclarations = true) :
    Moves r.blocks (r.apply o toks).1 (r.apply o toks).2.blocks := by
  simp only [Reader.apply]
  rw [ho.opens]
  cases h : o.event.opens with
  | some b => exact .opens _ _ _ h
  | none => exact .stays _ _ h ho.closes fun ha => hd (ho.declaration ha)

/-! ### Constructs read token by token -/

section Feed

variable {σ α : Type} {step : σ → Located → Bool → Bool → Step σ α} {atEnd : σ → α}

/-- What holds of every result of a step that is done and of every result at the end of the
input holds of the result of feeding tokens. -/
theorem feed_result (P : α → Prop) (hstep : ∀ {s l b c a}, step s l b c = .done a → P a)
    (hend : ∀ s, P (atEnd s)) (s : σ) (b c : Bool) (toks : List Located) :
    P (feed step atEnd s b c toks).1 := by
  fun_induction feed step atEnd s b c toks with
  | case1 s => exact hend s
  | case2 _ _ _ _ _ _ ih => exact ih
  | case3 _ _ _ _ _ _ ih => exact ih
  | case4 _ _ _ _ _ _ _ _ _ ih => exact ih
  | case5 _ _ _ _ _ _ h => exact hstep h

theorem feedFrom_result (P : α → Prop) (hstep : ∀ {s l b c a}, step s l b c = .done a → P a)
    (hend : ∀ s, P (atEnd s)) (s : σ) (first : Option Located) (blank : Bool)
    (toks : List Located) : P (feedFrom step atEnd s first blank toks).1 := by
  unfold feedFrom
  split
  · exact hend s
  · split
    · exact feed_result P hstep hend _ _ _ _
    · rename_i h
      exact hstep h

end Feed

theorem selectorStep_fits {s : SelectorState} {l : Located} {b c : Bool} {o : Outcome}
    (h : selectorStep s l b c = .done o) : o.Fits false := by
  simp only [selectorStep] at h
  split at h
  · cases h; exact ⟨rfl, rfl, nofun⟩
  split at h
  · cases h; exact ⟨rfl, rfl, nofun⟩
  split at h
  · cases h; exact ⟨rfl, rfl, nofun⟩
  · cases h

theorem nestedSelectorStep_fits {s : SelectorState} {l : Located} {b c : Bool} {o : Outcome}
    (h : nestedSelectorStep s l b c = .done o) : o.Fits false := by
  simp only [nestedSelectorStep] at h
  split at h
  · cases h; exact ⟨rfl, rfl, nofun⟩
  split at h
  · cases h; exact ⟨rfl, rfl, nofun⟩
  · cases h

theorem preludeStep_fits {name : String} {s : PreludeState} {l : Located} {b c : Bool} {o : Outcome}
    (h : preludeStep name s l b c = .done o) : o.Fits false := by
  simp only [preludeStep] at h
  split at h
  · cases h; exact ⟨rfl, rfl, nofun⟩
  split at h
  · cases h; exact ⟨rfl, rfl, nofun⟩
  · cases h

theorem skipStep_fits {message : String} {offset : Nat} {s : SkipState} {l : Located} {b c : Bool}
    {o : Outcome} (decl : Bool) (h : skipStep message offset s l b c = .done o) : o.Fits decl := by
  simp only [skipStep] at h
  split at h
  · cases h; exact ⟨rfl, rfl, nofun⟩
  · cases h

theorem valueStep_fits {name : String} {s : ValueState} {l : Located} {b c : Bool} {o : Outcome}
    (h : valueStep name s l b c = .done (some o)) : o.Fits true := by
  simp only [valueStep] at h
  split at h
  · cases h; exact ⟨rfl, rfl, fun _ => rfl⟩
  split at h
  · cases h
  · cases h

theorem skipDeclaration_fits (decl : Bool) {message : String} {offset : Nat} {level : Int}
    {kept : Array Token} {first : Option Located} {blank : Bool} {toks toks' : List Located}
    {o : Outcome} (h : skipDeclaration message offset level kept first blank toks = (o, toks')) :
    o.Fits decl := by
  have hfits : (skipDeclaration message offset level kept first blank toks).1.Fits decl := by
    refine feedFrom_result _ (skipStep_fits decl) ?_ _ _ _ _
    intro s
    exact ⟨rfl, rfl, nofun⟩
  rwa [h] at hfits

/-! ### Each construct of the reader -/

namespace Reader

theorem atRule_moves (r : Reader) (l : Located) :
    Moves r.blocks (r.atRule l).1 (r.atRule l).2.blocks := by
  dsimp only [Reader.atRule]
  refine r.apply_moves _ (feed_result _ preludeStep_fits ?_ _ _ _ _) nofun
  intro s
  exact ⟨rfl, rfl, nofun⟩

theorem qualifiedRule_moves (r : Reader) (l : Located) :
    Moves r.blocks (r.qualifiedRule l).1 (r.qualifiedRule l).2.blocks := by
  dsimp only [Reader.qualifiedRule]
  refine r.apply_moves _ (feedFrom_result _ selectorStep_fits ?_ _ _ _ _) nofun
  intro s
  exact ⟨rfl, rfl, nofun⟩

theorem nestedRule_moves (r : Reader) (l : Located) :
    Moves r.blocks (r.nestedRule l).1 (r.nestedRule l).2.blocks := by
  dsimp only [Reader.nestedRule]
  refine r.apply_moves _ (feed_result _ nestedSelectorStep_fits ?_ _ _ _ _) nofun
  intro s
  exact ⟨rfl, rfl, nofun⟩

section Declarations

variable (r : Reader) (hd : ∀ b ∈ r.blocks.head?, b.holdsDeclarations = true)
include hd

theorem declaration_go_moves (name : String) (nameKept : Array Token) (s : ValueState) (b c : Bool)
    (toks : List Located) :
    Moves r.blocks (declaration.go r name nameKept s b c toks).1
      (declaration.go r name nameKept s b c toks).2.blocks := by
  fun_induction declaration.go r name nameKept s b c toks with
  | case1 s b c => exact r.apply_moves _ ⟨rfl, rfl, fun _ => rfl⟩ fun _ => hd
  | case2 _ _ _ _ _ _ ih => exact ih
  | case3 _ _ _ _ _ _ ih => exact ih
  | case4 _ _ _ _ _ _ _ _ _ ih => exact ih
  | case5 _ _ _ _ _ o h => exact r.apply_moves _ (valueStep_fits h) fun _ => hd
  | case6 _ _ _ _ _ _ _ _ hskip => exact r.apply_moves _ (skipDeclaration_fits true hskip) fun _ => hd

theorem declaration_moves (l : Located) :
    Moves r.blocks (r.declaration l).1 (r.declaration l).2.blocks := by
  dsimp only [Reader.declaration]
  split
  · exact r.apply_moves _ (skipDeclaration_fits true (Prod.eta _).symm) fun _ => hd
  · exact declaration_go_moves r hd _ _ _ _ _ _

theorem customProperty_moves (l : Located) :
    Moves r.blocks (r.customProperty l).1 (r.customProperty l).2.blocks := by
  dsimp only [Reader.customProperty]
  split
  · exact r.apply_moves _ ⟨rfl, rfl, fun _ => rfl⟩ fun _ => hd
  · exact r.apply_moves _ ⟨rfl, rfl, fun _ => rfl⟩ fun _ => hd

theorem declarationItem_moves (cur : Option Located) (blank : Bool) :
    Moves r.blocks (r.declarationItem cur blank).1 (r.declarationItem cur blank).2.blocks := by
  dsimp only [Reader.declarationItem]
  rcases passSemicolons cur blank r.rest with ⟨cur, blank, toks⟩
  rcases cur with _ | l
  · exact .plain _ _ rfl rfl rfl
  simp only
  -- a leading `*` is joined to the token after it; either way only the tokens change
  by_cases hstar : (l.token.kind == TokenKind.delim && l.token.text == "*") = true
  case' pos =>
    rw [if_pos hstar]
    rcases popToken false toks with ⟨t, b, toks'⟩
    rcases t with _ | m
    · exact .plain _ _ rfl rfl rfl
    simp only
  case' neg =>
    rw [if_neg hstar]
    simp only
  -- the item is read from its first token with the open blocks unchanged
  all_goals
    split
    · exact (atRule_moves _ _).of_blocks_eq rfl
    · split
      · exact (nestedRule_moves _ _).of_blocks_eq rfl
      · refine (declaration_moves _ ?_ _).of_blocks_eq rfl
        exact hd
    · split
      · exact (nestedRule_moves _ _).of_blocks_eq rfl
      · refine (declaration_moves _ ?_ _).of_blocks_eq rfl
        exact hd
    · refine (customProperty_moves _ ?_ _).of_blocks_eq rfl
      exact hd
    · split
      · exact .plain _ _ rfl rfl rfl
      · refine (Reader.apply_moves _ _ ?_ fun (_ : true = true) => ?_).of_blocks_eq rfl
        · exact skipDeclaration_fits true (Prod.eta _).symm
        · exact hd

end Declarations

theorem next_moves (r : Reader) : Moves r.blocks r.next.1 r.next.2.blocks := by
  dsimp only [Reader.next]
  -- the first token is a closing brace taken up or the next one read: only the tokens change
  by_cases hp : r.pendingEnd = true
  case' pos => rw [if_pos hp]
  case' neg => rw [if_neg hp]
  -- then each innermost block reads its own constructs, or ends
  all_goals
    simp only
    rcases hb : r.blocks with _ | ⟨_ | _ | _ | _ | _, bs⟩ <;> simp only <;> repeat' split
  all_goals first
    | exact .endAtRule _ _ nofun nofun
    | exact .endRule _
    | exact .plain _ _ rfl rfl rfl
    | exact (atRule_moves _ _).of_blocks_eq rfl
    | exact (qualifiedRule_moves _ _).of_blocks_eq rfl
    | exact (declarationItem_moves _ (by simp [Block.holdsDeclarations]) _ _).of_blocks_eq rfl
    | exact (customProperty_moves _ (by simp [Block.holdsDeclarations]) _).of_blocks_eq rfl

end Reader

/-! ### The frames of the assembler -/

/-- Whether a frame is the block of a grouping at-rule. -/
def FrameKind.grouping : FrameKind → Bool
  | .atRule name _ => isGrouping name
  | _ => false

/-- The frame the assembler keeps for an open block of the reader: the sheet for the sheet, a
rule for a style block, and an at-rule for the others, where a grouping at-rule's block reads
no declarations. -/
def FrameFor : FrameKind → Block → Prop
  | .sheet, b => b = .sheet
  | .rule _, b => b = .style
  | .atRule name _, b =>
    b ≠ .sheet ∧ b ≠ .style ∧ (isGrouping name = true → b.holdsDeclarations = false)

/-- The items of a frame have the shape of a parsed sheet, and a grouping at-rule's frame holds
no declaration directly. -/
structure Frame.Shaped (f : Frame) : Prop where
  statements : StatementsEmpty f.items.toList
  groups : GroupsWithoutDeclarations f.items.toList
  direct : f.kind.grouping = true → ∀ it ∈ f.items.toList, it.isDeclaration = false

theorem Frame.Shaped.push {f : Frame} {it : Item} (hf : f.Shaped) (hs : StatementsEmpty [it])
    (hg : GroupsWithoutDeclarations [it]) (hd : f.kind.grouping = true → it.isDeclaration = false) :
    { f with items := f.items.push it }.Shaped where
  statements := by
    rw [Array.toList_push]
    exact hf.statements.append hs
  groups := by
    rw [Array.toList_push]
    exact hf.groups.append hg
  direct := by
    intro hgr x hx
    rw [Array.toList_push, List.mem_append, List.mem_singleton] at hx
    rcases hx with hx | rfl
    · exact hf.direct hgr x hx
    · exact hd hgr

/-- A closed frame becomes an item of the shape, and not a declaration. -/
theorem Frame.Shaped.toItem {f : Frame} {it : Item} (hf : f.Shaped) (h : f.toItem? = some it) :
    StatementsEmpty [it] ∧ GroupsWithoutDeclarations [it] ∧ it.isDeclaration = false := by
  unfold Frame.toItem? at h
  split at h
  · cases h
  · cases h
    exact ⟨statementsEmpty_singleton.2 ⟨rfl, hf.statements⟩,
      groupsWithoutDeclarations_singleton.2 ⟨rfl, hf.groups⟩, rfl⟩
  · rename_i name prelude hk
    cases h
    -- the block of a grouping at-rule holds no declaration directly
    have hdirect : (!isGrouping name || !f.items.toList.any Item.isDeclaration) = true := by
      cases hg : isGrouping name with
      | false => rfl
      | true =>
        have hgr : f.kind.grouping = true := by rw [hk]; exact hg
        simp only [Bool.not_true, Bool.false_or, Bool.not_eq_true', List.any_eq_false]
        exact fun y hy => by simp [hf.direct hgr y hy]
    exact ⟨statementsEmpty_singleton.2 ⟨rfl, hf.statements⟩,
      groupsWithoutDeclarations_singleton.2 ⟨hdirect, hf.groups⟩, rfl⟩

theorem Frame.Shaped.congr {f f' : Frame} (hf : f.Shaped) (hk : f'.kind = f.kind)
    (hi : f'.items = f.items) : f'.Shaped where
  statements := hi ▸ hf.statements
  groups := hi ▸ hf.groups
  direct := hk ▸ hi ▸ hf.direct

theorem Frame.Shaped.empty (kind : FrameKind) : ({ kind } : Frame).Shaped where
  statements := nofun
  groups := nofun
  direct := fun _ _ => nofun

/-- An item without a block that each shape allows. -/
theorem leaf_shaped {it : Item} (hc : it.children = []) (hs : it.statementEmpty = true)
    (hg : it.groupWithoutDeclarations = true) :
    StatementsEmpty [it] ∧ GroupsWithoutDeclarations [it] :=
  ⟨statementsEmpty_singleton.2 ⟨hs, hc ▸ nofun⟩, groupsWithoutDeclarations_singleton.2 ⟨hg, hc ▸ nofun⟩⟩

theorem FrameFor.holdsDeclarations {k : FrameKind} {b : Block} (h : FrameFor k b)
    (hg : k.grouping = true) : b.holdsDeclarations = false := by
  cases k with
  | sheet => cases hg
  | rule _ => cases hg
  | atRule name _ => exact h.2.2 hg

theorem blockOf_cases (name : String) :
    blockOf name = .descriptors ∨ blockOf name = .rules ∨ blockOf name = .skipped := by
  simp only [blockOf]
  split <;> simp

theorem frameFor_blockOf (name prelude : String) :
    FrameFor (.atRule (atRuleName name) prelude) (blockOf name) := by
  rcases blockOf_cases name with h | h | h <;> rw [h]
  · -- a block of descriptors is never opened by a grouping name
    refine ⟨nofun, nofun, fun hg => ?_⟩
    rw [isGrouping_atRuleName_of_blockOf h] at hg
    cases hg
  · exact ⟨nofun, nofun, fun _ => rfl⟩
  · exact ⟨nofun, nofun, fun _ => rfl⟩

/-- The frames of the assembler follow the open blocks of the reader, the sheet at the bottom
of both, and every frame has the shape. -/
structure Assembly.Follows (a : Assembly) (bs : List Block) : Prop where
  frames : List.Forall₂ (fun f b => FrameFor f.kind b) a.frames bs
  bottom : bs.getLast? = some .sheet
  shaped : ∀ f ∈ a.frames, f.Shaped

namespace Assembly

variable {a : Assembly} {bs : List Block}

/-- The invariant reads only the frames. -/
theorem Follows.of_frames_eq {a' : Assembly} (h : a.Follows bs) (he : a'.frames = a.frames) :
    a'.Follows bs :=
  ⟨he ▸ h.frames, h.bottom, he ▸ h.shaped⟩

theorem Follows.modifyTop (h : a.Follows bs) {g : Frame → Frame} (hk : ∀ f, (g f).kind = f.kind)
    (hs : ∀ f b, FrameFor f.kind b → bs.head? = some b → f.Shaped → (g f).Shaped) :
    (a.modifyTop g).Follows bs := by
  obtain ⟨frames, errors, strikes⟩ := a
  obtain ⟨hfr, hbot, hsh⟩ := h
  cases hfr with
  | nil => simp at hbot
  | @cons top b rest bs' hb hrest =>
    refine ⟨.cons ((hk top).symm ▸ hb) hrest, hbot, ?_⟩
    intro f hf
    rcases List.mem_cons.1 hf with rfl | hf
    · exact hs top b hb rfl (hsh top List.mem_cons_self)
    · exact hsh f (List.mem_cons_of_mem _ hf)

theorem Follows.add (h : a.Follows bs) {it : Item}
    (hit : StatementsEmpty [it] ∧ GroupsWithoutDeclarations [it])
    (hd : it.isDeclaration = true → ∀ b ∈ bs.head?, b.holdsDeclarations = true) :
    (a.add it).Follows bs := by
  refine h.modifyTop (fun _ => rfl) fun f b hb hhead hf => hf.push hit.1 hit.2 fun hgr => ?_
  -- a declaration goes only to a block that reads declarations, never a grouping one
  cases hdecl : it.isDeclaration with
  | false => rfl
  | true =>
    have := hd hdecl b hhead
    rw [hb.holdsDeclarations hgr] at this
    cases this

theorem Follows.close (h : a.Follows (b :: bs)) (hb : b ≠ .sheet) : a.close.Follows bs := by
  obtain ⟨frames, errors, strikes⟩ := a
  obtain ⟨hfr, hbot, hsh⟩ := h
  cases hfr with
  | @cons top _ rest _ htop hrest =>
    cases hrest with
    | nil => simp at hbot; exact absurd hbot hb
    | @cons parent b' rest' bs' hparent hrest' =>
      -- the innermost frame is no sheet, so it becomes an item of its parent
      have hsome : ∃ it, top.toItem? = some it := by
        unfold Frame.toItem?
        split
        · rename_i hk; rw [hk] at htop; exact absurd htop hb
        · exact ⟨_, rfl⟩
        · exact ⟨_, rfl⟩
      obtain ⟨it, hit⟩ := hsome
      obtain ⟨hs, hg, hd⟩ := (hsh top List.mem_cons_self).toItem hit
      simp only [Assembly.close, hit]
      refine ⟨.cons hparent hrest', by simpa using hbot, ?_⟩
      intro f hf
      rcases List.mem_cons.1 hf with rfl | hf
      · exact (hsh parent (by simp)).push hs hg fun _ => hd
      · exact hsh f (by simp [hf])

theorem Follows.endedBy_endAtRule (h : a.Follows (b :: bs)) (hs : b ≠ .style) (hsh : b ≠ .sheet) :
    a.endedBy .endAtRule = true := by
  obtain ⟨frames, errors, strikes⟩ := a
  obtain ⟨hfr, -, -⟩ := h
  cases hfr with
  | @cons top _ rest _ htop _ =>
    obtain ⟨kind, items, pending⟩ := top
    cases kind with
    | sheet => exact absurd htop hsh
    | rule _ => exact absurd htop hs
    | atRule _ _ => rfl

theorem Follows.endedBy_endRule (h : a.Follows (.style :: bs)) : a.endedBy .endRule = true := by
  obtain ⟨frames, errors, strikes⟩ := a
  obtain ⟨hfr, -, -⟩ := h
  cases hfr with
  | @cons top _ rest _ htop _ =>
    obtain ⟨kind, items, pending⟩ := top
    cases kind with
    | sheet => cases htop
    | rule _ => rfl
    | atRule _ _ => exact absurd rfl htop.2.1

theorem Follows.push (h : a.Follows bs) {f : Frame} {b : Block} (hf : FrameFor f.kind b)
    (hs : f.Shaped) : ({ a with frames := f :: a.frames } : Assembly).Follows (b :: bs) where
  frames := .cons hf h.frames
  bottom := by
    obtain ⟨-, hbot, -⟩ := h
    cases bs with
    | nil => simp at hbot
    | cons _ _ => simpa using hbot
  shaped := by
    intro g hg
    rcases List.mem_cons.1 hg with rfl | hg
    · exact hs
    · exact h.shaped g hg

/-- One event keeps the frames following the reader's blocks. -/
theorem Follows.step (h : a.Follows bs) {e : Event} {bs' : List Block} (hm : Moves bs e bs') :
    (a.step e).Follows bs' := by
  cases hm with
  | opens e b _ ho =>
    cases e <;> cases ho
    · -- the block of an at-rule
      exact h.push (frameFor_blockOf _ _) (Frame.Shaped.empty _)
    · -- a style rule, its selectors taken from the enclosing frame
      obtain ⟨frames, errors, strikes⟩ := a
      obtain ⟨hfr, hbot, hsh⟩ := h
      cases hfr with
      | nil => simp at hbot
      | @cons top b rest bs' htop hrest =>
        simp only [Assembly.step]
        refine ⟨.cons rfl (.cons htop hrest), by simpa using hbot, ?_⟩
        intro f hf
        simp only [List.mem_cons] at hf
        rcases hf with rfl | rfl | hf
        · exact Frame.Shaped.empty _
        · exact (hsh top List.mem_cons_self).congr rfl rfl
        · exact hsh f (List.mem_cons_of_mem _ hf)
  | endAtRule b _ hs hsh =>
    simp only [Assembly.step, h.endedBy_endAtRule hs hsh, if_true]
    exact h.close hsh
  | endRule _ =>
    simp only [Assembly.step, h.endedBy_endRule, if_true]
    exact h.close nofun
  | stays e _ ho hc hd =>
    cases e <;> simp only [Event.opens, Event.closes, reduceCtorEq] at ho hc
    case comment => exact h.add (leaf_shaped rfl rfl rfl) nofun
    case atRule => exact h.add (leaf_shaped rfl rfl rfl) nofun
    case selectors => exact h.modifyTop (fun _ => rfl) fun _ _ _ _ hf => hf.congr rfl rfl
    case declaration => exact h.add (leaf_shaped rfl rfl rfl) fun _ => hd rfl
    case customProperty => exact h.add (leaf_shaped rfl rfl rfl) fun _ => hd rfl
    -- a token passed over, an error or the end leaves the frames
    all_goals exact h

/-- Closing every open frame leaves items of the shape. -/
theorem finish_go_shaped (frames : List Frame) (h : ∀ f ∈ frames, f.Shaped) :
    StatementsEmpty (finish.go frames) ∧ GroupsWithoutDeclarations (finish.go frames) := by
  induction frames using finish.go.induct with
  | case1 =>
    rw [finish.go]
    exact ⟨nofun, nofun⟩
  | case2 f =>
    have hf := h f List.mem_cons_self
    rw [finish.go]
    exact ⟨hf.statements, hf.groups⟩
  | case3 f parent rest it hit ih =>
    rw [finish.go, hit]
    obtain ⟨hs, hg, hd⟩ := (h f List.mem_cons_self).toItem hit
    refine ih fun g hg' => ?_
    rcases List.mem_cons.1 hg' with rfl | hg'
    · exact (h parent (by simp)).push hs hg fun _ => hd
    · exact h g (by simp [hg'])
  | case4 f parent rest hit ih =>
    rw [finish.go, hit]
    exact ih fun g hg => h g (List.mem_cons_of_mem _ hg)

end Assembly

theorem Moves.error_eq {bs bs' : List Block} {m : String} {o : Nat} {w : List Token}
    (h : Moves bs (.error m o w) bs') : bs' = bs := by
  cases h with
  | opens _ _ _ ho => cases ho
  | stays => rfl

/-- Along every run of the reader, the assembler's frames follow the open blocks. -/
theorem follows_of_assemble_eventsFrom {source : String} (n : Nat) :
    ∀ (r : Reader) (a a' : Assembly), a.Follows r.blocks →
      assemble source (eventsFrom n r) a = .ok a' → ∃ bs, a'.Follows bs := by
  induction n with
  | zero =>
    intro r a a' h hrun
    cases hrun
    exact ⟨_, h⟩
  | succ n ih =>
    intro r a a' h hrun
    have hm := r.next_moves
    rcases hnext : r.next with ⟨e, r'⟩
    rw [hnext] at hm
    simp only [eventsFrom, hnext] at hrun
    cases e
    case finish =>
      cases hrun
      exact ⟨_, h⟩
    case error m o w =>
      -- an error clears the pending selectors, or gives up
      simp only [Css.assemble] at hrun
      split at hrun
      · cases hrun
      · refine ih r' _ a' ?_ hrun
        rw [hm.error_eq]
        refine Assembly.Follows.modifyTop (h.of_frames_eq ?_) (fun _ => ?_) ?_
        · rfl
        · rfl
        · exact fun _ _ _ _ hf => hf.congr rfl rfl
    all_goals
      simp only [Css.assemble] at hrun
      refine ih r' _ a' ((h.of_frames_eq ?_).step hm) hrun
      rfl

/-- Every sheet that parses has the shape: no at-rule without a block holds items, and no
grouping block holds a declaration directly. -/
theorem StyleSheet.parse_shaped {source : String} {s : StyleSheet}
    (h : StyleSheet.parse source = .ok s) : StatementsEmpty s.items ∧ GroupsWithoutDeclarations s.items := by
  simp only [StyleSheet.parse] at h
  cases hrun : assemble source (events source) {} with
  | error e => rw [hrun] at h; cases h
  | ok a =>
    rw [hrun] at h
    cases h
    have hstart : ({} : Assembly).Follows [.sheet] :=
      ⟨.cons rfl .nil, rfl, fun f hf => by simp at hf; subst hf; exact Frame.Shaped.empty _⟩
    obtain ⟨bs, hbs⟩ := follows_of_assemble_eventsFrom _ _ _ a hstart hrun
    exact Assembly.finish_go_shaped _ hbs.shaped

end CriticalCss.Css
