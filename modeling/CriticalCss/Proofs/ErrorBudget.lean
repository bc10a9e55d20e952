import CriticalCss.Proofs.ParseShape
import Mathlib.Data.List.TakeWhile

/-!
# Reading ends, and gives up only after errors in a row

The events of a text are read with a fuel of three events for each token and three more. The
fuel never runs out: every event but the last lowers the reader's work (`Reader.work`), three
for each token left, one for each open block and one for a closing brace still to end its
block. A construct may open a block and keep a closing brace, but it reads a token first, so
the three a token is worth pay for both.

The assembler counts errors in a row and gives up at the `maxStrikes`-th; any other event
starts the count again. So a sheet fails to parse exactly when its events hold that many errors
in a row, and otherwise its errors are those its events report, in order.

## Main definitions

* `Reader.work`: the events the reader may still need.
* `ErrorRun n evs`: `n` error events in a row among `evs`.
* `Event.parseError?`: the parse error an event reports.

## Main results

* `Reader.next_work`: every event but the end of the input lowers the work.
* `eventsFrom_eq_append_finish`: with more fuel than work, reading ends with `finish`.
* `assemble_fails_iff`, `assemble_errors`: the assembler against the errors of its events.
* `StyleSheet.parse_error_budget`: reading ends; parsing fails exactly after `maxStrikes` errors
  in a row, and otherwise reports the errors of the events in order.
-/

namespace CriticalCss.Css

/-! ### The reader's work -/

/-- What an outcome leaves beyond its tokens: the block it opens and the closing brace it keeps. -/
def Outcome.extra (o : Outcome) : Nat := o.opens.isSome.toNat + o.pendingEnd.toNat

theorem Outcome.extra_le (o : Outcome) : o.extra ≤ 2 := by
  have h₁ := Bool.toNat_le o.opens.isSome
  have h₂ := Bool.toNat_le o.pendingEnd
  unfold Outcome.extra
  omega

namespace Reader

/-- The events the reader may still need: three for each token left, one for each open block,
and one for a closing brace still to end its block. -/
def work (r : Reader) : Nat := 3 * r.rest.length + r.blocks.length + r.pendingEnd.toNat

/-- A construct read from `r` leaves no more work than `r`'s tokens and blocks, and two. -/
def Within (r r' : Reader) : Prop := r'.work ≤ 3 * r.rest.length + r.blocks.length + 2

theorem apply_work (r : Reader) (o : Outcome) (toks : List Located) :
    (r.apply o toks).2.work = 3 * toks.length + r.blocks.length + o.extra := by
  simp only [apply, work, Outcome.extra]
  cases o.opens <;> simp
  omega

theorem within_apply (r : Reader) {o : Outcome} {toks : List Located}
    (h : 3 * toks.length + o.extra ≤ 3 * r.rest.length + 2) : Within r (r.apply o toks).2 := by
  unfold Within
  rw [apply_work]
  omega

theorem within_self (r : Reader) : Within r r := by
  have := Bool.toNat_le r.pendingEnd
  unfold Within work
  omega

theorem close_within (r : Reader) (e : Event) : Within r (r.close e).2 := by
  have := Bool.toNat_le r.pendingEnd
  simp only [Within, close, work, List.length_tail]
  omega

/-- A construct read after some tokens were passed over is read within the reader before. -/
theorem Within.of_rest {r r₁ r' : Reader} (h : Within r₁ r') (hb : r₁.blocks = r.blocks)
    (hl : r₁.rest.length ≤ r.rest.length) : Within r r' := by
  unfold Within at *
  rw [hb] at h
  omega

/-- A construct read after a token lowers the work. -/
theorem Within.work_lt {r r₁ r' : Reader} (h : Within r₁ r') (hb : r₁.blocks = r.blocks)
    (hl : r₁.rest.length < r.rest.length) : r'.work < r.work := by
  unfold Within at h
  rw [hb] at h
  have hw : r.work = 3 * r.rest.length + r.blocks.length + r.pendingEnd.toNat := rfl
  omega

end Reader

/-! ### Tokens passed over -/

/-- A token found is read off the rest. -/
theorem popToken_rest {k b : Bool} {ls toks : List Located} {t : Option Located}
    (h : popToken k ls = (t, b, toks)) : toks.length + t.isSome.toNat ≤ ls.length := by
  have hl : (popToken k ls).2.2.length + (popToken k ls).1.isSome.toNat ≤ ls.length := by
    clear h
    fun_induction popToken k ls <;> simp_all <;> omega
  rwa [h] at hl

/-- No token is found only at the end of the input. -/
theorem popToken_none {k b : Bool} {ls toks : List Located} (h : popToken k ls = (none, b, toks)) :
    toks = [] := by
  have hn : (popToken k ls).1 = none → (popToken k ls).2.2 = [] := by
    clear h
    fun_induction popToken k ls <;> simp_all
  simpa [h] using hn

theorem passSemicolons_rest {cur cur' : Option Located} {blank blank' : Bool}
    {toks toks' : List Located} (h : passSemicolons cur blank toks = (cur', blank', toks')) :
    toks'.length ≤ toks.length := by
  have hskip : ∀ b ls, (skipSemicolons b ls).2.2.length ≤ ls.length := by
    intro b ls
    clear h
    fun_induction skipSemicolons b ls <;> simp_all <;> omega
  have hl : (passSemicolons cur blank toks).2.2.length ≤ toks.length := by
    unfold passSemicolons
    split
    · split
      · exact hskip _ _
      · exact Nat.le_refl _
    · exact Nat.le_refl _
  rwa [h] at hl

theorem rawValue_rest {level level' : Int} {acc value : String} {pendingEnd : Bool}
    {ls toks : List Located} (h : rawValue level acc ls = (value, level', pendingEnd, toks)) :
    toks.length ≤ ls.length := by
  have hl : (rawValue level acc ls).2.2.2.length ≤ ls.length := by
    clear h
    fun_induction rawValue level acc ls <;> simp_all
    omega
  rwa [h] at hl

section Feed

variable {σ : Type} {step : σ → Located → Bool → Bool → Step σ Outcome}
  {atEnd : σ → Outcome}

/-- Feeding tokens leaves at most the work of the tokens it started from: each step that is done
has read a token, and the end of the input opens nothing. -/
theorem feed_work (hend : ∀ s, (atEnd s).extra = 0) (s : σ) (b c : Bool) (toks : List Located) :
    3 * (feed step atEnd s b c toks).2.length + (feed step atEnd s b c toks).1.extra ≤
      3 * toks.length := by
  fun_induction feed step atEnd s b c toks with
  | case1 s => simp [hend]
  | case2 _ _ _ _ _ _ ih => simp only [List.length_cons]; omega
  | case3 _ _ _ _ _ _ ih => simp only [List.length_cons]; omega
  | case4 _ _ _ _ _ _ _ _ _ ih => simp only [List.length_cons]; omega
  | case5 _ _ _ _ _ a _ _ _ =>
    have := a.extra_le
    simp only [List.length_cons]
    omega

theorem feedFrom_work (hend : ∀ s, (atEnd s).extra = 0) (s : σ) (first : Option Located)
    (blank : Bool) (toks : List Located) :
    3 * (feedFrom step atEnd s first blank toks).2.length +
      (feedFrom step atEnd s first blank toks).1.extra ≤ 3 * toks.length + 2 := by
  unfold feedFrom
  split
  · simp [hend]
  · split
    next s' _ =>
      have := @feed_work σ step atEnd hend s' false false toks
      omega
    next a _ =>
      have := a.extra_le
      simp only
      omega

end Feed

theorem skipDeclaration_work {message : String} {offset : Nat} {level : Int} {kept : Array Token}
    {first : Option Located} {blank : Bool} {toks toks' : List Located} {o : Outcome}
    (h : skipDeclaration message offset level kept first blank toks = (o, toks')) :
    3 * toks'.length + o.extra ≤ 3 * toks.length + 2 := by
  unfold skipDeclaration at h
  have := @feedFrom_work _ (skipStep message offset)
    (fun s => { event := .error message offset s.kept.toList, level := s.level })
    (fun _ => rfl) { level, kept } first blank toks
  rwa [h] at this

/-! ### Each construct of the reader -/

namespace Reader

theorem qualifiedRule_within (r : Reader) (l : Located) : Within r (r.qualifiedRule l).2 := by
  dsimp only [qualifiedRule]
  exact r.within_apply (feedFrom_work (fun _ => rfl) _ _ _ _)

theorem nestedRule_within (r : Reader) (l : Located) : Within r (r.nestedRule l).2 := by
  dsimp only [nestedRule]
  exact r.within_apply (Nat.le_trans (feed_work (fun _ => rfl) _ _ _ _) (Nat.le_add_right _ 2))

theorem atRule_within (r : Reader) (l : Located) : Within r (r.atRule l).2 := by
  dsimp only [atRule]
  exact r.within_apply (Nat.le_trans (feed_work (fun _ => rfl) _ _ _ _) (Nat.le_add_right _ 2))

/-- A closing brace taken up at the top level is an error, or a token of a selector after which
at least one more is read. -/
theorem qualifiedRule_rightBrace_work (r : Reader) (p : Nat) :
    (r.qualifiedRule ⟨rightBraceToken, p⟩).2.work ≤ 3 * r.rest.length + r.blocks.length := by
  dsimp only [qualifiedRule, feedFrom]
  by_cases hl : r.level = 0
  · simp [selectorStep, rightBraceToken, TokenKind.closes, hl, apply_work, Outcome.extra]
  · have := @feed_work _ selectorStep (selectorAtEnd r.size) (fun _ => rfl)
      { level := levelAfter r.level .rightBrace, skipBlank := false, kept := #[rightBraceToken] }
      false false r.rest
    simp [selectorStep, rightBraceToken, TokenKind.closes, hl, apply_work] at this ⊢
    omega

theorem declaration_go_work (r : Reader) (name : String) (nameKept : Array Token) (s : ValueState)
    (b c : Bool) (toks : List Located) :
    (declaration.go r name nameKept s b c toks).2.work ≤ 3 * toks.length + r.blocks.length := by
  fun_induction declaration.go r name nameKept s b c toks with
  | case1 => simp [apply_work, Outcome.extra]
  | case2 _ _ _ _ _ _ ih => simp only [List.length_cons]; omega
  | case3 _ _ _ _ _ _ ih => simp only [List.length_cons]; omega
  | case4 _ _ _ _ _ _ _ _ _ ih => simp only [List.length_cons]; omega
  | case5 _ _ _ _ _ o _ =>
    have := o.extra_le
    simp only [apply_work, List.length_cons]
    omega
  | case6 _ _ _ _ _ _ _ _ hskip =>
    have := skipDeclaration_work hskip
    simp only [apply_work, List.length_cons]
    omega

theorem declaration_within (r : Reader) (l : Located) : Within r (r.declaration l).2 := by
  unfold declaration
  rcases hp : popToken false r.rest with ⟨colon, blank, toks⟩
  have hl := popToken_rest hp
  dsimp only
  split
  · exact r.within_apply (Nat.le_trans (skipDeclaration_work (Prod.eta _).symm) (by omega))
  · unfold Within
    exact Nat.le_trans (declaration_go_work ..) (by omega)

theorem customProperty_within (r : Reader) (l : Located) : Within r (r.customProperty l).2 := by
  unfold customProperty
  rcases hp : popToken false r.rest with ⟨colon, blank, toks⟩
  have hl := popToken_rest hp
  dsimp only
  split
  · exact r.within_apply (by simp [Outcome.extra]; omega)
  · rcases hv : rawValue r.level "" toks with ⟨value, level, pendingEnd, toks'⟩
    have hl' := rawValue_rest hv
    have := Bool.toNat_le pendingEnd
    exact r.within_apply (by simp [Outcome.extra]; omega)

theorem declarationItem_within (r : Reader) (cur : Option Located) (blank : Bool) :
    Within r (r.declarationItem cur blank).2 := by
  unfold declarationItem
  rcases hps : passSemicolons cur blank r.rest with ⟨cur₁, blank₁, toks₁⟩
  have hl₁ := passSemicolons_rest hps
  dsimp only
  rcases cur₁ with _ | l
  · exact (within_self _).of_rest rfl hl₁
  simp only
  by_cases hstar : (l.token.kind == TokenKind.delim && l.token.text == "*") = true
  case' pos =>
    rw [if_pos hstar]
    rcases hpop : popToken false toks₁ with ⟨t, b, toks₂⟩
    have hl₂ := popToken_rest hpop
    rcases t with _ | m
    · exact (within_self _).of_rest rfl (by simp only at hl₂ ⊢; omega)
    simp only
  case' neg =>
    rw [if_neg hstar]
    simp only
  -- the item is read from its first token, with the open blocks unchanged
  all_goals
    split
    · exact (atRule_within _ _).of_rest rfl (by simp only; omega)
    · split
      · exact (nestedRule_within _ _).of_rest rfl (by simp only; omega)
      · exact (declaration_within _ _).of_rest rfl (by simp only; omega)
    · split
      · exact (nestedRule_within _ _).of_rest rfl (by simp only; omega)
      · exact (declaration_within _ _).of_rest rfl (by simp only; omega)
    · exact (customProperty_within _ _).of_rest rfl (by simp only; omega)
    · split
      · exact (within_self _).of_rest rfl (by simp only; omega)
      · exact (within_apply _ (skipDeclaration_work (Prod.eta _).symm)).of_rest rfl
          (by simp only; omega)

/-- Every event but the end of the input lowers the work: a token is read, or a block ends, or a
closing brace kept from before is taken up. -/
theorem next_work (r : Reader) : r.next.1 = .finish ∨ r.next.2.work < r.work := by
  unfold next
  by_cases hp : r.pendingEnd = true
  · -- the closing brace kept from before ends the innermost block; at the top level it is read
    -- as a token of a selector, and in a block passed over it may only lower the level
    rw [if_pos hp]
    right
    simp only
    rcases hb : r.blocks with _ | ⟨_ | _ | _ | _ | _, bs⟩ <;> simp only [rightBraceToken]
    case nil | cons.sheet =>
      exact Nat.lt_of_le_of_lt (qualifiedRule_rightBrace_work _ _) (by simp [work, hb, hp])
    case cons.skipped =>
      by_cases hl : r.level = 0 <;>
        simp only [work, close, hl, hb, hp, BEq.rfl, beq_iff_eq, Bool.and_self, Bool.true_and,
          ↓reduceIte, List.tail_cons, List.length_cons, Bool.toNat_true, Bool.toNat_false] <;>
        omega
    all_goals
      simp only [work, passSemicolons, close, hb, hp, BEq.rfl, beq_iff_eq, reduceCtorEq, ↓reduceIte,
        List.tail_cons, List.length_cons, Bool.toNat_true, Bool.toNat_false]
      omega
  · rw [if_neg hp]
    have hpe : r.pendingEnd = false := by simpa using hp
    rcases hpop : popToken (r.blocks.length == 1) r.rest with ⟨_ | l, b, toks⟩
    · -- at the end of the input the innermost block ends, or reading does
      obtain rfl : toks = [] := popToken_none hpop
      simp only
      rcases hb : r.blocks with _ | ⟨_ | _ | _ | _ | _, bs⟩
      case nil | cons.sheet => exact .inl rfl
      all_goals
        right
        simp [passSemicolons, close, work, hb, hpe]
        omega
    · -- a token is read, and the construct it starts is read within the rest
      have hl := popToken_rest hpop
      right
      refine @Within.work_lt r { r with rest := toks } _ ?_ rfl (by simp at hl ⊢; omega)
      simp only
      rcases hb : r.blocks with _ | ⟨_ | _ | _ | _ | _, bs⟩ <;> simp only
      case nil | cons.sheet =>
        split
        · exact within_self _
        · exact within_self _
        · exact atRule_within _ _
        · exact within_self _
        · exact customProperty_within _ _
        · exact qualifiedRule_within _ _
      case cons.rules =>
        split
        · exact close_within _ _
        · exact atRule_within _ _
        · exact qualifiedRule_within _ _
      case cons.skipped =>
        split
        · exact close_within _ _
        · simp [Within, work, hpe]
      -- in a block of declarations the `;` tokens are passed over first
      all_goals
        rcases hps : passSemicolons (some l) b toks with ⟨cur₁, b₁, toks₁⟩
        have hl₁ := passSemicolons_rest hps
        simp only
        rcases cur₁ with _ | l₁
        · exact (close_within _ _).of_rest rfl hl₁
        · simp only
          split
          · exact (close_within _ _).of_rest rfl hl₁
          · exact (declarationItem_within _ _ _).of_rest rfl hl₁

end Reader

/-- With more fuel than work, reading ends with the end of the input, and only there. -/
theorem eventsFrom_eq_append_finish (n : Nat) (r : Reader) (h : r.work < n) :
    ∃ evs, eventsFrom n r = evs ++ [.finish] ∧ .finish ∉ evs := by
  induction n generalizing r with
  | zero => omega
  | succ n ih =>
    rw [eventsFrom]
    have hw := r.next_work
    rcases hnext : r.next with ⟨e, r'⟩
    rw [hnext] at hw
    simp only at hw ⊢
    by_cases he : e = .finish
    · subst he
      exact ⟨[], rfl, List.not_mem_nil⟩
    · obtain ⟨evs, hevs, hfin⟩ := ih r' (by have := hw.resolve_left he; omega)
      refine ⟨e :: evs, ?_, by simp [Ne.symm he, hfin]⟩
      split
      · exact absurd rfl he
      · rw [hevs, List.cons_append]

theorem events_eq_append_finish (source : String) :
    ∃ evs, events source = evs ++ [.finish] ∧ .finish ∉ evs :=
  eventsFrom_eq_append_finish _ _ (by simp [Reader.work])

/-! ### Errors in a row -/

/-- Whether an event reports an error. -/
def Event.isError : Event → Bool
  | .error .. => true
  | _ => false

/-- `n` error events in a row among `evs`. -/
def ErrorRun (n : Nat) (evs : List Event) : Prop :=
  ∃ run, run <:+: evs ∧ run.length = n ∧ ∀ e ∈ run, e.isError = true

/-- The parse error an event reports: the line and column of its offset, and its message. -/
def Event.parseError? (source : String) : Event → Option ParseError
  | .error message offset _ =>
    let p := Text.Position.ofOffset source offset
    some ⟨p.line, p.column, message⟩
  | _ => none

theorem Event.eq_error_of_isError {e : Event} (he : e.isError = true) :
    ∃ m o w, e = .error m o w := by
  cases e <;> simp_all [Event.isError]

theorem Event.parseError?_of_isError {e : Event} (he : e.isError = false) (source : String) :
    e.parseError? source = none := by
  cases e
  case error => cases he
  all_goals rfl

/-- The events start with `n` errors when that many lead them. -/
theorem exists_errors_prefix_iff {n : Nat} {evs : List Event} :
    (∃ run, run <+: evs ∧ run.length = n ∧ ∀ e ∈ run, e.isError = true) ↔
      n ≤ (evs.takeWhile Event.isError).length := by
  constructor
  · rintro ⟨run, ⟨t, rfl⟩, rfl, hrun⟩
    rw [List.takeWhile_append_of_pos hrun, List.length_append]
    omega
  · intro h
    refine ⟨(evs.takeWhile Event.isError).take n,
      (List.take_prefix _ _).trans (List.takeWhile_prefix _), by simp [h], fun e he => ?_⟩
    exact List.mem_takeWhile_imp (List.mem_of_mem_take he)

theorem errorRun_of_le {n : Nat} {evs : List Event}
    (h : n ≤ (evs.takeWhile Event.isError).length) : ErrorRun n evs :=
  let ⟨run, hpre, hlen, hrun⟩ := exists_errors_prefix_iff.2 h
  ⟨run, hpre.isInfix, hlen, hrun⟩

/-- A run of errors leads the events or lies in their tail. -/
theorem errorRun_cons {n : Nat} {e : Event} {es : List Event} :
    ErrorRun n (e :: es) ↔
      n ≤ ((e :: es).takeWhile Event.isError).length ∨ ErrorRun n es := by
  simp only [ErrorRun, List.infix_cons_iff, or_and_right, exists_or, exists_errors_prefix_iff]

/-- The end of the input is no error, so no run reaches it. -/
theorem errorRun_append_finish {n : Nat} (hn : 0 < n) {evs : List Event} :
    ErrorRun n (evs ++ [.finish]) ↔ ErrorRun n evs := by
  constructor
  · rintro ⟨run, hinf, hlen, hrun⟩
    refine ⟨run, ?_, hlen, hrun⟩
    rcases List.infix_concat_iff.1 hinf with hsuf | hinf
    · rcases List.suffix_concat_iff.1 hsuf with rfl | ⟨t, rfl, -⟩
      · simp only [List.length_nil] at hlen
        omega
      · simpa [Event.isError] using hrun .finish (by simp)
    · exact hinf
  · rintro ⟨run, hinf, hlen, hrun⟩
    exact ⟨run, hinf.trans (List.prefix_append _ _).isInfix, hlen, hrun⟩

/-! ### The assembler -/

namespace Assembly

@[simp] theorem modifyTop_errors (a : Assembly) (f : Frame → Frame) :
    (a.modifyTop f).errors = a.errors := by
  unfold modifyTop
  split <;> rfl

@[simp] theorem modifyTop_strikes (a : Assembly) (f : Frame → Frame) :
    (a.modifyTop f).strikes = a.strikes := by
  unfold modifyTop
  split <;> rfl

/-- A step changes only the open frames. -/
theorem step_errors_strikes (a : Assembly) (e : Event) :
    (a.step e).errors = a.errors ∧ (a.step e).strikes = a.strikes := by
  unfold step add close
  repeat' split
  all_goals simp

end Assembly

/-- An event other than an error or the end of the input is taken, and the count starts again. -/
theorem assemble_cons {source : String} {e : Event} (he : e.isError = false) (hf : .finish ≠ e)
    (es : List Event) (a : Assembly) :
    assemble source (e :: es) a = assemble source es ({ a with strikes := 0 }.step e) := by
  cases e
  case error => cases he
  case finish => exact absurd rfl hf
  all_goals rfl

/-- The assembler fails exactly when the errors leading the events reach the strikes left, or
`maxStrikes` errors come in a row. -/
theorem assemble_fails_iff (source : String) {evs : List Event} (hf : .finish ∉ evs) :
    ∀ a : Assembly, a.strikes < maxStrikes →
      ((∃ f, assemble source (evs ++ [.finish]) a = .error f) ↔
        maxStrikes - a.strikes ≤ (evs.takeWhile Event.isError).length ∨
          ErrorRun maxStrikes evs) := by
  induction evs with
  | nil =>
    intro a ha
    simp [assemble, ErrorRun, maxStrikes] at ha ⊢
    omega
  | cons e es ih =>
    intro a ha
    have hfe := List.ne_of_not_mem_cons hf
    have hfs := List.not_mem_of_not_mem_cons hf
    rw [List.cons_append, errorRun_cons]
    cases he : e.isError
    · -- any other event starts the count again, so only a run among the rest counts
      have hlead : ((e :: es).takeWhile Event.isError).length = 0 := by simp [he]
      have hstrikes : ({ a with strikes := 0 }.step e).strikes = 0 :=
        (Assembly.step_errors_strikes _ _).2
      rw [assemble_cons he hfe, ih hfs _ (by rw [hstrikes]; decide), hstrikes, hlead]
      constructor
      · rintro (h | h)
        · exact .inr (.inr (errorRun_of_le h))
        · exact .inr (.inr h)
      · rintro (h | h | h)
        · omega
        · exact absurd h (by decide)
        · exact .inr h
    · -- an error adds a strike, and the last one allowed gives up
      obtain ⟨m, o, w, rfl⟩ := Event.eq_error_of_isError he
      have hlead : ((Event.error m o w :: es).takeWhile Event.isError).length =
          (es.takeWhile Event.isError).length + 1 := by
        rw [List.takeWhile_cons_of_pos rfl, List.length_cons]
      rw [hlead]
      simp only [assemble]
      split
      · rename_i hmax
        exact iff_of_true ⟨_, rfl⟩ (.inl (by omega))
      · rename_i hmax
        rw [ih hfs _ (by simp only [Assembly.modifyTop_strikes]; omega)]
        simp only [Assembly.modifyTop_strikes]
        have key : maxStrikes - (a.strikes + 1) ≤ (es.takeWhile Event.isError).length ↔
            maxStrikes - a.strikes ≤ (es.takeWhile Event.isError).length + 1 ∨
              maxStrikes ≤ (es.takeWhile Event.isError).length + 1 := by
          omega
        rw [key, or_assoc]

/-- An assembly that ends keeps the errors of its events, in order, after those it had. -/
theorem assemble_errors (source : String) {evs : List Event} (hf : .finish ∉ evs) :
    ∀ a a' : Assembly, assemble source (evs ++ [.finish]) a = .ok a' →
      a'.errors.toList = a.errors.toList ++ evs.filterMap (Event.parseError? source) := by
  induction evs with
  | nil =>
    intro a a' h
    simp only [List.nil_append, assemble, Except.ok.injEq] at h
    simp [h]
  | cons e es ih =>
    intro a a' h
    have hfe := List.ne_of_not_mem_cons hf
    have hfs := List.not_mem_of_not_mem_cons hf
    cases he : e.isError
    · rw [List.cons_append, assemble_cons he hfe] at h
      rw [ih hfs _ _ h, (Assembly.step_errors_strikes _ _).1,
        List.filterMap_cons_none (Event.parseError?_of_isError he source)]
    · obtain ⟨m, o, w, rfl⟩ := Event.eq_error_of_isError he
      simp only [List.cons_append, assemble] at h
      split at h
      · cases h
      · rw [ih hfs _ _ h]
        simp [Event.parseError?]

/-- Parsing a sheet always reads its input to the end; it fails exactly when `maxStrikes` errors
come in a row among the events of the text, and otherwise reports the errors of its events, in
order, each with the line and column of its offset. -/
theorem StyleSheet.parse_error_budget (source : String) :
    (∃ evs, events source = evs ++ [.finish] ∧ .finish ∉ evs) ∧
      ((∃ f, StyleSheet.parse source = .error f) ↔ ErrorRun maxStrikes (events source)) ∧
      ∀ sheet, StyleSheet.parse source = .ok sheet →
        sheet.errors = (events source).filterMap (Event.parseError? source) := by
  obtain ⟨evs, hevs, hfin⟩ := events_eq_append_finish source
  have hstart : ({} : Assembly).strikes < maxStrikes := by decide
  refine ⟨⟨evs, hevs, hfin⟩, ?_, ?_⟩
  · have hfails := assemble_fails_iff source hfin {} hstart
    rw [show ({} : Assembly).strikes = 0 from rfl, Nat.sub_zero,
      or_iff_right_of_imp errorRun_of_le] at hfails
    rw [hevs, errorRun_append_finish (by decide), ← hfails]
    cases h : assemble source (evs ++ [.finish]) {} <;> simp [StyleSheet.parse, hevs, h]
  · intro sheet hparse
    cases h : assemble source (evs ++ [.finish]) {} with
    | error f => simp [StyleSheet.parse, hevs, h] at hparse
    | ok a =>
      simp only [StyleSheet.parse, hevs, h] at hparse
      cases hparse
      rw [assemble_errors source hfin {} a h, hevs, List.filterMap_append]
      simp [Event.parseError?]

end CriticalCss.Css
