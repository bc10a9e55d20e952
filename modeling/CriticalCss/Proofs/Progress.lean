import CriticalCss.Proofs.Resolver
import CriticalCss.Proofs.Threshold
import Mathlib

/-!
# Progress reports

A run reports its progress as numbered steps against a total. The total starts at one step for
collecting and one per viewport of each page needed; the run takes a step once stylesheets are
collected and one before each viewport probe, raising the total when a step would pass it. So
the reports of every run are steps `1, 2, 3, …` against totals that never fall and never lie
below their step, and when probing reaches the threshold, the steps over the starting total are
exactly the viewport probes started on pages that then failed.

The argument follows the run. `RunState.Reported` says that a state has taken `k` steps and
reported each; every stage keeps it, taking one step per viewport probe it starts
(`probePage_reported`, `resolvePages_reported`) or none (`collect_reported`). Probing visits the
pages `visitedPages` gives and resolves exactly as many of them as it needs, each looked at in
every viewport (`sum_viewportProbes_visitedPages`).

## Main definitions

* `progressReports`: the reports of `k` steps against a starting total.
* `RunState.Reported`: a run state that has taken `k` steps and reported each.
* `viewportProbes`: the viewport probes a backend lets start on a page.
* `failedProbes`: the viewport probes started on pages that then fail.

## Main results

* `runChecked_reported`: every run ends having reported its steps, and a run that gets to
  pruning took one for collecting and one per viewport probe.
* `generate_progress_consistent`: the reports of a run are numbered without gaps, their totals
  never decrease nor fall below the step, the first is against `1 + R * V`, and when probing
  reaches the threshold the last has step and total both `1 + R * V` plus the failed probes.
-/

namespace CriticalCss.Generate

open CriticalCss.Probe

/-- The reports of `k` progress steps against a starting total: the `i`-th is step `i` against the
larger of the total and `i`. -/
def progressReports (total : Int) (k : Nat) : List (Int × Int) :=
  (List.range k).map fun i : Nat => ((i : Int) + 1, max total ((i : Int) + 1))

/-- A run state that has made `k` progress steps against the starting total `total`, reporting
each. -/
structure RunState.Reported (total : Int) (k : Nat) (s : RunState) : Prop where
  step_eq : s.step = k
  total_eq : s.total = max total k
  progress_eq : s.progress = progressReports total k

/-- The number of viewports a page is looked at in, up to and including the first that fails. -/
def probesUntilFailure {α : Type} (ok : α → Bool) : List α → Nat
  | [] => 0
  | x :: xs => 1 + if ok x then probesUntilFailure ok xs else 0

/-- The number of viewport probes a backend lets start on a page: none when matching fails, and
otherwise one per viewport up to the first whose probe fails. -/
def viewportProbes (probe : Probe Id) (sels : List String) (vps : List Viewport) (page : String) :
    Nat :=
  match probe.matchAny page sels with
  | .error _ => 0
  | .ok matched => probesUntilFailure (fun vp => (probe.matchAboveFold page vp matched).toBool) vps

variable {probe : Probe Id} {note : Event → Id Unit} {sels : List String} {vps : List Viewport}

/-- The viewport probes started on pages that then fail, when pages are probed in turn until
`need` of them resolve. -/
def failedProbes (probe : Probe Id) (sels : List String) (vps : List Viewport) (need : Nat)
    (urls : List String) : Nat :=
  (((visitedPages (pageResolves probe sels vps) need urls).filter
    fun p => !pageResolves probe sels vps p).map (viewportProbes probe sels vps)).sum

/-! ### The reports -/

section Reports

variable (total : Int) (k : Nat)

@[simp] theorem length_progressReports : (progressReports total k).length = k := by
  simp [progressReports]

theorem progressReports_steps :
    (progressReports total k).map Prod.fst = (List.range k).map fun i : Nat => (i : Int) + 1 := by
  simp [progressReports, Function.comp_def]

theorem progressReports_totals_sorted :
    ((progressReports total k).map Prod.snd).Pairwise (· ≤ ·) := by
  rw [progressReports, List.map_map, List.pairwise_map]
  exact List.pairwise_lt_range.imp fun hij => by simp only [Function.comp_apply]; omega

theorem progressReports_step_le_total : ∀ p ∈ progressReports total k, p.1 ≤ p.2 := by
  intro p hp
  obtain ⟨i, -, rfl⟩ := List.mem_map.1 hp
  exact Int.le_max_right _ _

theorem progressReports_head? (htotal : 1 ≤ total) :
    ∀ p ∈ (progressReports total k).head?, p = (1, total) := by
  cases k <;> simp [progressReports, List.range_succ_eq_map, Int.max_eq_left htotal]

theorem progressReports_getLast? (htotal : total ≤ k) (hk : k ≠ 0) :
    (progressReports total k).getLast? = some ((k : Int), (k : Int)) := by
  obtain ⟨n, rfl⟩ := Nat.exists_eq_succ_of_ne_zero hk
  simp [progressReports, List.range_succ]
  omega

end Reports

/-! ### Steps of a run -/

theorem RunState.Reported.advance {total : Int} {k : Nat} {s : RunState}
    (h : s.Reported total k) : s.advance.Reported total (k + 1) where
  step_eq := by simp [RunState.advance, h.step_eq]
  total_eq := by
    simp only [RunState.advance, h.step_eq, h.total_eq]
    omega
  progress_eq := by
    simp only [RunState.advance, h.step_eq, h.total_eq, Int.max_assoc, h.progress_eq, progressReports,
      List.range_succ, List.map_append, List.map_cons, List.map_nil, List.append_cancel_left_eq,
      List.cons.injEq, Prod.mk.injEq, true_and, and_true]
    omega

theorem RunState.Reported.tracker {total : Int} {k : Nat} {s : RunState} (h : s.Reported total k)
    (t : Tracker) : { s with tracker := t }.Reported total k :=
  ⟨h.step_eq, h.total_eq, h.progress_eq⟩

theorem RunState.Reported.store {total : Int} {k : Nat} {s : RunState} (h : s.Reported total k)
    (st : Store) : { s with store := st }.Reported total k :=
  ⟨h.step_eq, h.total_eq, h.progress_eq⟩

/-! ### Probing -/

theorem probesUntilFailure_eq_length {α : Type} {ok : α → Bool} {xs : List α}
    (h : ∀ x ∈ xs, ok x = true) : probesUntilFailure ok xs = xs.length := by
  induction xs with
  | nil => rfl
  | cons x xs ih =>
    rw [probesUntilFailure, if_pos (h x (List.mem_cons_self ..)),
      ih fun y hy => h y (List.mem_cons_of_mem _ hy)]
    simp [Nat.add_comm]

/-- A page that resolves is looked at in every viewport. -/
theorem viewportProbes_of_resolves {page : String} (h : pageResolves probe sels vps page = true) :
    viewportProbes probe sels vps page = vps.length := by
  obtain ⟨matched, hm, hall⟩ := pageResolves_iff.1 h
  simp only [viewportProbes, hm]
  refine probesUntilFailure_eq_length fun vp hvp => ?_
  obtain ⟨found, hf⟩ := hall vp hvp
  rw [hf]
  rfl

/-- Looking above the fold reports one step per viewport it starts. -/
theorem probePage_above_reported {page : String} {matched : List String} (acc : List String)
    {total : Int} {k : Nat} {s : RunState} (hs : s.Reported total k) :
    ((probePage.above probe note page matched vps acc).run s).2.Reported total
      (k + probesUntilFailure (fun vp => (probe.matchAboveFold page vp matched).toBool) vps) := by
  induction vps generalizing acc k s with
  | nil => simpa [probePage.above, probesUntilFailure] using hs
  | cons vp vps ih =>
    cases hf : probe.matchAboveFold page vp matched with
    | error e =>
      have hfail : (probe.matchAboveFold page vp matched).toBool = false := by rw [hf]; rfl
      simp only [probesUntilFailure, hfail, Bool.false_eq_true, if_false, Nat.add_zero]
      simpa [probePage.above, advance, hf] using hs.advance
    | ok found =>
      have hok : (probe.matchAboveFold page vp matched).toBool = true := by rw [hf]; rfl
      simp only [probesUntilFailure, hok, if_true, ← Nat.add_assoc]
      simpa [probePage.above, advance, hf] using ih (acc ++ found) hs.advance

/-- Probing a page reports one step per viewport probe it starts. -/
theorem probePage_reported (pages : List (String × List String)) (page : String) {total : Int}
    {k : Nat} {s : RunState} (hs : s.Reported total k) :
    ((probePage probe note pages vps page sels).run s).2.Reported total
      (k + viewportProbes probe sels vps page) := by
  cases hm : probe.matchAny page sels with
  | error e => simpa [probePage, viewportProbes, hm] using hs
  | ok matched =>
    have habove := @probePage_above_reported probe note vps page matched [] _ _ _ hs
    simp only [viewportProbes, hm]
    generalize hab : (probePage.above probe note page matched vps []).run s = res at habove
    obtain ⟨out, s1⟩ := res
    cases out <;> simpa [probePage, hm, hab] using habove

/-- When probing pages in turn gives a result, it probed the pages `visitedPages` gives and
resolved those of them that resolve. -/
theorem resolvePages_resolved (pages : List (String × List String)) (policy : SuccessPolicy)
    (urls : List String) : ∀ (r : Resolution) {s : RunState} {r' : Resolution},
      ((resolvePages probe note pages vps policy sels urls r).run s).1 = .ok r' →
      r'.resolved = r.resolved ++ (visitedPages (pageResolves probe sels vps)
        (policy.required - r.resolved.length).toNat urls).filter (pageResolves probe sels vps) := by
  induction urls with
  | nil => exact fun r s r' h => by cases h; simp
  | cons page rest ih =>
    intro r s r' h
    rw [resolvePages_cons_run] at h
    by_cases hreached : policy.reached r.resolved.length = true
    · -- enough pages resolved: nothing more is probed
      rw [if_pos hreached] at h
      cases h
      simp [SuccessPolicy.toNat_sub_of_reached hreached]
    rw [if_neg hreached] at h
    have hneed := SuccessPolicy.toNat_sub_of_not_reached hreached
    obtain ⟨h1, -⟩ := @probePage_run probe note sels vps pages page s
    generalize (probePage probe note pages vps page sels).run s = pr at h1 h
    obtain ⟨res, s1⟩ := pr
    rw [hneed, visitedPages_succ_cons]
    cases ha : pageAnswer probe sels vps page with
    | error e =>
      have hok : pageResolves probe sels vps page = false := by
        simp [pageResolves, ha, Except.toBool]
      simp only [ha, Except.map] at h1
      subst h1
      dsimp only at h
      split at h
      · cases h
      -- the failure is recorded and as many pages are still needed
      simpa [hok, hneed] using ih _ h
    | ok a =>
      have hok : pageResolves probe sels vps page = true := pageResolves_iff_exists.2 ⟨a, ha⟩
      simp only [ha, Except.map] at h1
      subst h1
      -- the page is resolved and one page fewer is still needed
      simpa [hok] using ih _ h

/-- Probing pages in turn reports a step per viewport probe started; when it gives a result, one
for each viewport probe started on the pages `visitedPages` gives. -/
theorem resolvePages_reported (pages : List (String × List String)) (policy : SuccessPolicy)
    {total : Int} (urls : List String) : ∀ (r : Resolution) {k : Nat} {s : RunState},
      s.Reported total k →
      (∃ k',
        ((resolvePages probe note pages vps policy sels urls r).run s).2.Reported total k') ∧
        ∀ r', ((resolvePages probe note pages vps policy sels urls r).run s).1 = .ok r' →
          ((resolvePages probe note pages vps policy sels urls r).run s).2.Reported total
            (k + ((visitedPages (pageResolves probe sels vps) (policy.required - r.resolved.length).toNat
              urls).map (viewportProbes probe sels vps)).sum) := by
  induction urls with
  | nil =>
    exact fun r k s hs => ⟨⟨k, hs⟩, fun r' h => by cases h; simpa [resolvePages] using hs⟩
  | cons page rest ih =>
    intro r k s hs
    rw [resolvePages_cons_run]
    by_cases hreached : policy.reached r.resolved.length = true
    · -- enough pages resolved: nothing more is probed
      rw [if_pos hreached]
      exact ⟨⟨k, hs⟩, fun r' h => by
        cases h; simpa [SuccessPolicy.toNat_sub_of_reached hreached] using hs⟩
    rw [if_neg hreached]
    have hneed := SuccessPolicy.toNat_sub_of_not_reached hreached
    have hprobe := @probePage_reported probe note sels vps pages page _ _ _ hs
    obtain ⟨h1, -⟩ := @probePage_run probe note sels vps pages page s
    generalize (probePage probe note pages vps page sels).run s = pr at h1 hprobe
    obtain ⟨res, s1⟩ := pr
    cases ha : pageAnswer probe sels vps page with
    | error e =>
      have hok : pageResolves probe sels vps page = false := by
        simp [pageResolves, ha, Except.toBool]
      simp only [ha, Except.map] at h1
      subst h1
      simp only [hneed, visitedPages_succ_cons, hok, Bool.false_eq_true, if_false]
      by_cases hstop : e.stopsRun = true
      · rw [if_pos hstop]
        exact ⟨⟨_, hprobe⟩, fun r' h => by cases h⟩
      · -- the failure is recorded and as many pages are still needed
        rw [if_neg hstop]
        obtain ⟨hex, hrest⟩ := ih
          { r with errors := setFailure r.errors page e } (hprobe.tracker (s1.tracker.track page e))
        exact ⟨hex, fun r' h => by simpa [hneed, Nat.add_assoc] using hrest r' h⟩
    | ok a =>
      have hok : pageResolves probe sels vps page = true := pageResolves_iff_exists.2 ⟨a, ha⟩
      simp only [ha, Except.map] at h1
      subst h1
      simp only [hneed, visitedPages_succ_cons, hok, if_true]
      -- the page is resolved and one page fewer is still needed
      obtain ⟨hex, hrest⟩ := ih
        { r with resolved := r.resolved ++ [page],
                 aboveFold := a.2.flatten.foldl appendNew r.aboveFold,
                 dangerous := (a.1.filter fun x => !pagesHave pages x page).foldl appendNew
                   r.dangerous } hprobe
      exact ⟨hex, fun r' h => by simpa [Nat.add_assoc] using hrest r' h⟩

/-- Probing never resolves more pages than it needs. -/
theorem length_filter_visitedPages_le {ok : String → Bool} (urls : List String) :
    ∀ n, ((visitedPages ok n urls).filter ok).length ≤ n := by
  induction urls with
  | nil => simp
  | cons p rest ih =>
    intro n
    cases n with
    | zero => simp
    | succ n =>
      have hrest := ih (if ok p then n else n + 1)
      rw [visitedPages_succ_cons]
      by_cases hp : ok p = true
      · rw [if_pos hp] at hrest ⊢
        simp [hp]
        omega
      · rw [if_neg hp] at hrest ⊢
        simp [hp, hrest]

/-- When probing stops at `need` resolved pages, it started a probe in every viewport of each of
them, and the rest on pages that failed. -/
theorem sum_viewportProbes_visitedPages {need : Nat} {urls : List String}
    (hneed : need ≤ ((visitedPages (pageResolves probe sels vps) need urls).filter
      (pageResolves probe sels vps)).length) :
    ((visitedPages (pageResolves probe sels vps) need urls).map
      (viewportProbes probe sels vps)).sum =
      need * vps.length + failedProbes probe sels vps need urls := by
  set resolves := pageResolves probe sels vps
  set seen := visitedPages resolves need urls
  have hlen : (seen.filter resolves).length = need :=
    Nat.le_antisymm (length_filter_visitedPages_le urls need) hneed
  have hres : (seen.filter resolves).map (viewportProbes probe sels vps) =
      List.replicate need vps.length := by
    refine List.eq_replicate_iff.2 ⟨by simp [hlen], fun n hn => ?_⟩
    obtain ⟨p, hp, rfl⟩ := List.mem_map.1 hn
    exact viewportProbes_of_resolves (List.of_mem_filter hp)
  rw [← ((List.filter_append_perm resolves seen).map _).sum_eq, List.map_append, List.sum_append,
    hres, List.sum_replicate_nat]
  rfl

/-! ### A run -/

/-- Collecting stylesheets reports no progress. -/
theorem collect_reported {fetch : String → Id (Except Failure String)} {policy : SuccessPolicy}
    {total : Int} {k : Nat} (urls : List String) : ∀ (collected : List String)
      (errs : List (String × Failure)) {s : RunState}, s.Reported total k →
      ((collect probe fetch note policy urls collected errs).run s).2.Reported total k := by
  induction urls with
  | nil => exact fun collected errs s hs => by simpa [collect_nil_run] using hs
  | cons page rest ih =>
    intro collected errs s hs
    rw [collect_cons_run]
    split
    · split
      · exact hs
      · exact ih collected _ (hs.tracker _)
    · split
      · exact hs
      · split
        · exact hs.store _
        · exact ih _ errs (hs.store _)

/-- The pages a run hands to probing are the first pages of the request whose stylesheets can be
listed, as many as it needs. -/
theorem valid_collect {fetch : String → Id (Except Failure String)} {policy : SuccessPolicy}
    {urls collected : List String} {errs : List (String × Failure)} {total : Int} {sc : RunState}
    (hc : (collect probe fetch note policy urls [] []).run { total := total } =
      (.ok (collected, errs), sc))
    (hR : 0 < policy.required) :
    sc.tracker.valid collected = (urls.filter (Linked probe)).take policy.required.toNat := by
  obtain ⟨hcol, htr⟩ := collect_ok hc (by simpa using hR) (fun x hx => by cases hx)
  rw [hcol, List.nil_append, List.length_nil, Nat.sub_zero]
  exact htr.valid_eq_self fun p hp => (List.mem_filter.1 (List.mem_of_mem_take hp)).2

theorem runChecked_reported {fetch : String → Id (Except Failure String)}
    {minify : String → Except Failure String} {req : Request}
    (hR : 0 < (SuccessPolicy.ofRatio req.urls.length req.successRatio).required)
    {out : (Except Failure (String × List Failure) × Option Trace) × RunState}
    (hrun : (runChecked probe fetch note minify req).run {} = out) :
    let R := (SuccessPolicy.ofRatio req.urls.length req.successRatio).required
    let T := 1 + R * req.viewports.length
    (∃ k, out.2.Reported T k) ∧
      ∀ t, out.1.2 = some t →
        let sels := t.selectorPages.map (·.1)
        let resolves := pageResolves probe sels req.viewports
        let seen := visitedPages resolves R.toNat ((req.urls.filter (Linked probe)).take R.toNat)
        R ≤ (seen.filter resolves).length ∧
          out.2.Reported T (1 + (seen.map (viewportProbes probe sels req.viewports)).sum) := by
  dsimp only
  rw [runChecked_run] at hrun
  dsimp only at hrun
  set policy := SuccessPolicy.ofRatio req.urls.length req.successRatio
  set T := 1 + policy.required * req.viewports.length
  have hT : 0 ≤ T := by
    have : 0 ≤ policy.required * req.viewports.length :=
      Int.mul_nonneg (Int.le_of_lt hR) (Int.natCast_nonneg _)
    omega
  have h0 : ({ total := T } : RunState).Reported T 0 := ⟨rfl, by simp; omega, rfl⟩
  generalize hc : (collect probe fetch note policy req.urls [] []).run { total := T } = cr at hrun
  have hsc : cr.2.Reported T 0 := hc ▸ collect_reported req.urls [] [] h0
  obtain ⟨cres | ⟨collected, pageErrs⟩, sc⟩ := cr <;> dsimp only at hrun hsc
  · subst hrun
    exact ⟨⟨0, hsc⟩, by simp⟩
  split at hrun
  · subst hrun
    exact ⟨⟨1, hsc.advance⟩, by simp⟩
  generalize hr : (resolvePages probe note _ req.viewports _ _ _ _).run _ = rr at hrun
  obtain ⟨⟨k, hk⟩, hok⟩ := hr ▸ resolvePages_reported sc.advance.store.selectorPages policy
    (sc.tracker.valid collected) { errors := pageErrs } (hsc.advance.store _)
  obtain ⟨rres | r, sr⟩ := rr <;> dsimp only at hrun hk hok
  · subst hrun
    exact ⟨⟨k, hk⟩, by simp⟩
  split at hrun
  · subst hrun
    exact ⟨⟨k, hk⟩, by simp⟩
  rename_i hcheck
  subst hrun
  refine ⟨⟨k, hk⟩, fun t ht => ?_⟩
  rw [finishRun_trace] at ht
  cases ht
  have hrep := hok r rfl
  have hres := resolvePages_resolved _ _ _ _ (congrArg Prod.fst hr)
  have hreached : policy.required ≤ r.resolved.length := by
    simpa [SuccessPolicy.check, SuccessPolicy.reached] using hcheck
  simp only [valid_collect hc hR, List.length_nil, Int.natCast_zero, Int.sub_zero,
    List.nil_append] at hres hrep
  rw [hres] at hreached
  exact ⟨hreached, hrep⟩

variable {fetch : String → Id (Except Failure String)} {minify : String → Except Failure String}

/-- A run reports `k` steps against the total it starts with; when probing reaches the
threshold, `k` is one step for collecting, one per viewport of each page needed, and one per
viewport probe started on a page that then failed. -/
theorem generate_progress_eq_progressReports (req : Request) :
    let R := (SuccessPolicy.ofRatio req.urls.length req.successRatio).required
    ∃ k, (generate probe fetch note minify req).progress =
        progressReports (1 + R * req.viewports.length) k ∧
      (k = 0 ∧ (generate probe fetch note minify req).trace = none ∨ 1 ≤ R) ∧
      ∀ t, (generate probe fetch note minify req).trace = some t →
        (k : Int) = 1 + R * req.viewports.length + failedProbes probe (t.selectorPages.map (·.1))
          req.viewports R.toNat ((req.urls.filter (Linked probe)).take R.toNat) := by
  dsimp only
  simp only [generate]
  cases hp : req.problem with
  | some reason => exact ⟨0, by simp [progressReports], .inl ⟨rfl, rfl⟩, by simp⟩
  | none =>
    have hR := Request.one_le_required hp
    generalize hout : (runChecked probe fetch note minify req).run {} = out
    obtain ⟨⟨k, hk⟩, htrace⟩ := runChecked_reported (by omega) hout
    obtain ⟨⟨result, trace⟩, s⟩ := out
    refine ⟨k, ?_, .inr hR, fun t ht => ?_⟩
    · cases result <;> simpa using hk.progress_eq
    · have ht' : trace = some t := by cases result <;> simpa using ht
      obtain ⟨hneed, hrep⟩ := htrace t ht'
      rw [sum_viewportProbes_visitedPages (by omega)] at hrep
      have hstep := hk.step_eq.symm.trans hrep.step_eq
      push_cast at hstep
      rw [Int.toNat_of_nonneg (by omega)] at hstep
      omega

/-- **Progress is reported consistently.** The steps a run reports are `1, 2, 3, …` with no
gap, the totals never decrease and no step passes its total, and the first report is step `1` of
`1 + R * V`, for `R` pages needed and `V` viewports. When probing reaches the threshold, the
last report has step and total both `1 + R * V` plus the viewport probes started on pages that
then failed. -/
theorem generate_progress_consistent (req : Request) :
    let o := generate probe fetch note minify req
    let R := (SuccessPolicy.ofRatio req.urls.length req.successRatio).required
    let T := 1 + R * req.viewports.length
    o.progress.map Prod.fst = (List.range o.progress.length).map (fun i : Nat => (i : Int) + 1) ∧
      (o.progress.map Prod.snd).Pairwise (· ≤ ·) ∧
      (∀ p ∈ o.progress, p.1 ≤ p.2) ∧
      (∀ p ∈ o.progress.head?, p = (1, T)) ∧
      ∀ t, o.trace = some t →
        let F := failedProbes probe (t.selectorPages.map (·.1)) req.viewports R.toNat
          ((req.urls.filter (Linked probe)).take R.toNat)
        o.progress.getLast? = some (T + F, T + F) := by
  dsimp only
  obtain ⟨k, hk, hR, htrace⟩ :=
    @generate_progress_eq_progressReports probe note fetch minify req
  rw [hk]
  refine ⟨by simp [progressReports_steps], progressReports_totals_sorted _ k,
    progressReports_step_le_total _ k, ?_, fun t ht => ?_⟩
  all_goals rcases hR with ⟨rfl, hnone⟩ | hR
  · simp [progressReports]
  · exact progressReports_head? _ k (by
      have := Int.mul_nonneg (Int.le_trans (by decide) hR) (Int.natCast_nonneg req.viewports.length)
      omega)
  · rw [hnone] at ht
    cases ht
  · have hkF := htrace t ht
    have := Int.mul_nonneg (Int.le_trans (by decide) hR) (Int.natCast_nonneg req.viewports.length)
    rw [progressReports_getLast? _ k (by omega) (by omega), hkF]

end CriticalCss.Generate
