import CriticalCss.Generate.Run

/-!
# Runs against a backend that answers by its arguments

With the identity monad, a page backend and a fetcher are functions: a page
gives the same answer to the same question every time it is asked. A run is
then a function of its request, and what each of its stages gives back can be
read off the answers of the backend: the pages collected come from the
request, the pages resolved were matched and looked at in every viewport, and
the selectors above the fold and the dangerous ones are exactly what those
answers contained. Events told along the way leave the state of a run as it
was.

## Main definitions

* `Resolved`, `AboveFoldOn`, `DangerousOn`: what the answers of a backend say of
  a page and a selector.
* `Resolution.Sound`: what the probing of pages found agrees with the answers.
* `finishRun`: the end of a run, once probing resolved its pages.

## Main results

* `collect_cons_run`, `resolvePages_cons_run`: one step of collecting and of probing pages.
* `collect_error`, `resolvePages_error`: both stop only when the run is stopped from outside.
* `probePage_ok`: what probing one page gives back.
* `resolvePages_sound`: probing pages in order keeps what was found sound.
* `collect_pages`: the pages collected come from the request.
* `runChecked_run`: a run is its stages, each from the state the one before left.
* `runChecked_ok`: the anatomy of a run that produced a text.
* `generate_eq_of_failure_eq_none`, `generate_failure_eq_some`: a run is its checked body.
-/

namespace CriticalCss.Generate

open CriticalCss.Probe

/-- In the identity monad, binding is application. -/
@[simp] theorem id_bind_eq {α β : Type} (x : Id α) (f : α → Id β) : x >>= f = f x := rfl
@[simp] theorem id_pure_eq {α : Type} (a : α) : (pure a : Id α) = a := rfl

@[simp] theorem run_liftM_id {α σ : Type} (x : Id α) (s : σ) :
    (x : StateT σ Id α).run s = (x, s) := rfl

/-- Telling events changes nothing in the state of a run. -/
theorem run_forM_const {evs : List Event} {f : Event → StateT RunState Id Unit}
    (hf : ∀ ev s, (f ev).run s = ((), s)) (s : RunState) : (forM evs f).run s = ((), s) := by
  induction evs generalizing s with
  | nil => rfl
  | cons ev evs ih => simp [hf, ih]

variable {probe : Probe Id} {note : Event → Id Unit}

theorem probePage_above_ok {page : String} {matched : List String} {vps : List Viewport}
    {acc out : List String} {s : RunState}
    (h : ((probePage.above probe note page matched vps acc).run s).1 = .ok out) :
    (∀ vp ∈ vps, ∃ found, probe.matchAboveFold page vp matched = .ok found) ∧
      ∀ x ∈ out, x ∈ acc ∨ ∃ vp ∈ vps, ∃ found,
        probe.matchAboveFold page vp matched = .ok found ∧ x ∈ found := by
  induction vps generalizing acc s with
  | nil =>
    simp [probePage.above] at h
    subst h
    exact ⟨by simp, fun x hx => .inl hx⟩
  | cons vp vps ih =>
    simp [probePage.above, advance] at h
    cases hf : probe.matchAboveFold page vp matched with
    | error e => simp [hf] at h
    | ok found =>
      simp [hf] at h
      obtain ⟨hall, hmem⟩ := ih h
      refine ⟨?_, fun x hx => ?_⟩
      · intro vp' hvp'
        rcases List.mem_cons.1 hvp' with rfl | hvp'
        · exact ⟨found, hf⟩
        · exact hall vp' hvp'
      · rcases hmem x hx with hx | ⟨vp', hvp', found', hf', hx'⟩
        · rcases List.mem_append.1 hx with hx | hx
          · exact .inl hx
          · exact .inr ⟨vp, List.mem_cons_self .., found, hf, hx⟩
        · exact .inr ⟨vp', List.mem_cons_of_mem _ hvp', found', hf', hx'⟩

theorem probePage_ok {pages : List (String × List String)} {vps : List Viewport} {page : String}
    {sels dangerous above : List String} {s : RunState}
    (h : ((probePage probe note pages vps page sels).run s).1 = .ok (dangerous, above)) :
    ∃ matched, probe.matchAny page sels = .ok matched ∧
      dangerous = matched.filter (fun x => !pagesHave pages x page) ∧
      (∀ vp ∈ vps, ∃ found, probe.matchAboveFold page vp matched = .ok found) ∧
      ∀ x ∈ above, ∃ vp ∈ vps, ∃ found,
        probe.matchAboveFold page vp matched = .ok found ∧ x ∈ found := by
  simp only [probePage] at h
  cases hm : probe.matchAny page sels with
  | error e => simp [hm] at h
  | ok matched =>
    simp [hm] at h
    split at h
    · simp at h
    · rename_i found hfound
      simp at h
      obtain ⟨rfl, rfl⟩ := h
      obtain ⟨hall, hmem⟩ := probePage_above_ok hfound
      refine ⟨matched, rfl, rfl, hall, fun x hx => ?_⟩
      rcases hmem x hx with hx | hx
      · cases hx
      · exact hx

theorem mem_foldl_appendNew {α : Type} [BEq α] [LawfulBEq α] {x : α} :
    ∀ {xs acc : List α}, x ∈ xs.foldl appendNew acc ↔ x ∈ acc ∨ x ∈ xs
  | [], acc => by simp
  | y :: ys, acc => by
    rw [List.foldl_cons, mem_foldl_appendNew]
    unfold appendNew
    split
    · rename_i hy
      have hy : y ∈ acc := by simpa using hy
      simp only [List.mem_cons]
      constructor
      · rintro (h | h) <;> simp [h]
      · rintro (h | rfl | h) <;> simp [*]
    · simp [or_assoc]

/-- A page was resolved by a backend: the selectors matching it were found, and among them the
selectors above its fold in every viewport. -/
def Resolved (probe : Probe Id) (selectors : List String) (viewports : List Viewport)
    (page : String) : Prop :=
  ∃ matched, probe.matchAny page selectors = .ok matched ∧
    ∀ vp ∈ viewports, ∃ found, probe.matchAboveFold page vp matched = .ok found

/-- A selector was found above the fold of a page in one of the viewports. -/
def AboveFoldOn (probe : Probe Id) (selectors : List String) (viewports : List Viewport)
    (page sel : String) : Prop :=
  ∃ matched, probe.matchAny page selectors = .ok matched ∧
    ∃ vp ∈ viewports, ∃ found, probe.matchAboveFold page vp matched = .ok found ∧ sel ∈ found

/-- A selector matches a page none of whose stylesheets holds it. -/
def DangerousOn (probe : Probe Id) (selectors : List String) (pages : List (String × List String))
    (page sel : String) : Prop :=
  ∃ matched, probe.matchAny page selectors = .ok matched ∧ sel ∈ matched ∧
    pagesHave pages sel page = false

/-- What the probing of pages has found so far is sound: its pages were resolved and are among
`allowed`, its selectors above the fold were found on them, and every selector that matches
one of them without a stylesheet of it holding the selector was marked dangerous. -/
structure Resolution.Sound (probe : Probe Id) (pages : List (String × List String))
    (viewports : List Viewport) (selectors allowed : List String) (r : Resolution) : Prop where
  resolved : ∀ p ∈ r.resolved, p ∈ allowed ∧ Resolved probe selectors viewports p
  aboveFold : ∀ x ∈ r.aboveFold, ∃ p ∈ r.resolved, AboveFoldOn probe selectors viewports p x
  dangerous : ∀ p ∈ r.resolved, ∀ x, DangerousOn probe selectors pages p x → x ∈ r.dangerous

theorem Resolution.sound_start (probe : Probe Id) (pages : List (String × List String))
    (viewports : List Viewport) (selectors allowed : List String)
    (errors : List (String × Failure)) :
    Resolution.Sound probe pages viewports selectors allowed { errors } :=
  ⟨by simp, by simp, by simp⟩

section Resolve

variable {pages : List (String × List String)} {vps : List Viewport} {policy : SuccessPolicy}
  {sels allowed : List String}

/-- One step of probing pages: stop when the policy is reached, otherwise probe the next page
and record its failure or what it revealed. -/
theorem resolvePages_cons_run (page : String) (rest : List String) (r : Resolution)
    (s : RunState) :
    (resolvePages probe note pages vps policy sels (page :: rest) r).run s =
      if policy.reached r.resolved.length then (.ok r, s)
      else match (probePage probe note pages vps page sels).run s with
        | (.error e, s1) =>
          if e.stopsRun then (.error e, s1)
          else (resolvePages probe note pages vps policy sels rest
            { r with errors := setFailure r.errors page e }).run
            { s1 with tracker := s1.tracker.track page e }
        | (.ok (dangerous, above), s1) =>
          (resolvePages probe note pages vps policy sels rest
            { r with resolved := r.resolved ++ [page],
                     aboveFold := above.foldl appendNew r.aboveFold,
                     dangerous := dangerous.foldl appendNew r.dangerous }).run s1 := by
  simp only [resolvePages]
  split
  · rfl
  · simp only [StateT.run_bind]
    generalize (probePage probe note pages vps page sels).run s = pr
    obtain ⟨res, s1⟩ := pr
    cases res with
    | error e =>
      simp only [id_bind_eq]
      cases e.stopsRun <;> rfl
    | ok v => rfl

/-- Probing pages stops only for a failure that stops the run. -/
theorem resolvePages_error {urls : List String} {r : Resolution} {s : RunState} {e : Failure}
    (h : ((resolvePages probe note pages vps policy sels urls r).run s).1 = .error e) :
    e.stopsRun = true := by
  induction urls generalizing r s with
  | nil => cases h
  | cons page rest ih =>
    rw [resolvePages_cons_run] at h
    split at h
    · cases h
    · generalize (probePage probe note pages vps page sels).run s = pr at h
      obtain ⟨res, s1⟩ := pr
      cases res with
      | error e' =>
        simp only at h
        split at h
        · cases h
          assumption
        · exact ih h
      | ok v => exact ih h

/-- Probing one more page keeps what was found sound. -/
theorem Resolution.Sound.probed {r : Resolution} (hr : r.Sound probe pages vps sels allowed)
    {page : String} (hpage : page ∈ allowed) {dangerous above : List String} {s : RunState}
    (h : ((probePage probe note pages vps page sels).run s).1 = .ok (dangerous, above)) :
    Resolution.Sound probe pages vps sels allowed
      { r with resolved := r.resolved ++ [page], aboveFold := above.foldl appendNew r.aboveFold,
               dangerous := dangerous.foldl appendNew r.dangerous } := by
  obtain ⟨matched, hm, rfl, hall, habove⟩ := probePage_ok h
  refine ⟨?_, ?_, ?_⟩
  · exact List.forall_mem_append.2 ⟨hr.resolved, List.forall_mem_singleton.2 ⟨hpage, matched, hm, hall⟩⟩
  · intro x hx
    rcases mem_foldl_appendNew.1 hx with hx | hx
    · obtain ⟨p, hp, hon⟩ := hr.aboveFold x hx
      exact ⟨p, List.mem_append_left _ hp, hon⟩
    · exact ⟨page, by simp, matched, hm, habove x hx⟩
  · refine List.forall_mem_append.2 ⟨fun p hp x hx => mem_foldl_appendNew.2
      (.inl (hr.dangerous p hp x hx)), List.forall_mem_singleton.2 fun x hx => ?_⟩
    obtain ⟨matched', hm', hx', hhave⟩ := hx
    rw [hm] at hm'
    cases hm'
    exact mem_foldl_appendNew.2 (.inr (List.mem_filter.2 ⟨hx', by simp [hhave]⟩))

/-- Probing pages in order keeps what was found sound. -/
theorem resolvePages_sound {urls : List String} (hurls : ∀ p ∈ urls, p ∈ allowed)
    {r r' : Resolution} (hr : r.Sound probe pages vps sels allowed) {s : RunState}
    (h : ((resolvePages probe note pages vps policy sels urls r).run s).1 = .ok r') :
    r'.Sound probe pages vps sels allowed := by
  induction urls generalizing r s with
  | nil =>
    cases h
    exact hr
  | cons page rest ih =>
    have hrest : ∀ p ∈ rest, p ∈ allowed := fun p hp => hurls p (List.mem_cons_of_mem _ hp)
    rw [resolvePages_cons_run] at h
    split at h
    · cases h
      exact hr
    · generalize hp : (probePage probe note pages vps page sels).run s = pr at h
      obtain ⟨res, s1⟩ := pr
      cases res with
      | error e =>
        simp only at h
        split at h
        · cases h
        · refine ih hrest ?_ h
          exact ⟨hr.resolved, hr.aboveFold, hr.dangerous⟩
      | ok v =>
        obtain ⟨dangerous, above⟩ := v
        exact ih hrest (hr.probed (hurls page (by simp)) (congrArg Prod.fst hp)) h

end Resolve

section Collect

variable {fetch : String → Id (Except Failure String)} {policy : SuccessPolicy}

/-- Adding one stylesheet fails only when the run was canceled. -/
theorem Store.add_error {s : Store} {page url : String} {e : Failure}
    (h : (s.add fetch note page url : Id (Except Failure Store)) = .error e) : e = .canceled := by
  simp only [Store.add] at h
  split at h
  · simp at h
  · split at h
    · simp at h
    · simp at h
      split at h
      · exact (Except.error.inj h).symm
      · simp at h
      · simp at h

/-- The failure kept while adding stylesheets: none, or a cancellation. -/
def StopsByCancel (stop : Option Failure) : Prop :=
  stop = none ∨ stop = some .canceled

theorem Store.addStep_stop {page url : String} {acc : Store × Option Failure}
    (h : StopsByCancel acc.2) : StopsByCancel (Store.addStep fetch note page acc url : Id _).2 := by
  simp only [Store.addStep, id_bind_eq]
  cases ha : (acc.1.add fetch note page url : Id (Except Failure Store)) with
  | ok s => exact h
  | error e =>
    rw [Store.add_error ha]
    rcases h with h | h <;> simp [StopsByCancel, h]

theorem Store.foldlM_addStep_stop {page : String} :
    ∀ {urls : List String} {acc : Store × Option Failure}, StopsByCancel acc.2 →
      StopsByCancel (urls.foldlM (Store.addStep fetch note page) acc : Id _).2
  | [], _, h => h
  | _ :: _, _, h => by
    rw [List.foldlM_cons, id_bind_eq]
    exact Store.foldlM_addStep_stop (Store.addStep_stop h)

/-- Adding the stylesheets of a page fails only when the run was canceled. -/
theorem Store.addAll_error {s : Store} {page : String} {urls : List String} {e : Failure}
    (h : (s.addAll fetch note page urls : Id (Except Failure Store)) = .error e) : e = .canceled := by
  simp only [Store.addAll, id_bind_eq] at h
  have hstop : StopsByCancel
      (urls.foldlM (Store.addStep fetch note page) (urls.foldl Store.reserve s, none) : Id _).2 :=
    Store.foldlM_addStep_stop (.inl rfl)
  generalize urls.foldlM (Store.addStep fetch note page) (urls.foldl Store.reserve s, none) = res
    at h hstop
  obtain ⟨s', stop⟩ := res
  rcases hstop with rfl | rfl
  · simp at h
  · exact (Except.error.inj h).symm

theorem collect_nil_run (collected : List String) (errs : List (String × Failure)) (s : RunState) :
    (collect probe fetch note policy [] collected errs).run s = (.ok (collected, errs), s) := rfl

/-- One step of collecting: a page whose stylesheets cannot be listed is recorded as failed,
otherwise its stylesheets are added and the page collected, until the policy is reached. -/
theorem collect_cons_run (page : String) (rest collected : List String)
    (errs : List (String × Failure)) (s : RunState) :
    (collect probe fetch note policy (page :: rest) collected errs).run s =
      match (probe.includes page).bind (stylesheetUrls page) with
      | .error e =>
        if e.stopsRun then (.error e, s)
        else (collect probe fetch note policy rest collected (setFailure errs page e)).run
          { s with tracker := s.tracker.track page e }
      | .ok hrefs =>
        match (s.store.addAll fetch note page hrefs : Id (Except Failure Store)) with
        | .error e => (.error e, s)
        | .ok store =>
          if policy.reached (collected ++ [page]).length then
            (.ok (collected ++ [page], errs), { s with store })
          else (collect probe fetch note policy rest (collected ++ [page]) errs).run { s with store } := by
  simp only [collect]
  simp
  cases Except.bind (probe.includes page) (stylesheetUrls page) with
  | error e =>
    simp only
    cases e.stopsRun <;> rfl
  | ok hrefs =>
    simp only
    -- the events told about the links leave the state as it was
    rw [StateT.run_bind, run_forM_const]
    · simp
      cases Store.addAll fetch note s.store page hrefs with
      | error e => rfl
      | ok store => cases policy.reached (↑collected.length + 1) <;> rfl
    · intro _ _; rfl

/-- A collection stops only for a failure that stops the run. -/
theorem collect_error {urls collected : List String} {errs : List (String × Failure)}
    {s : RunState} {e : Failure}
    (h : ((collect probe fetch note policy urls collected errs).run s).1 = .error e) :
    e.stopsRun = true := by
  induction urls generalizing collected errs s with
  | nil =>
    rw [collect_nil_run] at h
    cases h
  | cons page rest ih =>
    rw [collect_cons_run] at h
    cases hb : (probe.includes page).bind (stylesheetUrls page) with
    | error e' =>
      simp only [hb] at h
      split at h
      · cases h
        assumption
      · exact ih h
    | ok hrefs =>
      simp only [hb] at h
      split at h
      · rename_i e' hadd
        cases h
        rw [Store.addAll_error hadd]
        rfl
      · split at h
        · cases h
        · exact ih h

/-- The pages collected come from the request. -/
theorem collect_pages {urls collected cs : List String} {errs errs' : List (String × Failure)}
    {s : RunState}
    (h : ((collect probe fetch note policy urls collected errs).run s).1 = .ok (cs, errs')) :
    ∀ p ∈ cs, p ∈ collected ∨ p ∈ urls := by
  induction urls generalizing collected errs s with
  | nil =>
    rw [collect_nil_run] at h
    cases h
    exact fun p hp => .inl hp
  | cons page rest ih =>
    rw [collect_cons_run] at h
    cases hb : (probe.includes page).bind (stylesheetUrls page) with
    | error e =>
      simp only [hb] at h
      split at h
      · cases h
      · exact fun p hp => (ih h p hp).imp_right (List.mem_cons_of_mem _)
    | ok hrefs =>
      simp only [hb] at h
      have hstep : ∀ p ∈ collected ++ [page], p ∈ collected ∨ p ∈ page :: rest :=
        List.forall_mem_append.2
          ⟨fun _ => .inl, List.forall_mem_singleton.2 (.inr (List.mem_cons_self ..))⟩
      split at h
      · cases h
      · split at h
        · cases h
          exact hstep
        · intro p hp
          rcases ih h p hp with hp | hp
          · exact hstep p hp
          · exact .inr (List.mem_cons_of_mem _ hp)

end Collect

/-- The end of a run once probing has resolved its pages: the critical part of each stylesheet,
joined and minified where the minifier succeeds, and the trace; a blank text fails the run. -/
def finishRun (minify : String → Except Failure String) (req : Request)
    (pages : List (String × List String)) (required : Int) (r : Resolution) (s : RunState) :
    Except Failure (String × List Failure) × Option Trace :=
  let critical := r.aboveFold.filter fun sel => !r.dangerous.contains sel
  let validUrls := s.tracker.valid req.urls
  let joined := "\n".intercalate ((s.store.prunedSheets (critical.contains ·)).map (·.css))
  let minified := match minify joined with
    | .ok text => (text, [])
    | .error e => (joined, [Failure.minifyFailed e])
  (if (Text.trimSpace minified.1).isEmpty then
      .error (.threshold required validUrls.length (validUrls.map fun u => (u, .emptyResult u)))
    else .ok (minified.1, s.store.errors ++ s.store.parseErrors ++ minified.2),
    some { runId := req.runId, validUrls, files := s.store.sorted, selectorPages := pages, critical })

section Finish

variable {minify : String → Except Failure String} {req : Request}
  {pages : List (String × List String)} {required : Int} {r : Resolution} {s : RunState}

/-- A finished run keeps its trace: the valid pages, the files, the pages of each selector and
the critical selectors. -/
theorem finishRun_trace :
    (finishRun minify req pages required r s).2 = some
      { runId := req.runId, validUrls := s.tracker.valid req.urls, files := s.store.sorted,
        selectorPages := pages, critical := r.aboveFold.filter fun sel => !r.dangerous.contains sel } :=
  rfl

/-- A finished run fails only with a threshold failure that counts the valid pages. -/
theorem finishRun_error {f : Failure} (h : (finishRun minify req pages required r s).1 = .error f) :
    ∃ errs, f = .threshold required (s.tracker.valid req.urls).length errs := by
  dsimp only [finishRun] at h
  -- the minifier's answer, then the test for a blank text
  split at h <;> split at h <;> cases h <;> exact ⟨_, rfl⟩

/-- The text of a finished run is the critical parts of the stylesheets joined, or what the
minifier made of them. -/
theorem finishRun_ok {text : String} {ws : List Failure}
    (h : (finishRun minify req pages required r s).1 = .ok (text, ws)) :
    let joined := "\n".intercalate ((s.store.prunedSheets
      ((r.aboveFold.filter fun sel => !r.dangerous.contains sel).contains ·)).map (·.css))
    text = joined ∨ minify joined = .ok text := by
  intro joined
  dsimp only [finishRun] at h
  split at h <;> split at h <;> cases h
  · -- the minifier's text
    exact .inr ‹_ = Except.ok _›
  · -- the joined text, the minifier having failed
    exact .inl rfl

end Finish

/-- A run in the identity monad: collect, check the pages collected, probe, check the pages
resolved and finish, each stage starting from the state the one before left. -/
theorem runChecked_run {fetch : String → Id (Except Failure String)}
    {minify : String → Except Failure String} {req : Request} (s0 : RunState) :
    (runChecked probe fetch note minify req).run s0 =
      let policy := SuccessPolicy.ofRatio req.urls.length req.successRatio
      match (collect probe fetch note policy req.urls [] []).run
          { s0 with total := 1 + policy.required * req.viewports.length } with
      | (.error e, sc) => ((.error e, none), sc)
      | (.ok (collected, pageErrs), sc) =>
        match policy.check (sc.tracker.valid req.urls).length pageErrs with
        | some f => ((.error f, none), sc.advance)
        | none =>
          let pages := sc.advance.store.selectorPages
          match (resolvePages probe note pages req.viewports policy (pages.map (·.1))
              (sc.tracker.valid collected) { errors := pageErrs }).run
              { sc.advance with store := sc.advance.store.applyFilters req.filters } with
          | (.error e, sr) => ((.error e, none), sr)
          | (.ok r, sr) =>
            match policy.check r.resolved.length r.errors with
            | some f => ((.error f, none), sr)
            | none => (finishRun minify req pages policy.required r sr, sr) := by
  simp only [runChecked]
  simp
  generalize (collect probe fetch note _ req.urls [] []).run _ = cr
  obtain ⟨cres, sc⟩ := cr
  cases cres with
  | error e => rfl
  | ok val =>
    obtain ⟨collected, pageErrs⟩ := val
    simp only [advance]
    simp
    rw [show sc.advance.tracker = sc.tracker from rfl]
    cases (SuccessPolicy.ofRatio req.urls.length req.successRatio).check
        (sc.tracker.valid req.urls).length pageErrs with
    | some f => rfl
    | none =>
      simp
      generalize (resolvePages probe note _ req.viewports _ _ _ _).run _ = rr
      obtain ⟨rres, sr⟩ := rr
      cases rres with
      | error e => rfl
      | ok r =>
        simp only
        cases (SuccessPolicy.ofRatio req.urls.length req.successRatio).check
            r.resolved.length r.errors with
        | some f => rfl
        | none =>
          simp [finishRun]
          -- the events told while pruning leave the state as it was
          rw [run_forM_const]
          · cases minify _ <;> simp <;> split <;> rfl
          · intro _ _; rfl

theorem runChecked_ok {fetch : String → Id (Except Failure String)}
    {minify : String → Except Failure String} {req : Request} {s0 : RunState} {text : String}
    {ws : List Failure} {trace : Option Trace}
    (h : ((runChecked probe fetch note minify req).run s0).1 = (.ok (text, ws), trace)) :
    ∃ t, trace = some t ∧ ∃ collected errs sc s r,
      (collect probe fetch note (SuccessPolicy.ofRatio req.urls.length req.successRatio) req.urls
          [] []).run { s0 with total := 1 + (SuccessPolicy.ofRatio req.urls.length
            req.successRatio).required * req.viewports.length } = (.ok (collected, errs), sc) ∧
      (∀ p ∈ sc.tracker.valid collected, p ∈ req.urls) ∧
      ((resolvePages probe note t.selectorPages req.viewports
          (SuccessPolicy.ofRatio req.urls.length req.successRatio) (t.selectorPages.map (·.1))
          (sc.tracker.valid collected) { errors := errs }).run s).1 = .ok r ∧
      (SuccessPolicy.ofRatio req.urls.length req.successRatio).required ≤ r.resolved.length ∧
      t.critical = r.aboveFold.filter (fun sel => !r.dangerous.contains sel) ∧
      (text = "\n".intercalate ((Store.prunedSheetsOf t.files (t.critical.contains ·)).map (·.css)) ∨
        minify ("\n".intercalate ((Store.prunedSheetsOf t.files (t.critical.contains ·)).map (·.css)))
          = .ok text) := by
  rw [runChecked_run] at h
  dsimp only at h
  generalize hc : (collect probe fetch note _ req.urls [] []).run _ = cr at h
  obtain ⟨cres | ⟨collected, pageErrs⟩, sc⟩ := cr <;> dsimp only at h
  · cases h
  split at h
  · cases h
  generalize hr : (resolvePages probe note _ req.viewports _ _ _ _).run _ = rr at h
  obtain ⟨rres | r, sr⟩ := rr <;> dsimp only at h
  · cases h
  split at h
  · cases h
  rename_i hcheck
  have hreached : (SuccessPolicy.ofRatio req.urls.length req.successRatio).required ≤
      r.resolved.length := by
    simpa [SuccessPolicy.check, SuccessPolicy.reached] using hcheck
  have hurls : ∀ p ∈ sc.tracker.valid collected, p ∈ req.urls := by
    intro p hp
    simpa using collect_pages (congrArg Prod.fst hc) p (List.mem_filter.1 hp).1
  dsimp only at h
  have htrace := congrArg Prod.snd h
  rw [finishRun_trace] at htrace
  exact ⟨_, htrace.symm, collected, pageErrs, sc, _, r, rfl, hurls, congrArg Prod.fst hr, hreached,
    rfl, finishRun_ok (congrArg Prod.fst h)⟩

section Generate

variable {fetch : String → Id (Except Failure String)} {minify : String → Except Failure String}
  {req : Request}

/-- A run that ends without failure gives the text and warnings of its checked body, with its
trace. -/
theorem generate_eq_of_failure_eq_none (h : (generate probe fetch note minify req).failure = none) :
    ((runChecked probe fetch note minify req).run {}).1 =
      (.ok ((generate probe fetch note minify req).css, (generate probe fetch note minify req).warnings),
        (generate probe fetch note minify req).trace) := by
  simp only [generate] at h ⊢
  cases hp : req.problem with
  | some reason => simp [hp] at h
  | none =>
    simp only [hp] at h ⊢
    generalize (runChecked probe fetch note minify req).run {} = res at h ⊢
    obtain ⟨⟨result, trace⟩, s⟩ := res
    cases result with
    | error f => simp at h
    | ok val => rfl

/-- A run fails either because its request cannot be run, or with the failure of its checked
body. -/
theorem generate_failure_eq_some {f : Failure}
    (h : (generate probe fetch note minify req).failure = some f) :
    (∃ reason, req.problem = some reason ∧ f = .configuration reason) ∨
      (req.problem = none ∧
        ∃ trace, ((runChecked probe fetch note minify req).run {}).1 = (.error f, trace)) := by
  simp only [generate] at h
  cases hp : req.problem with
  | some reason =>
    simp [hp] at h
    exact .inl ⟨reason, rfl, h.symm⟩
  | none =>
    simp only [hp] at h
    refine .inr ⟨rfl, ?_⟩
    generalize (runChecked probe fetch note minify req).run {} = res at h ⊢
    obtain ⟨⟨result, trace⟩, s⟩ := res
    cases result with
    | error f' =>
      simp at h
      exact ⟨trace, by rw [h]⟩
    | ok val => simp at h

end Generate

end CriticalCss.Generate
