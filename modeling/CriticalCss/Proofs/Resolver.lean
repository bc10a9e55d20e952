import CriticalCss.Proofs.SelectorPages

/-!
# Probing pages until enough resolve

After collecting, a run probes its pages in order. A page resolves when the backend finds
the selectors matching it and then, in every viewport, those above its fold; what it found is
kept only then, so a page failing in a later viewport adds nothing. A failed page has its
failure recorded, overriding an earlier one, and passed to the tracker. Probing stops as soon
as the policy is reached. The selectors the run finds critical are those above the fold of a
resolved page that match no resolved page without a stylesheet of it holding them.

With a backend that answers by its arguments and never stops the run, all of this is a function
of the answers. `pageAnswer` reads what the backend answers for one page, `visitedPages` the
pages probing reaches, and `resolvePages_spec` says what probing leaves: the pages resolved,
the failures, the tracker, the threshold check and the critical selectors.

The proof follows probing page by page: `Resolution.Probed` says what probing some pages in
turn made of a resolution and a tracker, a page that resolves or fails gives it
(`Resolution.Probed.resolves`, `Resolution.Probed.fails`), and it
composes along the list (`Resolution.Probed.append`).

## Main definitions

* `pageAnswer`: what a backend answers when a page is probed.
* `visitedPages`: the pages probed, in order, until enough of them resolve.
* `Resolution.Probed`: what probing pages in turn does.

## Main results

* `probePage_run`: probing a page gives the backend's answer.
* `lookup_foldl_setFailure`: the last failure recorded for a page wins.
* `resolvePages_probed`: probing pages is probing the pages `visitedPages` gives, in turn.
* `resolvePages_spec`: what probing the pages of a run leaves.
-/

namespace CriticalCss.Probe

/-- A backend that never reports, while pages are probed, that the run was canceled or ran out
of time. -/
def Uncanceled (probe : Probe Id) : Prop :=
  (∀ page sels e, probe.matchAny page sels = .error e → e.stopsRun = false) ∧
    ∀ page vp sels e, probe.matchAboveFold page vp sels = .error e → e.stopsRun = false

/-- What a backend finds above the fold of a page in one viewport. -/
def aboveFoldIn (probe : Probe Id) (page : String) (matched : List String) (vp : Viewport) :
    Except Failure (List String) :=
  probe.matchAboveFold page vp matched

theorem aboveFoldIn_apply (probe : Probe Id) (page : String) (matched : List String)
    (vp : Viewport) : probe.aboveFoldIn page matched vp = probe.matchAboveFold page vp matched :=
  rfl

end CriticalCss.Probe

namespace CriticalCss.Generate

open CriticalCss.Probe

/-! ### One page -/

@[simp] theorem RunState.advance_tracker (s : RunState) : s.advance.tracker = s.tracker := rfl

/-- What a backend answers when a page is probed: the selectors matching it, then what lies
above its fold in each viewport, or the first failure. -/
def pageAnswer (probe : Probe Id) (sels : List String) (vps : List Viewport) (page : String) :
    Except Failure (List String × List (List String)) :=
  match probe.matchAny page sels with
  | .error e => .error e
  | .ok matched => (vps.mapM (probe.aboveFoldIn page matched)).map (matched, ·)

/-- Whether a backend resolves a page. -/
def pageResolves (probe : Probe Id) (sels : List String) (vps : List Viewport) (page : String) :
    Bool :=
  (pageAnswer probe sels vps page).toBool

/-- The failure a backend gives a page, if any. -/
def pageFailure (probe : Probe Id) (sels : List String) (vps : List Viewport) (page : String) :
    Option Failure :=
  match pageAnswer probe sels vps page with
  | .error e => some e
  | .ok _ => none

/-- The pages of a list that a backend fails, each with its failure, in order. -/
def pageFailures (probe : Probe Id) (sels : List String) (vps : List Viewport)
    (pages : List String) : List (String × Failure) :=
  pages.filterMap fun p => (pageFailure probe sels vps p).map (p, ·)

variable {probe : Probe Id} {note : Event → Id Unit} {sels : List String} {vps : List Viewport}

section Viewports

variable {page : String} {matched : List String}

theorem mapM_aboveFoldIn_cons (vp : Viewport) (vps : List Viewport) :
    (vp :: vps).mapM (probe.aboveFoldIn page matched) =
      match probe.matchAboveFold page vp matched with
      | .error e => .error e
      | .ok found => (vps.mapM (probe.aboveFoldIn page matched)).map (found :: ·) := by
  rw [List.mapM_cons, Probe.aboveFoldIn_apply]
  cases probe.matchAboveFold page vp matched with
  | error e => rfl
  | ok found => cases vps.mapM (probe.aboveFoldIn page matched) <;> rfl

/-- Looking above the fold in every viewport fails only with the failure of one of them. -/
theorem mapM_aboveFoldIn_error {e : Failure} :
    ∀ {vps : List Viewport}, vps.mapM (probe.aboveFoldIn page matched) = .error e →
      ∃ vp ∈ vps, probe.matchAboveFold page vp matched = .error e
  | [], h => by cases h
  | vp :: vps, h => by
    rw [mapM_aboveFoldIn_cons] at h
    cases hf : probe.matchAboveFold page vp matched with
    | error e' =>
      rw [hf] at h
      cases h
      exact ⟨vp, List.mem_cons_self .., hf⟩
    | ok found =>
      rw [hf] at h
      cases hr : vps.mapM (probe.aboveFoldIn page matched) with
      | error e' =>
        rw [hr] at h
        cases h
        obtain ⟨vp', hvp', h'⟩ := mapM_aboveFoldIn_error hr
        exact ⟨vp', List.mem_cons_of_mem _ hvp', h'⟩
      | ok founds => rw [hr] at h; cases h

/-- Looking above the fold in every viewport succeeds when it succeeds in each. -/
theorem mapM_aboveFoldIn_ok_iff :
    ∀ {vps : List Viewport}, (∃ found, vps.mapM (probe.aboveFoldIn page matched) = .ok found) ↔
      ∀ vp ∈ vps, ∃ found, probe.matchAboveFold page vp matched = .ok found
  | [] => by simp [List.mapM_nil, pure, Except.pure]
  | vp :: vps => by
    rw [mapM_aboveFoldIn_cons, List.forall_mem_cons, ← mapM_aboveFoldIn_ok_iff]
    cases probe.matchAboveFold page vp matched with
    | error e => simp
    | ok found =>
      cases vps.mapM (probe.aboveFoldIn page matched) with
      | error e => simp [Except.map]
      | ok founds => simp [Except.map]

/-- What was found above the fold in every viewport is what each viewport found. -/
theorem mem_flatten_of_mapM_aboveFoldIn {x : String} : ∀ {vps : List Viewport}
    {found : List (List String)}, vps.mapM (probe.aboveFoldIn page matched) = .ok found →
      (x ∈ found.flatten ↔ ∃ vp ∈ vps, ∃ f, probe.matchAboveFold page vp matched = .ok f ∧ x ∈ f)
  | [], found, h => by
    cases h
    simp
  | vp :: vps, found, h => by
    rw [mapM_aboveFoldIn_cons] at h
    cases hf : probe.matchAboveFold page vp matched with
    | error e => rw [hf] at h; cases h
    | ok f =>
      rw [hf] at h
      cases hr : vps.mapM (probe.aboveFoldIn page matched) with
      | error e => rw [hr] at h; cases h
      | ok fs =>
        rw [hr] at h
        cases h
        rw [List.flatten_cons, List.mem_append, mem_flatten_of_mapM_aboveFoldIn hr]
        constructor
        · rintro (hx | ⟨vp', hvp', f', hf', hx⟩)
          · exact ⟨vp, List.mem_cons_self .., f, hf, hx⟩
          · exact ⟨vp', List.mem_cons_of_mem _ hvp', f', hf', hx⟩
        · rintro ⟨vp', hvp', f', hf', hx⟩
          rcases List.mem_cons.1 hvp' with rfl | hvp'
          · rw [hf] at hf'
            cases hf'
            exact .inl hx
          · exact .inr ⟨vp', hvp', f', hf', hx⟩

theorem probePage_above_run {vps : List Viewport} {acc : List String} {s : RunState} :
    ((probePage.above probe note page matched vps acc).run s).1 =
        (vps.mapM (probe.aboveFoldIn page matched)).map (acc ++ ·.flatten) ∧
      ((probePage.above probe note page matched vps acc).run s).2.tracker = s.tracker := by
  induction vps generalizing acc s with
  | nil =>
    refine ⟨?_, rfl⟩
    show Except.ok acc = .ok (acc ++ List.flatten [])
    simp
  | cons vp vps ih =>
    rw [mapM_aboveFoldIn_cons]
    cases hf : probe.matchAboveFold page vp matched with
    | error e => simp [probePage.above, advance, hf, Except.map]
    | ok found =>
      obtain ⟨h1, h2⟩ := @ih (acc ++ found) s.advance
      simp [probePage.above, advance, hf]
      rw [h1, h2]
      refine ⟨?_, rfl⟩
      cases vps.mapM (probe.aboveFoldIn page matched) <;> simp [Except.map]

end Viewports

theorem pageAnswer_eq_ok_iff {page : String} {a : List String × List (List String)} :
    pageAnswer probe sels vps page = .ok a ↔
      probe.matchAny page sels = .ok a.1 ∧ vps.mapM (probe.aboveFoldIn page a.1) = .ok a.2 := by
  obtain ⟨matched, found⟩ := a
  cases hm : probe.matchAny page sels with
  | error e => simp [pageAnswer, hm]
  | ok m =>
    cases hr : vps.mapM (probe.aboveFoldIn page m) with
    | error e =>
      simp only [pageAnswer, hm, hr, Except.map, reduceCtorEq, false_iff, not_and]
      rintro ⟨⟩
      simp [hr]
    | ok f =>
      simp only [pageAnswer, hm, hr, Except.map, Except.ok.injEq, Prod.mk.injEq]
      constructor
      · rintro ⟨rfl, rfl⟩
        exact ⟨rfl, hr⟩
      · rintro ⟨h1, h2⟩
        cases h1
        rw [hr] at h2
        cases h2
        exact ⟨rfl, rfl⟩

theorem pageResolves_iff_exists {page : String} :
    pageResolves probe sels vps page = true ↔ ∃ a, pageAnswer probe sels vps page = .ok a := by
  simp only [pageResolves]
  cases pageAnswer probe sels vps page <;> simp [Except.toBool]

/-- A page resolves exactly when the selectors matching it are found, and then those above its
fold in every viewport. -/
theorem pageResolves_iff {page : String} :
    pageResolves probe sels vps page = true ↔ Resolved probe sels vps page := by
  rw [pageResolves_iff_exists]
  constructor
  · rintro ⟨⟨matched, found⟩, ha⟩
    obtain ⟨hm, hf⟩ := pageAnswer_eq_ok_iff.1 ha
    exact ⟨matched, hm, mapM_aboveFoldIn_ok_iff.1 ⟨found, hf⟩⟩
  · rintro ⟨matched, hm, hall⟩
    obtain ⟨found, hf⟩ := mapM_aboveFoldIn_ok_iff.2 hall
    exact ⟨(matched, found), pageAnswer_eq_ok_iff.2 ⟨hm, hf⟩⟩

theorem pageFailure_eq_none_iff {page : String} :
    pageFailure probe sels vps page = none ↔ pageResolves probe sels vps page = true := by
  simp only [pageFailure, pageResolves]
  cases pageAnswer probe sels vps page <;> simp [Except.toBool]

/-- A backend that never stops the run gives no page a failure that stops it. -/
theorem stopsRun_of_pageFailure (hp : probe.Uncanceled) {page : String} {e : Failure}
    (h : pageFailure probe sels vps page = some e) : e.stopsRun = false := by
  simp only [Generate.pageFailure, pageAnswer] at h
  cases hm : probe.matchAny page sels with
  | error e' =>
    simp only [hm, Option.some.injEq] at h
    exact h ▸ hp.1 _ _ _ hm
  | ok matched =>
    cases hr : vps.mapM (probe.aboveFoldIn page matched) with
    | error e' =>
      simp only [hm, hr, Except.map, Option.some.injEq] at h
      -- the failure is that of the first viewport that fails
      obtain ⟨vp, -, hvp⟩ := mapM_aboveFoldIn_error hr
      exact h ▸ hp.2 _ _ _ _ hvp
    | ok found => simp [hm, hr, Except.map] at h

/-- **Probing one page** gives the backend's answer: the selectors matching the page that no
stylesheet of it holds, and everything found above its fold; it records no failure. -/
theorem probePage_run (pages : List (String × List String)) (page : String) (s : RunState) :
    ((probePage probe note pages vps page sels).run s).1 =
        (pageAnswer probe sels vps page).map (fun a =>
          (a.1.filter fun x => !pagesHave pages x page, a.2.flatten)) ∧
      ((probePage probe note pages vps page sels).run s).2.tracker = s.tracker := by
  cases hm : probe.matchAny page sels with
  | error e => simp [probePage, pageAnswer, hm, Except.map]
  | ok matched =>
    obtain ⟨h1, h2⟩ := @probePage_above_run probe note page matched vps [] s
    generalize hab : (probePage.above probe note page matched vps []).run s = res at h1 h2
    obtain ⟨out, s1⟩ := res
    cases hr : vps.mapM (probe.aboveFoldIn page matched) with
    | error e =>
      simp only [hr, Except.map] at h1
      subst h1
      simpa [probePage, pageAnswer, hm, hr, hab, Except.map] using h2
    | ok found =>
      simp only [hr, Except.map] at h1
      subst h1
      simpa [probePage, pageAnswer, hm, hr, hab, Except.map] using h2

/-- For a page the backend resolves, the selectors found above its fold are those it answered. -/
theorem aboveFoldOn_iff {page : String} {a : List String × List (List String)}
    (h : pageAnswer probe sels vps page = .ok a) {x : String} :
    AboveFoldOn probe sels vps page x ↔ x ∈ a.2.flatten := by
  obtain ⟨hm, hr⟩ := pageAnswer_eq_ok_iff.1 h
  rw [mem_flatten_of_mapM_aboveFoldIn hr]
  constructor
  · rintro ⟨m, hm', hx⟩
    rw [hm] at hm'
    cases hm'
    exact hx
  · exact fun hx => ⟨a.1, hm, hx⟩

/-- For a page the backend resolves, the dangerous selectors are those matching it that no
stylesheet of it holds. -/
theorem dangerousOn_iff {page : String} {a : List String × List (List String)}
    (h : pageAnswer probe sels vps page = .ok a) (pages : List (String × List String)) {x : String} :
    DangerousOn probe sels pages page x ↔ x ∈ a.1.filter fun y => !pagesHave pages y page := by
  obtain ⟨hm, -⟩ := pageAnswer_eq_ok_iff.1 h
  simp only [List.mem_filter, Bool.not_eq_true']
  constructor
  · rintro ⟨m, hm', hx, hhave⟩
    rw [hm] at hm'
    cases hm'
    exact ⟨hx, hhave⟩
  · exact fun ⟨hx, hhave⟩ => ⟨a.1, hm, hx, hhave⟩

/-! ### The pages probed -/

/-- The pages probed in turn: those of `urls` in order, until `need` of them resolve. -/
def visitedPages (resolves : String → Bool) : Nat → List String → List String
  | 0, _ => []
  | _ + 1, [] => []
  | n + 1, p :: rest => p :: visitedPages resolves (if resolves p then n else n + 1) rest

section Visited

variable {ok : String → Bool}

@[simp] theorem visitedPages_nil (n : Nat) : visitedPages ok n [] = [] := by
  cases n <;> rfl

@[simp] theorem visitedPages_zero (urls : List String) : visitedPages ok 0 urls = [] := by
  cases urls <;> rfl

theorem visitedPages_succ_cons (n : Nat) (p : String) (rest : List String) :
    visitedPages ok (n + 1) (p :: rest) =
      p :: visitedPages ok (if ok p then n else n + 1) rest := rfl

theorem isPrefix_visitedPages : ∀ (n : Nat) (urls : List String), visitedPages ok n urls <+: urls
  | 0, _ => by simp
  | _ + 1, [] => by simp
  | _ + 1, p :: rest => by
    rw [visitedPages_succ_cons]
    exact List.cons_prefix_cons.2 ⟨rfl, isPrefix_visitedPages _ rest⟩

/-- Before each page probed, fewer than `need` pages had resolved. -/
theorem visitedPages_before : ∀ (n : Nat) (urls : List String), ∀ k < (visitedPages ok n urls).length,
    ((urls.take k).filter ok).length < n
  | 0, _, k, hk => by simp at hk
  | _ + 1, [], k, hk => by simp at hk
  | n + 1, p :: rest, 0, _ => by simp
  | n + 1, p :: rest, k + 1, hk => by
    rw [visitedPages_succ_cons, List.length_cons] at hk
    have ih := visitedPages_before (if ok p then n else n + 1) rest k (by omega)
    by_cases hp : ok p = true
    · rw [if_pos hp] at ih
      simpa [hp] using ih
    · rw [if_neg hp] at ih
      simpa [hp] using ih

/-- Probing stops before the last page only when `need` pages have resolved. -/
theorem visitedPages_stop : ∀ (n : Nat) (urls : List String),
    (visitedPages ok n urls).length < urls.length → ((visitedPages ok n urls).filter ok).length = n
  | 0, _, _ => by simp
  | _ + 1, [], h => by simp at h
  | n + 1, p :: rest, h => by
    rw [visitedPages_succ_cons, List.length_cons, List.length_cons] at h
    have ih := visitedPages_stop (if ok p then n else n + 1) rest (by omega)
    rw [visitedPages_succ_cons]
    by_cases hp : ok p = true
    · rw [if_pos hp] at ih ⊢
      simp [hp, ih]
    · rw [if_neg hp] at ih ⊢
      simp [hp, ih]

end Visited

/-- Once a policy is reached, no more pages are needed. -/
theorem SuccessPolicy.toNat_sub_of_reached {policy : SuccessPolicy} {k : Nat}
    (h : policy.reached k = true) : (policy.required - k).toNat = 0 := by
  simp only [SuccessPolicy.reached, decide_eq_true_eq] at h
  omega

/-- Before a policy is reached, one page more is needed than after the next page resolves. -/
theorem SuccessPolicy.toNat_sub_of_not_reached {policy : SuccessPolicy} {k : Nat}
    (h : ¬policy.reached k = true) :
    (policy.required - k).toNat = (policy.required - (k + 1)).toNat + 1 := by
  simp only [SuccessPolicy.reached, decide_eq_true_eq] at h
  omega

/-! ### The failures recorded -/

/-- Recording a failure of a page gives the page that failure and leaves the others theirs. -/
theorem lookup_setFailure (errs : List (String × Failure)) (url u : String) (f : Failure) :
    (setFailure errs url f).lookup u = if u = url then some f else errs.lookup u := by
  unfold setFailure
  split
  · rename_i h
    rw [lookup_map_update url (fun _ => f) fun kv => by
      obtain ⟨k, g⟩ := kv
      by_cases hk : k = url <;> simp [hk]]
    by_cases hu : u = url
    · subst hu
      obtain ⟨g, hg⟩ := Option.isSome_iff_exists.1 h
      rw [if_pos rfl, if_pos rfl, hg]
      rfl
    · rw [if_neg hu, if_neg hu]
  · rename_i h
    rw [List.lookup_append]
    by_cases hu : u = url
    · subst hu
      rw [Option.not_isSome_iff_eq_none.1 h]
      simp
    · simp [hu, lookup_cons_ne hu]

/-- **The last failure recorded for a page wins**; pages never recorded keep their failure. -/
theorem lookup_foldl_setFailure (u : String) : ∀ (fs errs : List (String × Failure)),
    (fs.foldl (fun acc x => setFailure acc x.1 x.2) errs).lookup u =
      (fs.reverse.lookup u).or (errs.lookup u)
  | [], errs => by simp
  | (k, e) :: fs, errs => by
    rw [List.foldl_cons, lookup_foldl_setFailure u fs, lookup_setFailure, List.reverse_cons,
      List.lookup_append]
    by_cases hu : u = k
    · subst hu
      cases fs.reverse.lookup u <;> simp
    · simp [hu, lookup_cons_ne hu]

/-- Recording failures keeps each page recorded once. -/
theorem nodup_keys_setFailure {errs : List (String × Failure)} (h : (errs.map Prod.fst).Nodup)
    (url : String) (f : Failure) : ((setFailure errs url f).map Prod.fst).Nodup := by
  unfold setFailure
  split
  · -- the entries of the page change in place, so the keys stay those of the map
    rw [List.map_map]
    convert h using 1
    refine List.map_congr_left fun kv _ => ?_
    obtain ⟨k, g⟩ := kv
    by_cases hk : k = url <;> simp [hk]
  · rename_i hnone
    have hnone' : errs.lookup url = none := Option.not_isSome_iff_eq_none.1 hnone
    have hnot : url ∉ errs.map Prod.fst := by
      intro hmem
      obtain ⟨kv, hkv, hk⟩ := List.mem_map.1 hmem
      have hne := List.lookup_eq_none_iff.1 hnone' kv hkv
      rw [hk] at hne
      simp at hne
    rw [List.map_append, List.nodup_append]
    refine ⟨h, by simp, fun a ha b hb hab => hnot ?_⟩
    rw [List.map_singleton, List.mem_singleton] at hb
    rw [hab, hb] at ha
    exact ha

theorem nodup_keys_foldl_setFailure : ∀ (fs : List (String × Failure))
    {errs : List (String × Failure)}, (errs.map Prod.fst).Nodup →
      ((fs.foldl (fun acc x => setFailure acc x.1 x.2) errs).map Prod.fst).Nodup
  | [], _, h => h
  | x :: fs, _, h => nodup_keys_foldl_setFailure fs (nodup_keys_setFailure h x.1 x.2)

/-- A page has a failure among those of some pages exactly when it is one of them and fails. -/
theorem lookup_pageFailures (u : String) : ∀ pages : List String,
    (pageFailures probe sels vps pages).lookup u =
      if u ∈ pages then pageFailure probe sels vps u else none
  | [] => by simp [pageFailures]
  | p :: ps => by
    have ih := lookup_pageFailures u ps
    simp only [pageFailures, List.filterMap_cons] at ih ⊢
    by_cases hu : u = p
    · subst hu
      cases hf : pageFailure probe sels vps u with
      | none =>
        simp only [Option.map_none, List.mem_cons_self, if_true]
        rw [ih, hf]
        split <;> rfl
      | some e => simp
    · cases pageFailure probe sels vps p <;> simp [ih, hu, lookup_cons_ne hu]

/-! ### Probing pages in turn -/

/-- What probing the pages `seen` in turn makes of a resolution `r` and a tracker `t`: the pages
that resolve are added in order, the failures of the others recorded and tracked, and what the
resolved pages reveal above the fold and as dangerous added. -/
structure Resolution.Probed (probe : Probe Id) (pages : List (String × List String))
    (vps : List Viewport) (sels seen : List String) (r r' : Resolution) (t t' : Tracker) :
    Prop where
  resolved : r'.resolved = r.resolved ++ seen.filter (pageResolves probe sels vps)
  errors : r'.errors =
    (pageFailures probe sels vps seen).foldl (fun acc x => setFailure acc x.1 x.2) r.errors
  tracker : t' = (pageFailures probe sels vps seen).foldl (fun t x => t.track x.1 x.2) t
  aboveFold : ∀ x, x ∈ r'.aboveFold ↔ x ∈ r.aboveFold ∨
    ∃ p ∈ seen.filter (pageResolves probe sels vps), AboveFoldOn probe sels vps p x
  dangerous : ∀ x, x ∈ r'.dangerous ↔ x ∈ r.dangerous ∨
    ∃ p ∈ seen.filter (pageResolves probe sels vps), DangerousOn probe sels pages p x

section Probed

variable {pages : List (String × List String)}

theorem pageFailures_append (a b : List String) :
    pageFailures probe sels vps (a ++ b) =
      pageFailures probe sels vps a ++ pageFailures probe sels vps b :=
  List.filterMap_append

theorem Resolution.Probed.nil (r : Resolution) (t : Tracker) :
    Resolution.Probed probe pages vps sels [] r r t t :=
  ⟨by simp, rfl, rfl, by simp, by simp⟩

/-- Probing pages in turn, then more, is probing them all in turn. -/
theorem Resolution.Probed.append {a b : List String} {r r₁ r₂ : Resolution} {t t₁ t₂ : Tracker}
    (h₁ : Resolution.Probed probe pages vps sels a r r₁ t t₁)
    (h₂ : Resolution.Probed probe pages vps sels b r₁ r₂ t₁ t₂) :
    Resolution.Probed probe pages vps sels (a ++ b) r r₂ t t₂ where
  resolved := by rw [h₂.resolved, h₁.resolved, List.filter_append, List.append_assoc]
  errors := by rw [h₂.errors, h₁.errors, pageFailures_append, List.foldl_append]
  tracker := by rw [h₂.tracker, h₁.tracker, pageFailures_append, List.foldl_append]
  aboveFold x := by
    rw [h₂.aboveFold, h₁.aboveFold, List.filter_append]
    simp only [List.mem_append, or_and_right, exists_or, or_assoc]
  dangerous x := by
    rw [h₂.dangerous, h₁.dangerous, List.filter_append]
    simp only [List.mem_append, or_and_right, exists_or, or_assoc]

/-- A page that resolves adds itself and what it reveals. -/
theorem Resolution.Probed.resolves {page : String} {a : List String × List (List String)}
    (h : pageAnswer probe sels vps page = .ok a) (r : Resolution) (t : Tracker) :
    Resolution.Probed probe pages vps sels [page] r
      { r with resolved := r.resolved ++ [page],
               aboveFold := a.2.flatten.foldl appendNew r.aboveFold,
               dangerous := (a.1.filter fun x => !pagesHave pages x page).foldl appendNew
                 r.dangerous } t t := by
  have hok : pageResolves probe sels vps page = true := pageResolves_iff_exists.2 ⟨a, h⟩
  have hnone : pageFailure probe sels vps page = none := pageFailure_eq_none_iff.2 hok
  refine ⟨by simp [hok], by simp [pageFailures, hnone], by simp [pageFailures, hnone], ?_, ?_⟩
  · intro x
    rw [mem_foldl_appendNew]
    simp [hok, aboveFoldOn_iff h]
  · intro x
    rw [mem_foldl_appendNew]
    simp [hok, dangerousOn_iff h pages]

/-- A page that fails has its failure recorded and tracked, and adds nothing else. -/
theorem Resolution.Probed.fails {page : String} {e : Failure}
    (h : pageFailure probe sels vps page = some e) (r : Resolution) (t : Tracker) :
    Resolution.Probed probe pages vps sels [page] r
      { r with errors := setFailure r.errors page e } t (t.track page e) := by
  have hok : pageResolves probe sels vps page = false := by
    cases hr : pageResolves probe sels vps page
    · rfl
    · rw [pageFailure_eq_none_iff.2 hr] at h
      cases h
  refine ⟨by simp [hok], by simp [pageFailures, h], by simp [pageFailures, h], ?_, ?_⟩ <;>
    simp [hok]

/-- **Probing pages** in turn, with a backend that never stops the run, probes the pages that
`visitedPages` gives: those of the list in order, until the policy is reached. -/
theorem resolvePages_probed (hp : probe.Uncanceled) (policy : SuccessPolicy) :
    ∀ (urls : List String) (r : Resolution) (s : RunState),
      ∃ r' s', (resolvePages probe note pages vps policy sels urls r).run s = (.ok r', s') ∧
        Resolution.Probed probe pages vps sels
          (visitedPages (pageResolves probe sels vps) (policy.required - r.resolved.length).toNat
            urls) r r' s.tracker s'.tracker
  | [], r, s => ⟨r, s, rfl, by simpa using Resolution.Probed.nil r s.tracker⟩
  | page :: rest, r, s => by
    rw [resolvePages_cons_run]
    by_cases hreached : policy.reached r.resolved.length = true
    · -- enough pages resolved: nothing more is probed
      rw [if_pos hreached]
      exact ⟨r, s, rfl, by
        simpa [SuccessPolicy.toNat_sub_of_reached hreached] using Resolution.Probed.nil r s.tracker⟩
    have hneed := SuccessPolicy.toNat_sub_of_not_reached hreached
    rw [if_neg hreached, hneed, visitedPages_succ_cons]
    obtain ⟨h1, h2⟩ := @probePage_run probe note sels vps pages page s
    generalize (probePage probe note pages vps page sels).run s = pr at h1 h2
    obtain ⟨res, s1⟩ := pr
    cases ha : pageAnswer probe sels vps page with
    | error e =>
      have hf : pageFailure probe sels vps page = some e := by simp [pageFailure, ha]
      have hok : pageResolves probe sels vps page = false := by
        simp [pageResolves, ha, Except.toBool]
      simp only [ha, Except.map] at h1
      subst h1
      simp only [stopsRun_of_pageFailure hp hf, Bool.false_eq_true, if_false]
      rw [h2]
      -- the page is recorded as failed and the next pages are probed for as many
      obtain ⟨r', s', hrun, hprobed⟩ := resolvePages_probed hp policy rest
        { r with errors := setFailure r.errors page e } { s1 with tracker := s.tracker.track page e }
      refine ⟨r', s', hrun, ?_⟩
      have hstep := (Resolution.Probed.fails hf r s.tracker).append hprobed
      rw [hok, if_neg Bool.false_ne_true]
      simpa [hneed] using hstep
    | ok a =>
      have hok : pageResolves probe sels vps page = true := pageResolves_iff_exists.2 ⟨a, ha⟩
      simp only [ha, Except.map] at h1
      subst h1
      -- the page is resolved and one page fewer is still needed
      obtain ⟨r', s', hrun, hprobed⟩ := resolvePages_probed hp policy rest
        { r with resolved := r.resolved ++ [page],
                 aboveFold := a.2.flatten.foldl appendNew r.aboveFold,
                 dangerous := (a.1.filter fun x => !pagesHave pages x page).foldl appendNew
                   r.dangerous } s1
      refine ⟨r', s', hrun, ?_⟩
      rw [← h2]
      have hstep := (Resolution.Probed.resolves ha r s1.tracker).append hprobed
      rw [hok, if_pos rfl]
      simpa using hstep

end Probed

/-! ### What probing the pages of a run leaves -/

theorem lookup_foldl_pageFailures (seen : List String) (errs : List (String × Failure)) (u : String) :
    ((pageFailures probe sels vps seen).foldl (fun acc x => setFailure acc x.1 x.2) errs).lookup u =
      (if u ∈ seen then pageFailure probe sels vps u else none).or (errs.lookup u) := by
  rw [lookup_foldl_setFailure, pageFailures, ← List.filterMap_reverse, ← pageFailures,
    lookup_pageFailures]
  simp only [List.mem_reverse]

/-- **Probing the pages of a run**, from no result and the failures `errs` of earlier stages,
with a backend that answers by its arguments and never stops the run:

* the pages probed, `seen`, are the first pages of the list: before each of them fewer pages
  had resolved than the policy requires, and probing stops before the last page only once
  enough have resolved;
* a page resolves exactly when the selectors matching it are found, and then those above its
  fold in every viewport; the pages resolved are those of `seen` that resolve, in order;
* each page of `seen` that fails has its own failure recorded, replacing any earlier one, and
  every other page keeps its earlier failure; each page is recorded once, and each failure is
  also tracked;
* the threshold check fails exactly when fewer pages resolved than the policy requires;
* the critical selectors are those found above the fold of a resolved page in some viewport
  that match no resolved page without a stylesheet of it holding them, so a page that failed,
  even after some viewports, adds nothing. -/
theorem resolvePages_spec (hp : probe.Uncanceled) (pages : List (String × List String))
    (policy : SuccessPolicy) (urls : List String) (errs : List (String × Failure))
    (s : RunState) :
    let resolves := pageResolves probe sels vps
    let seen := visitedPages resolves policy.required.toNat urls
    ∃ r s', (resolvePages probe note pages vps policy sels urls { errors := errs }).run s =
        (.ok r, s') ∧
      (seen <+: urls ∧
        (∀ k < seen.length, ((urls.take k).filter resolves).length < policy.required.toNat) ∧
        (seen.length < urls.length → (seen.filter resolves).length = policy.required.toNat)) ∧
      (∀ p, resolves p = true ↔ Resolved probe sels vps p) ∧
      r.resolved = seen.filter resolves ∧
      (∀ u, r.errors.lookup u =
        (if u ∈ seen then pageFailure probe sels vps u else none).or (errs.lookup u)) ∧
      ((errs.map Prod.fst).Nodup → (r.errors.map Prod.fst).Nodup) ∧
      s'.tracker = (pageFailures probe sels vps seen).foldl (fun t x => t.track x.1 x.2) s.tracker ∧
      policy.check r.resolved.length r.errors =
        (if ((seen.filter resolves).length : Int) < policy.required then
          some (.threshold policy.required (seen.filter resolves).length r.errors) else none) ∧
      ∀ x, x ∈ r.aboveFold.filter (fun sel => !r.dangerous.contains sel) ↔
        (∃ p ∈ seen.filter resolves, AboveFoldOn probe sels vps p x) ∧
          ¬ ∃ p ∈ seen.filter resolves, DangerousOn probe sels pages p x := by
  intro resolves seen
  obtain ⟨r, s', hrun, hpr⟩ := @resolvePages_probed probe note sels vps pages hp policy urls
    { errors := errs } s
  have hneed : (policy.required - (([] : List String).length : Int)).toNat = policy.required.toNat := by
    simp
  rw [hneed] at hpr
  have hres : r.resolved = seen.filter resolves := by simpa using hpr.resolved
  refine ⟨r, s', hrun, ⟨isPrefix_visitedPages _ urls, visitedPages_before _ urls,
    visitedPages_stop _ urls⟩, fun p => pageResolves_iff, hres, fun u => ?_, fun h => ?_,
    hpr.tracker, ?_, fun x => ?_⟩
  · rw [hpr.errors, lookup_foldl_pageFailures]
  · rw [hpr.errors]
    exact nodup_keys_foldl_setFailure _ h
  · -- the check compares the pages resolved with the policy
    simp only [SuccessPolicy.check, SuccessPolicy.reached, hres, decide_eq_true_eq]
    by_cases hlt : ((seen.filter resolves).length : Int) < policy.required
    · rw [if_pos hlt, if_neg (by omega)]
    · rw [if_neg hlt, if_pos (by omega)]
  · -- both sets start empty, so they hold what the resolved pages reveal
    have habove : x ∈ r.aboveFold ↔ ∃ p ∈ seen.filter resolves, AboveFoldOn probe sels vps p x := by
      simpa using hpr.aboveFold x
    have hdanger : x ∈ r.dangerous ↔
        ∃ p ∈ seen.filter resolves, DangerousOn probe sels pages p x := by
      simpa using hpr.dangerous x
    rw [List.mem_filter, ← habove, ← hdanger]
    simp

/-- A backend for two pages in two viewports: the first page shows `.a` above the fold in the
wide viewport and then fails in the narrow one; the second shows `.b`, and `.c` matches it
though no stylesheet of it holds `.c`. -/
def twoPageProbe : Probe Id where
  includes _ := .ok []
  matchAny page sels := if page = "https://a.test/" then .ok sels else .ok [".b", ".c"]
  matchAboveFold page vp _ :=
    if page = "https://a.test/" then
      if vp.width = 400 then .error (.plain "timeout") else .ok [".a"]
    else .ok [".b"]

theorem twoPageProbe_uncanceled : twoPageProbe.Uncanceled := by
  refine ⟨fun page sels e h => ?_, fun page vp sels e h => ?_⟩
  · simp only [twoPageProbe] at h
    split at h <;> cases h
  · simp only [twoPageProbe] at h
    split at h
    · split at h
      · cases h
        rfl
      · cases h
    · cases h

theorem resolvePages_spec_twoPages :
    twoPageProbe.Uncanceled ∧
      let resolves := pageResolves twoPageProbe [".a", ".b", ".c"] [⟨1200, 800⟩, ⟨400, 800⟩]
      let seen := visitedPages resolves (1 : Int).toNat ["https://a.test/", "https://b.test/"]
      ∃ r s', (resolvePages twoPageProbe (fun _ => pure ()) [(".b", ["https://b.test/"])]
          [⟨1200, 800⟩, ⟨400, 800⟩] ⟨1⟩ [".a", ".b", ".c"] ["https://a.test/", "https://b.test/"]
          { errors := [] }).run {} = (.ok r, s') ∧
        (seen <+: ["https://a.test/", "https://b.test/"] ∧
          (∀ k < seen.length,
            ((["https://a.test/", "https://b.test/"].take k).filter resolves).length <
              (1 : Int).toNat) ∧
          (seen.length < 2 → (seen.filter resolves).length = (1 : Int).toNat)) ∧
        (∀ p, resolves p = true ↔
          Resolved twoPageProbe [".a", ".b", ".c"] [⟨1200, 800⟩, ⟨400, 800⟩] p) ∧
        r.resolved = seen.filter resolves ∧
        (∀ u, r.errors.lookup u = (if u ∈ seen then
          pageFailure twoPageProbe [".a", ".b", ".c"] [⟨1200, 800⟩, ⟨400, 800⟩] u else none).or
            (([] : List (String × Failure)).lookup u)) ∧
        ((([] : List (String × Failure)).map Prod.fst).Nodup → (r.errors.map Prod.fst).Nodup) ∧
        s'.tracker = (pageFailures twoPageProbe [".a", ".b", ".c"] [⟨1200, 800⟩, ⟨400, 800⟩]
          seen).foldl (fun t x => t.track x.1 x.2) ({} : RunState).tracker ∧
        SuccessPolicy.check ⟨1⟩ r.resolved.length r.errors =
          (if ((seen.filter resolves).length : Int) < 1 then
            some (.threshold 1 (seen.filter resolves).length r.errors) else none) ∧
        ∀ x, x ∈ r.aboveFold.filter (fun sel => !r.dangerous.contains sel) ↔
          (∃ p ∈ seen.filter resolves, AboveFoldOn twoPageProbe [".a", ".b", ".c"]
            [⟨1200, 800⟩, ⟨400, 800⟩] p x) ∧
          ¬ ∃ p ∈ seen.filter resolves, DangerousOn twoPageProbe [".a", ".b", ".c"]
            [(".b", ["https://b.test/"])] p x :=
  ⟨twoPageProbe_uncanceled, resolvePages_spec twoPageProbe_uncanceled _ _ _ _ _⟩

/-- The first page fails in its second viewport, so `.a` is not critical; `.c` is dangerous. -/
example :
    ((resolvePages twoPageProbe (fun _ => pure ()) [(".b", ["https://b.test/"])]
        [⟨1200, 800⟩, ⟨400, 800⟩] ⟨1⟩ [".a", ".b", ".c"] ["https://a.test/", "https://b.test/"]
        {}).run {}).1.toOption.map (fun r => (r.resolved, r.aboveFold, r.dangerous)) =
      some (["https://b.test/"], [".b"], [".c"]) := by
  decide

end CriticalCss.Generate
