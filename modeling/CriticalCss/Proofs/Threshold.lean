import Mathlib.Data.List.Basic
import CriticalCss.Proofs.PureRun

/-!
# Runs that reach their threshold

A run asks for a number of successful pages, fixed by its policy. It collects the stylesheets
of pages in the order of the request until that many pages list their stylesheets, and then
probes only the pages it collected. A page that lists its stylesheets but then fails a probe
is therefore never replaced by a later page of the request.

What does hold: when enough pages of the request are good, and the first pages that list
their stylesheets, as many as the policy asks for, are good, the run does not fail with
fewer successful pages than it asks for. The page that fails only in probing, ahead of a good
page, is the case this leaves out, and `generate_misses_threshold_after_failed_match` shows a
run that fails there.

The proof follows the three places where a run counts its pages: the valid pages after
collecting, the pages resolved by probing, and the valid pages once the text turns out empty
(`runChecked_threshold`). Collecting records failures only of pages that cannot list their
stylesheets (`collect_ok`), and probing good pages records none (`resolvePages_good`).

## Main definitions

* `Linked`: a page whose stylesheets can be listed.
* `TracksUnlinked`: every page with a recorded failure cannot list its stylesheets.
* `GoodPage`: a page every question of a backend gets an answer for.

## Main results

* `collect_ok`: collecting takes the first pages that list their stylesheets.
* `resolvePages_good`: probing good pages resolves them all, up to the policy.
* `runChecked_threshold`: the counts a threshold failure reports.
* `generate_reaches_threshold`: no threshold failure below the policy when the pages collected
  are good.
* `generate_misses_threshold_after_failed_match`: a good page behind a page that fails in
  probing does not save the run.
-/

namespace CriticalCss.Generate

open CriticalCss.Probe

variable {probe : Probe Id} {fetch : String → Id (Except Failure String)} {note : Event → Id Unit}

section Collect

variable {policy : SuccessPolicy}

/-- Whether the stylesheets of a page can be listed: the backend lists them and the page's
address reads. -/
def Linked (probe : Probe Id) (page : String) : Bool :=
  ((probe.includes page).bind (stylesheetUrls page)).toBool

/-- Every page a tracker holds a failure of is one whose stylesheets cannot be listed. -/
def TracksUnlinked (probe : Probe Id) (t : Tracker) : Prop :=
  ∀ x ∈ t.failures, Linked probe x.1 = false

theorem Tracker.mem_failures_track {t : Tracker} {page : String} {e : Failure}
    {x : String × Failure} (h : x ∈ (t.track page e).failures) : x ∈ t.failures ∨ x = (page, e) := by
  unfold Tracker.track at h
  split at h
  · exact .inl h
  · simpa using h

theorem TracksUnlinked.track {t : Tracker} (ht : TracksUnlinked probe t) {page : String}
    (hpage : Linked probe page = false) (e : Failure) : TracksUnlinked probe (t.track page e) := by
  intro x hx
  rcases Tracker.mem_failures_track hx with hx | rfl
  · exact ht x hx
  · exact hpage

/-- A page whose stylesheets can be listed has no failure recorded by such a tracker. -/
theorem TracksUnlinked.failureOf_eq_none {t : Tracker} (ht : TracksUnlinked probe t) {u : String}
    (hu : Linked probe u = true) : t.failureOf u = none := by
  simp only [Tracker.failureOf, Option.map_eq_none_iff, List.find?_eq_none, beq_iff_eq]
  intro x hx hxu
  have := ht x hx
  rw [hxu, hu] at this
  cases this

/-- Such a tracker keeps valid every list of pages whose stylesheets can be listed. -/
theorem TracksUnlinked.valid_eq_self {t : Tracker} (ht : TracksUnlinked probe t)
    {urls : List String} (hurls : ∀ u ∈ urls, Linked probe u = true) : t.valid urls = urls :=
  List.filter_eq_self.2 fun u hu => by simp [ht.failureOf_eq_none (hurls u hu)]

/-- Such a tracker keeps valid every page whose stylesheets can be listed. -/
theorem TracksUnlinked.filter_sublist_valid {t : Tracker} (ht : TracksUnlinked probe t)
    (urls : List String) : (urls.filter (Linked probe)).Sublist (t.valid urls) :=
  List.monotone_filter_right urls fun _ hu => by simp [ht.failureOf_eq_none hu]

theorem linked_of_bind_ok {page : String} {hrefs : List String}
    (h : (probe.includes page).bind (stylesheetUrls page) = .ok hrefs) : Linked probe page = true := by
  simp [Linked, h, Except.toBool]

theorem not_linked_of_bind_error {page : String} {e : Failure}
    (h : (probe.includes page).bind (stylesheetUrls page) = .error e) : Linked probe page = false := by
  simp [Linked, h, Except.toBool]

/-- A collection that ends with pages has taken, after the pages it started with, the first
pages whose stylesheets can be listed, as many as the policy still asked for, and has held a
failure only of pages whose stylesheets cannot be listed. -/
theorem collect_ok {urls collected cs : List String} {errs errs' : List (String × Failure)}
    {s s' : RunState}
    (h : (collect probe fetch note policy urls collected errs).run s = (.ok (cs, errs'), s'))
    (hlen : (collected.length : Int) < policy.required) (ht : TracksUnlinked probe s.tracker) :
    cs = collected ++ (urls.filter (Linked probe)).take (policy.required.toNat - collected.length) ∧
      TracksUnlinked probe s'.tracker := by
  induction urls generalizing collected errs s with
  | nil =>
    rw [collect_nil_run] at h
    cases h
    exact ⟨by simp, ht⟩
  | cons page rest ih =>
    rw [collect_cons_run] at h
    cases hb : (probe.includes page).bind (stylesheetUrls page) with
    | error e =>
      have hpage := not_linked_of_bind_error hb
      simp only [hb] at h
      split at h
      · cases h
      · obtain ⟨hcs, ht'⟩ := ih h hlen (ht.track hpage e)
        exact ⟨by simp [hcs, hpage], ht'⟩
    | ok hrefs =>
      have hpage := linked_of_bind_ok hb
      simp only [hb] at h
      split at h
      · cases h
      · split at h
        · rename_i hreached
          obtain ⟨⟨rfl, -⟩, rfl⟩ := Prod.mk.inj h |>.imp (Except.ok.inj · |> Prod.mk.inj) id
          have hone : policy.required.toNat - collected.length = 1 := by
            simp [SuccessPolicy.reached] at hreached
            omega
          exact ⟨by simp [hone, hpage], ht⟩
        · rename_i hreached
          have hlen' : ((collected ++ [page]).length : Int) < policy.required := by
            simp [SuccessPolicy.reached] at hreached ⊢
            omega
          obtain ⟨hcs, ht'⟩ := ih h hlen' ht
          have hsucc : policy.required.toNat - collected.length =
              policy.required.toNat - (collected ++ [page]).length + 1 := by
            simp at hlen' ⊢
            omega
          exact ⟨by simp [hcs, hpage, hsucc], ht'⟩

end Collect

/-- A page every question of a backend gets an answer for: its stylesheets are listed, the
selectors matching it are found, and those above its fold in each viewport. -/
def GoodPage (probe : Probe Id) (viewports : List Viewport) (page : String) : Prop :=
  (∃ links, probe.includes page = .ok links) ∧
    (∀ sels, ∃ matched, probe.matchAny page sels = .ok matched) ∧
    ∀ vp ∈ viewports, ∀ sels, ∃ found, probe.matchAboveFold page vp sels = .ok found

section Resolve

variable {vps : List Viewport} (note) (pages : List (String × List String)) (sels : List String)
  (policy : SuccessPolicy)

theorem probePage_above_good {page : String} {matched : List String}
    (hgood : ∀ vp ∈ vps, ∃ found, probe.matchAboveFold page vp matched = .ok found)
    (acc : List String) (s : RunState) :
    ∃ out s', (probePage.above probe note page matched vps acc).run s = (.ok out, s') ∧
      s'.tracker = s.tracker := by
  induction vps generalizing acc s with
  | nil => exact ⟨acc, s, rfl, rfl⟩
  | cons vp vps ih =>
    obtain ⟨found, hf⟩ := hgood vp (List.mem_cons_self ..)
    obtain ⟨out, s', hrun, htr⟩ :=
      ih (fun vp' hvp' => hgood vp' (List.mem_cons_of_mem _ hvp')) (acc ++ found) s.advance
    refine ⟨out, s', ?_, htr⟩
    simp [probePage.above, advance, hf, hrun]

/-- Probing a good page succeeds and leaves the failures of pages as they were. -/
theorem probePage_good {page : String} (hgood : GoodPage probe vps page) (s : RunState) :
    ∃ res s', (probePage probe note pages vps page sels).run s = (.ok res, s') ∧
      s'.tracker = s.tracker := by
  obtain ⟨-, hany, habove⟩ := hgood
  obtain ⟨matched, hm⟩ := hany sels
  obtain ⟨found, s', hrun, htr⟩ :=
    probePage_above_good note (fun vp hvp => habove vp hvp matched) [] s
  refine ⟨(matched.filter fun x => !pagesHave pages x page, found), s', ?_, htr⟩
  simp [probePage, hm, hrun]

/-- Probing good pages succeeds, leaves the failures of pages as they were, and resolves pages
until the policy is reached or the pages run out. -/
theorem resolvePages_good {urls : List String} (hgood : ∀ p ∈ urls, GoodPage probe vps p)
    (r : Resolution) (s : RunState) :
    ∃ r' s', (resolvePages probe note pages vps policy sels urls r).run s = (.ok r', s') ∧
      s'.tracker = s.tracker ∧
      (policy.required ≤ r.resolved.length + urls.length → policy.required ≤ r'.resolved.length) := by
  induction urls generalizing r s with
  | nil => exact ⟨r, s, rfl, rfl, by simp⟩
  | cons page rest ih =>
    rw [resolvePages_cons_run]
    split
    · rename_i hreached
      refine ⟨r, s, rfl, rfl, fun _ => ?_⟩
      simpa [SuccessPolicy.reached] using hreached
    · obtain ⟨⟨dangerous, above⟩, s1, hrun, htr⟩ :=
        probePage_good note pages sels (hgood page (List.mem_cons_self ..)) s
      rw [hrun]
      obtain ⟨r', s', hrun', htr', hlen⟩ :=
        ih (fun p hp => hgood p (List.mem_cons_of_mem _ hp)) _ s1
      refine ⟨r', s', hrun', htr'.trans htr, fun hle => hlen ?_⟩
      simp at hle ⊢
      omega

end Resolve

/-- The failure of a check that fell short. -/
theorem SuccessPolicy.check_eq_some {p : SuccessPolicy} {valid : Int}
    {errors : List (String × Failure)} {f : Failure} (h : p.check valid errors = some f) :
    f = .threshold p.required valid errors := by
  unfold SuccessPolicy.check at h
  split at h
  · cases h
  · exact (Option.some.inj h).symm

/-- A threshold failure of a run reports the policy's number of pages, and as pages that
succeeded either the valid pages after collecting, or, after probing, the pages resolved or
the valid pages then. -/
theorem runChecked_threshold {minify : String → Except Failure String} {req : Request}
    {s0 : RunState} {n k : Int} {errs : List (String × Failure)} {trace : Option Trace}
    (h : ((runChecked probe fetch note minify req).run s0).1 = (.error (.threshold n k errs), trace)) :
    n = (SuccessPolicy.ofRatio req.urls.length req.successRatio).required ∧
      ∃ s1 collected pageErrs sc,
        (collect probe fetch note (SuccessPolicy.ofRatio req.urls.length req.successRatio) req.urls
          [] []).run s1 = (.ok (collected, pageErrs), sc) ∧ s1.tracker = s0.tracker ∧
        (k = (sc.tracker.valid req.urls).length ∨
          ∃ pages s2 r sr,
            (resolvePages probe note pages req.viewports
              (SuccessPolicy.ofRatio req.urls.length req.successRatio) (pages.map (·.1))
              (sc.tracker.valid collected) { errors := pageErrs }).run s2 = (.ok r, sr) ∧
            s2.tracker = sc.tracker ∧
            (k = r.resolved.length ∨ k = (sr.tracker.valid req.urls).length)) := by
  rw [runChecked_run] at h
  dsimp only at h
  generalize hc : (collect probe fetch note _ req.urls [] []).run _ = cr at h
  obtain ⟨cres | ⟨collected, pageErrs⟩, sc⟩ := cr <;> dsimp only at h
  · -- collecting stops only for a failure that stops the run, which a threshold is not
    cases h
    cases collect_error (congrArg Prod.fst hc)
  split at h
  · rename_i hf
    cases h
    cases SuccessPolicy.check_eq_some hf
    exact ⟨rfl, _, collected, _, sc, hc, rfl, .inl rfl⟩
  generalize hr : (resolvePages probe note _ req.viewports _ _ _ _).run _ = rr at h
  obtain ⟨rres | r, sr⟩ := rr <;> dsimp only at h
  · cases h
    cases resolvePages_error (congrArg Prod.fst hr)
  split at h
  · rename_i hf
    cases h
    cases SuccessPolicy.check_eq_some hf
    exact ⟨rfl, _, collected, pageErrs, sc, hc, rfl, .inr ⟨_, _, r, sr, hr, rfl, .inl rfl⟩⟩
  · -- a blank text fails with the valid pages at the end
    obtain ⟨_, hf⟩ := finishRun_error (congrArg Prod.fst h)
    cases hf
    exact ⟨rfl, _, collected, pageErrs, sc, hc, rfl, .inr ⟨_, _, r, sr, hr, rfl, .inr rfl⟩⟩

theorem SuccessPolicy.one_le_required_ofRatio {total : Int} (ratio : Float) (h : 0 < total) :
    1 ≤ (SuccessPolicy.ofRatio total ratio).required := by
  simp only [SuccessPolicy.ofRatio]
  generalize ceilClamped _ = c
  by_cases hc : c < 1
  · simp [h, hc]
  · simp [hc]
    omega

/-- A request that can be run has pages, each at an address that reads. -/
theorem Request.problem_eq_none {req : Request} (h : req.problem = none) :
    req.urls ≠ [] ∧ ∀ u ∈ req.urls, (Url.parse u).toOption.isSome := by
  unfold Request.problem at h
  split at h
  · cases h
  · rename_i hne
    split at h
    · cases h
    · split at h
      · cases h
      · split at h
        · cases h
        · rename_i hfind
          refine ⟨by simpa using hne, fun u hu => ?_⟩
          have := List.find?_eq_none.1 hfind u hu
          simpa [Option.isSome_iff_ne_none] using this

/-- A request that can be run needs at least one page. -/
theorem Request.one_le_required {req : Request} (h : req.problem = none) :
    1 ≤ (SuccessPolicy.ofRatio req.urls.length req.successRatio).required :=
  SuccessPolicy.one_le_required_ofRatio req.successRatio
    (Int.natCast_pos.2 (List.length_pos_iff.2 (Request.problem_eq_none h).1))

theorem stylesheetUrls_ok {page : String} (links : List Include)
    (h : (Url.parse page).toOption.isSome) : ∃ hrefs, stylesheetUrls page links = .ok hrefs := by
  unfold stylesheetUrls
  cases hp : Url.parse page with
  | error e => simp [hp, Except.toOption] at h
  | ok base => exact ⟨_, rfl⟩

/-- On the pages of a request that can be run, listing stylesheets fails only in the
backend. -/
theorem linked_eq_toBool {req : Request} (hprob : req.problem = none) {u : String}
    (hu : u ∈ req.urls) : Linked probe u = (probe.includes u).toBool := by
  cases hinc : probe.includes u with
  | error e => simp [Linked, hinc, Except.toBool, Except.bind]
  | ok links =>
    obtain ⟨hrefs, hh⟩ := stylesheetUrls_ok links ((Request.problem_eq_none hprob).2 u hu)
    simp [Linked, hinc, Except.toBool, Except.bind, hh]

/-- Good pages of a request that can be run are among the pages that list their stylesheets. -/
theorem length_le_filter_linked {req : Request} (hprob : req.problem = none) {vps : List Viewport}
    {good : List String} (hsub : good.Sublist req.urls) (hgood : ∀ p ∈ good, GoodPage probe vps p) :
    good.length ≤ (req.urls.filter (Linked probe)).length := by
  have hself : good.filter (Linked probe) = good := by
    refine List.filter_eq_self.2 fun p hp => ?_
    obtain ⟨⟨links, hl⟩, -⟩ := hgood p hp
    rw [linked_eq_toBool hprob (hsub.subset hp), hl]
    rfl
  exact (hself ▸ hsub.filter (Linked probe)).length_le

/-- **Partial success.** When at least as many pages of a request as its policy asks for are
good, and the first pages that list their stylesheets, as many as the policy asks for, are good
too, the run does not fail with fewer successful pages than the policy asks for. -/
theorem generate_reaches_threshold {minify : String → Except Failure String} {req : Request}
    (hgood : ∃ good : List String, good.Sublist req.urls ∧
      (SuccessPolicy.ofRatio req.urls.length req.successRatio).required ≤ good.length ∧
      ∀ p ∈ good, GoodPage probe req.viewports p)
    (hfirst : ∀ p ∈ (req.urls.filter fun p => (probe.includes p).toBool).take
        (SuccessPolicy.ofRatio req.urls.length req.successRatio).required.toNat,
      GoodPage probe req.viewports p) :
    ∀ n k errs, k < n → (generate probe fetch note minify req).failure ≠ some (.threshold n k errs) := by
  intro n k errs hlt hfail
  rcases generate_failure_eq_some hfail with ⟨reason, -, hconf⟩ | ⟨hprob, trace, hrun⟩
  · cases hconf
  obtain ⟨good, hsub, hcount, hallgood⟩ := hgood
  have henough := length_le_filter_linked hprob hsub hallgood
  obtain ⟨rfl, s1, collected, pageErrs, sc, hc, hs1, hk⟩ := runChecked_threshold hrun
  have hR := Request.one_le_required hprob
  obtain ⟨hcol, htr⟩ := collect_ok hc (by simp; omega) (by
    intro x hx
    rw [hs1] at hx
    cases hx)
  have hvalid := (htr.filter_sublist_valid req.urls).length_le
  rcases hk with hk | ⟨pages, s2, r, sr, hr, hs2, hk⟩
  · -- the valid pages after collecting include every page that lists its stylesheets
    omega
  · -- the pages collected are the first that list their stylesheets, and all are good
    have hcolgood : ∀ p ∈ collected, GoodPage probe req.viewports p := by
      intro p hp
      rw [hcol, List.nil_append, List.length_nil, Nat.sub_zero] at hp
      rw [List.filter_congr fun u hu => linked_eq_toBool hprob hu] at hp
      exact hfirst p hp
    have hcolvalid : sc.tracker.valid collected = collected := by
      refine htr.valid_eq_self fun p hp => ?_
      rw [hcol] at hp
      exact (List.mem_filter.1 (List.mem_of_mem_take (by simpa using hp))).2
    have hcollen : (collected.length : Int) =
        (SuccessPolicy.ofRatio req.urls.length req.successRatio).required := by
      rw [hcol]
      simp
      omega
    obtain ⟨r', s', hr', htr', hlen⟩ := resolvePages_good note pages (pages.map (·.1))
      (SuccessPolicy.ofRatio req.urls.length req.successRatio) (hcolvalid ▸ hcolgood)
      { errors := pageErrs } s2
    rw [hr] at hr'
    cases hr'
    rcases hk with hk | hk
    · have := hlen (by simp [hcolvalid, hcollen])
      omega
    · rw [htr', hs2] at hk
      omega

/-- A backend for a site whose pages each link the stylesheet `/a.css` and show the selector
`.a` above the fold; the pages in `unlisted` cannot list their stylesheets and those in
`unmatched` fail to match selectors. -/
def siteProbe (unlisted unmatched : List String) : Probe Id where
  includes page :=
    if page ∈ unlisted then .error (.httpStatus page 404) else .ok [{ href := "/a.css" }]
  matchAny page sels :=
    if page ∈ unmatched then .error (.plain "boom") else .ok (sels.filter [".a"].contains)
  matchAboveFold _ _ sels := .ok (sels.filter [".a"].contains)

/-- The one stylesheet of the site. -/
def siteFetch (url : String) : Id (Except Failure String) :=
  if url = "https://site.test/a.css" then .ok ".a{color:red}" else .error (.plain "not found")

/-- A request for a page that fails and a good page behind it, of which one must succeed. -/
def badThenGoodRequest : Request :=
  { urls := ["https://site.test/bad", "https://site.test/good"], viewports := [⟨1200, 800⟩],
    successRatio := 0.5 }

theorem siteProbe_good {unlisted unmatched : List String} {vps : List Viewport} {page : String}
    (hl : page ∉ unlisted) (hm : page ∉ unmatched) : GoodPage (siteProbe unlisted unmatched) vps page :=
  ⟨⟨[{ href := "/a.css" }], by simp [siteProbe, hl]⟩,
    fun sels => ⟨sels.filter [".a"].contains, by simp [siteProbe, hm]⟩, fun _ _ _ => ⟨_, rfl⟩⟩

theorem badThenGoodRequest_required :
    (SuccessPolicy.ofRatio badThenGoodRequest.urls.length badThenGoodRequest.successRatio).required
      = 1 := by
  decide +kernel

/-- A page that cannot list its stylesheets is passed over for the good page behind it. -/
theorem generate_reaches_threshold_past_unlisted_page :
    (∃ good : List String, good.Sublist badThenGoodRequest.urls ∧
      (SuccessPolicy.ofRatio badThenGoodRequest.urls.length badThenGoodRequest.successRatio).required
        ≤ good.length ∧
      ∀ p ∈ good, GoodPage (siteProbe ["https://site.test/bad"] []) badThenGoodRequest.viewports p) ∧
    (∀ p ∈ (badThenGoodRequest.urls.filter fun p =>
          ((siteProbe ["https://site.test/bad"] []).includes p).toBool).take
        (SuccessPolicy.ofRatio badThenGoodRequest.urls.length badThenGoodRequest.successRatio).required.toNat,
      GoodPage (siteProbe ["https://site.test/bad"] []) badThenGoodRequest.viewports p) ∧
    (0 : Int) < 1 ∧
    (generate (siteProbe ["https://site.test/bad"] []) siteFetch (fun _ => pure ()) .ok
      badThenGoodRequest).failure ≠ some (.threshold 1 0 []) := by
  have hgood : GoodPage (siteProbe ["https://site.test/bad"] []) badThenGoodRequest.viewports
      "https://site.test/good" := siteProbe_good (by decide) (by decide)
  have h1 : ∃ good : List String, good.Sublist badThenGoodRequest.urls ∧
      (SuccessPolicy.ofRatio badThenGoodRequest.urls.length badThenGoodRequest.successRatio).required
        ≤ good.length ∧
      ∀ p ∈ good, GoodPage (siteProbe ["https://site.test/bad"] []) badThenGoodRequest.viewports p :=
    ⟨["https://site.test/good"], (List.Sublist.refl _).cons _,
      by rw [badThenGoodRequest_required]; decide, by simpa using hgood⟩
  have hfirst : (badThenGoodRequest.urls.filter fun p =>
        ((siteProbe ["https://site.test/bad"] []).includes p).toBool).take
      (SuccessPolicy.ofRatio badThenGoodRequest.urls.length badThenGoodRequest.successRatio).required.toNat
      = ["https://site.test/good"] := by
    decide +kernel
  have h2 : ∀ p ∈ (badThenGoodRequest.urls.filter fun p =>
        ((siteProbe ["https://site.test/bad"] []).includes p).toBool).take
      (SuccessPolicy.ofRatio badThenGoodRequest.urls.length badThenGoodRequest.successRatio).required.toNat,
      GoodPage (siteProbe ["https://site.test/bad"] []) badThenGoodRequest.viewports p := by
    rw [hfirst]
    simpa using hgood
  exact ⟨h1, h2, by decide, generate_reaches_threshold h1 h2 1 0 [] (by decide)⟩

/-- The number of pages a threshold failure asks for and the number that succeeded. -/
def Failure.thresholdCounts : Failure → Option (Int × Int)
  | .threshold required succeeded _ => some (required, succeeded)
  | _ => none

theorem Failure.exists_eq_threshold {o : Option Failure} {n k : Int}
    (h : o.bind Failure.thresholdCounts = some (n, k)) : ∃ errs, o = some (.threshold n k errs) := by
  cases o with
  | none => cases h
  | some f =>
    cases f <;> simp [Failure.thresholdCounts] at h
    obtain ⟨rfl, rfl⟩ := h
    exact ⟨_, rfl⟩

/-- A page that lists its stylesheets but fails to match selectors is collected in place of the
good page behind it, so the run fails with no page resolved although one good page would
have been enough. -/
theorem generate_misses_threshold_after_failed_match :
    (∃ good : List String, good.Sublist badThenGoodRequest.urls ∧
      (SuccessPolicy.ofRatio badThenGoodRequest.urls.length badThenGoodRequest.successRatio).required
        ≤ good.length ∧
      ∀ p ∈ good, GoodPage (siteProbe [] ["https://site.test/bad"]) badThenGoodRequest.viewports p) ∧
    ∃ errs, (generate (siteProbe [] ["https://site.test/bad"]) siteFetch (fun _ => pure ()) .ok
      badThenGoodRequest).failure = some (.threshold 1 0 errs) := by
  refine ⟨⟨["https://site.test/good"], (List.Sublist.refl _).cons _,
    by rw [badThenGoodRequest_required]; decide,
    by simpa using siteProbe_good (by decide) (by decide)⟩, Failure.exists_eq_threshold ?_⟩
  decide +kernel

end CriticalCss.Generate
