import CriticalCss.Proofs.Progress
import CriticalCss.Proofs.PrunedRules

/-!
# The critical part of a run is safe

A run that ends without failure has probed every page it resolved, in every viewport, and the
style rules it writes out come from the stylesheets it fetched, filtered by the selectors it
found critical. A selector is critical when it was seen above the fold of a resolved page and
matched no resolved page whose own stylesheets lack it. The one exception the filter makes is a
rule that declares `grid-area` itself: the layout of the page depends on it, so it is kept
whatever its selectors.

The pages a run resolves are fixed by the backend and the request: of the first pages whose
stylesheets can be listed, as many as the policy requires, those probed in turn until enough
resolve, and that resolve (`resolvedPages`). The proof follows the run: `runChecked_ok` reads
the checks of a successful run, `valid_collect` and `resolvePages_resolved` name the pages it
resolved, the resolver is sound by `resolvePages_sound`, and `Store.rules_prunedSheetsOf` says
where each rule of the written stylesheets comes from.

## Main definitions

* `Trace.criticalSheets`, `Trace.criticalText`: the stylesheets and the text a run writes
* `resolvedPages`: the pages a run resolves
* `CriticalOn`: a selector that the resolved pages let into the critical part

## Main results

* `generate_rules_critical`: every written rule is critical or declares `grid-area`
-/

namespace CriticalCss.Generate

open CriticalCss.Css CriticalCss.Probe

/-- The selectors a run asked the pages about. -/
def Trace.selectors (t : Trace) : List String :=
  t.selectorPages.map (·.1)

/-- The critical stylesheets of a run, as its trace determines them. -/
def Trace.criticalSheets (t : Trace) : List StyleSheet :=
  Store.prunedSheetsOf t.files (t.critical.contains ·)

/-- The text a run joins from its critical stylesheets, before minifying. -/
def Trace.criticalText (t : Trace) : String :=
  "\n".intercalate (t.criticalSheets.map (·.css))

/-- The pages a run resolves when it asks about `selectors`: of the first pages of the request
whose stylesheets can be listed, as many as it needs, those probed in turn until enough of them
resolve, and that resolve. -/
def resolvedPages (probe : Probe Id) (req : Request) (selectors : List String) : List String :=
  let R := (SuccessPolicy.ofRatio req.urls.length req.successRatio).required.toNat
  let resolves := pageResolves probe selectors req.viewports
  (visitedPages resolves R ((req.urls.filter (Linked probe)).take R)).filter resolves

/-- A selector that resolved pages let into the critical part: found above the fold of one of
them, matching none of them whose stylesheets lack it, and no selection pseudo-element. -/
def CriticalOn (probe : Probe Id) (selectors : List String) (pages : List (String × List String))
    (viewports : List Viewport) (resolved : List String) (sel : String) : Prop :=
  (∃ p ∈ resolved, AboveFoldOn probe selectors viewports p sel) ∧
    (∀ p ∈ resolved, ¬DangerousOn probe selectors pages p sel) ∧
    isExcludedSelector sel = false

variable {probe : Probe Id} {fetch : String → Id (Except Failure String)} {note : Event → Id Unit}
  {minify : String → Except Failure String} {req : Request}

/-- **Critical css is safe.** A run that ends without failure resolved as many of its pages as
its policy requires, each matched and looked at in every viewport; its text is the critical
stylesheets joined, minified when the minifier succeeded; and every style rule of those
stylesheets either has the selectors of a rule of its filtered stylesheet that declares
`grid-area` directly, or only selectors found above the fold of a page it resolved, matching no
page it resolved whose stylesheets lack them, and no selection pseudo-element. -/
theorem generate_rules_critical (h : (generate probe fetch note minify req).failure = none) :
    ∃ t, (generate probe fetch note minify req).trace = some t ∧
      (SuccessPolicy.ofRatio req.urls.length req.successRatio).required ≤
        (resolvedPages probe req t.selectors).length ∧
      (∀ p ∈ resolvedPages probe req t.selectors,
        p ∈ req.urls ∧ Resolved probe t.selectors req.viewports p) ∧
      ((generate probe fetch note minify req).css = t.criticalText ∨
        minify t.criticalText = .ok (generate probe fetch note minify req).css) ∧
      ∀ sh ∈ t.criticalSheets, ∃ f ∈ t.files, ∀ sels items, Item.rule sels items ∈ itemsNodes sh.items →
        (∃ items0, Item.rule sels items0 ∈ itemsNodes f.sheet.items ∧
            declares items0 "grid-area" = true) ∨
          ∀ sel ∈ sels, CriticalOn probe t.selectors t.selectorPages req.viewports
            (resolvedPages probe req t.selectors) sel := by
  obtain ⟨t, ht, collected, errs, sc, s, r, hc, hurls, hres, hreached, hcrit, htext⟩ :=
    runChecked_ok (generate_eq_of_failure_eq_none h)
  have hp : req.problem = none := by
    cases hp : req.problem with
    | none => rfl
    | some reason => simp [generate, hp] at h
  have hR := Request.one_le_required hp
  -- the run probed the first pages that list their stylesheets, as many as it needs
  have hpages : r.resolved = resolvedPages probe req t.selectors := by
    rw [resolvePages_resolved _ _ _ _ hres, valid_collect hc (by omega)]
    simp [resolvedPages, Trace.selectors]
  have hsound := resolvePages_sound hurls
    (Resolution.sound_start probe t.selectorPages req.viewports _ req.urls errs) hres
  refine ⟨t, ht, ?_⟩
  rw [← hpages]
  refine ⟨hreached, hsound.resolved, htext, fun sh hsh => ?_⟩
  obtain ⟨f, hf, hrules⟩ := Store.rules_prunedSheetsOf hsh
  refine ⟨f, hf, fun sels items hr => (hrules sels items hr).imp_right fun hsels sel hsel => ?_⟩
  obtain ⟨hcritical, hexcluded⟩ := hsels sel hsel
  -- the critical selectors are those above the fold and not dangerous
  rw [hcrit] at hcritical
  simp only [List.contains_iff_mem, List.mem_filter, Bool.not_eq_true'] at hcritical
  refine ⟨hsound.aboveFold sel hcritical.1, fun p hp hd => ?_, hexcluded⟩
  have hmem : sel ∈ r.dangerous := hsound.dangerous p hp sel hd
  simp [hmem] at hcritical

/-- A backend for one page that links the stylesheet `a.css` and shows every selector above the
fold. -/
def onePageProbe : Probe Id where
  includes _ := .ok [{ href := "a.css" }]
  matchAny _ sels := .ok sels
  matchAboveFold _ _ sels := .ok sels

/-- A request for one page in one viewport. -/
def onePageRequest : Request :=
  { urls := ["https://a.test/"], viewports := [⟨1200, 800⟩] }

theorem generate_rules_critical_one_page :
    (generate onePageProbe (fun _ => .ok "a{color:red}") (fun _ => pure ()) .ok onePageRequest).failure
      = none ∧
    ∃ t, (generate onePageProbe (fun _ => .ok "a{color:red}") (fun _ => pure ()) .ok
        onePageRequest).trace = some t ∧
      (SuccessPolicy.ofRatio onePageRequest.urls.length onePageRequest.successRatio).required ≤
        (resolvedPages onePageProbe onePageRequest t.selectors).length ∧
      (∀ p ∈ resolvedPages onePageProbe onePageRequest t.selectors, p ∈ onePageRequest.urls ∧
        Resolved onePageProbe t.selectors onePageRequest.viewports p) ∧
      ((generate onePageProbe (fun _ => .ok "a{color:red}") (fun _ => pure ()) .ok
          onePageRequest).css = t.criticalText ∨
        Except.ok t.criticalText = (.ok (generate onePageProbe (fun _ => .ok "a{color:red}")
          (fun _ => pure ()) .ok onePageRequest).css : Except Failure String)) ∧
      ∀ sh ∈ t.criticalSheets, ∃ f ∈ t.files, ∀ sels items,
        Item.rule sels items ∈ itemsNodes sh.items →
        (∃ items0, Item.rule sels items0 ∈ itemsNodes f.sheet.items ∧
            declares items0 "grid-area" = true) ∨
          ∀ sel ∈ sels, CriticalOn onePageProbe t.selectors t.selectorPages
            onePageRequest.viewports (resolvedPages onePageProbe onePageRequest t.selectors) sel :=
  have h : (generate onePageProbe (fun _ => .ok "a{color:red}") (fun _ => pure ()) .ok
      onePageRequest).failure = none := by decide +kernel
  ⟨h, generate_rules_critical h⟩

end CriticalCss.Generate
