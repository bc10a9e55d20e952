import CriticalCss.Proofs.StoreInvariant

/-!
# Which pages include a selector

Before probing pages, a run collates the selectors of its stylesheets with the pages that
include them. The collation neither loses nor invents a pair: a page has a selector exactly when
the page added a stylesheet url that did not fail and whose text, parsed, has that selector.

The store never parses a text twice, so this goes through the files. A file's url holds the
file's text; the file's tree has the selectors of that text, since making its references
absolute changes no selector; and a page includes a file exactly when it added one of the
file's urls, even one that was only ever reused for a text seen before. `Store.Records` says
this of a store and the additions made to it, and each addition keeps it.

## Main definitions

* `Store.Records`: what a store knows of the additions made to it.

## Main results

* `StyleSheet.selectors_absolutifyUrls`: absolute references keep the selectors.
* `Store.pagesHave_selectorPages`: the collation pairs the selectors of each file with its pages.
* `Store.Records.adds`: an addition keeps what the store records.
* `Store.pagesHave_selectorPages_iff`: the collation after any calls on a fresh store.
-/

namespace CriticalCss.Css

variable {r : String → String}

theorem absolutifyItem_atRule (sc : Scope) (name prelude : String) (block : Bool)
    (items : List Item) :
    ∃ prelude', absolutifyItem r sc (.atRule name prelude block items) =
      some (.atRule name prelude' block items) := by
  unfold absolutifyItem
  split
  · rename_i h
    cases h
  · rename_i h
    injection h with hn _ hb hi
    subst hn hb hi
    exact ⟨_, rfl⟩
  · exact ⟨prelude, rfl⟩

mutual

theorem Item.selectors_filterWith_absolutify (k : Bool) (sc : Scope) (it : Item) :
    (it.filterWith (absolutifyItem r) sc).map (·.selectors k) = some (it.selectors k) := by
  cases it with
  | rule sels items =>
    simp only [Item.filterWith, absolutifyItem, Option.map_some, Item.selectors,
      itemsSelectors_filterItems_absolutify]
  | atRule name prelude block items =>
    obtain ⟨prelude', h⟩ := absolutifyItem_atRule (r := r) sc name prelude block
      (filterItems (absolutifyItem r) { sc with atRule := some name } items)
    simp only [Item.filterWith, h, Option.map_some, Item.selectors,
      itemsSelectors_filterItems_absolutify]
  | declaration d => simp [Item.filterWith, absolutifyItem, Item.selectors]
  | comment text => simp [Item.filterWith, absolutifyItem, Item.selectors]
termination_by structural it

theorem itemsSelectors_filterItems_absolutify (k : Bool) (sc : Scope) (its : List Item) :
    itemsSelectors k (filterItems (absolutifyItem r) sc its) = itemsSelectors k its := by
  cases its with
  | nil => rfl
  | cons it rest =>
    have hit := Item.selectors_filterWith_absolutify k sc it
    have hrest := itemsSelectors_filterItems_absolutify k sc rest
    simp only [filterItems]
    split
    · rename_i it' h
      rw [h, Option.map_some, Option.some.injEq] at hit
      simp only [itemsSelectors, hit, hrest]
    · rename_i h
      rw [h] at hit
      cases hit
termination_by structural its

end

/-- Making the references of a sheet absolute keeps its selectors. -/
theorem StyleSheet.selectors_absolutifyUrls {s s' : StyleSheet} {base : String}
    (h : s.absolutifyUrls base = .ok s') : s'.selectors = s.selectors := by
  unfold StyleSheet.absolutifyUrls at h
  split at h
  · cases h
  · cases h
    exact itemsSelectors_filterItems_absolutify false {} s.items

end CriticalCss.Css

namespace CriticalCss.Generate

open CriticalCss.Css

variable {fetch : String → Id (Except Failure String)}

section Collation

theorem lookup_cons_ne {β : Type} {l : List (String × β)} {a k : String} {v : β} (h : a ≠ k) :
    ((k, v) :: l).lookup a = l.lookup a := by
  have hb : (a == k) = false := beq_false_of_ne h
  simp only [List.lookup_cons, hb]

/-- Looking up a key after updating the entries of another key, given by what the update does. -/
theorem lookup_map_update {β : Type} {l : List (String × β)} {f : String × β → String × β}
    (key : String) (F : β → β) (hf : ∀ kv, f kv = if kv.1 = key then (kv.1, F kv.2) else kv)
    (a : String) :
    (l.map f).lookup a = if a = key then (l.lookup a).map F else l.lookup a := by
  induction l with
  | nil => simp
  | cons kv l ih =>
    obtain ⟨k, v⟩ := kv
    rw [List.map_cons, hf]
    by_cases ha : a = k
    · subst ha
      by_cases hk : a = key <;> simp [hk]
    · dsimp only
      split <;> rw [lookup_cons_ne ha, lookup_cons_ne ha, ih]

theorem pagesHave_iff {pages : List (String × List String)} {sel p : String} :
    pagesHave pages sel p = true ↔ ∃ ps, pages.lookup sel = some ps ∧ p ∈ ps := by
  unfold pagesHave
  cases pages.lookup sel <;> simp

/-- Collating one more selector adds its pages to those of the selector. -/
theorem pagesHave_addSelectorPages {acc : List (String × List String)} {sel' : String}
    {pages : List String} {sel p : String} :
    pagesHave (Store.addSelectorPages acc sel' pages) sel p = true ↔
      pagesHave acc sel p = true ∨ (sel = sel' ∧ p ∈ pages) := by
  unfold Store.addSelectorPages
  split
  · rename_i ps hps
    rw [pagesHave_iff, lookup_map_update sel' (pages.foldl appendNew) ?_, pagesHave_iff]
    · by_cases hs : sel = sel'
      · subst hs
        simp [hps, mem_foldl_appendNew]
      · simp [hs]
    · rintro ⟨k, ps⟩
      by_cases hk : k = sel' <;> simp [hk]
  · rename_i hnone
    rw [pagesHave_iff, List.lookup_append, pagesHave_iff]
    by_cases hs : sel = sel'
    · subst hs
      simp [hnone, mem_foldl_appendNew]
    · cases acc.lookup sel <;> simp [lookup_cons_ne hs, hs]

theorem pagesHave_foldl_selectors (pages : List String) (sel p : String) :
    ∀ (sels : List String) (acc : List (String × List String)),
      pagesHave (sels.foldl (fun acc s => Store.addSelectorPages acc s pages) acc) sel p = true ↔
        pagesHave acc sel p = true ∨ (sel ∈ sels ∧ p ∈ pages)
  | [], acc => by simp
  | s :: sels, acc => by
    rw [List.foldl_cons, pagesHave_foldl_selectors pages sel p sels, pagesHave_addSelectorPages]
    simp only [List.mem_cons]
    tauto

theorem pagesHave_foldl_files (sel p : String) :
    ∀ (files : List SheetFile) (acc : List (String × List String)),
      pagesHave (files.foldl (fun acc f =>
          f.sheet.selectors.foldl (fun acc s => Store.addSelectorPages acc s f.pages) acc) acc)
        sel p = true ↔
        pagesHave acc sel p = true ∨ ∃ f ∈ files, sel ∈ f.sheet.selectors ∧ p ∈ f.pages
  | [], acc => by simp
  | f :: files, acc => by
    rw [List.foldl_cons, pagesHave_foldl_files sel p files, pagesHave_foldl_selectors]
    simp only [List.mem_cons, exists_eq_or_imp]
    tauto

/-- The collation pairs each selector of a file with each page that includes the file. -/
theorem Store.pagesHave_selectorPages (s : Store) (sel p : String) :
    pagesHave s.selectorPages sel p = true ↔ ∃ f ∈ s.files, sel ∈ f.sheet.selectors ∧ p ∈ f.pages := by
  rw [selectorPages, pagesHave_foldl_files]
  simp only [pagesHave, List.lookup_nil, Bool.false_eq_true, false_or]
  exact ⟨fun h => h.elim fun f hf => ⟨f, s.sorted_perm.subset hf.1, hf.2⟩,
    fun h => h.elim fun f hf => ⟨f, s.sorted_perm.symm.subset hf.1, hf.2⟩⟩

end Collation

namespace Store

@[simp] theorem fail_files (s : Store) (url : String) (c : Failure) :
    (s.fail url c).files = s.files := by
  unfold fail
  split <;> rfl

theorem isSome_failureOf_fail (s : Store) (url u : String) (c : Failure) :
    ((s.fail url c).failureOf u).isSome ↔ (s.failureOf u).isSome ∨ u = url := by
  unfold fail failureOf
  split
  · rename_i h
    exact ⟨.inl, fun h' => h'.elim id fun hu => hu ▸ h⟩
  · by_cases hu : u = url
    · subst hu
      simp [List.lookup_append]
    · simp [List.lookup_append, lookup_cons_ne hu, hu]

/-- What a store knows of the additions made to it, each a page and a url: a url of a file
holds the file's text, a file's tree has the selectors of its text, a file's pages are those
that added one of its urls, and every url added either failed or is listed by a file. -/
structure Records (fetch : String → Id (Except Failure String)) (adds : List (String × String))
    (s : Store) : Prop where
  url_text : ∀ f ∈ s.files, ∀ u ∈ f.urls, fetch u = .ok f.text
  selectors_eq : ∀ f ∈ s.files, ∃ sheet, StyleSheet.parse f.text = .ok sheet ∧
    f.sheet.selectors = sheet.selectors
  pages_iff : ∀ f ∈ s.files, ∀ p, p ∈ f.pages ↔ ∃ u ∈ f.urls, (p, u) ∈ adds
  added : ∀ pu ∈ adds, (s.failureOf pu.2).isSome ∨ ∃ f ∈ s.files, pu.2 ∈ f.urls

theorem records_empty : ({} : Store).Records fetch [] where
  url_text := by simp
  selectors_eq := by simp
  pages_iff := by simp
  added := by simp

section Additions

variable {hist : List (String × String)} {s : Store} {page url : String}

/-- A file that does not list `url` gains no page from an addition of `url`. -/
theorem pages_iff_append_of_not_mem {f : SheetFile} {p : String}
    (hpages : p ∈ f.pages ↔ ∃ u ∈ f.urls, (p, u) ∈ hist) (hu : url ∉ f.urls) :
    p ∈ f.pages ↔ ∃ u ∈ f.urls, (p, u) ∈ hist ++ [(page, url)] := by
  rw [hpages]
  refine exists_congr fun u => and_congr_right fun hu' => ?_
  have hne : u ≠ url := fun h => hu (h ▸ hu')
  simp [hne]

/-- A file that lists `url` after an addition of `url` gains the page of the addition. -/
theorem mem_appendNew_iff_added {pages urls urls' : List String}
    (hpages : ∀ p, p ∈ pages ↔ ∃ u ∈ urls, (p, u) ∈ hist)
    (hurls : ∀ u, u ∈ urls' ↔ u ∈ urls ∨ u = url) (hnew : ∀ p, (p, url) ∈ hist → p ∈ pages)
    (p : String) : p ∈ appendNew pages page ↔ ∃ u ∈ urls', (p, u) ∈ hist ++ [(page, url)] := by
  rw [mem_appendNew, hpages]
  constructor
  · rintro (⟨u, hu, hpu⟩ | rfl)
    · exact ⟨u, (hurls u).2 (.inl hu), List.mem_append_left _ hpu⟩
    · exact ⟨url, (hurls url).2 (.inr rfl), by simp⟩
  · rintro ⟨u, hu, hpu⟩
    rcases List.mem_append.1 hpu with hold | hlast
    · rcases (hurls u).1 hu with hu | rfl
      · exact .inl ⟨u, hu, hold⟩
      · exact .inl ((hpages p).1 (hnew p hold))
    · simp only [List.mem_singleton, Prod.mk.injEq] at hlast
      exact .inr hlast.1

/-- Every addition stays accounted for when failures stay, every file's urls stay listed and
the new url failed or is listed. -/
theorem Records.added_of_le (hr : s.Records fetch hist) {s' : Store}
    (hfail : ∀ u, (s.failureOf u).isSome → (s'.failureOf u).isSome)
    (hfiles : ∀ f ∈ s.files, ∃ f' ∈ s'.files, f.urls ⊆ f'.urls)
    (hnew : (s'.failureOf url).isSome ∨ ∃ f ∈ s'.files, url ∈ f.urls) :
    ∀ pu ∈ hist ++ [(page, url)], (s'.failureOf pu.2).isSome ∨ ∃ f ∈ s'.files, pu.2 ∈ f.urls := by
  refine List.forall_mem_append.2 ⟨fun pu hpu => ?_, List.forall_mem_singleton.2 hnew⟩
  rcases hr.added pu hpu with h | ⟨f, hf, hu⟩
  · exact .inl (hfail _ h)
  · obtain ⟨f', hf', hsub⟩ := hfiles f hf
    exact .inr ⟨f', hf', hsub hu⟩

theorem Records.reserve (hr : s.Records fetch hist) (u : String) :
    (s.reserve u).Records fetch hist :=
  ⟨hr.url_text, hr.selectors_eq, hr.pages_iff, hr.added⟩

/-- A url that neither failed nor is listed by a file was never added. -/
theorem Records.not_added (hr : s.Records fetch hist) (hf : s.failureOf url = none)
    (hi : s.fileOf? url = none) (p : String) : (p, url) ∉ hist := by
  intro hp
  rcases hr.added _ hp with h | ⟨f, hf', hu⟩
  · simp [hf] at h
  · exact fileOf?_eq_none_iff.1 hi f hf' hu

/-- Adding a url that failed before. -/
theorem Records.of_failed (hwf : s.WellFormed) (hr : s.Records fetch hist)
    (hf : (s.failureOf url).isSome) (page : String) : s.Records fetch (hist ++ [(page, url)]) where
  url_text := hr.url_text
  selectors_eq := hr.selectors_eq
  pages_iff f hf' p := pages_iff_append_of_not_mem (hr.pages_iff f hf' p) fun hu => by
    simp [hwf.filed_not_failed f hf' url hu] at hf
  added := hr.added_of_le (fun _ h => h) (fun f hf' => ⟨f, hf', List.Subset.refl _⟩) (.inl hf)

/-- Adding a url that no file lists and that fails now. -/
theorem Records.fail (hr : s.Records fetch hist) (hi : s.fileOf? url = none) (page : String)
    (c : Failure) : (s.fail url c).Records fetch (hist ++ [(page, url)]) where
  url_text := by simpa using hr.url_text
  selectors_eq := by simpa using hr.selectors_eq
  pages_iff f hf p := by
    rw [fail_files] at hf
    exact pages_iff_append_of_not_mem (hr.pages_iff f hf p) (fileOf?_eq_none_iff.1 hi f hf)
  added := hr.added_of_le (fun u h => (isSome_failureOf_fail s url u c).2 (.inl h))
    (fun f hf => ⟨f, by simpa using hf, List.Subset.refl _⟩)
    (.inl ((isSome_failureOf_fail s url url c).2 (.inr rfl)))

/-- Adding a url that a file lists. -/
theorem Records.addPageAt (hwf : s.WellFormed) (hr : s.Records fetch hist) {i : Nat}
    (hi : s.fileOf? url = some i) (page : String) :
    (s.addPageAt i page).Records fetch (hist ++ [(page, url)]) := by
  rw [addPageAt_eq_map hwf.urls_nodup hi]
  obtain ⟨g, hg, hug⟩ := exists_of_fileOf? hi
  constructor
  · exact List.forall_mem_map_ite (fun f hf _ => hr.url_text f hf) fun f hf _ => hr.url_text f hf
  · exact List.forall_mem_map_ite (fun f hf _ => hr.selectors_eq f hf)
      fun f hf _ => hr.selectors_eq f hf
  · refine List.forall_mem_map_ite (fun f hf hu p => ?_) fun f hf hu p => ?_
    · exact pages_iff_append_of_not_mem (hr.pages_iff f hf p) hu
    · exact mem_appendNew_iff_added (hr.pages_iff f hf)
        (fun u => ⟨.inl, fun h => h.elim id fun h => h ▸ hu⟩)
        (fun p h => (hr.pages_iff f hf p).2 ⟨url, hu, h⟩) p
  · refine hr.added_of_le (fun _ h => h) (fun f hf => ⟨_, List.mem_map_of_mem hf, ?_⟩)
      (.inr ⟨_, List.mem_map_of_mem (List.mem_of_getElem? hg), by simp [hug]⟩)
    split <;> simp

/-- Adding a url that no file lists and whose text a file holds. -/
theorem Records.addUrlAt (hwf : s.WellFormed) (hr : s.Records fetch hist) {text : String}
    {i : Nat} (hf : s.failureOf url = none) (hi : s.fileOf? url = none)
    (ht : fetch url = .ok text) (hd : s.files.findIdx? (·.text == text) = some i)
    (page : String) :
    ((s.addUrlAt i url).addPageAt i page).Records fetch (hist ++ [(page, url)]) := by
  rw [addUrlAt_addPageAt_eq_map hwf.texts_nodup hd]
  have hnot := fileOf?_eq_none_iff.1 hi
  obtain ⟨g, hg, hgt⟩ := exists_of_findIdx?_text hd
  constructor
  · refine List.forall_mem_map_ite (fun f hf' _ => hr.url_text f hf') fun f hf' hft u hu => ?_
    rcases mem_appendNew.1 hu with hu | rfl
    · exact hft ▸ hr.url_text f hf' u hu
    · exact hft ▸ ht
  · exact List.forall_mem_map_ite (fun f hf' _ => hr.selectors_eq f hf')
      fun f hf' _ => hr.selectors_eq f hf'
  · refine List.forall_mem_map_ite (fun f hf' _ p => ?_) fun f hf' _ p => ?_
    · exact pages_iff_append_of_not_mem (hr.pages_iff f hf' p) (hnot f hf')
    · exact mem_appendNew_iff_added (hr.pages_iff f hf') (fun _ => mem_appendNew)
        (fun p h => absurd h (hr.not_added hf hi p)) p
  · refine hr.added_of_le (fun _ h => h) (fun f hf' => ⟨_, List.mem_map_of_mem hf', ?_⟩)
      (.inr ⟨_, List.mem_map_of_mem (List.mem_of_getElem? hg), by simp [hgt, mem_appendNew]⟩)
    split
    · intro u hu
      simp [mem_appendNew, hu]
    · exact List.Subset.refl _

/-- Adding a url that no file lists, whose text is new and is read into a new file. -/
theorem Records.withFile (hr : s.Records fetch hist) {text : String} {sheet sheet' : StyleSheet}
    (hf : s.failureOf url = none) (hi : s.fileOf? url = none) (ht : fetch url = .ok text)
    (hp : StyleSheet.parse text = .ok sheet) (hb : sheet.absolutifyUrls url = .ok sheet')
    (page : String) : (s.withFile url text sheet' page).Records fetch (hist ++ [(page, url)]) where
  url_text := List.forall_mem_append.2 ⟨hr.url_text,
    List.forall_mem_singleton.2 fun u h => List.mem_singleton.1 h ▸ ht⟩
  selectors_eq := List.forall_mem_append.2 ⟨hr.selectors_eq,
    List.forall_mem_singleton.2 ⟨sheet, hp, StyleSheet.selectors_absolutifyUrls hb⟩⟩
  pages_iff := List.forall_mem_append.2 ⟨fun f hf' p =>
    pages_iff_append_of_not_mem (hr.pages_iff f hf' p) (fileOf?_eq_none_iff.1 hi f hf'),
    List.forall_mem_singleton.2 fun p => by simp [hr.not_added hf hi p]⟩
  added := hr.added_of_le (fun _ h => h)
    (fun f hf' => ⟨f, List.mem_append_left _ hf', List.Subset.refl _⟩)
    (.inr ⟨_, List.mem_append_right _ (List.mem_singleton_self _), List.mem_singleton_self _⟩)

/-- Each of the seven things an addition does keeps what a well formed store records of its
additions. -/
theorem Records.adds (hwf : s.WellFormed) (hr : s.Records fetch hist) {s' : Store}
    (h : Adds fetch s page url s') : s'.Records fetch (hist ++ [(page, url)]) := by
  cases h with
  | failed hf => exact hr.of_failed hwf hf page
  | known _ hi => exact hr.addPageAt hwf hi page
  | unfetched _ hi => exact hr.fail hi page _
  | duplicate hf hi ht hd => exact hr.addUrlAt hwf hf hi ht hd page
  | unparsable _ hi => exact hr.fail hi page _
  | badBase _ hi => exact hr.fail hi page _
  | fresh hf hi ht _ hp hb => exact hr.withFile hf hi ht hp hb page

/-- In a well formed store that records its additions, the collation has a selector for a page
exactly when the page added a url that did not fail and whose text has the selector. -/
theorem Records.selectorPages_iff (hwf : s.WellFormed) (hr : s.Records fetch hist)
    (sel p : String) :
    pagesHave s.selectorPages sel p = true ↔ ∃ u, (p, u) ∈ hist ∧ s.failureOf u = none ∧
      ∃ text sheet, fetch u = .ok text ∧ StyleSheet.parse text = .ok sheet ∧
        sel ∈ sheet.selectors := by
  rw [Store.pagesHave_selectorPages]
  constructor
  · rintro ⟨f, hf, hsel, hp⟩
    obtain ⟨u, hu, hpu⟩ := (hr.pages_iff f hf p).1 hp
    obtain ⟨sheet, hparse, hsels⟩ := hr.selectors_eq f hf
    exact ⟨u, hpu, hwf.filed_not_failed f hf u hu, f.text, sheet, hr.url_text f hf u hu,
      hparse, hsels ▸ hsel⟩
  · rintro ⟨u, hpu, hfail, text, sheet, hfetch, hparse, hsel⟩
    rcases hr.added _ hpu with h | ⟨f, hf, hu⟩
    · simp [hfail] at h
    -- the url is listed by a file, whose text is the one fetched from it
    have htext : f.text = text := Except.ok.inj ((hr.url_text f hf u hu).symm.trans hfetch)
    obtain ⟨sheet', hparse', hsels⟩ := hr.selectors_eq f hf
    rw [htext, hparse] at hparse'
    cases hparse'
    exact ⟨f, hf, hsels ▸ hsel, (hr.pages_iff f hf p).2 ⟨u, hu, hpu⟩⟩

end Additions

section Runs

/-- **The collation loses and invents nothing.** On a fresh store, with a fetcher that answers
by its argument and never reports a cancellation, after any calls a page has a selector in the
collation exactly when the page added a url that did not fail and whose fetched text parses to a
sheet with that selector. -/
theorem pagesHave_selectorPages_iff (hc : ∀ u, fetch u ≠ .error .canceled) (calls : List Call) :
    ∃ s, runCalls fetch {} calls = .ok s ∧ ∀ sel p, pagesHave s.selectorPages sel p = true ↔
      ∃ u, (p, u) ∈ calls.flatMap Call.adds ∧ s.failureOf u = none ∧
        ∃ text sheet, fetch u = .ok text ∧ StyleSheet.parse text = .ok sheet ∧
          sel ∈ sheet.selectors := by
  obtain ⟨s, hrun, hwf, hr⟩ := runCalls_invariant (fun h s => s.WellFormed ∧ s.Records fetch h)
    (fun _ _ url h => ⟨h.1.reserve url, h.2.reserve url⟩)
    (fun _ _ _ url _ hs h =>
      ⟨(hs.1.reserve url).adds (by simp [mem_appendNew]) h,
        (hs.2.reserve url).adds (hs.1.reserve url) h⟩)
    hc calls {} [] ⟨wellFormed_empty, records_empty⟩
  exact ⟨s, hrun, hr.selectorPages_iff hwf⟩

theorem pagesHave_selectorPages_iff_site :
    (∀ u, siteSheets u ≠ .error .canceled) ∧
    ∃ s, runCalls siteSheets {} siteCalls = .ok s ∧ ∀ sel p,
      pagesHave s.selectorPages sel p = true ↔
        ∃ u, (p, u) ∈ siteCalls.flatMap Call.adds ∧ s.failureOf u = none ∧
          ∃ text sheet, siteSheets u = .ok text ∧ StyleSheet.parse text = .ok sheet ∧
            sel ∈ sheet.selectors :=
  ⟨siteSheets_ne_canceled, pagesHave_selectorPages_iff siteSheets_ne_canceled siteCalls⟩

end Runs

end Store

end CriticalCss.Generate
