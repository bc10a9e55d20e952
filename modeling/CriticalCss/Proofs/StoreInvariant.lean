import CriticalCss.Proofs.StoreSteps

/-!
# The store stays well formed

A store holds one file per distinct text. Its bookkeeping is kept in lists that the lookups
search, so each lookup answers for one file only as long as the lists agree with each other:

* no two files hold the same text, so the text of a fetch finds at most one file;
* no url is listed twice, in one file or in two, so a url finds the one file that lists it;
* a url is never both listed by a file and failed;
* each failed url has one failure, the failure to fetch or read it, and the errors are the
  failures in the order they happened;
* a file's position is the earliest discovery among its urls, so the files in order of position
  come strictly in order of first discovery;
* every file is included by some page, and lists each page once.

`Store.WellFormed` says this. Each reservation and each of the seven things an addition does
keeps it (`Store.WellFormed.adds`), so every run of calls on a fresh store ends in a well formed
store, and later calls only add failures after those recorded (`Store.runCalls_wellFormed`).

## Main definitions

* `Store.WellFormed`: the agreement of a store's lists.

## Main results

* `Store.WellFormed.adds`: an addition keeps a store well formed.
* `Store.WellFormed.findIdx?_text`, `Store.WellFormed.fileOf?_eq_some_iff`: in a well formed
  store, looking up a text or a url finds the file that has it.
* `Store.WellFormed.sorted_order`: a well formed store lists its files strictly in order of
  first discovery.
* `Store.runCalls_wellFormed`: calls on a fresh store keep it well formed.
-/

namespace CriticalCss.Generate

open CriticalCss.Css

variable {fetch : String → Id (Except Failure String)}

theorem List.map_map_ite {α β : Type} (l : List α) (p : α → Prop) [DecidablePred p] (F : α → α)
    (g : α → β) (hF : ∀ x, g (F x) = g x) :
    (l.map fun x => if p x then F x else x).map g = l.map g := by
  rw [List.map_map]
  apply List.map_congr_left
  intro x _
  by_cases hx : p x <;> simp [hx, hF]

theorem List.flatMap_map_ite {α β : Type} (l : List α) (p : α → Prop) [DecidablePred p]
    (F : α → α) (g : α → List β) (hF : ∀ x, g (F x) = g x) :
    (l.map fun x => if p x then F x else x).flatMap g = l.flatMap g := by
  rw [List.flatMap_def, List.map_map_ite l p F g hF, ← List.flatMap_def]

/-- What holds of every element of a list changed where `p` holds: the elements left alone
have it, and so do the changed ones. -/
theorem List.forall_mem_map_ite {α : Type} {l : List α} {p : α → Prop} [DecidablePred p]
    {F : α → α} {P : α → Prop} (hkeep : ∀ x ∈ l, ¬ p x → P x) (hchange : ∀ x ∈ l, p x → P (F x)) :
    ∀ y ∈ l.map (fun x => if p x then F x else x), P y := by
  simp only [List.mem_map]
  rintro _ ⟨x, hx, rfl⟩
  by_cases h : p x
  · rw [if_pos h]
    exact hchange x hx h
  · rw [if_neg h]
    exact hkeep x hx h

namespace Store

/-- The lists of a store agree: one file per text, one file per url, no url both filed and
failed, one failure per failed url with the errors in their order, positions by first
discovery, and pages listed once, at least one per file. -/
structure WellFormed (s : Store) : Prop where
  texts_nodup : (s.files.map (·.text)).Nodup
  urls_nodup : (s.files.flatMap (·.urls)).Nodup
  filed_not_failed : ∀ f ∈ s.files, ∀ u ∈ f.urls, s.failureOf u = none
  failed_nodup : (s.failed.map (·.1)).Nodup
  /-- Each failure is the failure to fetch or to read its url. -/
  failed_fetch : ∀ e ∈ s.failed, ∃ c, e.2 = .fetchFailed e.1 c
  errors_eq : s.errors = s.failed.map (·.2)
  urls_discovered : ∀ f ∈ s.files, ∀ u ∈ f.urls, u ∈ s.discovered
  /-- A file's position is the earliest discovery of its urls. -/
  order_eq : ∀ f ∈ s.files, (f.urls.map s.orderOf).min? = some f.order
  pages_ne_nil : ∀ f ∈ s.files, f.pages ≠ []
  pages_nodup : ∀ f ∈ s.files, f.pages.Nodup

theorem failureOf_eq_none_iff {s : Store} {u : String} :
    s.failureOf u = none ↔ u ∉ s.failed.map (·.1) := by
  simp only [failureOf, List.lookup_eq_none_iff, bne_iff_ne, ne_eq, List.mem_map, not_exists,
    not_and]
  exact ⟨fun h e he hu => h e he hu.symm, fun h e he hu => h e he hu.symm⟩

theorem wellFormed_empty : ({} : Store).WellFormed where
  texts_nodup := List.nodup_nil
  urls_nodup := List.nodup_nil
  filed_not_failed := by simp
  failed_nodup := List.nodup_nil
  failed_fetch := by simp
  errors_eq := rfl
  urls_discovered := by simp
  order_eq := by simp
  pages_ne_nil := by simp
  pages_nodup := by simp

section Preservation

variable {s : Store}

theorem WellFormed.reserve (hwf : s.WellFormed) (url : String) : (s.reserve url).WellFormed where
  texts_nodup := hwf.texts_nodup
  urls_nodup := hwf.urls_nodup
  filed_not_failed := hwf.filed_not_failed
  failed_nodup := hwf.failed_nodup
  failed_fetch := hwf.failed_fetch
  errors_eq := hwf.errors_eq
  urls_discovered f hf u hu := by
    rw [discovered_reserve, mem_appendNew]
    exact .inl (hwf.urls_discovered f hf u hu)
  order_eq f hf := by
    rw [← hwf.order_eq f hf]
    congr 1
    exact List.map_congr_left fun u hu => orderOf_reserve (hwf.urls_discovered f hf u hu) url
  pages_ne_nil := hwf.pages_ne_nil
  pages_nodup := hwf.pages_nodup

/-- Recording the failure of a url that no file lists and that had not failed. -/
theorem WellFormed.fail (hwf : s.WellFormed) {url : String} (hf : s.failureOf url = none)
    (hi : s.fileOf? url = none) (c : Failure) : (s.fail url c).WellFormed := by
  have hnot : ∀ f ∈ s.files, url ∉ f.urls := fileOf?_eq_none_iff.1 hi
  rw [fail_of_failureOf_eq_none hf]
  exact {
    texts_nodup := hwf.texts_nodup
    urls_nodup := hwf.urls_nodup
    filed_not_failed := by
      intro f hf' u hu
      have hne : u ≠ url := fun h => hnot f hf' (h ▸ hu)
      simp only [failureOf, List.lookup_append]
      rw [show s.failed.lookup u = none from hwf.filed_not_failed f hf' u hu]
      simp [hne]
    failed_nodup := by
      rw [List.map_append, List.nodup_append]
      refine ⟨hwf.failed_nodup, by simp, ?_⟩
      intro a ha b hb
      simp only [List.map_cons, List.map_nil, List.mem_singleton] at hb
      subst hb
      rintro rfl
      exact failureOf_eq_none_iff.1 hf ha
    failed_fetch := List.forall_mem_append.2 ⟨hwf.failed_fetch, List.forall_mem_singleton.2 ⟨c, rfl⟩⟩
    errors_eq := by simp [hwf.errors_eq]
    urls_discovered := hwf.urls_discovered
    order_eq := hwf.order_eq
    pages_ne_nil := hwf.pages_ne_nil
    pages_nodup := hwf.pages_nodup }

/-- Adding a page to the file that lists `url`. -/
theorem WellFormed.addPageAt (hwf : s.WellFormed) {url : String} {i : Nat}
    (hi : s.fileOf? url = some i) (page : String) : (s.addPageAt i page).WellFormed := by
  rw [addPageAt_eq_map hwf.urls_nodup hi]
  exact {
    texts_nodup := by
      dsimp only
      rw [List.map_map_ite _ _ _ _ fun f => SheetFile.withPage_text f page]
      exact hwf.texts_nodup
    urls_nodup := by
      dsimp only
      rw [List.flatMap_map_ite _ _ _ _ fun f => SheetFile.withPage_urls f page]
      exact hwf.urls_nodup
    filed_not_failed := List.forall_mem_map_ite (fun f hf _ => hwf.filed_not_failed f hf)
      fun f hf _ => hwf.filed_not_failed f hf
    failed_nodup := hwf.failed_nodup
    failed_fetch := hwf.failed_fetch
    errors_eq := hwf.errors_eq
    urls_discovered := List.forall_mem_map_ite (fun f hf _ => hwf.urls_discovered f hf)
      fun f hf _ => hwf.urls_discovered f hf
    order_eq := List.forall_mem_map_ite (fun f hf _ => hwf.order_eq f hf)
      fun f hf _ => hwf.order_eq f hf
    pages_ne_nil := List.forall_mem_map_ite (fun f hf _ => hwf.pages_ne_nil f hf)
      fun _ _ _ => List.ne_nil_of_mem (mem_appendNew.2 (.inr rfl))
    pages_nodup := List.forall_mem_map_ite (fun f hf _ => hwf.pages_nodup f hf)
      fun f hf _ => nodup_appendNew (hwf.pages_nodup f hf) page }

/-- Adding a url and a page to the file that holds `text`, for a discovered url that no file
lists and that had not failed. -/
theorem WellFormed.addUrlAt (hwf : s.WellFormed) {url text : String} {i : Nat}
    (hu : url ∈ s.discovered) (hf : s.failureOf url = none) (hi : s.fileOf? url = none)
    (hd : s.files.findIdx? (·.text == text) = some i) (page : String) :
    ((s.addUrlAt i url).addPageAt i page).WellFormed := by
  have hnot : ∀ f ∈ s.files, url ∉ f.urls := fileOf?_eq_none_iff.1 hi
  have hurls : ∀ f ∈ s.files, appendNew f.urls url = f.urls ++ [url] :=
    fun f hf => appendNew_of_not_mem (hnot f hf)
  rw [addUrlAt_addPageAt_eq_map hwf.texts_nodup hd]
  exact {
    texts_nodup := by
      dsimp only
      rw [List.map_map_ite]
      · exact hwf.texts_nodup
      · exact fun _ => rfl
    urls_nodup := by
      dsimp only
      obtain ⟨heach, hdisj⟩ := List.nodup_flatMap.1 hwf.urls_nodup
      have htexts : s.files.Pairwise fun a b => a.text ≠ b.text :=
        List.pairwise_map.1 hwf.texts_nodup
      refine List.nodup_flatMap.2 ⟨?_, ?_⟩
      · exact List.forall_mem_map_ite (fun f hf' _ => heach f hf')
          fun f hf' _ => nodup_appendNew (heach f hf') url
      · rw [List.pairwise_map]
        refine (hdisj.and htexts).imp_of_mem ?_
        rintro a b ha hb ⟨hab, hne⟩
        -- only the file with the text gains the url, which no file listed
        by_cases hta : a.text = text <;> by_cases htb : b.text = text
        · exact absurd (hta.trans htb.symm) hne
        · simp only [hta, htb, if_true, if_false, Function.onFun, SheetFile.withPage_urls,
            SheetFile.withUrl_urls, hurls a ha, List.disjoint_append_left]
          exact ⟨hab, by simpa using hnot b hb⟩
        · simp only [hta, htb, if_true, if_false, Function.onFun, SheetFile.withPage_urls,
            SheetFile.withUrl_urls, hurls b hb, List.disjoint_append_right]
          exact ⟨hab, by simpa using hnot a ha⟩
        · simpa [hta, htb, Function.onFun] using hab
    filed_not_failed := by
      refine List.forall_mem_map_ite (fun f hf' _ => hwf.filed_not_failed f hf') ?_
      intro f hf' _ u hu'
      rcases mem_appendNew.1 hu' with hu' | rfl
      · exact hwf.filed_not_failed f hf' u hu'
      · exact hf
    failed_nodup := hwf.failed_nodup
    failed_fetch := hwf.failed_fetch
    errors_eq := hwf.errors_eq
    urls_discovered := by
      refine List.forall_mem_map_ite (fun f hf' _ => hwf.urls_discovered f hf') ?_
      intro f hf' _ u hu'
      rcases mem_appendNew.1 hu' with hu' | rfl
      · exact hwf.urls_discovered f hf' u hu'
      · exact hu
    order_eq := by
      refine List.forall_mem_map_ite (fun f hf' _ => hwf.order_eq f hf') ?_
      intro f hf' _
      have hmin := hwf.order_eq f hf'
      simp only [SheetFile.withPage_urls, SheetFile.withUrl_urls, SheetFile.withPage_order,
        SheetFile.withUrl_order, hurls f hf', List.map_append, List.map_cons, List.map_nil]
      rw [List.min?_eq_some_iff] at hmin ⊢
      obtain ⟨hmem, hle⟩ := hmin
      refine ⟨?_, ?_⟩
      · rcases Nat.le_total f.order (s.orderOf url) with h | h
        · rw [Nat.min_eq_left h]
          exact List.mem_append_left _ hmem
        · rw [Nat.min_eq_right h]
          exact List.mem_append_right _ (List.mem_singleton_self _)
      · exact List.forall_mem_append.2 ⟨fun b hb => Nat.le_trans (Nat.min_le_left _ _) (hle b hb),
          List.forall_mem_singleton.2 (Nat.min_le_right _ _)⟩
    pages_ne_nil := List.forall_mem_map_ite (fun f hf' _ => hwf.pages_ne_nil f hf')
      fun _ _ _ => List.ne_nil_of_mem (mem_appendNew.2 (.inr rfl))
    pages_nodup := List.forall_mem_map_ite (fun f hf' _ => hwf.pages_nodup f hf')
      fun f hf' _ => nodup_appendNew (hwf.pages_nodup f hf') page }

/-- A new file for a new text, read from a discovered url that no file lists and that had not
failed. -/
theorem WellFormed.withFile (hwf : s.WellFormed) {url text : String} (hu : url ∈ s.discovered)
    (hf : s.failureOf url = none) (hi : s.fileOf? url = none)
    (hd : s.files.findIdx? (·.text == text) = none) (sheet : StyleSheet) (page : String) :
    (s.withFile url text sheet page).WellFormed := by
  have hnot : ∀ f ∈ s.files, url ∉ f.urls := fileOf?_eq_none_iff.1 hi
  have hnew : ∀ f ∈ s.files, f.text ≠ text := findIdx?_text_eq_none_iff.1 hd
  exact {
    texts_nodup := by
      simp only [Store.withFile, List.map_append, List.map_cons, List.map_nil]
      refine List.nodup_append.2 ⟨hwf.texts_nodup, List.nodup_singleton _, ?_⟩
      intro a ha b hb
      rw [List.mem_singleton.1 hb]
      obtain ⟨f, hf', rfl⟩ := List.mem_map.1 ha
      exact hnew f hf'
    urls_nodup := by
      simp only [Store.withFile, List.flatMap_append, List.flatMap_cons, List.flatMap_nil,
        List.append_nil]
      refine List.nodup_append.2 ⟨hwf.urls_nodup, List.nodup_singleton _, ?_⟩
      intro a ha b hb
      rw [List.mem_singleton.1 hb]
      obtain ⟨f, hf', ha⟩ := List.mem_flatMap.1 ha
      rintro rfl
      exact hnot f hf' ha
    filed_not_failed := List.forall_mem_append.2 ⟨hwf.filed_not_failed,
      List.forall_mem_singleton.2 fun u h => List.mem_singleton.1 h ▸ hf⟩
    failed_nodup := hwf.failed_nodup
    failed_fetch := hwf.failed_fetch
    errors_eq := hwf.errors_eq
    urls_discovered := List.forall_mem_append.2 ⟨hwf.urls_discovered,
      List.forall_mem_singleton.2 fun u h => List.mem_singleton.1 h ▸ hu⟩
    order_eq := List.forall_mem_append.2 ⟨hwf.order_eq, by simp [orderOf, Store.withFile]⟩
    pages_ne_nil := List.forall_mem_append.2 ⟨hwf.pages_ne_nil, by simp⟩
    pages_nodup := List.forall_mem_append.2 ⟨hwf.pages_nodup, by simp⟩ }

/-- Each of the seven things an addition does keeps a store well formed. -/
theorem WellFormed.adds (hwf : s.WellFormed) {page url : String} (hu : url ∈ s.discovered)
    {s' : Store} (h : Adds fetch s page url s') : s'.WellFormed := by
  cases h with
  | failed => exact hwf
  | known hf hi => exact hwf.addPageAt hi page
  | unfetched hf hi => exact hwf.fail hf hi _
  | duplicate hf hi _ hd => exact hwf.addUrlAt hu hf hi hd page
  | unparsable hf hi => exact hwf.fail hf hi _
  | badBase hf hi => exact hwf.fail hf hi _
  | fresh hf hi _ hd => exact hwf.withFile hu hf hi hd _ page

/-- An addition keeps the failures recorded and adds any after them. -/
theorem Adds.failed_prefix {page url : String} {s' : Store} (h : Adds fetch s page url s') :
    s.failed <+: s'.failed := by
  cases h with
  | unfetched hf => simp [fail_of_failureOf_eq_none hf]
  | unparsable hf => simp [fail_of_failureOf_eq_none hf]
  | badBase hf => simp [fail_of_failureOf_eq_none hf]
  | failed => exact List.prefix_refl _
  | known => exact List.prefix_refl _
  | duplicate => exact List.prefix_refl _
  | fresh => exact List.prefix_refl _

end Preservation

section Lookups

variable {s : Store}

/-- In a well formed store, looking up the text of a file finds that file. -/
theorem WellFormed.findIdx?_text (hwf : s.WellFormed) {i : Nat} {f : SheetFile}
    (hf : s.files[i]? = some f) : s.files.findIdx? (·.text == f.text) = some i := by
  obtain ⟨hi, rfl⟩ := List.getElem?_eq_some_iff.1 hf
  refine List.findIdx?_eq_some_iff_getElem.2 ⟨hi, by simp, fun j hji h => ?_⟩
  have hj : s.files[j]? = some s.files[j] := List.getElem?_eq_getElem _
  have := List.eq_of_map_eq_of_nodup hwf.texts_nodup hj hf (by simpa using h)
  omega

/-- In a well formed store, a url finds exactly the file that lists it. -/
theorem WellFormed.fileOf?_eq_some_iff (hwf : s.WellFormed) {u : String} {i : Nat} :
    s.fileOf? u = some i ↔ ∃ f, s.files[i]? = some f ∧ u ∈ f.urls := by
  refine ⟨exists_of_fileOf?, ?_⟩
  rintro ⟨f, hf, hu⟩
  obtain ⟨hi, rfl⟩ := List.getElem?_eq_some_iff.1 hf
  refine List.findIdx?_eq_some_iff_getElem.2 ⟨hi, by simpa using hu, fun j hji h => ?_⟩
  have hj : s.files[j]? = some s.files[j] := List.getElem?_eq_getElem _
  have := List.eq_of_mem_flatMap_of_nodup hwf.urls_nodup hj hf (by simpa using h) hu
  omega

/-- Two files of a well formed store that list the same url are one file. -/
theorem WellFormed.eq_of_mem_urls (hwf : s.WellFormed) {f g : SheetFile} (hf : f ∈ s.files)
    (hg : g ∈ s.files) {u : String} (huf : u ∈ f.urls) (hug : u ∈ g.urls) : f = g := by
  obtain ⟨i, hi⟩ := List.mem_iff_getElem?.1 hf
  obtain ⟨j, hj⟩ := List.mem_iff_getElem?.1 hg
  obtain rfl := List.eq_of_mem_flatMap_of_nodup hwf.urls_nodup hi hj huf hug
  rw [hi] at hj
  exact Option.some.inj hj

/-- The files of a well formed store have distinct positions: the position of a file is the
discovery of one of its urls, and no url is listed twice. -/
theorem WellFormed.orders_nodup (hwf : s.WellFormed) : (s.files.map (·.order)).Nodup := by
  refine List.Nodup.map_on ?_ (List.Nodup.of_map _ hwf.texts_nodup)
  intro f hf g hg hfg
  obtain ⟨u, hu, hfu⟩ := List.mem_map.1 (List.min?_mem (hwf.order_eq f hf))
  obtain ⟨v, hv, hgv⟩ := List.mem_map.1 (List.min?_mem (hwf.order_eq g hg))
  have huv : u = v := by
    have : s.discovered.idxOf u = s.discovered.idxOf v := by
      simpa [orderOf, hfg] using hfu.trans (hfg.trans hgv.symm)
    exact (List.idxOf_inj (hwf.urls_discovered f hf u hu)).1 this
  subst huv
  exact hwf.eq_of_mem_urls hf hg hu hv

end Lookups

section Order

theorem insertByOrder_perm (f : SheetFile) : ∀ l : List SheetFile, (insertByOrder f l).Perm (f :: l)
  | [] => List.Perm.refl _
  | g :: gs => by
    unfold insertByOrder
    split
    · exact List.Perm.refl _
    · exact ((insertByOrder_perm f gs).cons g).trans (List.Perm.swap f g gs)

theorem insertByOrder_sorted (f : SheetFile) :
    ∀ {l : List SheetFile}, l.Pairwise (fun a b => a.order ≤ b.order) →
      (insertByOrder f l).Pairwise (fun a b => a.order ≤ b.order)
  | [], _ => List.pairwise_singleton _ f
  | g :: gs, h => by
    obtain ⟨hg, hgs⟩ := List.pairwise_cons.1 h
    unfold insertByOrder
    split
    · rename_i hlt
      refine List.pairwise_cons.2 ⟨?_, h⟩
      intro b hb
      rcases List.mem_cons.1 hb with rfl | hb
      · exact Nat.le_of_lt hlt
      · exact Nat.le_trans (Nat.le_of_lt hlt) (hg b hb)
    · rename_i hge
      refine List.pairwise_cons.2 ⟨?_, insertByOrder_sorted f hgs⟩
      intro b hb
      rcases List.mem_cons.1 ((insertByOrder_perm f gs).mem_iff.1 hb) with rfl | hb
      · exact Nat.le_of_not_lt hge
      · exact hg b hb

theorem foldl_insertByOrder (l : List SheetFile) :
    ∀ acc : List SheetFile, acc.Pairwise (fun a b => a.order ≤ b.order) →
      (l.foldl (fun acc f => insertByOrder f acc) acc).Perm (l ++ acc) ∧
        (l.foldl (fun acc f => insertByOrder f acc) acc).Pairwise (fun a b => a.order ≤ b.order) := by
  induction l with
  | nil => exact fun acc h => ⟨List.Perm.refl _, h⟩
  | cons f l ih =>
    intro acc h
    obtain ⟨hperm, hsorted⟩ := ih _ (insertByOrder_sorted f h)
    refine ⟨hperm.trans ?_, hsorted⟩
    exact ((insertByOrder_perm f acc).append_left l).trans List.perm_middle

/-- The files in order are the files, sorted by position. -/
theorem sorted_perm (s : Store) : s.sorted.Perm s.files := by
  simpa [sorted] using (foldl_insertByOrder s.files [] List.Pairwise.nil).1

/-- A well formed store lists its files strictly in order of first discovery. -/
theorem WellFormed.sorted_order {s : Store} (hwf : s.WellFormed) :
    (s.sorted.map (·.order)).Pairwise (· < ·) := by
  have hle : s.sorted.Pairwise (fun a b => a.order ≤ b.order) :=
    (foldl_insertByOrder s.files [] List.Pairwise.nil).2
  have hne : (s.sorted.map (·.order)).Nodup :=
    ((s.sorted_perm.map (·.order)).nodup_iff).2 hwf.orders_nodup
  rw [List.pairwise_map]
  exact (hle.and (List.pairwise_map.1 hne)).imp fun h => Nat.lt_of_le_of_ne h.1 h.2

end Order

section Runs

/-- **A store stays well formed.** On a fresh store, with a fetcher that answers by its
argument and never reports a cancellation, every run of calls succeeds and leaves a well formed
store: the text of each file finds that file, a url finds exactly the file that lists it, and
the files in order come strictly by first discovery. Later calls keep the failures recorded
and add any after them, so the errors stay in the order of first failure. -/
theorem runCalls_wellFormed (hc : ∀ u, fetch u ≠ .error .canceled) (calls : List Call) :
    ∃ s, runCalls fetch {} calls = .ok s ∧ s.WellFormed ∧
      (∀ i f, s.files[i]? = some f → s.files.findIdx? (·.text == f.text) = some i) ∧
      (∀ u i, s.fileOf? u = some i ↔ ∃ f, s.files[i]? = some f ∧ u ∈ f.urls) ∧
      s.sorted.Perm s.files ∧ (s.sorted.map (·.order)).Pairwise (· < ·) ∧
      ∀ more, ∃ s', runCalls fetch {} (calls ++ more) = .ok s' ∧ s.failed <+: s'.failed := by
  obtain ⟨s, hrun, hwf⟩ := runCalls_invariant (fun _ s => s.WellFormed)
    (fun _ _ url hwf => hwf.reserve url)
    (fun _ _ _ url _ hwf h => (hwf.reserve url).adds (by simp [mem_appendNew]) h)
    hc calls {} [] wellFormed_empty
  refine ⟨s, hrun, hwf, fun _ _ => hwf.findIdx?_text, fun _ _ => hwf.fileOf?_eq_some_iff,
    s.sorted_perm, hwf.sorted_order, fun more => ?_⟩
  -- failures are only ever appended, by reservations not at all
  obtain ⟨s', hmore, hprefix⟩ := runCalls_invariant (fun _ t => s.failed <+: t.failed)
    (fun _ _ _ h => h) (fun _ _ _ _ _ h hadds => h.trans hadds.failed_prefix) hc more s [] (List.prefix_refl _)
  exact ⟨s', by rw [runCalls_append, hrun]; exact hmore, hprefix⟩

/-- A fetcher for a site whose stylesheets `a.css` and `b.css` share their text and whose
`gone.css` is missing. -/
def siteSheets (url : String) : Id (Except Failure String) :=
  if url = "gone.css" then .error (.plain "not found") else .ok ".a{color:red}"

theorem siteSheets_ne_canceled : ∀ u, siteSheets u ≠ .error .canceled := by
  intro u h
  unfold siteSheets at h
  split at h <;> cases h

/-- Two pages, the second adding its stylesheets in an order other than the document's. -/
def siteCalls : List Call :=
  [.add "p" "a.css",
   .addAll "q" ["gone.css", "b.css", "a.css"] ["a.css", "b.css", "gone.css"] (by decide)]

theorem runCalls_wellFormed_site :
    (∀ u, siteSheets u ≠ .error .canceled) ∧
    ∃ s, runCalls siteSheets {} siteCalls = .ok s ∧ s.WellFormed ∧
      (∀ i f, s.files[i]? = some f → s.files.findIdx? (·.text == f.text) = some i) ∧
      (∀ u i, s.fileOf? u = some i ↔ ∃ f, s.files[i]? = some f ∧ u ∈ f.urls) ∧
      s.sorted.Perm s.files ∧ (s.sorted.map (·.order)).Pairwise (· < ·) ∧
      ∀ more, ∃ s', runCalls siteSheets {} (siteCalls ++ more) = .ok s' ∧
        s.failed <+: s'.failed :=
  ⟨siteSheets_ne_canceled, runCalls_wellFormed siteSheets_ne_canceled siteCalls⟩

end Runs

end Store

end CriticalCss.Generate
