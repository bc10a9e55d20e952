import Mathlib.Data.List.Sort
import CriticalCss.Proofs.SelectorPages

/-!
# The order in which a page's stylesheets finish

The stylesheets of a page are fetched concurrently: their positions are reserved in document
order, then each addition runs when its fetch finishes, in an order nobody chooses. The order
can matter. A text is read once, by the first url that brings it, and its references are made
absolute against that url. When that url is not one the url parser accepts, the text is refused
and the url fails; had another url with the same text come first, the file would have been made
and the refused url would simply have joined it (`addAllIn_order_decides_failure`).

## The statement, and the clause it costs

`addAllIn_outcome_perm`: from a well formed store, every two orders of a batch give the same
files in order by text, the same urls and pages for each file, the same failed urls and the
same errors, provided a url of the batch that the parser refuses as a base shares its fetched
text with no other url of the batch. That is exactly the situation above: with the clause, the
refused url is always the only one to bring its text, so it fails in every order.

## How the proof goes

After any part of the batch, the store is described by the urls added so far as a set, with no
mention of their order (`Store.Settled`). A url new to the store either fails, with a cause that
its own fetch, text and base decide (`Store.Fails`), or joins the file of its text (`Store.Joins`);
a file's urls are its first urls and the new urls that joined it, and it gained the page exactly
when one of the added urls is among them. Each addition keeps this description (`Settled.adds`),
so every order ends described by the whole batch, and two stores with one description agree on
everything the statement compares.

## Main definitions

* `Store.Joins`, `Store.Fails`: what a new url of a batch does, decided by the url alone.
* `Store.Settled`: a store after additions of some urls of a batch, by the set of those urls.

## Main results

* `Store.Settled.adds`: each addition keeps the description.
* `Store.Settled.addsAll`: so does a chain of additions.
* `Store.addAllIn_outcome_perm`: the outcome of a batch does not depend on its order.
* `Store.addAllIn_order_decides_failure`: without the clause on refused bases, it does.
-/

namespace CriticalCss.Css

open CriticalCss.Url

/-- Making the references of a sheet absolute succeeds exactly for a base the parser accepts. -/
theorem StyleSheet.absolutifyUrls_ok_iff {s : StyleSheet} {base : String} :
    (∃ s', s.absolutifyUrls base = .ok s') ↔ ∃ b, Url.parse base = .ok b := by
  unfold StyleSheet.absolutifyUrls
  split <;> simp_all

end CriticalCss.Css

namespace CriticalCss.Generate

open CriticalCss.Css
open CriticalCss.Url

variable {fetch : String → Id (Except Failure String)}

/-- Two lists of numbers with the same members have the same least one. -/
theorem List.min?_eq_of_mem_iff {l₁ l₂ : List Nat} (h : ∀ x, x ∈ l₁ ↔ x ∈ l₂) :
    l₁.min? = l₂.min? := by
  cases hm : l₁.min? with
  | none =>
    rw [List.min?_eq_none_iff] at hm
    subst hm
    rw [eq_comm, List.min?_eq_none_iff, List.eq_nil_iff_forall_not_mem]
    exact fun x hx => by simpa using (h x).2 hx
  | some a =>
    obtain ⟨ha, hle⟩ := List.min?_eq_some_iff.1 hm
    exact (List.min?_eq_some_iff.2 ⟨(h a).1 ha, fun b hb => hle b ((h b).2 hb)⟩).symm

namespace Store

/-- Two files of a well formed store with one text are one file. -/
theorem WellFormed.eq_of_text {s : Store} (hwf : s.WellFormed) {f g : SheetFile}
    (hf : f ∈ s.files) (hg : g ∈ s.files) (h : f.text = g.text) : f = g := by
  obtain ⟨i, hi⟩ := List.mem_iff_getElem?.1 hf
  obtain ⟨j, hj⟩ := List.mem_iff_getElem?.1 hg
  obtain rfl := List.eq_of_map_eq_of_nodup hwf.texts_nodup hi hj h
  rw [hi] at hj
  exact Option.some.inj hj

theorem reserve_eq_self {s : Store} {u : String} (h : u ∈ s.discovered) : s.reserve u = s := by
  simp [reserve, appendNew, h]

/-- What an addition changes of a store never includes its order of discovery. -/
theorem Adds.discovered_eq {s s' : Store} {page url : String} (h : Adds fetch s page url s') :
    s'.discovered = s.discovered := by
  cases h with
  | failed => rfl
  | known => rfl
  | duplicate => rfl
  | fresh => rfl
  | unfetched hf => simp [fail_of_failureOf_eq_none hf]
  | unparsable hf => simp [fail_of_failureOf_eq_none hf]
  | badBase hf => simp [fail_of_failureOf_eq_none hf]

/-- A url that a store has neither filed nor failed. -/
def IsNew (s : Store) (u : String) : Prop :=
  s.failureOf u = none ∧ s.fileOf? u = none

/-- The url `u`, new to `s₀`, joins the file of `text`: `s₀` has a file of that text, or the
text parses and `u` is a base for its references. -/
def Joins (fetch : String → Id (Except Failure String)) (s₀ : Store) (u text : String) : Prop :=
  s₀.IsNew u ∧ fetch u = .ok text ∧
    ((∃ g ∈ s₀.files, g.text = text) ∨
      ∃ sheet sheet', StyleSheet.parse text = .ok sheet ∧ sheet.absolutifyUrls u = .ok sheet')

/-- The url `u`, new to `s₀`, fails for the cause `c`: its fetch fails, or it brings a text that
`s₀` has no file of and that does not parse or does not take `u` as a base. -/
def Fails (fetch : String → Id (Except Failure String)) (s₀ : Store) (u : String)
    (c : Failure) : Prop :=
  s₀.IsNew u ∧ (fetch u = .error c ∨
    ∃ text, fetch u = .ok text ∧ (∀ g ∈ s₀.files, g.text ≠ text) ∧
      ((∃ e, StyleSheet.parse text = .error e ∧ c = parseFailure e) ∨
        ∃ sheet e, StyleSheet.parse text = .ok sheet ∧ sheet.absolutifyUrls u = .error e ∧
          c = baseFailure e))

section Outcomes

variable {s₀ : Store} {u text : String} {c : Failure}

theorem Joins.isNew (h : s₀.Joins fetch u text) : s₀.IsNew u := h.1

theorem Fails.isNew (h : s₀.Fails fetch u c) : s₀.IsNew u := h.1

theorem Joins.text_eq {text' : String} (h : s₀.Joins fetch u text) (h' : s₀.Joins fetch u text') :
    text = text' :=
  Except.ok.inj (h.2.1.symm.trans h'.2.1)

/-- A url that fails joins no file. -/
theorem Fails.not_joins (h : s₀.Fails fetch u c) : ¬ s₀.Joins fetch u text := by
  rintro ⟨-, ht, hj⟩
  rcases h.2 with he | ⟨text', ht', hnew, hbad⟩
  · rw [ht] at he
    cases he
  have htext : text' = text := Except.ok.inj (ht'.symm.trans ht)
  subst htext
  rcases hj with ⟨g, hg, hgt⟩ | ⟨sheet, sheet', hp, hb⟩
  · exact hnew g hg hgt
  rcases hbad with ⟨e, hp', -⟩ | ⟨sheet'', e, hp', hb', -⟩
  · rw [hp] at hp'
    cases hp'
  · rw [hp] at hp'
    cases hp'
    rw [hb] at hb'
    cases hb'

/-- The cause a url fails for is decided by the url. -/
theorem Fails.unique {c' : Failure} (h : s₀.Fails fetch u c) (h' : s₀.Fails fetch u c') :
    c = c' := by
  rcases h.2 with he | ⟨text, ht, -, hbad⟩ <;> rcases h'.2 with he' | ⟨text', ht', -, hbad'⟩
  · exact Except.error.inj (he.symm.trans he')
  · rw [he] at ht'
    cases ht'
  · rw [ht] at he'
    cases he'
  have htext : text = text' := Except.ok.inj (ht.symm.trans ht')
  subst htext
  rcases hbad with ⟨e, hp, rfl⟩ | ⟨sheet, e, hp, hb, rfl⟩ <;>
    rcases hbad' with ⟨e', hp', rfl⟩ | ⟨sheet', e', hp', hb', rfl⟩ <;>
    rw [hp] at hp' <;> cases hp'
  · rfl
  · rw [hb] at hb'
    cases hb'
    rfl

end Outcomes

/-- What a store is after additions of the urls `done` of a batch for `page`, made to `s₀`,
said of the set of those urls: the failures of `s₀` and of the added urls that fail, the texts
of `s₀` and of the added urls that join a file, each file's first urls and the added urls that
joined it, and each file's first pages and the page of the batch once an added url is among its
urls. Every added url ends failed or filed. -/
structure Settled (fetch : String → Id (Except Failure String)) (s₀ : Store) (page : String)
    (done : List String) (s : Store) : Prop where
  discovered_eq : s.discovered = s₀.discovered
  failed_iff : ∀ x, x ∈ s.failed ↔
    x ∈ s₀.failed ∨ (x.1 ∈ done ∧ ∃ c, s₀.Fails fetch x.1 c ∧ x.2 = .fetchFailed x.1 c)
  text_iff : ∀ t, (∃ f ∈ s.files, f.text = t) ↔
    (∃ g ∈ s₀.files, g.text = t) ∨ ∃ u ∈ done, s₀.Joins fetch u t
  urls_iff : ∀ f ∈ s.files, ∀ u, u ∈ f.urls ↔
    (∃ g ∈ s₀.files, g.text = f.text ∧ u ∈ g.urls) ∨ (u ∈ done ∧ s₀.Joins fetch u f.text)
  pages_iff : ∀ f ∈ s.files, ∀ p, p ∈ f.pages ↔
    (∃ g ∈ s₀.files, g.text = f.text ∧ p ∈ g.pages) ∨ (p = page ∧ ∃ u ∈ done, u ∈ f.urls)
  settled : ∀ u ∈ done, (s.failureOf u).isSome ∨ ∃ f ∈ s.files, u ∈ f.urls

section Settled

variable {s₀ s : Store} {page : String} {done : List String} {u : String}

/-- Before any addition, a well formed store is described by itself. -/
theorem settled_init (hwf : s₀.WellFormed) (page : String) : Settled fetch s₀ page [] s₀ where
  discovered_eq := rfl
  failed_iff := by simp
  text_iff := by simp
  urls_iff f hf u := by
    simp only [List.not_mem_nil, false_and, or_false]
    exact ⟨fun hu => ⟨f, hf, rfl, hu⟩, fun h => h.elim fun g hg =>
      hwf.eq_of_text hg.1 hf hg.2.1 ▸ hg.2.2⟩
  pages_iff f hf p := by
    simp only [List.not_mem_nil, false_and, exists_false, and_false, or_false]
    exact ⟨fun hp => ⟨f, hf, rfl, hp⟩, fun h => h.elim fun g hg =>
      hwf.eq_of_text hg.1 hf hg.2.1 ▸ hg.2.2⟩
  settled := by simp

/-- Adding to the urls done one that is done already, or that the described part could not
hold, changes nothing the description says of it. -/
theorem and_mem_append_iff {P : String → Prop} (h : u ∈ done ∨ ¬ P u) (v : String) :
    (v ∈ done ++ [u] ∧ P v) ↔ (v ∈ done ∧ P v) := by
  simp only [List.mem_append, List.mem_singleton]
  constructor
  · rintro ⟨hv | rfl, hp⟩
    · exact ⟨hv, hp⟩
    · exact ⟨h.resolve_right (not_not.2 hp), hp⟩
  · exact fun h => ⟨.inl h.1, h.2⟩

theorem exists_mem_append_iff {P : String → Prop} (h : u ∈ done ∨ ¬ P u) :
    (∃ v ∈ done ++ [u], P v) ↔ ∃ v ∈ done, P v :=
  exists_congr fun v => and_mem_append_iff h v

/-- A file that does not list `u` gains no page from its addition. -/
theorem pages_iff_of_not_mem {f : SheetFile} {A : String → Prop}
    (hpages : ∀ p, p ∈ f.pages ↔ A p ∨ (p = page ∧ ∃ v ∈ done, v ∈ f.urls))
    (hu : u ∉ f.urls) (p : String) :
    p ∈ f.pages ↔ A p ∨ (p = page ∧ ∃ v ∈ done ++ [u], v ∈ f.urls) := by
  rw [hpages, exists_mem_append_iff (.inr hu)]

/-- A file that lists `u` after its addition gains the page of the batch. -/
theorem mem_appendNew_page_iff {pages urls urls' : List String} {A : String → Prop}
    (hpages : ∀ p, p ∈ pages ↔ A p ∨ (p = page ∧ ∃ v ∈ done, v ∈ urls))
    (hsub : ∀ v ∈ urls, v ∈ urls') (hu : u ∈ urls') (p : String) :
    p ∈ appendNew pages page ↔ A p ∨ (p = page ∧ ∃ v ∈ done ++ [u], v ∈ urls') := by
  rw [mem_appendNew, hpages]
  constructor
  · rintro ((hA | ⟨hp, v, hv, hvu⟩) | rfl)
    · exact .inl hA
    · exact .inr ⟨hp, v, List.mem_append_left _ hv, hsub v hvu⟩
    · exact .inr ⟨rfl, u, by simp, hu⟩
  · rintro (hA | ⟨rfl, -⟩)
    · exact .inl (.inl hA)
    · exact .inr rfl

theorem Settled.failed_of_init (hst : Settled fetch s₀ page done s) {x : String × Failure}
    (hx : x ∈ s₀.failed) : x ∈ s.failed :=
  (hst.failed_iff x).2 (.inl hx)

theorem Settled.exists_text_of_init (hst : Settled fetch s₀ page done s) {g : SheetFile}
    (hg : g ∈ s₀.files) : ∃ f ∈ s.files, f.text = g.text :=
  (hst.text_iff g.text).2 (.inl ⟨g, hg, rfl⟩)

/-- A url that the store has neither filed nor failed was new to the batch's first store. -/
theorem Settled.isNew (hst : Settled fetch s₀ page done s) (hf : s.failureOf u = none)
    (hi : s.fileOf? u = none) : s₀.IsNew u := by
  refine ⟨failureOf_eq_none_iff.2 fun hu => ?_, fileOf?_eq_none_iff.2 fun g hg hu => ?_⟩
  · obtain ⟨x, hx, rfl⟩ := List.mem_map.1 hu
    exact failureOf_eq_none_iff.1 hf (List.mem_map_of_mem (hst.failed_of_init hx))
  · -- the file of `g`'s text now lists `u` too
    obtain ⟨f, hf', hft⟩ := hst.exists_text_of_init hg
    exact fileOf?_eq_none_iff.1 hi f hf' ((hst.urls_iff f hf' u).2 (.inl ⟨g, hg, hft.symm, hu⟩))

/-- A url that the store has neither filed nor failed was not added yet. -/
theorem Settled.not_mem_done (hst : Settled fetch s₀ page done s) (hf : s.failureOf u = none)
    (hi : s.fileOf? u = none) : u ∉ done := by
  intro hu
  rcases hst.settled u hu with h | ⟨f, hf', hu'⟩
  · simp [hf] at h
  · exact fileOf?_eq_none_iff.1 hi f hf' hu'

/-- A url that a file lists is added already or was not new. -/
theorem Settled.done_or_not_new (hst : Settled fetch s₀ page done s) {f : SheetFile}
    (hf : f ∈ s.files) (hu : u ∈ f.urls) : u ∈ done ∨ ¬ s₀.IsNew u := by
  rcases (hst.urls_iff f hf u).1 hu with ⟨g, hg, -, hug⟩ | ⟨hd, -⟩
  · exact .inr fun hnew => fileOf?_eq_none_iff.1 hnew.2 g hg hug
  · exact .inl hd

theorem isSome_failureOf_iff {s : Store} {u : String} :
    (s.failureOf u).isSome ↔ u ∈ s.failed.map (·.1) := by
  rw [← not_iff_not, Bool.not_eq_true, Option.isSome_eq_false_iff, Option.isNone_iff_eq_none,
    failureOf_eq_none_iff]

/-- Changing files in ways that keep their texts keeps the texts a store has. -/
theorem exists_text_map {l : List SheetFile} {F : SheetFile → SheetFile}
    (hF : ∀ f, (F f).text = f.text) (t : String) :
    (∃ f ∈ l.map F, f.text = t) ↔ ∃ f ∈ l, f.text = t := by
  simp [hF]

/-- A url that failed is added already or was not new. -/
theorem Settled.done_or_not_new_of_failed (hst : Settled fetch s₀ page done s)
    (hf : (s.failureOf u).isSome) : u ∈ done ∨ ¬ s₀.IsNew u := by
  obtain ⟨x, hx, rfl⟩ := List.mem_map.1 (isSome_failureOf_iff.1 hf)
  rcases (hst.failed_iff x).1 hx with hx | ⟨hd, -⟩
  · exact .inr fun hnew => failureOf_eq_none_iff.1 hnew.1 (List.mem_map_of_mem hx)
  · exact .inl hd

/-- Adding a url that is added already or was not new changes neither the failures, nor the
texts, nor the urls of the files that the description allows. -/
theorem Settled.failed_iff_append (hst : Settled fetch s₀ page done s)
    (h : u ∈ done ∨ ¬ s₀.IsNew u) (x : String × Failure) :
    x ∈ s.failed ↔
      x ∈ s₀.failed ∨ (x.1 ∈ done ++ [u] ∧ ∃ c, s₀.Fails fetch x.1 c ∧ x.2 = .fetchFailed x.1 c) := by
  rw [and_mem_append_iff (P := fun v => ∃ c, s₀.Fails fetch v c ∧ x.2 = .fetchFailed v c)
    (h.imp_right fun hn hc => hn (hc.elim fun _ hc => hc.1.isNew)), hst.failed_iff]

theorem Settled.text_iff_append (hst : Settled fetch s₀ page done s)
    (h : u ∈ done ∨ ¬ s₀.IsNew u) (t : String) :
    (∃ f ∈ s.files, f.text = t) ↔
      (∃ g ∈ s₀.files, g.text = t) ∨ ∃ v ∈ done ++ [u], s₀.Joins fetch v t := by
  rw [exists_mem_append_iff (P := fun v => s₀.Joins fetch v t)
    (h.imp_right fun hn hj => hn hj.isNew), hst.text_iff]

theorem Settled.urls_iff_append (hst : Settled fetch s₀ page done s)
    (h : u ∈ done ∨ ¬ s₀.IsNew u) {f : SheetFile} (hf : f ∈ s.files) (v : String) :
    v ∈ f.urls ↔ (∃ g ∈ s₀.files, g.text = f.text ∧ v ∈ g.urls) ∨
      (v ∈ done ++ [u] ∧ s₀.Joins fetch v f.text) := by
  rw [and_mem_append_iff (P := fun v => s₀.Joins fetch v f.text)
    (h.imp_right fun hn hj => hn hj.isNew), hst.urls_iff f hf]

/-- Adding a url that failed before. -/
theorem Settled.of_failed (hwf : s.WellFormed) (hst : Settled fetch s₀ page done s)
    (hf : (s.failureOf u).isSome) : Settled fetch s₀ page (done ++ [u]) s where
  discovered_eq := hst.discovered_eq
  failed_iff := hst.failed_iff_append (hst.done_or_not_new_of_failed hf)
  text_iff := hst.text_iff_append (hst.done_or_not_new_of_failed hf)
  urls_iff f hf' := hst.urls_iff_append (hst.done_or_not_new_of_failed hf) hf'
  pages_iff f hf' := pages_iff_of_not_mem (hst.pages_iff f hf') fun hu => by
    simp [hwf.filed_not_failed f hf' u hu] at hf
  settled := List.forall_mem_append.2 ⟨hst.settled, List.forall_mem_singleton.2 (.inl hf)⟩

/-- Adding a url that a file lists. -/
theorem Settled.addPageAt (hwf : s.WellFormed) (hst : Settled fetch s₀ page done s) {i : Nat}
    (hi : s.fileOf? u = some i) : Settled fetch s₀ page (done ++ [u]) (s.addPageAt i page) := by
  obtain ⟨g, hg, hug⟩ := exists_of_fileOf? hi
  have hold := hst.done_or_not_new (List.mem_of_getElem? hg) hug
  rw [addPageAt_eq_map hwf.urls_nodup hi]
  constructor
  · exact hst.discovered_eq
  · exact hst.failed_iff_append hold
  · intro t
    rw [exists_text_map (fun f => by split <;> rfl)]
    exact hst.text_iff_append hold t
  · exact List.forall_mem_map_ite (fun f hf _ => hst.urls_iff_append hold hf)
      fun f hf _ => hst.urls_iff_append hold (f := f) hf
  · refine List.forall_mem_map_ite (fun f hf hu => ?_) fun f hf hu p => ?_
    · exact pages_iff_of_not_mem (hst.pages_iff f hf) hu
    · simpa using mem_appendNew_page_iff (hst.pages_iff f hf) (fun _ hv => hv) hu p
  · refine List.forall_mem_append.2 ⟨fun v hv => ?_, List.forall_mem_singleton.2
      (.inr ⟨_, List.mem_map_of_mem (List.mem_of_getElem? hg), by simp [hug]⟩)⟩
    rcases hst.settled v hv with h | ⟨f, hf, hvf⟩
    · exact .inl h
    · refine .inr ⟨_, List.mem_map_of_mem hf, ?_⟩
      split <;> simpa using hvf

/-- Adding a new url that fails. -/
theorem Settled.fail (hst : Settled fetch s₀ page done s) (hf : s.failureOf u = none)
    (hi : s.fileOf? u = none) {c : Failure} (hc : s₀.Fails fetch u c) :
    Settled fetch s₀ page (done ++ [u]) (s.fail u c) where
  discovered_eq := by
    rw [fail_of_failureOf_eq_none hf]
    exact hst.discovered_eq
  failed_iff := by
    rw [fail_of_failureOf_eq_none hf]
    rintro ⟨v, c'⟩
    simp only [List.mem_append, List.mem_singleton, hst.failed_iff, Prod.mk.injEq]
    constructor
    · rintro ((h | ⟨hv, h⟩) | ⟨rfl, rfl⟩)
      · exact .inl h
      · exact .inr ⟨.inl hv, h⟩
      · exact .inr ⟨.inr rfl, c, hc, rfl⟩
    · rintro (h | ⟨hv | rfl, h⟩)
      · exact .inl (.inl h)
      · exact .inl (.inr ⟨hv, h⟩)
      · -- the url fails for one cause only
        obtain ⟨c'', hc'', rfl⟩ := h
        exact .inr ⟨rfl, by rw [hc.unique hc'']⟩
  text_iff t := by
    rw [fail_files, exists_mem_append_iff (P := fun v => s₀.Joins fetch v t) (.inr hc.not_joins)]
    exact hst.text_iff t
  urls_iff f hf' v := by
    rw [fail_files] at hf'
    rw [and_mem_append_iff (P := fun v => s₀.Joins fetch v f.text) (.inr hc.not_joins)]
    exact hst.urls_iff f hf' v
  pages_iff f hf' := by
    rw [fail_files] at hf'
    exact pages_iff_of_not_mem (hst.pages_iff f hf') (fileOf?_eq_none_iff.1 hi f hf')
  settled v hv := by
    rw [fail_files, isSome_failureOf_fail]
    rcases List.mem_append.1 hv with hv | hv
    · exact (hst.settled v hv).imp_left .inl
    · exact .inl (.inr (List.mem_singleton.1 hv))

/-- Adding a new url whose text a file holds. -/
theorem Settled.addUrlAt (hwf : s.WellFormed) (hst : Settled fetch s₀ page done s)
    {text : String} {i : Nat} (hf : s.failureOf u = none) (hi : s.fileOf? u = none)
    (hd : s.files.findIdx? (·.text == text) = some i) (hj : s₀.Joins fetch u text) :
    Settled fetch s₀ page (done ++ [u]) ((s.addUrlAt i u).addPageAt i page) := by
  have hnot := fileOf?_eq_none_iff.1 hi
  obtain ⟨g, hg, hgt⟩ := exists_of_findIdx?_text hd
  rw [addUrlAt_addPageAt_eq_map hwf.texts_nodup hd]
  constructor
  · exact hst.discovered_eq
  · intro x
    rw [and_mem_append_iff (P := fun v => ∃ c, s₀.Fails fetch v c ∧ x.2 = .fetchFailed v c)
      (.inr fun hc => hc.elim fun _ hc => hc.1.not_joins hj)]
    exact hst.failed_iff x
  · intro t
    rw [exists_text_map (fun f => by split <;> rfl), hst.text_iff]
    simp only [List.mem_append, List.mem_singleton, or_and_right, exists_or, exists_eq_left]
    -- the new url joins a text the store has already
    refine ⟨fun h => h.imp_right .inl, fun h => h.elim .inl fun h => h.elim .inr fun hjt => ?_⟩
    rw [← hj.text_eq hjt, ← hgt]
    exact (hst.text_iff _).1 ⟨g, List.mem_of_getElem? hg, rfl⟩
  · refine List.forall_mem_map_ite (fun f hf' hft v => ?_) fun f hf' hft v => ?_
    · rw [and_mem_append_iff (P := fun v => s₀.Joins fetch v f.text)
        (.inr fun h => hft (h.text_eq hj))]
      exact hst.urls_iff f hf' v
    · simp only [SheetFile.withPage_urls, SheetFile.withUrl_urls, SheetFile.withPage_text,
        SheetFile.withUrl_text, mem_appendNew, hst.urls_iff f hf' v, List.mem_append,
        List.mem_singleton]
      constructor
      · rintro ((h | ⟨hv, hJ⟩) | rfl)
        · exact .inl h
        · exact .inr ⟨.inl hv, hJ⟩
        · exact .inr ⟨.inr rfl, hft ▸ hj⟩
      · rintro (h | ⟨hv | rfl, hJ⟩)
        · exact .inl (.inl h)
        · exact .inl (.inr ⟨hv, hJ⟩)
        · exact .inr rfl
  · refine List.forall_mem_map_ite (fun f hf' _ => ?_) fun f hf' _ p => ?_
    · exact pages_iff_of_not_mem (hst.pages_iff f hf') (hnot f hf')
    · simpa using mem_appendNew_page_iff (hst.pages_iff f hf')
        (fun v hv => mem_appendNew.2 (.inl hv)) (mem_appendNew.2 (.inr rfl)) p
  · refine List.forall_mem_append.2 ⟨fun v hv => ?_, List.forall_mem_singleton.2
      (.inr ⟨_, List.mem_map_of_mem (List.mem_of_getElem? hg), by simp [hgt, mem_appendNew]⟩)⟩
    rcases hst.settled v hv with h | ⟨f, hf', hvf⟩
    · exact .inl h
    · refine .inr ⟨_, List.mem_map_of_mem hf', ?_⟩
      split <;> simp [mem_appendNew, hvf]

/-- Adding a new url whose text is new, read into a new file. -/
theorem Settled.withFile (hst : Settled fetch s₀ page done s) {text : String}
    {sheet : StyleSheet} (hf : s.failureOf u = none) (hi : s.fileOf? u = none)
    (hd : s.files.findIdx? (·.text == text) = none) (hj : s₀.Joins fetch u text) :
    Settled fetch s₀ page (done ++ [u]) (s.withFile u text sheet page) := by
  have hnot := fileOf?_eq_none_iff.1 hi
  have hnew := findIdx?_text_eq_none_iff.1 hd
  -- neither the first store nor an added url brought the text before
  have hfirst : ¬ ((∃ g ∈ s₀.files, g.text = text) ∨ ∃ v ∈ done, s₀.Joins fetch v text) :=
    fun h => by
      obtain ⟨f, hf', hft⟩ := (hst.text_iff text).2 h
      exact hnew f hf' hft
  constructor
  · exact hst.discovered_eq
  · intro x
    rw [and_mem_append_iff (P := fun v => ∃ c, s₀.Fails fetch v c ∧ x.2 = .fetchFailed v c)
      (.inr fun hc => hc.elim fun _ hc => hc.1.not_joins hj)]
    exact hst.failed_iff x
  · intro t
    simp only [Store.withFile, List.mem_append, List.mem_singleton, or_and_right, exists_or,
      exists_eq_left, hst.text_iff]
    exact or_assoc.trans (or_congr_right (or_congr_right
      ⟨fun h => h ▸ hj, fun h => hj.text_eq h⟩))
  · refine List.forall_mem_append.2 ⟨fun f hf' v => ?_, List.forall_mem_singleton.2 fun v => ?_⟩
    · rw [and_mem_append_iff (P := fun v => s₀.Joins fetch v f.text)
        (.inr fun h => hnew f hf' (hj.text_eq h).symm)]
      exact hst.urls_iff f hf' v
    · simp only [List.mem_singleton, List.mem_append]
      constructor
      · rintro rfl
        exact .inr ⟨.inr rfl, hj⟩
      · rintro (⟨g, hg, hgt, -⟩ | ⟨hv | rfl, hJ⟩)
        · exact absurd (.inl ⟨g, hg, hgt⟩) hfirst
        · exact absurd (.inr ⟨v, hv, hJ⟩) hfirst
        · rfl
  · refine List.forall_mem_append.2 ⟨fun f hf' => pages_iff_of_not_mem (hst.pages_iff f hf')
      (hnot f hf'), List.forall_mem_singleton.2 fun p => ?_⟩
    simp only [List.mem_singleton, List.mem_append]
    constructor
    · rintro rfl
      exact .inr ⟨rfl, u, .inr rfl, rfl⟩
    · rintro (⟨g, hg, hgt, -⟩ | ⟨rfl, -⟩)
      · exact absurd (.inl ⟨g, hg, hgt⟩) hfirst
      · rfl
  · exact List.forall_mem_append.2 ⟨fun v hv => (hst.settled v hv).imp_right fun h =>
      h.elim fun f hf' => ⟨f, List.mem_append_left _ hf'.1, hf'.2⟩,
      List.forall_mem_singleton.2 (.inr ⟨_, List.mem_append_right _ (List.mem_singleton_self _),
        List.mem_singleton_self _⟩)⟩

/-- A text that no file has is no text of the first store either. -/
theorem Settled.not_text_of_init (hst : Settled fetch s₀ page done s) {text : String}
    (hd : s.files.findIdx? (·.text == text) = none) : ∀ g ∈ s₀.files, g.text ≠ text := by
  intro g hg hgt
  obtain ⟨f, hf, hft⟩ := hst.exists_text_of_init hg
  exact findIdx?_text_eq_none_iff.1 hd f hf (hft.trans hgt)

/-- A new url whose text a file holds joins that file: the text is one of the first store, or
was brought by an added url, and then the clause on refused bases makes the new url a base. -/
theorem Settled.joins_of_findIdx? (hst : Settled fetch s₀ page done s) {text : String} {i : Nat}
    (hf : s.failureOf u = none) (hi : s.fileOf? u = none) (ht : fetch u = .ok text)
    (hd : s.files.findIdx? (·.text == text) = some i)
    (hbase : ∀ v ∈ done, ∀ e, fetch v = .ok text → Url.parse u = .error e → u = v) :
    s₀.Joins fetch u text := by
  have hnew := hst.isNew hf hi
  obtain ⟨f, hf', hft⟩ := exists_of_findIdx?_text hd
  rcases (hst.text_iff text).1 ⟨f, List.mem_of_getElem? hf', hft⟩ with hg | ⟨v, hv, hjv⟩
  · exact ⟨hnew, ht, .inl hg⟩
  rcases hjv.2.2 with hg | ⟨sheet, -, hp, -⟩
  · exact ⟨hnew, ht, .inl hg⟩
  cases hparse : Url.parse u with
  | error e =>
    exact absurd (hbase v hv e hjv.2.1 hparse ▸ hv) (hst.not_mem_done hf hi)
  | ok b =>
    obtain ⟨sheet', hb⟩ := StyleSheet.absolutifyUrls_ok_iff.2 ⟨b, hparse⟩
    exact ⟨hnew, ht, .inr ⟨sheet, sheet', hp, hb⟩⟩

/-- Each of the seven things an addition does keeps the description, when a url refused as a
base shares its text with no url added before it. -/
theorem Settled.adds (hwf : s.WellFormed) (hst : Settled fetch s₀ page done s)
    (hbase : ∀ v ∈ done, ∀ text e, fetch u = .ok text → fetch v = .ok text →
      Url.parse u = .error e → u = v)
    {s' : Store} (h : Adds fetch s page u s') : Settled fetch s₀ page (done ++ [u]) s' := by
  cases h with
  | failed hf => exact hst.of_failed hwf hf
  | known _ hi => exact hst.addPageAt hwf hi
  | unfetched hf hi he => exact hst.fail hf hi ⟨hst.isNew hf hi, .inl he⟩
  | duplicate hf hi ht hd =>
    exact hst.addUrlAt hwf hf hi hd
      (hst.joins_of_findIdx? hf hi ht hd fun v hv e => hbase v hv _ e ht)
  | unparsable hf hi ht hd hp =>
    exact hst.fail hf hi
      ⟨hst.isNew hf hi, .inr ⟨_, ht, hst.not_text_of_init hd, .inl ⟨_, hp, rfl⟩⟩⟩
  | badBase hf hi ht hd hp hb =>
    exact hst.fail hf hi
      ⟨hst.isNew hf hi, .inr ⟨_, ht, hst.not_text_of_init hd, .inr ⟨_, _, hp, hb, rfl⟩⟩⟩
  | fresh hf hi ht hd hp hb => exact hst.withFile hf hi hd ⟨hst.isNew hf hi, ht, .inr ⟨_, _, hp, hb⟩⟩

/-- A chain of additions of urls of a batch keeps the description, when a url of the batch refused
as a base shares its text with no other url of the batch. -/
theorem Settled.addsAll {urls : List String}
    (hbase : ∀ u ∈ urls, ∀ v ∈ urls, ∀ text e, fetch u = .ok text → fetch v = .ok text →
      Url.parse u = .error e → u = v)
    (hdisc : ∀ u ∈ urls, u ∈ s₀.discovered) {s s' : Store} {order : List String}
    (h : AddsAll fetch page s order s') (hwf : s.WellFormed) (hst : Settled fetch s₀ page done s)
    (hurls : ∀ u ∈ done ++ order, u ∈ urls) :
    s'.WellFormed ∧ Settled fetch s₀ page (done ++ order) s' := by
  induction h generalizing done with
  | nil => simpa using ⟨hwf, hst⟩
  | @cons s _ _ url rest head _ ih =>
    have hu : url ∈ urls := hurls url (by simp)
    -- the batch reserved its urls up front, so reserving again changes nothing
    have hdisc' : url ∈ s.discovered := hst.discovered_eq ▸ hdisc url hu
    rw [reserve_eq_self hdisc'] at head
    have hst₁ := hst.adds hwf
      (fun v hv text e => hbase url hu v (hurls v (List.mem_append_left _ hv)) text e) head
    simpa using ih (hwf.adds hdisc' head) hst₁ (by simpa using hurls)

end Settled

section Agree

variable {s₀ r₁ r₂ : Store} {page : String} {d₁ d₂ : List String}

/-- Two stores described by the same urls have the same failures. -/
theorem Settled.failed_iff_failed (h₁ : Settled fetch s₀ page d₁ r₁)
    (h₂ : Settled fetch s₀ page d₂ r₂) (hd : ∀ u, u ∈ d₁ ↔ u ∈ d₂) (x : String × Failure) :
    x ∈ r₁.failed ↔ x ∈ r₂.failed := by
  rw [h₁.failed_iff, h₂.failed_iff, hd]

/-- Two stores described by the same urls have files of the same texts. -/
theorem Settled.exists_text_iff (h₁ : Settled fetch s₀ page d₁ r₁)
    (h₂ : Settled fetch s₀ page d₂ r₂) (hd : ∀ u, u ∈ d₁ ↔ u ∈ d₂) (t : String) :
    (∃ f ∈ r₁.files, f.text = t) ↔ ∃ f ∈ r₂.files, f.text = t := by
  rw [h₁.text_iff, h₂.text_iff]
  simp only [hd]

/-- In two stores described by the same urls, files of one text list the same urls. -/
theorem Settled.urls_iff_urls (h₁ : Settled fetch s₀ page d₁ r₁)
    (h₂ : Settled fetch s₀ page d₂ r₂) (hd : ∀ u, u ∈ d₁ ↔ u ∈ d₂) {f₁ f₂ : SheetFile}
    (hf₁ : f₁ ∈ r₁.files) (hf₂ : f₂ ∈ r₂.files) (ht : f₁.text = f₂.text) (u : String) :
    u ∈ f₁.urls ↔ u ∈ f₂.urls := by
  rw [h₁.urls_iff f₁ hf₁, h₂.urls_iff f₂ hf₂, ht, hd]

/-- In two stores described by the same urls, files of one text have the same pages. -/
theorem Settled.pages_iff_pages (h₁ : Settled fetch s₀ page d₁ r₁)
    (h₂ : Settled fetch s₀ page d₂ r₂) (hd : ∀ u, u ∈ d₁ ↔ u ∈ d₂) {f₁ f₂ : SheetFile}
    (hf₁ : f₁ ∈ r₁.files) (hf₂ : f₂ ∈ r₂.files) (ht : f₁.text = f₂.text) (p : String) :
    p ∈ f₁.pages ↔ p ∈ f₂.pages := by
  rw [h₁.pages_iff f₁ hf₁, h₂.pages_iff f₂ hf₂, ht]
  exact or_congr_right (and_congr_right fun _ =>
    exists_congr fun u => and_congr (hd u) (h₁.urls_iff_urls h₂ hd hf₁ hf₂ ht u))

/-- In two well formed stores described by the same urls, files of one text have one position:
the earliest discovery of the same urls. -/
theorem Settled.order_eq_order (h₁ : Settled fetch s₀ page d₁ r₁)
    (h₂ : Settled fetch s₀ page d₂ r₂) (hd : ∀ u, u ∈ d₁ ↔ u ∈ d₂) (hwf₁ : r₁.WellFormed)
    (hwf₂ : r₂.WellFormed) {f₁ f₂ : SheetFile} (hf₁ : f₁ ∈ r₁.files) (hf₂ : f₂ ∈ r₂.files)
    (ht : f₁.text = f₂.text) : f₁.order = f₂.order := by
  have horder : ∀ u, r₁.orderOf u = r₂.orderOf u := fun u => by
    simp only [orderOf, h₁.discovered_eq, h₂.discovered_eq]
  have hmem : ∀ n, n ∈ f₁.urls.map r₁.orderOf ↔ n ∈ f₂.urls.map r₂.orderOf := fun n => by
    simp only [List.mem_map, horder, h₁.urls_iff_urls h₂ hd hf₁ hf₂ ht]
  have hmin := List.min?_eq_of_mem_iff hmem
  rw [hwf₁.order_eq f₁ hf₁, hwf₂.order_eq f₂ hf₂] at hmin
  exact Option.some.inj hmin

end Agree

/-- Two well formed stores whose files have the same positions with the same texts list the
texts in the same order. -/
theorem sorted_texts_eq {r₁ r₂ : Store} (hwf₁ : r₁.WellFormed) (hwf₂ : r₂.WellFormed)
    (h : ∀ n t, (∃ f ∈ r₁.files, f.order = n ∧ f.text = t) ↔
      ∃ f ∈ r₂.files, f.order = n ∧ f.text = t) :
    r₁.sorted.map (·.text) = r₂.sorted.map (·.text) := by
  -- the files in order are sorted strictly by position, so their positions and texts are
  -- listed in the one order of the positions
  have hsorted : ∀ r : Store, r.WellFormed →
      (r.sorted.map fun f => (f.order, f.text)).Pairwise (fun a b => a.1 < b.1) := by
    intro r hwf
    have := hwf.sorted_order
    rw [List.pairwise_map] at this ⊢
    exact this
  have : Std.Irrefl (fun a b : Nat × String => a.1 < b.1) := ⟨fun a => Nat.lt_irrefl a.1⟩
  have hkeys := List.Pairwise.eq_of_mem_iff (hsorted r₁ hwf₁) (hsorted r₂ hwf₂) fun k => by
    obtain ⟨n, t⟩ := k
    simp only [List.mem_map, Prod.mk.injEq, (sorted_perm _).mem_iff]
    exact h n t
  have htexts := congrArg (List.map Prod.snd) hkeys
  rw [List.map_map, List.map_map] at htexts
  exact htexts

theorem WellFormed.foldl_reserve {s : Store} (hwf : s.WellFormed) (urls : List String) :
    (urls.foldl Store.reserve s).WellFormed := by
  induction urls generalizing s with
  | nil => exact hwf
  | cons u us ih => exact ih (hwf.reserve u)

theorem mem_discovered_foldl_reserve {u : String} :
    ∀ {urls : List String} {s : Store},
      u ∈ (urls.foldl reserve s).discovered ↔ u ∈ s.discovered ∨ u ∈ urls
  | [], _ => by simp
  | v :: us, s => by
    rw [List.foldl_cons, mem_discovered_foldl_reserve, discovered_reserve, mem_appendNew,
      List.mem_cons, or_assoc]

section Orders

variable {note : Event → Id Unit}

/-- **The outcome of a batch does not depend on the order its additions finish in.** From a well
formed store, with a fetcher that answers by its argument and never reports a cancellation, any
two orders of the additions of a page's stylesheets succeed and give the same files in order by
text, with the same urls and pages for each file, the same failed urls and the same errors,
provided a url of the batch that the url parser refuses as a base shares its fetched text with
no other url of the batch. -/
theorem addAllIn_outcome_perm (hc : ∀ u, fetch u ≠ .error .canceled) {s : Store}
    (hwf : s.WellFormed) (page : String) {urls order₁ order₂ : List String}
    (hbase : ∀ u ∈ urls, ∀ v ∈ urls, ∀ text e, fetch u = .ok text → fetch v = .ok text →
      Url.parse u = .error e → u = v)
    (h₁ : order₁.Perm urls) (h₂ : order₂.Perm urls) :
    ∃ r₁ r₂, (s.addAllIn fetch note page urls order₁ : Id _) = .ok r₁ ∧
      (s.addAllIn fetch note page urls order₂ : Id _) = .ok r₂ ∧
      r₁.sorted.map (·.text) = r₂.sorted.map (·.text) ∧
      (∀ f₁ ∈ r₁.files, ∀ f₂ ∈ r₂.files, f₁.text = f₂.text →
        (∀ u, u ∈ f₁.urls ↔ u ∈ f₂.urls) ∧ ∀ p, p ∈ f₁.pages ↔ p ∈ f₂.pages) ∧
      (∀ u, (r₁.failureOf u).isSome ↔ (r₂.failureOf u).isSome) ∧
      ∀ e, e ∈ r₁.errors ↔ e ∈ r₂.errors := by
  have hwf₀ := hwf.foldl_reserve urls
  -- every order ends described by the whole batch
  have hrun : ∀ order : List String, order.Perm urls → ∃ r,
      (s.addAllIn fetch note page urls order : Id _) = .ok r ∧ r.WellFormed ∧
        Settled fetch (urls.foldl reserve s) page order r := by
    intro order hperm
    obtain ⟨r, hr, hall⟩ := addAllIn_ok hc s page urls order
    obtain ⟨hwf', hst⟩ := Settled.addsAll hbase (fun _ hu => mem_discovered_foldl_reserve.2 (.inr hu))
      hall hwf₀ (settled_init hwf₀ page) (by simpa using fun _ hu => hperm.subset hu)
    exact ⟨r, hr, hwf', by simpa using hst⟩
  obtain ⟨r₁, hr₁, hwf₁, hst₁⟩ := hrun order₁ h₁
  obtain ⟨r₂, hr₂, hwf₂, hst₂⟩ := hrun order₂ h₂
  have hd : ∀ u, u ∈ order₁ ↔ u ∈ order₂ := fun u => h₁.mem_iff.trans h₂.mem_iff.symm
  -- a file of one store has a file of its text in the other
  have hmatch : ∀ f₁ ∈ r₁.files, ∃ f₂ ∈ r₂.files, f₂.text = f₁.text := fun f₁ hf₁ =>
    (hst₁.exists_text_iff hst₂ hd f₁.text).1 ⟨f₁, hf₁, rfl⟩
  have hfailed := hst₁.failed_iff_failed hst₂ hd
  refine ⟨r₁, r₂, hr₁, hr₂, sorted_texts_eq hwf₁ hwf₂ fun n t => ⟨?_, ?_⟩,
    fun f₁ hf₁ f₂ hf₂ ht => ⟨hst₁.urls_iff_urls hst₂ hd hf₁ hf₂ ht,
      hst₁.pages_iff_pages hst₂ hd hf₁ hf₂ ht⟩, fun u => ?_, fun e => ?_⟩
  · rintro ⟨f₁, hf₁, rfl, rfl⟩
    obtain ⟨f₂, hf₂, ht⟩ := hmatch f₁ hf₁
    exact ⟨f₂, hf₂, (hst₁.order_eq_order hst₂ hd hwf₁ hwf₂ hf₁ hf₂ ht.symm).symm, ht⟩
  · rintro ⟨f₂, hf₂, rfl, rfl⟩
    obtain ⟨f₁, hf₁, ht⟩ := (hst₁.exists_text_iff hst₂ hd f₂.text).2 ⟨f₂, hf₂, rfl⟩
    exact ⟨f₁, hf₁, hst₁.order_eq_order hst₂ hd hwf₁ hwf₂ hf₁ hf₂ ht, ht⟩
  · simp only [isSome_failureOf_iff, List.mem_map, hfailed]
  · simp only [hwf₁.errors_eq, hwf₂.errors_eq, List.mem_map, hfailed]

/-- Three stylesheets of a page added in two orders, two of them with one text and one missing. -/
theorem addAllIn_outcome_perm_site :
    (∀ u, siteSheets u ≠ .error .canceled) ∧
    (∀ u ∈ ["gone.css", "b.css", "a.css"], ∀ v ∈ ["gone.css", "b.css", "a.css"], ∀ text e,
      siteSheets u = .ok text → siteSheets v = .ok text → Url.parse u = .error e → u = v) ∧
    ∃ r₁ r₂,
      (({} : Store).addAllIn siteSheets (fun _ => pure ()) "q" ["gone.css", "b.css", "a.css"]
        ["gone.css", "b.css", "a.css"] : Id _) = .ok r₁ ∧
      (({} : Store).addAllIn siteSheets (fun _ => pure ()) "q" ["gone.css", "b.css", "a.css"]
        ["a.css", "b.css", "gone.css"] : Id _) = .ok r₂ ∧
      r₁.sorted.map (·.text) = r₂.sorted.map (·.text) ∧
      (∀ f₁ ∈ r₁.files, ∀ f₂ ∈ r₂.files, f₁.text = f₂.text →
        (∀ u, u ∈ f₁.urls ↔ u ∈ f₂.urls) ∧ ∀ p, p ∈ f₁.pages ↔ p ∈ f₂.pages) ∧
      (∀ u, (r₁.failureOf u).isSome ↔ (r₂.failureOf u).isSome) ∧
      ∀ e, e ∈ r₁.errors ↔ e ∈ r₂.errors := by
  -- both urls that bring a text are urls the parser accepts
  have ha : (Url.parse "a.css").toBool = true := by decide +kernel
  have hb : (Url.parse "b.css").toBool = true := by decide +kernel
  have hbase : ∀ u ∈ ["gone.css", "b.css", "a.css"], ∀ v ∈ ["gone.css", "b.css", "a.css"],
      ∀ text e, siteSheets u = .ok text → siteSheets v = .ok text → Url.parse u = .error e →
        u = v := by
    intro u hu v _ text e hfetch _ hparse
    simp only [List.mem_cons, List.not_mem_nil, or_false] at hu
    rcases hu with rfl | rfl | rfl
    · simp [siteSheets] at hfetch
    · rw [hparse] at hb
      cases hb
    · rw [hparse] at ha
      cases ha
  exact ⟨siteSheets_ne_canceled, hbase, addAllIn_outcome_perm siteSheets_ne_canceled
    wellFormed_empty "q" hbase (List.Perm.refl _) (by decide)⟩

/-- Every url of a site brings the same text. -/
def sameSheets (_ : String) : Id (Except Failure String) := .ok ".a{color:red}"

/-- **The order can decide a failure.** A url that the url parser refuses as a base and a valid
url bring one text: when the refused url finishes first its text is refused and it fails; when
it finishes second it joins the file of the other, and does not fail. -/
theorem addAllIn_order_decides_failure :
    ∃ r₁ r₂,
      (({} : Store).addAllIn sameSheets (fun _ => pure ()) "p" ["http://[::1", "https://s.test/b.css"]
        ["http://[::1", "https://s.test/b.css"] : Id _) = .ok r₁ ∧
      (({} : Store).addAllIn sameSheets (fun _ => pure ()) "p" ["http://[::1", "https://s.test/b.css"]
        ["https://s.test/b.css", "http://[::1"] : Id _) = .ok r₂ ∧
      (r₁.failureOf "http://[::1").isSome ∧ r₂.failureOf "http://[::1" = none := by
  have hc : ∀ u, sameSheets u ≠ .error .canceled := fun u h => by cases h
  obtain ⟨r₁, hr₁, -⟩ := @addAllIn_ok sameSheets (fun _ => pure ()) hc {} "p"
    ["http://[::1", "https://s.test/b.css"] ["http://[::1", "https://s.test/b.css"]
  obtain ⟨r₂, hr₂, -⟩ := @addAllIn_ok sameSheets (fun _ => pure ()) hc {} "p"
    ["http://[::1", "https://s.test/b.css"] ["https://s.test/b.css", "http://[::1"]
  have h₁ : ((({} : Store).addAllIn sameSheets (fun _ => pure ()) "p"
      ["http://[::1", "https://s.test/b.css"] ["http://[::1", "https://s.test/b.css"] : Id _).toOption.map
        fun r => (r.failureOf "http://[::1").isSome) = some true := by
    decide +kernel
  have h₂ : ((({} : Store).addAllIn sameSheets (fun _ => pure ()) "p"
      ["http://[::1", "https://s.test/b.css"] ["https://s.test/b.css", "http://[::1"] : Id _).toOption.map
        fun r => (r.failureOf "http://[::1").isSome) = some false := by
    decide +kernel
  rw [hr₁] at h₁
  rw [hr₂] at h₂
  exact ⟨r₁, r₂, hr₁, hr₂, Option.some.inj h₁, by simpa using Option.some.inj h₂⟩

end Orders

end Store

end CriticalCss.Generate
