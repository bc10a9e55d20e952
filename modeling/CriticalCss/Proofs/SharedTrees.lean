import CriticalCss.Proofs.UrlRewrite
import CriticalCss.Proofs.SelectorPages

/-!
# One tree for every url of a text

The store reads a text once: the url that first brings it makes the file, its tree is the text
parsed with its references made absolute against that url, and every later url with the same
text joins the file without being read again. So the tree of a file is right for its first url
and, for any other url, exactly as far as the two agree on the references of the text.

## The statement, and what it gives up

`Store.runCalls_trees_absolute`: after any calls on a fresh store, every file's tree is its text
parsed and made absolute against the first of its urls; for any other of its urls, that the url
parser accepts and that resolves every url reference of the text's values and `@import`
preludes as the first one does, it is the text made absolute against that url too.

The clause on references cannot go. Two urls in different directories that bring one text with
a relative reference share the tree made against the first, which points into the first
directory (`runCalls_tree_points_into_first_directory`).

## Main definitions

* `Item.referenceText`: the text of an item whose references are made absolute.
* `Store.TreesAbsolute`: every file's tree is its text made absolute against its first url.

## Main results

* `replaceUrls_congr`, `mapReferences_congr`: rewriting depends only on how the references
  found resolve.
* `Store.TreesAbsolute.adds`: every addition keeps the trees absolute.
* `Store.runCalls_trees_absolute`: the tree of each file, for each of its urls.
-/

namespace CriticalCss.Css

open CriticalCss.Url

/-- The text of an item whose url references are made absolute: a declaration's value or an
`@import` prelude. -/
def Item.referenceText : Item → Option String
  | .declaration d => some d.value
  | .atRule name prelude _ _ => if name = "import" then some prelude else none
  | _ => none

/-- Rewriting a text depends only on how the references found in it resolve. -/
theorem replaceUrls_congr {text : String} {r₁ r₂ : String → String}
    (h : ∀ t ∈ urlReferences text, r₁ t = r₂ t) : replaceUrls text r₁ = replaceUrls text r₂ := by
  apply String.toList_inj.1
  rw [replaceUrls_eq_of_scan, replaceUrls_eq_of_scan]
  congr 1
  refine List.flatMap_congr fun p hp => ?_
  have hr : r₁ p.2.2 = r₂ p.2.2 := h _ (List.mem_map_of_mem hp)
  simp only [urlReplacement, hr]

section Congr

variable {g₁ g₂ : String → String}

mutual

theorem Item.mapReferences_congr (it : Item)
    (h : ∀ x ∈ it.nodes, ∀ t ∈ x.referenceText, g₁ t = g₂ t) :
    it.mapReferences g₁ = it.mapReferences g₂ := by
  have hitems : ∀ x ∈ itemsNodes it.children, ∀ t ∈ x.referenceText, g₁ t = g₂ t :=
    fun x hx => h x (Item.nodes_children_subset hx)
  have hself : ∀ t ∈ it.referenceText, g₁ t = g₂ t := h it (by simp [Item.nodes_eq])
  cases it with
  | rule sels items =>
    simp only [Item.mapReferences, mapReferences_congr items hitems]
  | atRule name prelude block items =>
    simp only [Item.mapReferences, mapReferences_congr items hitems]
    by_cases hn : name = "import"
    · simp only [Item.referenceText, hn, if_true, Option.mem_def, Option.some.injEq,
        forall_eq'] at hself
      simp [hn, hself]
    · simp [hn]
  | declaration d =>
    simp only [Item.referenceText, Option.mem_def, Option.some.injEq, forall_eq'] at hself
    simp only [Item.mapReferences, hself]
  | comment text => rfl
termination_by structural it

/-- Mapping the values and preludes of a tree depends only on the map at those texts. -/
theorem mapReferences_congr (items : List Item)
    (h : ∀ x ∈ itemsNodes items, ∀ t ∈ x.referenceText, g₁ t = g₂ t) :
    mapReferences g₁ items = mapReferences g₂ items := by
  cases items with
  | nil => rfl
  | cons it rest =>
    simp only [mapReferences,
      Item.mapReferences_congr it fun x hx => h x (itemsNodes_first_subset hx),
      mapReferences_congr rest fun x hx => h x (itemsNodes_rest_subset hx)]
termination_by structural items

end

end Congr

/-- Two bases that resolve every reference of a sheet alike make the same sheet of it. -/
theorem StyleSheet.absolutifyUrls_congr {s : StyleSheet} {base base' : String} {b b' : Url}
    (hb : Url.parse base = .ok b) (hb' : Url.parse base' = .ok b')
    (h : ∀ x ∈ itemsNodes s.items, ∀ t ∈ x.referenceText, ∀ r ∈ urlReferences t,
      absoluteReference b' r = absoluteReference b r) :
    s.absolutifyUrls base' = s.absolutifyUrls base := by
  simp only [StyleSheet.absolutifyUrls, hb, hb', filterItems_absolutifyItem]
  rw [mapReferences_congr _ fun x hx t ht => replaceUrls_congr (h x hx t ht)]

/-- Making references absolute succeeds only against a base the url parser accepts. -/
theorem StyleSheet.exists_parse_of_absolutifyUrls {s s' : StyleSheet} {base : String}
    (h : s.absolutifyUrls base = .ok s') : ∃ b, Url.parse base = .ok b := by
  unfold StyleSheet.absolutifyUrls at h
  split at h
  · cases h
  · exact ⟨_, ‹_›⟩

end CriticalCss.Css

namespace CriticalCss.Generate

open CriticalCss.Css
open CriticalCss.Url

variable {fetch : String → Id (Except Failure String)}

/-- A member of a list with one element changed is a member of the list or the changed one. -/
theorem List.mem_modify_cases {α : Type} {l : List α} {i : Nat} {g : α → α} {x : α}
    (h : x ∈ l.modify i g) : x ∈ l ∨ ∃ y ∈ l, x = g y := by
  obtain ⟨j, hj⟩ := List.mem_iff_getElem?.1 h
  rw [List.getElem?_modify] at hj
  cases hy : l[j]? with
  | none => simp [hy] at hj
  | some y =>
    have hy' := List.mem_of_getElem? hy
    by_cases hij : i = j
    · simp only [hy, hij, if_true, Option.map_eq_map, Option.map_some, Option.some.injEq] at hj
      exact .inr ⟨y, hy', hj.symm⟩
    · simp only [hy, hij, if_false, Option.map_eq_map, Option.map_some, Option.some.injEq] at hj
      exact .inl (hj ▸ hy')

theorem appendNew_cons {α : Type} [BEq α] (a : α) (l : List α) (x : α) :
    ∃ rest, appendNew (a :: l) x = a :: rest := by
  unfold appendNew
  split
  · exact ⟨l, rfl⟩
  · exact ⟨l ++ [x], rfl⟩

namespace Store

/-- Every file's tree is its text parsed and made absolute against the first of its urls. -/
def TreesAbsolute (s : Store) : Prop :=
  ∀ f ∈ s.files, ∃ first rest sheet, f.urls = first :: rest ∧
    StyleSheet.parse f.text = .ok sheet ∧ sheet.absolutifyUrls first = .ok f.sheet

section Additions

variable {s : Store}

/-- Changing one file in a way that keeps its text, its tree and its first url keeps the trees
absolute. -/
theorem TreesAbsolute.modifyFile (h : s.TreesAbsolute) (i : Nat) {g : SheetFile → SheetFile}
    (hg : ∀ f first rest, f.urls = first :: rest →
      (g f).text = f.text ∧ (g f).sheet = f.sheet ∧ ∃ rest', (g f).urls = first :: rest') :
    (s.modifyFile i g).TreesAbsolute := by
  intro f hf
  rcases List.mem_modify_cases hf with hf | ⟨f₀, hf₀, rfl⟩
  · exact h f hf
  · obtain ⟨first, rest, sheet, hurls, hparse, habs⟩ := h f₀ hf₀
    obtain ⟨htext, hsheet, rest', hurls'⟩ := hg f₀ first rest hurls
    exact ⟨first, rest', sheet, hurls', htext ▸ hparse, hsheet ▸ habs⟩

theorem TreesAbsolute.addPageAt (h : s.TreesAbsolute) (i : Nat) (page : String) :
    (s.addPageAt i page).TreesAbsolute :=
  h.modifyFile i fun _ _ rest hurls => ⟨rfl, rfl, rest, hurls⟩

theorem TreesAbsolute.addUrlAt (h : s.TreesAbsolute) (i : Nat) (url : String) :
    (s.addUrlAt i url).TreesAbsolute :=
  h.modifyFile i fun f first rest hurls => ⟨rfl, rfl, by
    rw [hurls]
    exact appendNew_cons first rest url⟩

theorem TreesAbsolute.withFile (h : s.TreesAbsolute) {url text : String} {sheet sheet' : StyleSheet}
    (hp : StyleSheet.parse text = .ok sheet) (hb : sheet.absolutifyUrls url = .ok sheet')
    (page : String) : (s.withFile url text sheet' page).TreesAbsolute :=
  List.forall_mem_append.2 ⟨h, List.forall_mem_singleton.2 ⟨url, [], sheet, rfl, hp, hb⟩⟩

theorem TreesAbsolute.reserve (h : s.TreesAbsolute) (url : String) : (s.reserve url).TreesAbsolute :=
  fun f hf => h f (by simpa using hf)

theorem TreesAbsolute.fail (h : s.TreesAbsolute) (url : String) (c : Failure) :
    (s.fail url c).TreesAbsolute :=
  fun f hf => h f (by simpa using hf)

/-- Each of the seven things an addition does keeps the trees absolute. -/
theorem TreesAbsolute.adds (h : s.TreesAbsolute) {page url : String} {s' : Store}
    (hadds : Adds fetch s page url s') : s'.TreesAbsolute := by
  cases hadds with
  | failed => exact h
  | known => exact h.addPageAt _ page
  | unfetched => exact h.fail url _
  | duplicate => exact (h.addUrlAt _ url).addPageAt _ page
  | unparsable => exact h.fail url _
  | badBase => exact h.fail url _
  | fresh _ _ _ _ hp hb => exact h.withFile hp hb page

end Additions

/-- **The tree of a shared text.** On a fresh store, with a fetcher that answers by its argument
and never reports a cancellation, after any calls every file's tree is its text parsed and made
absolute against the first of its urls, which the url parser accepts. For every other url of the
file that the parser accepts and that resolves each url reference of the text's declaration
values and `@import` preludes to what the first url resolves it to, the tree is the text made
absolute against that url as well. -/
theorem runCalls_trees_absolute (hc : ∀ u, fetch u ≠ .error .canceled) (calls : List Call) :
    ∃ s, runCalls fetch {} calls = .ok s ∧ ∀ f ∈ s.files, ∃ first rest sheet b,
      f.urls = first :: rest ∧ Url.parse first = .ok b ∧ StyleSheet.parse f.text = .ok sheet ∧
      sheet.absolutifyUrls first = .ok f.sheet ∧
      ∀ u ∈ f.urls, ∀ b', Url.parse u = .ok b' →
        (∀ x ∈ itemsNodes sheet.items, ∀ t ∈ x.referenceText, ∀ r ∈ urlReferences t,
          absoluteReference b' r = absoluteReference b r) →
        sheet.absolutifyUrls u = .ok f.sheet := by
  obtain ⟨s, hrun, habs⟩ := runCalls_invariant (fun _ s => s.TreesAbsolute)
    (fun _ _ url h => h.reserve url) (fun _ _ _ url _ h hadds => (h.reserve url).adds hadds) hc
    calls {} [] (by simp [TreesAbsolute])
  refine ⟨s, hrun, fun f hf => ?_⟩
  obtain ⟨first, rest, sheet, hurls, hparse, hfirst⟩ := habs f hf
  obtain ⟨b, hb⟩ := StyleSheet.exists_parse_of_absolutifyUrls hfirst
  exact ⟨first, rest, sheet, b, hurls, hb, hparse, hfirst, fun u _ b' hb' hagree =>
    (StyleSheet.absolutifyUrls_congr hb hb' hagree).trans hfirst⟩

/-- A fetcher that brings one text with a relative reference from every url. -/
def relativeSheets (_ : String) : Id (Except Failure String) :=
  .ok ".a\x7bbackground:url(i.png)\x7d"

theorem relativeSheets_ne_canceled : ∀ u, relativeSheets u ≠ .error .canceled := by
  intro u h
  cases h

/-- The stylesheet at the same name in two directories, included by one page. -/
def twoDirectoryCalls : List Call :=
  [.add "p" "https://a.test/x/s.css", .add "p" "https://a.test/y/s.css"]

/-- The trees of the store after adding one text from two directories. -/
theorem runCalls_trees_absolute_twoDirectories :
    (∀ u, relativeSheets u ≠ .error .canceled) ∧
    ∃ s, runCalls relativeSheets {} twoDirectoryCalls = .ok s ∧ ∀ f ∈ s.files,
      ∃ first rest sheet b, f.urls = first :: rest ∧ Url.parse first = .ok b ∧
        StyleSheet.parse f.text = .ok sheet ∧ sheet.absolutifyUrls first = .ok f.sheet ∧
        ∀ u ∈ f.urls, ∀ b', Url.parse u = .ok b' →
          (∀ x ∈ itemsNodes sheet.items, ∀ t ∈ x.referenceText, ∀ r ∈ urlReferences t,
            absoluteReference b' r = absoluteReference b r) →
          sheet.absolutifyUrls u = .ok f.sheet :=
  ⟨relativeSheets_ne_canceled, runCalls_trees_absolute relativeSheets_ne_canceled twoDirectoryCalls⟩

/-- **A shared tree is made against the first url only.** The text brought from two directories
makes one file listing both urls, whose tree points into the first directory, while the text
made absolute against the second url points into the second. -/
theorem runCalls_tree_points_into_first_directory :
    ∃ s, runCalls relativeSheets {} twoDirectoryCalls = .ok s ∧ ∃ f ∈ s.files,
      f.urls = ["https://a.test/x/s.css", "https://a.test/y/s.css"] ∧
      f.sheet.css = ".a\x7bbackground:url(\"https://a.test/x/i.png\")\x7d" ∧
      ∀ sheet, StyleSheet.parse f.text = .ok sheet →
        (sheet.absolutifyUrls "https://a.test/y/s.css").toOption.map StyleSheet.css =
          some ".a\x7bbackground:url(\"https://a.test/y/i.png\")\x7d" := by
  have hrun : (runCalls relativeSheets {} twoDirectoryCalls).toOption.map
      (fun s => s.files.map fun f => (f.urls, f.sheet.css, f.text)) =
      some [(["https://a.test/x/s.css", "https://a.test/y/s.css"],
        ".a\x7bbackground:url(\"https://a.test/x/i.png\")\x7d",
        ".a\x7bbackground:url(i.png)\x7d")] := by
    decide +kernel
  have hsecond : (StyleSheet.parse ".a\x7bbackground:url(i.png)\x7d").toOption.bind
      (fun sheet => (sheet.absolutifyUrls "https://a.test/y/s.css").toOption.map StyleSheet.css) =
      some ".a\x7bbackground:url(\"https://a.test/y/i.png\")\x7d" := by
    decide +kernel
  cases h : runCalls relativeSheets {} twoDirectoryCalls with
  | error e => simp [h, Except.toOption] at hrun
  | ok s =>
    simp only [h, Except.toOption, Option.map_some, Option.some.injEq,
      List.map_eq_singleton_iff, Prod.mk.injEq] at hrun
    obtain ⟨f, hfiles, hurls, hcss, htext⟩ := hrun
    refine ⟨s, rfl, f, by simp [hfiles], hurls, hcss, fun sheet hsheet => ?_⟩
    rw [← htext, hsheet] at hsecond
    simpa [Except.toOption] using hsecond

end Store

end CriticalCss.Generate
