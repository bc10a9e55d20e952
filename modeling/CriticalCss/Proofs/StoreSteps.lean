import Mathlib.Data.List.Nodup
import CriticalCss.Proofs.PureRun

/-!
# One addition to the store

Adding the stylesheet at a url for a page does one of seven things, decided by what the store
knows of the url and of the text fetched from it:

* a url that failed before stays failed, and nothing else happens;
* a url of a file adds the page to that file;
* a url that cannot be fetched fails;
* a text that some file holds adds the url and the page to that file, without reading it;
* a new text that cannot be parsed, or whose location is no url, fails;
* a new text that reads is a new file, included by the page.

`Store.Adds` states these once, so that what the store keeps is proved by one case for each
and never by unfolding the addition again. The calls a run makes on its store are one addition,
or the additions of a page's stylesheets: their positions are reserved in document order first,
and the additions themselves run concurrently, so they finish in any order (`Call`).

With a fetcher that answers by its argument and never reports a cancellation, every call
succeeds, and what it did is a chain of such steps (`Store.runCalls_ok`).

## Main definitions

* `Store.addAllIn`: the stylesheets of a page, added in a given order.
* `Call`, `Store.runCalls`: calls on a store, and running them.
* `Store.Adds`, `Store.AddsAll`: what one addition, and additions in turn, can do.

## Main results

* `Store.adds_of_add`, `Store.add_ok`: an addition does one of the seven things, and succeeds
  unless its fetch is canceled.
* `Store.addAllIn_ok`: so do the additions of a page's stylesheets, in any order.
* `Store.addPageAt_eq_map`, `Store.addUrlAt_eq_map`: in a store where each url and each text
  belongs to one file, changing the file at an index is changing the file that has the url or
  the text.
-/

namespace CriticalCss.Generate

open CriticalCss.Css

variable {fetch : String → Id (Except Failure String)} {note : Event → Id Unit}

/-- The list with the element at `i` changed, when `i` is the one position where `p` holds. -/
theorem List.modify_eq_map_ite {α : Type} {l : List α} {i : Nat} (f : α → α) (p : α → Prop)
    [DecidablePred p] (hp : ∀ j x, l[j]? = some x → (p x ↔ j = i)) :
    l.modify i f = l.map fun x => if p x then f x else x := by
  apply List.ext_getElem?
  intro j
  rw [List.getElem?_modify, List.getElem?_map]
  cases hj : l[j]? with
  | none => rfl
  | some x =>
    have hx := hp j x hj
    by_cases hji : j = i
    · subst hji
      simp [hx.2 rfl]
    · simp [Ne.symm hji, mt hx.1 hji]

theorem List.modify_append_length {α : Type} (l : List α) (x : α) (f : α → α) :
    (l ++ [x]).modify l.length f = l ++ [f x] := by
  apply List.ext_getElem?
  intro j
  rw [List.getElem?_modify]
  rcases Nat.lt_trichotomy j l.length with hj | rfl | hj
  · simp [List.getElem?_append_left hj, Nat.ne_of_gt hj]
  · simp
  · simp [List.getElem?_eq_none (by simp; omega : (l ++ [x]).length ≤ j),
      List.getElem?_eq_none (by simp; omega : (l ++ [f x]).length ≤ j)]

theorem List.eq_of_mem_flatMap_of_nodup {α β : Type} {l : List α} {F : α → List β}
    (h : (l.flatMap F).Nodup) {i j : Nat} {x y : α} {b : β} (hx : l[i]? = some x)
    (hy : l[j]? = some y) (hbx : b ∈ F x) (hby : b ∈ F y) : i = j := by
  obtain ⟨-, hdisj⟩ := List.nodup_flatMap.1 h
  rw [List.pairwise_iff_getElem] at hdisj
  obtain ⟨hi, rfl⟩ := List.getElem?_eq_some_iff.1 hx
  obtain ⟨hj, rfl⟩ := List.getElem?_eq_some_iff.1 hy
  by_contra hne
  rcases Nat.lt_or_gt_of_ne hne with hlt | hlt
  · exact hdisj i j hi hj hlt hbx hby
  · exact hdisj j i hj hi hlt hby hbx

theorem List.eq_of_map_eq_of_nodup {α β : Type} {l : List α} {g : α → β} (h : (l.map g).Nodup)
    {i j : Nat} {x y : α} (hx : l[i]? = some x) (hy : l[j]? = some y) (he : g x = g y) : i = j := by
  obtain ⟨hi, rfl⟩ := List.getElem?_eq_some_iff.1 hx
  obtain ⟨hj, rfl⟩ := List.getElem?_eq_some_iff.1 hy
  have hi' : i < (l.map g).length := by simpa using hi
  have hj' : j < (l.map g).length := by simpa using hj
  exact h.getElem_inj_iff.1 (show (l.map g)[i] = (l.map g)[j] by simpa using he)

@[simp] theorem appendNew_nil {α : Type} [BEq α] (x : α) : appendNew [] x = [x] := rfl

theorem appendNew_of_not_mem {α : Type} [BEq α] [LawfulBEq α] {xs : List α} {x : α}
    (h : x ∉ xs) : appendNew xs x = xs ++ [x] := by
  simp [appendNew, h]

theorem mem_appendNew {α : Type} [BEq α] [LawfulBEq α] {xs : List α} {x y : α} :
    y ∈ appendNew xs x ↔ y ∈ xs ∨ y = x := by
  unfold appendNew
  split
  · rename_i h
    have h : x ∈ xs := by simpa using h
    constructor
    · exact Or.inl
    · rintro (h' | rfl) <;> assumption
  · simp

theorem nodup_appendNew {α : Type} [BEq α] [LawfulBEq α] {xs : List α} (h : xs.Nodup) (x : α) :
    (appendNew xs x).Nodup := by
  unfold appendNew
  split
  · exact h
  · rename_i hx
    have hx : x ∉ xs := by simpa using hx
    exact List.nodup_append.2 ⟨h, List.nodup_singleton x, fun a ha b hb => by
      rw [List.mem_singleton] at hb; rintro rfl; exact hx (hb ▸ ha)⟩

/-- The file with one more page. -/
def SheetFile.withPage (f : SheetFile) (page : String) : SheetFile :=
  { f with pages := appendNew f.pages page }

/-- The file with one more url, discovered at position `order`. -/
def SheetFile.withUrl (f : SheetFile) (url : String) (order : Nat) : SheetFile :=
  { f with urls := appendNew f.urls url, order := min f.order order }

@[simp] theorem SheetFile.withPage_text (f : SheetFile) (p : String) : (f.withPage p).text = f.text := rfl
@[simp] theorem SheetFile.withPage_sheet (f : SheetFile) (p : String) : (f.withPage p).sheet = f.sheet := rfl
@[simp] theorem SheetFile.withPage_urls (f : SheetFile) (p : String) : (f.withPage p).urls = f.urls := rfl
@[simp] theorem SheetFile.withPage_order (f : SheetFile) (p : String) : (f.withPage p).order = f.order := rfl
@[simp] theorem SheetFile.withPage_pages (f : SheetFile) (p : String) :
    (f.withPage p).pages = appendNew f.pages p := rfl

@[simp] theorem SheetFile.withUrl_text (f : SheetFile) (u : String) (n : Nat) :
    (f.withUrl u n).text = f.text := rfl
@[simp] theorem SheetFile.withUrl_sheet (f : SheetFile) (u : String) (n : Nat) :
    (f.withUrl u n).sheet = f.sheet := rfl
@[simp] theorem SheetFile.withUrl_pages (f : SheetFile) (u : String) (n : Nat) :
    (f.withUrl u n).pages = f.pages := rfl
@[simp] theorem SheetFile.withUrl_urls (f : SheetFile) (u : String) (n : Nat) :
    (f.withUrl u n).urls = appendNew f.urls u := rfl
@[simp] theorem SheetFile.withUrl_order (f : SheetFile) (u : String) (n : Nat) :
    (f.withUrl u n).order = min f.order n := rfl

/-- Adds the stylesheets of a page as concurrent additions may finish them: their positions are
reserved in document order, then each is added in the order `order`. -/
def Store.addAllIn {m : Type → Type} [Monad m] (fetch : String → m (Except Failure String))
    (note : Event → m Unit) (s : Store) (page : String) (urls order : List String) :
    m (Except Failure Store) := do
  let s := urls.foldl Store.reserve s
  let (s, stop) ← order.foldlM (Store.addStep fetch note page) (s, none)
  return match stop with
    | some e => .error e
    | none => .ok s

/-- Adding the stylesheets of a page in document order is one of the orders they may finish in. -/
theorem Store.addAll_eq_addAllIn {m : Type → Type} [Monad m]
    (fetch : String → m (Except Failure String)) (note : Event → m Unit) (s : Store)
    (page : String) (urls : List String) :
    s.addAll fetch note page urls = s.addAllIn fetch note page urls urls := rfl

/-- A call a run makes on its store: one stylesheet of a page, or the stylesheets of a page,
whose additions run concurrently and finish in the order `order`. -/
inductive Call where
  | add (page url : String)
  | addAll (page : String) (urls order : List String) (finish : order.Perm urls)

/-- The page a call adds stylesheets of. -/
def Call.page : Call → String
  | .add page _ | .addAll page _ _ _ => page

/-- The urls a call reserves positions for before any addition. -/
def Call.reserved : Call → List String
  | .add _ _ => []
  | .addAll _ urls _ _ => urls

/-- The urls a call adds, in the order the additions finish. -/
def Call.order : Call → List String
  | .add _ url => [url]
  | .addAll _ _ order _ => order

/-- The page and the url of each addition a call makes, in the order they finish. -/
def Call.adds (c : Call) : List (String × String) :=
  c.order.map (c.page, ·)

/-- What a call does to a store, with a fetcher that answers by its argument. -/
def Call.run (fetch : String → Id (Except Failure String)) (s : Store) : Call → Except Failure Store
  | .add page url => s.add fetch (fun _ => pure ()) page url
  | .addAll page urls order _ => s.addAllIn fetch (fun _ => pure ()) page urls order

namespace Store

/-- Runs calls in turn; a failed call stops the run. -/
def runCalls (fetch : String → Id (Except Failure String)) (s : Store) :
    List Call → Except Failure Store
  | [] => .ok s
  | c :: calls =>
    match c.run fetch s with
    | .ok s => runCalls fetch s calls
    | .error e => .error e

theorem runCalls_append (fetch : String → Id (Except Failure String)) (s : Store)
    (calls more : List Call) :
    runCalls fetch s (calls ++ more) =
      match runCalls fetch s calls with
      | .ok s => runCalls fetch s more
      | .error e => .error e := by
  induction calls generalizing s with
  | nil => rfl
  | cons c calls ih =>
    simp only [List.cons_append, runCalls]
    cases c.run fetch s with
    | ok s => exact ih s
    | error e => rfl

/-- The store with a new file read from `url` and included by `page`; the recovered parse
problems of its tree are kept under the url. -/
def withFile (s : Store) (url text : String) (sheet : StyleSheet) (page : String) : Store :=
  { s with
    files := s.files ++ [{ text, sheet, pages := [page], urls := [url], order := s.orderOf url }]
    parseErrors := s.parseErrors ++
      sheet.errors.map fun e => Failure.wrapped (url ++ ": ") (.plain e.text) }

/-- What adding the stylesheet at `url` for `page` can do to a store `s` that already holds
`url` in its order of discovery. -/
inductive Adds (fetch : String → Id (Except Failure String)) (s : Store) (page url : String) :
    Store → Prop
  | failed (hf : (s.failureOf url).isSome) : Adds fetch s page url s
  | known {i : Nat} (hf : s.failureOf url = none) (hi : s.fileOf? url = some i) :
      Adds fetch s page url (s.addPageAt i page)
  | unfetched {e : Failure} (hf : s.failureOf url = none) (hi : s.fileOf? url = none)
      (he : fetch url = .error e) (hc : e ≠ .canceled) : Adds fetch s page url (s.fail url e)
  | duplicate {text : String} {i : Nat} (hf : s.failureOf url = none) (hi : s.fileOf? url = none)
      (ht : fetch url = .ok text) (hd : s.files.findIdx? (·.text == text) = some i) :
      Adds fetch s page url ((s.addUrlAt i url).addPageAt i page)
  | unparsable {text : String} {e : ParseFailure} (hf : s.failureOf url = none)
      (hi : s.fileOf? url = none) (ht : fetch url = .ok text)
      (hd : s.files.findIdx? (·.text == text) = none) (hp : StyleSheet.parse text = .error e) :
      Adds fetch s page url (s.fail url (parseFailure e))
  | badBase {text : String} {sheet : StyleSheet} {e : BaseUrlError} (hf : s.failureOf url = none)
      (hi : s.fileOf? url = none) (ht : fetch url = .ok text)
      (hd : s.files.findIdx? (·.text == text) = none) (hp : StyleSheet.parse text = .ok sheet)
      (hb : sheet.absolutifyUrls url = .error e) : Adds fetch s page url (s.fail url (baseFailure e))
  | fresh {text : String} {sheet sheet' : StyleSheet} (hf : s.failureOf url = none)
      (hi : s.fileOf? url = none) (ht : fetch url = .ok text)
      (hd : s.files.findIdx? (·.text == text) = none) (hp : StyleSheet.parse text = .ok sheet)
      (hb : sheet.absolutifyUrls url = .ok sheet') : Adds fetch s page url (s.withFile url text sheet' page)

/-- Adding the stylesheets `urls` of a page one after the other. -/
inductive AddsAll (fetch : String → Id (Except Failure String)) (page : String) :
    Store → List String → Store → Prop
  | nil (s : Store) : AddsAll fetch page s [] s
  | cons {s s₁ s₂ : Store} {url : String} {rest : List String}
      (head : Adds fetch (s.reserve url) page url s₁) (tail : AddsAll fetch page s₁ rest s₂) :
      AddsAll fetch page s (url :: rest) s₂


@[simp] theorem reserve_files (s : Store) (url : String) : (s.reserve url).files = s.files := rfl
@[simp] theorem reserve_failed (s : Store) (url : String) : (s.reserve url).failed = s.failed := rfl
@[simp] theorem reserve_errors (s : Store) (url : String) : (s.reserve url).errors = s.errors := rfl

@[simp] theorem failureOf_reserve (s : Store) (url u : String) :
    (s.reserve url).failureOf u = s.failureOf u := rfl

@[simp] theorem fileOf?_reserve (s : Store) (url u : String) :
    (s.reserve url).fileOf? u = s.fileOf? u := rfl

theorem fail_of_failureOf_eq_none {s : Store} {url : String} (h : s.failureOf url = none)
    (e : Failure) :
    s.fail url e = { s with failed := s.failed ++ [(url, .fetchFailed url e)],
                            errors := s.errors ++ [.fetchFailed url e] } := by
  simp only [failureOf] at h
  simp [fail, h]

@[simp] theorem discovered_reserve (s : Store) (url : String) :
    (s.reserve url).discovered = appendNew s.discovered url := rfl

theorem orderOf_reserve {s : Store} {u : String} (hu : u ∈ s.discovered) (url : String) :
    (s.reserve url).orderOf u = s.orderOf u := by
  simp only [orderOf, discovered_reserve, appendNew]
  split
  · rfl
  · rw [List.idxOf_append, if_pos hu]

theorem fileOf?_eq_none_iff {s : Store} {u : String} :
    s.fileOf? u = none ↔ ∀ f ∈ s.files, u ∉ f.urls := by
  simp [fileOf?, List.findIdx?_eq_none_iff]

theorem exists_of_fileOf? {s : Store} {u : String} {i : Nat} (h : s.fileOf? u = some i) :
    ∃ f, s.files[i]? = some f ∧ u ∈ f.urls := by
  obtain ⟨hi, hu, -⟩ := List.findIdx?_eq_some_iff_getElem.1 h
  exact ⟨s.files[i], List.getElem?_eq_getElem hi, by simpa using hu⟩

theorem findIdx?_text_eq_none_iff {s : Store} {text : String} :
    s.files.findIdx? (·.text == text) = none ↔ ∀ f ∈ s.files, f.text ≠ text := by
  simp [List.findIdx?_eq_none_iff]

theorem exists_of_findIdx?_text {s : Store} {text : String} {i : Nat}
    (h : s.files.findIdx? (·.text == text) = some i) : ∃ f, s.files[i]? = some f ∧ f.text = text := by
  obtain ⟨hi, ht, -⟩ := List.findIdx?_eq_some_iff_getElem.1 h
  exact ⟨s.files[i], List.getElem?_eq_getElem hi, by simpa using ht⟩

/-- When each url belongs to one file, the file a url was found to hold is the one that has it. -/
theorem fileOf?_at {s : Store} (hnd : (s.files.flatMap (·.urls)).Nodup) {u : String} {i : Nat}
    (h : s.fileOf? u = some i) : ∀ j f, s.files[j]? = some f → (u ∈ f.urls ↔ j = i) := by
  obtain ⟨g, hg, hu⟩ := exists_of_fileOf? h
  intro j f hf
  constructor
  · exact fun hf' => List.eq_of_mem_flatMap_of_nodup hnd hf hg hf' hu
  · rintro rfl
    rw [hf] at hg
    cases hg
    exact hu

/-- When each text belongs to one file, the file found for a text is the one that has it. -/
theorem findIdx?_text_at {s : Store} (hnd : (s.files.map (·.text)).Nodup) {text : String}
    {i : Nat} (h : s.files.findIdx? (·.text == text) = some i) :
    ∀ j f, s.files[j]? = some f → (f.text = text ↔ j = i) := by
  obtain ⟨g, hg, ht⟩ := exists_of_findIdx?_text h
  intro j f hf
  constructor
  · exact fun hf' => List.eq_of_map_eq_of_nodup hnd hf hg (hf'.trans ht.symm)
  · rintro rfl
    rw [hf] at hg
    cases hg
    exact ht

/-- Changing the file at the one position where `p` holds is changing every file where `p`
holds. -/
theorem modifyFile_eq_map {s : Store} {i : Nat} (p : SheetFile → Prop) [DecidablePred p]
    (hp : ∀ j f, s.files[j]? = some f → (p f ↔ j = i)) (g : SheetFile → SheetFile) :
    s.modifyFile i g = { s with files := s.files.map fun f => if p f then g f else f } := by
  simp only [modifyFile, List.modify_eq_map_ite g p hp]

/-- In a store where each url belongs to one file, adding a page to the file that holds `url`. -/
theorem addPageAt_eq_map {s : Store} (hnd : (s.files.flatMap (·.urls)).Nodup) {url : String}
    {i : Nat} (hi : s.fileOf? url = some i) (page : String) :
    s.addPageAt i page =
      { s with files := s.files.map fun f => if url ∈ f.urls then f.withPage page else f } :=
  modifyFile_eq_map _ (fileOf?_at hnd hi) _

/-- In a store where each text belongs to one file, adding a url and a page to the file that
holds `text`. -/
theorem addUrlAt_addPageAt_eq_map {s : Store} (hnd : (s.files.map (·.text)).Nodup)
    {text : String} {i : Nat} (hd : s.files.findIdx? (·.text == text) = some i) (url page : String) :
    (s.addUrlAt i url).addPageAt i page =
      { s with files := s.files.map fun f =>
          if f.text = text then (f.withUrl url (s.orderOf url)).withPage page else f } := by
  have hat := findIdx?_text_at hnd hd
  have hurl : s.addUrlAt i url =
      { s with files := s.files.map fun f =>
          if f.text = text then f.withUrl url (s.orderOf url) else f } :=
    modifyFile_eq_map _ hat _
  -- the url leaves texts as they are, so position `i` still holds the text
  have hat' : ∀ j f, (s.addUrlAt i url).files[j]? = some f → (f.text = text ↔ j = i) := by
    intro j f hf
    rw [hurl, List.getElem?_map] at hf
    cases hj : s.files[j]? with
    | none => simp [hj] at hf
    | some g =>
      simp only [hj, Option.map_some, Option.some.injEq] at hf
      subst hf
      split <;> simpa using hat j g hj
  rw [addPageAt, modifyFile_eq_map _ hat' _, hurl]
  simp only [List.map_map]
  congr 2
  funext f
  by_cases hf : f.text = text
  · simp only [Function.comp_apply, if_pos hf, SheetFile.withUrl_text]
    rfl
  · simp only [Function.comp_apply, if_neg hf]

/-- An addition does one of the seven things `Adds` lists. -/
theorem adds_of_add {s s' : Store} {page url : String}
    (h : (s.add fetch note page url : Id (Except Failure Store)) = .ok s') :
    Adds fetch (s.reserve url) page url s' := by
  simp only [add] at h
  split at h
  · rename_i hf
    cases h
    exact .failed hf
  · rename_i hf
    simp only [Bool.not_eq_true, Option.isSome_eq_false_iff, Option.isNone_iff_eq_none] at hf
    split at h
    · rename_i i hi
      cases h
      exact .known hf hi
    · rename_i hi
      simp only [id_bind_eq] at h
      split at h
      · simp at h
      · rename_i e hc he
        cases h
        exact .unfetched hf hi he hc
      · rename_i text ht
        -- filing the text: a file with the same text, or reading it
        cases hd : (s.reserve url).files.findIdx? (·.text == text) with
        | some i =>
          simp only [load, hd, id_pure_eq] at h
          cases h
          exact .duplicate hf hi ht hd
        | none =>
          cases hp : StyleSheet.parse text with
          | error e =>
            simp only [load, hd, hp, id_pure_eq] at h
            cases h
            exact .unparsable hf hi ht hd hp
          | ok sheet =>
            cases hb : sheet.absolutifyUrls url with
            | error e =>
              simp only [load, hd, hp, hb, id_pure_eq] at h
              cases h
              exact .badBase hf hi ht hd hp hb
            | ok sheet' =>
              simp only [load, hd, hp, hb, id_pure_eq] at h
              cases h
              have hfile : Adds fetch (s.reserve url) page url
                  ((s.reserve url).withFile url text sheet' page) := .fresh hf hi ht hd hp hb
              simpa [withFile, addPageAt, modifyFile, List.modify_append_length] using hfile

/-- An addition succeeds unless its fetch is canceled. -/
theorem add_ok {s : Store} {page url : String} (hc : fetch url ≠ .error .canceled) :
    ∃ s', (s.add fetch note page url : Id (Except Failure Store)) = .ok s' ∧
      Adds fetch (s.reserve url) page url s' := by
  cases h : (s.add fetch note page url : Id (Except Failure Store)) with
  | ok s' => exact ⟨s', rfl, adds_of_add h⟩
  | error e =>
    -- the one branch that fails is a canceled fetch
    simp only [add] at h
    split at h
    · simp at h
    · split at h
      · simp at h
      · simp only [id_bind_eq] at h
        split at h
        · exact absurd ‹_› hc
        · simp at h
        · simp at h

theorem foldlM_addStep_ok {page : String} (hc : ∀ u, fetch u ≠ .error .canceled) :
    ∀ (order : List String) (s : Store), ∃ s',
      (order.foldlM (addStep fetch note page) (s, none) : Id (Store × Option Failure)) =
        (s', none) ∧ AddsAll fetch page s order s'
  | [], s => ⟨s, rfl, .nil s⟩
  | url :: rest, s => by
    obtain ⟨s₁, h₁, hadds⟩ := @add_ok fetch note s page url (hc url)
    obtain ⟨s₂, h₂, hall⟩ := foldlM_addStep_ok hc rest s₁
    refine ⟨s₂, ?_, .cons hadds hall⟩
    rw [List.foldlM_cons]
    simp only [addStep, id_bind_eq, h₁]
    exact h₂

/-- With no canceled fetch, adding the stylesheets of a page succeeds in every order the
additions may finish in, and does a chain of additions after reserving their positions. -/
theorem addAllIn_ok (hc : ∀ u, fetch u ≠ .error .canceled) (s : Store) (page : String)
    (urls order : List String) :
    ∃ s', (s.addAllIn fetch note page urls order : Id (Except Failure Store)) = .ok s' ∧
      AddsAll fetch page (urls.foldl reserve s) order s' := by
  obtain ⟨s', h, hall⟩ := @foldlM_addStep_ok fetch note page hc order (urls.foldl reserve s)
  refine ⟨s', ?_, hall⟩
  simp only [addAllIn, id_bind_eq, h]
  rfl

end Store

/-- With no canceled fetch, every call succeeds, and does a chain of additions after
reserving positions. -/
theorem Call.run_ok (hc : ∀ u, fetch u ≠ .error .canceled) (s : Store) (c : Call) :
    ∃ s', c.run fetch s = .ok s' ∧ Store.AddsAll fetch c.page (c.reserved.foldl Store.reserve s) c.order s' := by
  cases c with
  | add page url =>
    obtain ⟨s', h, hadds⟩ := @Store.add_ok fetch (fun _ => pure ()) s page url (hc url)
    exact ⟨s', h, .cons hadds (.nil s')⟩
  | addAll page urls order _ => exact Store.addAllIn_ok hc s page urls order

namespace Store

/-- What holds of a store and its additions so far, and is kept by reserving a position and by
every addition, holds after any calls; none of them fails when no fetch is canceled. -/
theorem runCalls_invariant (P : List (String × String) → Store → Prop)
    (hreserve : ∀ h s url, P h s → P h (s.reserve url))
    (hadds : ∀ h s page url s', P h s → Adds fetch (s.reserve url) page url s' →
      P (h ++ [(page, url)]) s')
    (hc : ∀ u, fetch u ≠ .error .canceled) :
    ∀ (calls : List Call) (s : Store) (h : List (String × String)), P h s →
      ∃ s', runCalls fetch s calls = .ok s' ∧ P (h ++ calls.flatMap Call.adds) s'
  | [], s, h, hs => ⟨s, rfl, by simpa using hs⟩
  | c :: calls, s, h, hs => by
    obtain ⟨s₁, hrun, hall⟩ := Call.run_ok hc s c
    have hreserved : ∀ urls : List String, ∀ s, P h s → P h (urls.foldl reserve s) := by
      intro urls
      induction urls with
      | nil => exact fun _ hs => hs
      | cons u us ih => exact fun s hs => ih _ (hreserve h s u hs)
    have hchain : ∀ {s s' : Store} {order : List String} (h' : List (String × String)),
        AddsAll fetch c.page s order s' → P h' s → P (h' ++ order.map (c.page, ·)) s' := by
      intro s s' order h' hall
      induction hall generalizing h' with
      | nil => simp
      | cons head _ ih =>
        intro hs
        have := ih _ (hadds _ _ _ _ _ hs head)
        simpa using this
    obtain ⟨s', hrest, hs'⟩ := runCalls_invariant P hreserve hadds hc calls s₁
      (h ++ c.adds) (hchain h hall (hreserved c.reserved s hs))
    refine ⟨s', ?_, by simpa using hs'⟩
    simp [runCalls, hrun, hrest]

end Store

end CriticalCss.Generate
