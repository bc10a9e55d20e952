import CriticalCss.Css.Absolute
import CriticalCss.Proofs.Nodes

/-!
# Rewriting url references

Making the references of a sheet absolute works on text. In every declaration value and every
`@import` prelude, a scan from left to right finds the url references as the reference pattern
reads them (`urlAt`), each at the first place one starts after the previous one; a reference
whose target the resolution changes is written anew as `url("...")`, every other character is
kept. Nothing else in the sheet changes, and no item is added or dropped.

The scan reads characters, not tokens: a quoted string or a comment that holds `url(x)` is
rewritten like a reference. So a value that is one string token, `"url(x)"`, comes out as
`"url("https://b.test/c/x")"`, which reads as other tokens (`absolutifyUrls_rewrites_string`).

## Main definitions

* `UrlScan`: the references a left-to-right scan finds in a text.
* `urlReplacement`: what a reference becomes.
* `Item.mapReferences`, `mapReferences`: a tree with its declaration values and `@import`
  preludes mapped.

## Main results

* `urlSplit_scan`: the search for references is such a scan.
* `replaceUrls_eq_of_scan`: the rewritten text keeps everything but the references found.
* `filterItems_absolutifyItem`: making references absolute maps the values and preludes.
* `StyleSheet.absolutifyUrls_rewrites`: the whole of it, for a sheet and a base url.
-/

namespace CriticalCss.Css

open CriticalCss.Text
open CriticalCss.Url

/-! ### Where the reference pattern matches -/

theorem List.length_of_drop_eq_cons {α : Type} {xs ys : List α} {k : Nat} {y : α}
    (h : xs.drop k = y :: ys) : xs.length = k + 1 + ys.length := by
  have hlen := congrArg List.length h
  rcases Nat.lt_or_ge k xs.length with hk | hk
  · simp only [List.length_drop, List.length_cons] at hlen
    omega
  · rw [List.drop_eq_nil_of_le hk] at h
    cases h

/-- A reference starts with `url` and takes some of the characters it is read from. -/
theorem urlAt_length {cs : List Char} {n : Nat} {t : String} (h : urlAt cs = some (n, t)) :
    ∃ r, cs = 'u' :: 'r' :: 'l' :: r ∧ 0 < n ∧ n ≤ cs.length := by
  dsimp only [urlAt] at h
  split at h
  · rename_i r0
    refine ⟨r0, rfl, ?_⟩
    split at h
    · rename_i r2 h2
      have l2 := List.length_of_drop_eq_cons h2
      split at h
      · -- a quoted target: its quotes, the blanks after it and the `)` are all read
        rename_i n' t' hq
        split at hq
        · rename_i q r4 hr3
          have l3 := List.length_of_drop_eq_cons hr3
          split at hq
          · split at hq
            · rename_i q2 r6 h6
              have l6 := List.length_of_drop_eq_cons h6
              split at hq
              · split at hq
                · rename_i r7 h7
                  have l7 := List.length_of_drop_eq_cons h7
                  simp only [Option.some.injEq, Prod.mk.injEq] at hq
                  obtain ⟨rfl, rfl⟩ := hq
                  split at h <;> simp only [Option.some.injEq, Prod.mk.injEq] at h <;>
                    simp only [List.length_cons] <;> omega
                · cases hq
              · cases hq
            · cases hq
          · cases hq
        · cases hq
      · -- an unquoted target, read up to the `)`
        split at h
        · rename_i r7 h7
          have l7 := List.length_of_drop_eq_cons h7
          simp only [Option.some.injEq, Prod.mk.injEq] at h
          simp only [List.length_cons, List.length_drop] at l7 ⊢
          omega
        · cases h
    · cases h
  · cases h

/-! ### The scan -/

/-- `UrlScan cs parts tail`: reading `cs` from left to right, the url references found are
`parts`, each with the text before it, its source text and its target, and `tail` follows the
last one. No reference starts inside the text before one, nor inside the tail. -/
inductive UrlScan : List Char → List (List Char × List Char × String) → List Char → Prop
  | last {cs : List Char} (hnone : ∀ j < cs.length, urlAt (cs.drop j) = none) : UrlScan cs [] cs
  | next {before source rest tail : List Char} {target : String}
      {parts : List (List Char × List Char × String)}
      (hskip : ∀ j < before.length, urlAt ((before ++ source ++ rest).drop j) = none)
      (hat : urlAt (source ++ rest) = some (source.length, target))
      (hrest : UrlScan rest parts tail) :
      UrlScan (before ++ source ++ rest) ((before, source, target) :: parts) tail

/-- A scanned text is the texts before and of its references, then the tail. -/
theorem UrlScan.text_eq {cs tail : List Char} {parts : List (List Char × List Char × String)}
    (h : UrlScan cs parts tail) : cs = (parts.flatMap fun p => p.1 ++ p.2.1) ++ tail := by
  induction h with
  | last => rfl
  | next _ _ _ ih => simp [ih]

/-- The search for references, from a point with the characters `before` passed (last first),
none of which starts a reference, scans the rest. -/
theorem urlSplit_go_scan (before cs : List Char)
    (hskip : ∀ j < before.length, urlAt ((before.reverse ++ cs).drop j) = none) :
    UrlScan (before.reverse ++ cs) (urlSplit.go before cs).1 (urlSplit.go before cs).2 := by
  induction before, cs using urlSplit.go.induct with
  | case1 before =>
    rw [urlSplit.go, List.append_nil]
    exact .last (by simpa using hskip)
  | case2 before c cs n target hat found tail hgo ih =>
    obtain ⟨_, -, hpos, hle⟩ := urlAt_length hat
    have hsplit : (c :: cs).take n ++ cs.drop (n - 1) = c :: cs := by
      rw [← List.drop_succ_cons (a := c), Nat.sub_add_cancel hpos, List.take_append_drop]
    have htake : ((c :: cs).take n).length = n := List.length_take_of_le hle
    rw [urlSplit.go, hat]
    simp only [hgo]
    have hnext : UrlScan (before.reverse ++ (c :: cs).take n ++ cs.drop (n - 1))
        ((before.reverse, (c :: cs).take n, target) :: found) tail := by
      refine .next ?_ ?_ ?_
      · rw [List.append_assoc, hsplit, List.length_reverse]
        exact hskip
      · rw [hsplit, htake, hat]
      · simpa [hgo] using ih (by simp)
    rwa [List.append_assoc, hsplit] at hnext
  | case3 before c cs hnone ih =>
    rw [urlSplit.go, hnone]
    simp only
    have h := ih fun j hj => by
      rcases Nat.lt_or_ge j before.length with hj' | hj'
      · simpa using hskip j hj'
      · have hj : j = before.length := by simp at hj; omega
        subst hj
        simpa [List.drop_left'] using hnone
    simpa using h

/-- The search for references is a left-to-right scan of the whole text. -/
theorem urlSplit_scan (cs : List Char) : UrlScan cs (urlSplit cs).1 (urlSplit cs).2 :=
  urlSplit_go_scan [] cs (by simp)

/-! ### The rewritten text -/

/-- What a reference becomes: itself when its target is empty or `resolve` keeps it, otherwise
`url("...")` around the resolved target, its backslashes and double quotes escaped. -/
def urlReplacement (resolve : String → String) (source : List Char) (target : String) :
    List Char :=
  if target.isEmpty || resolve target == target then source
  else ("url(\"" ++ escapeDoubleQuoted (resolve target) ++ "\")").toList

theorem occursIn_append_left (pat before : List Char) {cs : List Char}
    (h : occursIn pat cs = true) : occursIn pat (before ++ cs) = true := by
  induction before with
  | nil => exact h
  | cons c before ih => simp [occursIn, ih]

/-- A text in which the scan finds a reference contains `url`. -/
theorem UrlScan.occursIn_url {cs tail : List Char} {p : List Char × List Char × String}
    {parts : List (List Char × List Char × String)} (h : UrlScan cs (p :: parts) tail) :
    occursIn "url".toList cs = true := by
  cases h with
  | @next before source rest _ _ _ _ hat _ =>
    obtain ⟨r, hr, -⟩ := urlAt_length hat
    have hocc : occursIn "url".toList (source ++ rest) = true := by
      rw [hr]
      simp [occursIn, List.isPrefixOf]
    rw [List.append_assoc]
    exact occursIn_append_left _ before hocc

/-- A scan that finds nothing leaves the whole text as its tail. -/
theorem UrlScan.tail_eq_of_nil {cs tail : List Char} (h : UrlScan cs [] tail) : tail = cs := by
  cases h
  rfl

/-- The rewritten text: each reference the scan finds replaced, everything else kept. -/
theorem replaceUrls_eq_of_scan (text : String) (resolve : String → String) :
    (replaceUrls text resolve).toList =
      ((urlSplit text.toList).1.flatMap fun p => p.1 ++ urlReplacement resolve p.2.1 p.2.2) ++
        (urlSplit text.toList).2 := by
  have hscan := urlSplit_scan text.toList
  unfold replaceUrls
  split
  · -- no `url` in the text, so the scan finds nothing
    rename_i hno
    cases hparts : (urlSplit text.toList).1 with
    | nil =>
      rw [hparts] at hscan
      simp [hscan.tail_eq_of_nil]
    | cons p parts =>
      rw [hparts] at hscan
      rw [containsText, hscan.occursIn_url] at hno
      simp at hno
  · simp only [String.toList_append, String.toList_join, List.flatMap_map, String.toList_ofList]
    congr 1
    congr 1
    funext p
    obtain ⟨before, source, target⟩ := p
    simp only [urlReplacement]
    split <;> simp

/-! ### The tree -/

mutual

/-- An item with `g` applied to every declaration value and `@import` prelude in it. -/
def Item.mapReferences (g : String → String) : Item → Item
  | .rule selectors items => .rule selectors (mapReferences g items)
  | .atRule name prelude block items =>
    .atRule name (if name = "import" then g prelude else prelude) block (mapReferences g items)
  | .declaration d => .declaration { d with value := g d.value }
  | .comment text => .comment text

/-- Items with `g` applied to every declaration value and `@import` prelude in them. -/
def mapReferences (g : String → String) : List Item → List Item
  | [] => []
  | it :: rest => it.mapReferences g :: mapReferences g rest

end

section Tree

variable (resolve : String → String)

mutual

theorem Item.filterWith_absolutifyItem (it : Item) (sc : Scope) :
    it.filterWith (absolutifyItem resolve) sc =
      some (it.mapReferences fun t => replaceUrls t resolve) := by
  cases it with
  | rule sels items =>
    rw [Item.filterWith, filterItems_absolutifyItem items]
    rfl
  | atRule name prelude block items =>
    rw [Item.filterWith, filterItems_absolutifyItem items]
    by_cases h : name = "import"
    · subst h
      rfl
    · simp [absolutifyItem, Item.mapReferences, h]
  | declaration d => rfl
  | comment text => rfl
termination_by structural it

/-- Making references absolute keeps every item, and maps the declaration values and the
`@import` preludes. -/
theorem filterItems_absolutifyItem (items : List Item) {sc : Scope} :
    filterItems (absolutifyItem resolve) sc items = mapReferences (fun t => replaceUrls t resolve) items := by
  cases items with
  | nil => rfl
  | cons it rest =>
    rw [filterItems, Item.filterWith_absolutifyItem it, filterItems_absolutifyItem rest]
    rfl
termination_by structural items

end

end Tree

/-- **Making references absolute rewrites url references as text.** For every sheet and every
base that reads as a url, the sheet made absolute has the same items in the same places: only
its declaration values and `@import` preludes change. Each of these is scanned from left to
right for url references; a reference whose target the base resolves to another text becomes
`url("...")` around the resolved text, and every other character stays as it was. -/
theorem StyleSheet.absolutifyUrls_rewrites (s : StyleSheet) (base : String) (b : Url)
    (hb : Url.parse base = .ok b) :
    s.absolutifyUrls base =
        .ok { s with items := mapReferences (fun t => replaceUrls t (absoluteReference b)) s.items } ∧
    ∀ text : String, ∃ parts tail, UrlScan text.toList parts tail ∧
      text.toList = (parts.flatMap fun p => p.1 ++ p.2.1) ++ tail ∧
      (replaceUrls text (absoluteReference b)).toList =
        (parts.flatMap fun p => p.1 ++ urlReplacement (absoluteReference b) p.2.1 p.2.2) ++ tail := by
  refine ⟨?_, fun text => ⟨_, _, urlSplit_scan text.toList, (urlSplit_scan _).text_eq,
    replaceUrls_eq_of_scan text _⟩⟩
  simp only [StyleSheet.absolutifyUrls, hb, filterItems_absolutifyItem]

/-- A sheet whose only value is the string `"url(x)"`. -/
def stringValueSheet : StyleSheet :=
  { source := ".a\x7bcontent:\"url(x)\"\x7d",
    items := [.rule [".a"] [.declaration ⟨"content", "\"url(x)\"", false⟩]] }

/-- The rewriting of the sheet with a string value, against `https://b.test/c/s.css`. -/
theorem absolutifyUrls_rewrites_stringValue :
    ∃ b, Url.parse "https://b.test/c/s.css" = .ok b ∧
      (stringValueSheet.absolutifyUrls "https://b.test/c/s.css" =
          .ok { stringValueSheet with
            items := mapReferences (fun t => replaceUrls t (absoluteReference b)) stringValueSheet.items } ∧
        ∀ text : String, ∃ parts tail, UrlScan text.toList parts tail ∧
          text.toList = (parts.flatMap fun p => p.1 ++ p.2.1) ++ tail ∧
          (replaceUrls text (absoluteReference b)).toList =
            (parts.flatMap fun p => p.1 ++ urlReplacement (absoluteReference b) p.2.1 p.2.2) ++ tail) := by
  have hok : (Url.parse "https://b.test/c/s.css").toOption.isSome = true := by decide +kernel
  cases hb : Url.parse "https://b.test/c/s.css" with
  | error e => simp [hb, Except.toOption] at hok
  | ok b => exact ⟨b, rfl, StyleSheet.absolutifyUrls_rewrites _ _ b hb⟩

/-- A value that is one string token, `"url(x)"`, holds no url reference, yet the text inside the
string is rewritten, and the value no longer reads as one string. -/
theorem absolutifyUrls_rewrites_string :
    (tokenize "\"url(x)\"").map (·.token.kind) = [.string] ∧
    (stringValueSheet.absolutifyUrls "https://b.test/c/s.css").toOption.map StyleSheet.css =
      some ".a\x7bcontent:\"url(\"https://b.test/c/x\")\"\x7d" ∧
    (tokenize "\"url(\"https://b.test/c/x\")\"").map (·.token.kind) ≠ [.string] :=
  ⟨by decide +kernel, by decide +kernel, by decide +kernel⟩

end CriticalCss.Css
