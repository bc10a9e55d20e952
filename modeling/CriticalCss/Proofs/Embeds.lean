import Mathlib.Data.String.Basic
import CriticalCss.Css.Value

/-!
# Large base64 embeds

A value embeds a large image when one of its url references is a base64 data url of more than
`maxBase64Length` bytes. This module reads the url reference of a value `url(target)` whose
target is unquoted and holds no `)`, and from it shows that a data url with a long enough
payload is a large embed, whatever the length of the payload: the test on lengths is read
off the characters, not evaluated on a fixed text.

## Main definitions

* `base64Embed`: a value embedding a base64 data url with a payload of `n` letters.

## Main results

* `urlAt_unquoted`, `urlReferences_url`: the reference of `url(target)`.
* `hasLargeBase64_base64Embed`: past 987 letters of payload, the embed is large.
-/

namespace CriticalCss.Css

open CriticalCss.Text

theorem leadingCount_append_of_forall {p : Char → Bool} {l : List Char} (r : List Char)
    (h : ∀ c ∈ l, p c = true) : leadingCount p (l ++ r) = l.length + leadingCount p r := by
  induction l with
  | nil => simp
  | cons c l ih =>
    simp only [List.cons_append, leadingCount, h c (List.mem_cons_self ..), if_true,
      List.length_cons]
    rw [ih fun x hx => h x (List.mem_cons_of_mem _ hx)]
    omega

/-- The reference at the front of `url(target)...`, for a target that starts with no blank
and holds no `)` and no quote: its length and the trimmed target. -/
theorem urlAt_unquoted {c : Char} {t rest : List Char} (hc : isAsciiSpace c = false)
    (ht : ∀ x ∈ c :: t, (x != ')' && !isQuote x) = true) :
    urlAt ('u' :: 'r' :: 'l' :: '(' :: (c :: t ++ ')' :: rest)) =
      some (t.length + 6, trimSpace (String.ofList (c :: t))) := by
  have hq : isQuote c = false := by
    have := ht c (List.mem_cons_self ..)
    simp only [Bool.and_eq_true, bne_iff_ne, ne_eq, Bool.not_eq_true'] at this
    exact this.2
  -- the target runs up to the `)`, none of its characters stopping it earlier
  have hk : leadingCount (fun x => x != ')' && !isQuote x) (c :: t ++ ')' :: rest) =
      t.length + 1 := by
    rw [leadingCount_append_of_forall _ ht]
    simp [leadingCount]
  have hs : leadingCount isAsciiSpace ('(' :: (c :: t ++ ')' :: rest)) = 0 := by
    simp [leadingCount, isAsciiSpace]
  have hs' : leadingCount isAsciiSpace (c :: t ++ ')' :: rest) = 0 := by
    simp [leadingCount, hc]
  simp only [List.cons_append] at hk hs hs'
  simp only [urlAt, List.cons_append]
  rw [hs, List.drop_zero]
  simp only [hs', List.drop_zero, hq, Bool.false_eq_true, if_false]
  rw [hk]
  simp only [List.drop_succ_cons, List.drop_left, List.take_succ_cons, List.take_left]
  congr 2
  omega

/-- The only reference of a value `url(target)`. -/
theorem urlReferences_url {c : Char} {t : List Char} (hc : isAsciiSpace c = false)
    (ht : ∀ x ∈ c :: t, (x != ')' && !isQuote x) = true) :
    urlReferences ("url(" ++ String.ofList (c :: t) ++ ")") = [trimSpace (String.ofList (c :: t))] := by
  have hcs : ("url(" ++ String.ofList (c :: t) ++ ")").toList =
      'u' :: 'r' :: 'l' :: '(' :: (c :: t ++ [')']) := by
    simp
  have hat : urlAt ('u' :: 'r' :: 'l' :: '(' :: (c :: t ++ [')'])) =
      some (t.length + 6, trimSpace (String.ofList (c :: t))) := urlAt_unquoted hc ht
  simp only [urlReferences, urlSplit, hcs]
  rw [urlSplit.go, hat]
  -- the reference takes the whole text, so the search ends after it
  have hdrop : List.drop (t.length + 6 - 1) ('r' :: 'l' :: '(' :: (c :: t ++ [')'])) = [] := by
    rw [List.drop_eq_nil_iff]
    simp
  simp only [hdrop]
  rw [urlSplit.go]
  simp

theorem dropWhile_eq_self_of_head {p : Char → Bool} {cs : List Char}
    (h : ∀ c ∈ cs.head?, p c = false) : cs.dropWhile p = cs := by
  cases cs with
  | nil => rfl
  | cons c cs => simp [h c rfl]

theorem trimSpaceList_eq_self {cs : List Char} (hfirst : ∀ c ∈ cs.head?, isSpace c = false)
    (hlast : ∀ c ∈ cs.getLast?, isSpace c = false) : trimSpaceList cs = cs := by
  rw [trimSpaceList, dropWhile_eq_self_of_head hfirst,
    dropWhile_eq_self_of_head (by simpa [List.head?_reverse] using hlast), List.reverse_reverse]

theorem utf8Len_replicate (n : Nat) (c : Char) :
    String.utf8Len (List.replicate n c) = n * c.utf8Size := by
  induction n with
  | zero => simp
  | succ n ih => rw [List.replicate_succ, String.utf8Len_cons, ih, Nat.succ_mul]

/-- A value embedding a base64 data url whose payload is `n` letters. -/
def base64Embed (n : Nat) : String :=
  "url(data:;base64," ++ String.ofList (List.replicate n 'A') ++ ")"

/-- A base64 data url of more than 987 letters of payload, 13 bytes of header aside, is a large
embed. -/
theorem hasLargeBase64_base64Embed {n : Nat} (hn : maxBase64Length < n + 13) :
    hasLargeBase64 (base64Embed n) = true := by
  unfold base64Embed
  have htext : "url(data:;base64," ++ String.ofList (List.replicate n 'A') ++ ")" =
      "url(" ++ String.ofList ('d' :: ("ata:;base64,".toList ++ List.replicate n 'A')) ++ ")" := by
    apply String.toList_inj.1
    simp
  rw [htext, hasLargeBase64, urlReferences_url (by decide)]
  · have hn0 : n ≠ 0 := by simp [maxBase64Length] at hn; omega
    have htrim : trimSpaceList ('d' :: ("ata:;base64,".toList ++ List.replicate n 'A')) =
        'd' :: ("ata:;base64,".toList ++ List.replicate n 'A') := by
      apply trimSpaceList_eq_self
      · intro c hc; simp at hc; subst hc; decide
      · intro c hc
        simp [List.getLast?_cons, List.getLast?_replicate, hn0] at hc
        subst hc
        decide
    simp only [trimSpace, String.toList_ofList, htrim, List.any_cons, List.any_nil, Bool.or_false]
    rw [Bool.and_eq_true, decide_eq_true_iff]
    constructor
    · have h12 : String.utf8Len "ata:;base64,".toList = 12 := by decide
      have hA : 'A'.utf8Size = 1 := by decide
      have hd : 'd'.utf8Size = 1 := by decide
      rw [String.utf8ByteSize_ofList, String.utf8Len_cons, String.utf8Len_append, utf8Len_replicate,
        h12, hA, hd]
      simp only [maxBase64Length] at hn ⊢
      omega
    · simp [isBase64DataUrl, stripFolded, foldEq]
  · intro x hx
    simp only [List.mem_cons, List.mem_append, List.mem_replicate] at hx
    rcases hx with rfl | hx | ⟨-, rfl⟩
    · decide
    · exact List.all_eq_true.1 (by decide : ("ata:;base64,".toList.all fun x =>
        x != ')' && !isQuote x) = true) x hx
    · decide

end CriticalCss.Css
