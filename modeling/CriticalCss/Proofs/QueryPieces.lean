import CriticalCss.Probe.Query

/-!
# How a selector becomes a query

A query is built from the tokens of a selector. They fall into pieces: single tokens, and
pseudos, each a colon, a second colon for a pseudo-element, a name, and for a function its
arguments up to the parenthesis that closes it (`queryPieces`). The query copies every token and
every pseudo it keeps, and in place of a pseudo it removes writes `*` when the query so far ends
where a compound selector starts; trimmed of outer blanks, that is the query, or `*` when nothing
is left.

Where a compound selector starts is read off the last character of the query so far
(`needsUniversal`), not off the tokens: an empty query, a space, tab or line feed, `>`, `+`, `~`,
`,` or `(`. A carriage return or form feed, which the lexer counts as blank, and a comment do not
count, so `a\r:hover` becomes `a` where `a :hover` becomes `a *`.

The building loop walks an array by index with fuel; `queryLoop_eq_foldl` shows that it goes
through the pieces in turn, and every result is read off the pieces.

## Main definitions

* `pseudoSpan`: the pseudo at the front of some tokens, its length and whether a query drops it.
* `QueryPiece`, `queryPieces`: the pieces a query sees.
* `QueryPiece.emit`: what a piece adds to the query.

## Main results

* `join_tokenize`: the tokens of a text spell it.
* `queryLoop_eq_foldl`: building a query goes through the pieces in turn.
* `queryFor_pieces`: the pieces spell the selector, every pseudo piece is a pseudo, and the query
  is the pieces' emission, trimmed, and never empty.
-/

namespace CriticalCss.Css

theorem join_tokenizeFrom (offset : Nat) (cs : List Char) :
    String.join ((tokenizeFrom offset cs).map (·.token.text)) = String.ofList cs := by
  cases cs with
  | nil => simp [tokenizeFrom]
  | cons c rest =>
    rw [tokenizeFrom]
    simp only [List.map_cons, String.join_cons]
    rw [join_tokenizeFrom, ← String.ofList_append, List.take_append_drop]
termination_by cs.length
decreasing_by simp only [List.length_drop, List.length_cons]; omega

/-- The tokens of a text spell it: the lexer drops and changes nothing. -/
theorem join_tokenize (s : String) : String.join ((tokenize s).map (·.token.text)) = s := by
  rw [tokenize, join_tokenizeFrom, String.ofList_toList]

end CriticalCss.Css

namespace CriticalCss.Probe

open CriticalCss.Css CriticalCss.Text

/-! ### The pieces of a selector -/

/-- The number of tokens from a function or parenthesis to the `)` that closes it, both
included, at nesting `depth` before it; all the tokens when none closes it. -/
def spanLength (depth : Int) : List Token → Nat
  | [] => 0
  | t :: rest =>
    match t.kind with
    | .function | .leftParen => spanLength (depth + 1) rest + 1
    | .rightParen => if depth - 1 == 0 then 1 else spanLength (depth - 1) rest + 1
    | _ => spanLength depth rest + 1

/-- The name of a pseudo as a query compares it: in lower case, without the `(` of a function. -/
def pseudoName (nameTok : Token) : String :=
  lower (if nameTok.text.endsWith "(" then String.ofList nameTok.text.toList.dropLast
    else nameTok.text)

/-- Whether a query removes a pseudo: every pseudo-element, written with two colons or one of the
legacy ones with one, every pseudo-class of interaction or history, and every vendor pseudo. -/
def removesPseudo (element : Bool) (name : String) : Bool :=
  element || legacyPseudoElements.contains name || ignoredPseudoClasses.contains name ||
    name.startsWith "-"

/-- The pseudo at the front of some tokens: how many tokens it spans, its colons, name and
arguments included, and whether a query removes it; nothing unless the tokens start with a colon
and a name. -/
def pseudoSpan : List Token → Option (Nat × Bool)
  | [] => none
  | t :: rest =>
    if t.kind != .colon then none
    else
      let element := rest.head?.any (·.kind == .colon)
      let k := if element then 2 else 1
      match (t :: rest)[k]? with
      | none => none
      | some nameTok =>
        if nameTok.kind != .ident && nameTok.kind != .function then none
        else
          -- a function runs on to the parenthesis that closes it
          let args := if nameTok.kind == .function then spanLength 1 ((t :: rest).drop (k + 1))
            else 0
          some (k + 1 + args, removesPseudo element (pseudoName nameTok))

theorem two_le_of_pseudoSpan {l : List Token} {n : Nat} {removed : Bool}
    (h : pseudoSpan l = some (n, removed)) : 2 ≤ n := by
  cases l with
  | nil => cases h
  | cons t rest =>
    simp only [pseudoSpan] at h
    split at h
    · cases h
    · split at h
      · cases h
      · split at h
        · cases h
        · simp only [Option.some.injEq, Prod.mk.injEq] at h
          obtain ⟨rfl, -⟩ := h
          split <;> omega

/-- The tokens of a pseudo start with a colon, have a second one when it is a pseudo-element,
then a name that is an identifier or a function; a query removes the pseudo as `removesPseudo`
says of the two. -/
theorem pseudoSpan_shape {l : List Token} {n : Nat} {removed : Bool}
    (h : pseudoSpan l = some (n, removed)) :
    let toks := l.take n
    let element := toks[1]?.any (·.kind == .colon)
    toks[0]?.map (·.kind) = some .colon ∧
      ∃ nameTok, toks[if element then 2 else 1]? = some nameTok ∧
        (nameTok.kind = .ident ∨ nameTok.kind = .function) ∧
        removed = removesPseudo element (pseudoName nameTok) := by
  have hn := two_le_of_pseudoSpan h
  cases l with
  | nil => cases h
  | cons t rest =>
    simp only [pseudoSpan] at h
    split at h
    · cases h
    rename_i hc
    split at h
    · cases h
    rename_i nameTok hname
    split at h
    · cases h
    rename_i hkind
    simp only [Option.some.injEq, Prod.mk.injEq] at h
    obtain ⟨hlen, rfl⟩ := h
    have h1 : ((t :: rest).take n)[1]? = rest.head? := by
      rw [List.getElem?_take_of_lt (by omega)]
      cases rest <;> rfl
    dsimp only
    rw [h1]
    generalize hk : (if rest.head?.any (·.kind == .colon) = true then 2 else 1) = k at hname hlen
    have hkn : k < n := by omega
    refine ⟨?_, nameTok, by rw [List.getElem?_take_of_lt hkn, hname], ?_, rfl⟩
    · rw [List.getElem?_take_of_lt (by omega)]
      simpa using hc
    · simp only [Bool.not_eq_true, Bool.and_eq_false_iff, bne_eq_false_iff_eq] at hkind
      exact hkind

/-- A piece of a selector as a query sees it: a token, or a pseudo with its colons, name and
arguments, which the query keeps or removes. -/
inductive QueryPiece where
  | token (t : Token)
  | pseudo (toks : List Token) (removed : Bool)

/-- The tokens of a piece. -/
def QueryPiece.tokens : QueryPiece → List Token
  | .token t => [t]
  | .pseudo toks _ => toks

/-- What a piece adds to the query built so far: its text, or for a removed pseudo a `*` where
the query so far ends where a compound selector starts. -/
def QueryPiece.emit (acc : String) : QueryPiece → String
  | .token t => acc ++ t.text
  | .pseudo toks false => acc ++ String.join (toks.map (·.text))
  | .pseudo _ true => if needsUniversal acc then acc.push '*' else acc

/-- Tokens cut into the pieces a query sees. -/
def queryPieces (l : List Token) : List QueryPiece :=
  match l with
  | [] => []
  | t :: rest =>
    match _hspan : pseudoSpan (t :: rest) with
    | none => .token t :: queryPieces rest
    | some (n, removed) =>
      .pseudo ((t :: rest).take n) removed :: queryPieces ((t :: rest).drop n)
termination_by l.length
decreasing_by
  · simp
  · have := two_le_of_pseudoSpan _hspan
    simp only [List.length_drop, List.length_cons]
    omega

theorem queryPieces_of_pseudoSpan_none {t : Token} {rest : List Token}
    (h : pseudoSpan (t :: rest) = none) :
    queryPieces (t :: rest) = .token t :: queryPieces rest := by
  rw [queryPieces]
  split <;> simp_all

theorem queryPieces_of_pseudoSpan_some {t : Token} {rest : List Token} {n : Nat} {removed : Bool}
    (h : pseudoSpan (t :: rest) = some (n, removed)) :
    queryPieces (t :: rest) =
      .pseudo ((t :: rest).take n) removed :: queryPieces ((t :: rest).drop n) := by
  rw [queryPieces]
  split <;> simp_all

/-- The pieces of some tokens hold those tokens, in order. -/
theorem flatMap_tokens_queryPieces (l : List Token) :
    (queryPieces l).flatMap QueryPiece.tokens = l := by
  cases l with
  | nil => simp [queryPieces]
  | cons t rest =>
    cases hp : pseudoSpan (t :: rest) with
    | none =>
      rw [queryPieces_of_pseudoSpan_none hp, List.flatMap_cons, flatMap_tokens_queryPieces rest]
      rfl
    | some p =>
      obtain ⟨n, removed⟩ := p
      rw [queryPieces_of_pseudoSpan_some hp, List.flatMap_cons, flatMap_tokens_queryPieces]
      exact List.take_append_drop n (t :: rest)
termination_by l.length
decreasing_by
  · simp
  · have := two_le_of_pseudoSpan hp
    simp only [List.length_drop, List.length_cons]
    omega

/-- Every pseudo piece is a pseudo found at the front of some tokens. -/
theorem exists_pseudoSpan_of_mem_queryPieces {l toks : List Token} {removed : Bool}
    (h : QueryPiece.pseudo toks removed ∈ queryPieces l) :
    ∃ l' n, pseudoSpan l' = some (n, removed) ∧ toks = l'.take n := by
  cases l with
  | nil => simp [queryPieces] at h
  | cons t rest =>
    cases hp : pseudoSpan (t :: rest) with
    | none =>
      rw [queryPieces_of_pseudoSpan_none hp] at h
      simp only [List.mem_cons, reduceCtorEq, false_or] at h
      exact exists_pseudoSpan_of_mem_queryPieces h
    | some p =>
      obtain ⟨n, r⟩ := p
      rw [queryPieces_of_pseudoSpan_some hp] at h
      rcases List.mem_cons.1 h with h | h
      · cases h
        exact ⟨_, n, hp, rfl⟩
      · exact exists_pseudoSpan_of_mem_queryPieces h
termination_by l.length
decreasing_by
  all_goals subst l
  · simp
  · have := two_le_of_pseudoSpan hp
    simp only [List.length_drop, List.length_cons]
    omega

/-! ### Building the query -/

theorem closingParen_go (toks : List Token) (l : List Token) :
    ∀ (i : Nat) (depth : Int), i + l.length = toks.length →
      closingParen.go toks i depth l = i + spanLength depth l - 1 := by
  induction l with
  | nil =>
    intro i depth h
    simp only [List.length_nil, Nat.add_zero] at h
    simp [closingParen.go, spanLength, h]
  | cons t rest ih =>
    intro i depth h
    have h' : i + 1 + rest.length = toks.length := by simp at h; omega
    cases hk : t.kind <;> simp [closingParen.go, spanLength, hk, ih _ _ h']
    split <;> omega

/-- A function token is closed by the `)` that ends its span. -/
theorem closingParen_function {L : List Token} {j : Nat} (hj : j < L.length)
    (hf : L[j].kind = .function) :
    closingParen L j + 1 = j + 1 + spanLength 1 (L.drop (j + 1)) := by
  rw [closingParen, closingParen_go L _ _ _ (by simp; omega), List.drop_eq_getElem_cons hj]
  simp [spanLength, hf]
  omega

/-- One round of building a query takes the piece at the front of the tokens left. -/
theorem queryLoop_succ (L : List Token) (fuel i : Nat) (acc : String) {t : Token}
    {rest : List Token} (hl : L.drop i = t :: rest) :
    queryLoop L.toArray (fuel + 1) i acc =
      match pseudoSpan (t :: rest) with
      | none => queryLoop L.toArray fuel (i + 1) (acc ++ t.text)
      | some (n, removed) =>
        queryLoop L.toArray fuel (i + n)
          ((QueryPiece.pseudo ((t :: rest).take n) removed).emit acc) := by
  have hi : i < L.length := by
    have hlen := congrArg List.length hl
    simp only [List.length_drop, List.length_cons] at hlen
    omega
  have hget : ∀ m, L[i + m]? = (t :: rest)[m]? := fun m => by rw [← hl, List.getElem?_drop]
  have ht : L[i] = t := by
    have h0 := hget 0
    rw [Nat.add_zero, List.getElem?_eq_getElem hi] at h0
    simpa using h0
  have hnext : L.toArray[i + 1]? = rest.head? := by
    rw [List.getElem?_toArray, hget 1]
    cases rest <;> rfl
  rw [queryLoop, dif_pos (by simpa using hi)]
  simp only [List.getElem_toArray, ht, pseudoSpan, hnext]
  by_cases hc : t.kind ≠ .colon
  · simp [hc]
  rw [Decidable.not_not] at hc
  simp only [hc, bne_self_eq_false, Bool.false_eq_true, if_false]
  generalize rest.head?.any (·.kind == .colon) = element
  have hj : (if element = true then i + 2 else i + 1) = i + if element = true then 2 else 1 := by
    split <;> rfl
  rw [hj, List.getElem?_toArray, hget]
  generalize hk : (if element = true then 2 else 1) = k
  cases hname : (t :: rest)[k]? with
  | none => rfl
  | some nameTok =>
    simp only
    by_cases hn : (nameTok.kind != .ident && nameTok.kind != .function) = true
    · simp only [hn, if_true]
    simp only [hn, if_false, Bool.false_eq_true]
    have hik : i + k < L.length := by
      have h' := hget k
      rw [hname] at h'
      exact (List.getElem?_eq_some_iff.1 h').1
    have hdrop : (t :: rest).drop (k + 1) = L.drop (i + k + 1) := by
      rw [← hl, List.drop_drop]
      congr 1
    -- the pseudo ends at the name, or at the parenthesis closing its function
    have hstop :
        (if (nameTok.kind == .function) = true then closingParen L (i + k) else i + k) + 1 =
        i + (k + 1 + if (nameTok.kind == .function) = true then
          spanLength 1 ((t :: rest).drop (k + 1)) else 0) := by
      split
      · rename_i hf
        have hLk : L[i + k] = nameTok := by
          have h' := hget k
          rw [hname, List.getElem?_eq_getElem hik, Option.some.injEq] at h'
          exact h'
        rw [closingParen_function hik (by simpa [hLk] using hf), hdrop]
        omega
      · omega
    rw [hstop, Nat.add_sub_cancel_left, hl]
    -- the loop keeps the pseudo exactly when it is not one to remove
    have hkeep : (!element && !legacyPseudoElements.contains (pseudoName nameTok) &&
        !ignoredPseudoClasses.contains (pseudoName nameTok) &&
        !(pseudoName nameTok).startsWith "-") = !removesPseudo element (pseudoName nameTok) := by
      simp [removesPseudo, Bool.not_or, Bool.and_assoc]
    have hnm : lower (if nameTok.text.endsWith "(" = true then
        String.ofList nameTok.text.toList.dropLast else nameTok.text) = pseudoName nameTok := rfl
    rw [hnm, hkeep]
    cases removesPseudo element (pseudoName nameTok) <;> rfl

/-- Building a query from token `i` on, with fuel for every token left, goes through the pieces
of the tokens left in turn. -/
theorem queryLoop_eq_foldl (L : List Token) (fuel : Nat) :
    ∀ (i : Nat) (acc : String), L.length - i ≤ fuel →
      queryLoop L.toArray fuel i acc = (queryPieces (L.drop i)).foldl QueryPiece.emit acc := by
  induction fuel with
  | zero =>
    intro i acc h
    rw [List.drop_eq_nil_of_le (by omega), queryLoop, queryPieces, List.foldl_nil]
  | succ fuel ih =>
    intro i acc h
    cases hl : L.drop i with
    | nil =>
      have hi : ¬ i < L.toArray.size := by simpa using hl
      rw [queryLoop, dif_neg hi, queryPieces, List.foldl_nil]
    | cons t rest =>
      have hlen := congrArg List.length hl
      simp only [List.length_drop, List.length_cons] at hlen
      rw [queryLoop_succ L fuel i acc hl]
      cases hp : pseudoSpan (t :: rest) with
      | none =>
        have hrest : L.drop (i + 1) = rest := by
          rw [← List.drop_drop, hl, List.drop_one, List.tail_cons]
        dsimp only
        rw [queryPieces_of_pseudoSpan_none hp, List.foldl_cons, ih (i + 1) _ (by omega), hrest]
        rfl
      | some p =>
        obtain ⟨n, removed⟩ := p
        have hn := two_le_of_pseudoSpan hp
        have hrest : L.drop (i + n) = (t :: rest).drop n := by rw [← List.drop_drop, hl]
        dsimp only
        rw [queryPieces_of_pseudoSpan_some hp, List.foldl_cons, ih (i + n) _ (by omega), hrest]

/-- The pieces of a selector's tokens. -/
def selectorPieces (s : String) : List QueryPiece :=
  queryPieces ((tokenize s).map (·.token))

theorem queryFor_eq_foldl (s : String) :
    queryFor s =
      let q := trimSpace ((selectorPieces s).foldl QueryPiece.emit "")
      if q.isEmpty then "*" else q := by
  simp only [queryFor]
  rw [queryLoop_eq_foldl _ _ 0 "" (by simp), List.drop_zero]
  rfl

/-- **How a selector becomes a query.** The tokens of a selector fall into pieces that spell
it. A pseudo piece starts with a colon, has a second one when it is a pseudo-element, then a name
that is an identifier or a function, and is removed as `removesPseudo` says. The query goes
through the pieces in turn, copying each token and each pseudo it keeps, and writing `*` for a
pseudo it removes exactly when `needsUniversal` holds of the query so far: it is empty or ends in
a space, tab, line feed, `>`, `+`, `~`, `,` or `(`. Trimmed of outer blanks that is the query, or
`*` when nothing is left, so a query is never empty. -/
theorem queryFor_pieces (s : String) :
    String.join (((selectorPieces s).flatMap QueryPiece.tokens).map (·.text)) = s ∧
      (∀ toks removed, QueryPiece.pseudo toks removed ∈ selectorPieces s →
        let element := toks[1]?.any (·.kind == .colon)
        toks[0]?.map (·.kind) = some .colon ∧
          ∃ nameTok, toks[if element then 2 else 1]? = some nameTok ∧
            (nameTok.kind = .ident ∨ nameTok.kind = .function) ∧
            removed = removesPseudo element (pseudoName nameTok)) ∧
      queryFor s = (let q := trimSpace ((selectorPieces s).foldl QueryPiece.emit "")
        if q.isEmpty then "*" else q) ∧
      queryFor s ≠ "" := by
  refine ⟨?_, fun toks removed h => ?_, queryFor_eq_foldl s, ?_⟩
  · rw [selectorPieces, flatMap_tokens_queryPieces, List.map_map]
    exact join_tokenize s
  · obtain ⟨l, n, hspan, rfl⟩ := exists_pseudoSpan_of_mem_queryPieces h
    exact pseudoSpan_shape hspan
  · rw [queryFor_eq_foldl]
    dsimp only
    split
    · simp
    · rename_i hne
      intro h
      rw [h] at hne
      exact hne rfl

/-- A pseudo removed after a carriage return leaves no `*`, as it does after a space: the query
of `a\r:hover` selects the element `a` itself. -/
theorem queryFor_no_universal_after_carriage_return :
    queryFor "a\r:hover" = "a" ∧ queryFor "a :hover" = "a *" := by
  decide +kernel

end CriticalCss.Probe
