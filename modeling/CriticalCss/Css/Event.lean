import CriticalCss.Css.Lexer

/-!
# Reading a style sheet as a stream of events

The tokens of a style sheet are read into a stream of events: a comment, an
at-rule with or without a block, the start and end of a block, a selector
group, a declaration, or an error with its byte offset. The reader keeps the
stack of open blocks, a nesting level of brackets shared by all of them, and
whether a closing brace it has seen is still to end the enclosing block.

Errors do not stop the reader: after an error in a declaration it skips to the
next `;` or `}` of its level, and after an error in a selector it starts over
at the next token.

## Main definitions

* `Event`: one step of reading.
* `Reader`: the reader's state.
* `Reader.next`: reads one event.
* `events`: all events of a text, up to the end of the input.
-/

namespace CriticalCss.Css

/-- What the innermost open block holds. -/
inductive Block where
  /-- The top level: rules and at-rules; comments are reported. -/
  | sheet
  /-- A block of rules, as in `@media`, `@supports`, `@document`, `@keyframes` and `@layer`. -/
  | rules
  /-- A block of descriptors, as in `@font-face` and `@page`. -/
  | descriptors
  /-- The block of an unknown at-rule: its tokens are passed over. -/
  | skipped
  /-- The declarations of a style rule. -/
  | style
deriving DecidableEq, Repr

/-- One step of reading a style sheet. -/
inductive Event where
  | comment (text : String)
  /-- An at-rule without a block: its lower-case name with `@`, and its prelude. -/
  | atRule (name : String) (prelude : List Token)
  | beginAtRule (name : String) (prelude : List Token)
  | endAtRule
  /-- The tokens of a selector that a comma ends. -/
  | selectors (parts : List Token)
  | beginRule (parts : List Token)
  | endRule
  /-- A declaration: its lower-case property and its value tokens. -/
  | declaration (name : String) (value : List Token)
  /-- A custom property: its name as written and its value text as written. -/
  | customProperty (name : String) (value : String)
  /-- A token that carries nothing for the tree, such as `<!--` or a token in
  the block of an unknown at-rule. -/
  | skip (token : Token)
  /-- A problem with its byte offset, and the tokens of the broken construct
  that are passed on as they are: a broken declaration up to its `;`, or a
  selector up to the offending token. -/
  | error (message : String) (offset : Nat) (written : List Token)
  /-- The input is exhausted. -/
  | finish
deriving Repr, DecidableEq

/-- ASCII lower case. -/
def asciiLower (s : String) : String :=
  s.map Char.toLower

/-- The block kind an at-rule opens, by its name without `@` and with one
vendor prefix `-x-` removed. -/
def blockOf (name : String) : Block :=
  let body := name.toList.drop 1
  let base := match body with
    | '-' :: rest =>
      match rest.dropWhile (· != '-') with
      | '-' :: tail => tail
      | _ => body
    | _ => body
  match String.ofList base with
  | "font-face" | "page" => .descriptors
  | "document" | "keyframes" | "media" | "supports" | "layer" => .rules
  | _ => .skipped

/-- The offset an error at a token is reported at: the start of the token, or
its end when it is a closing bracket; the end of the text when the input is
exhausted. -/
def errorOffset (tok : Option Located) (size : Nat) : Nat :=
  match tok with
  | none => size
  | some l => if l.token.kind.closes then l.stop else l.stop - l.token.text.utf8ByteSize

/-- The next token that is not a blank or a comment, whether blanks were
passed, and the tokens after it. With `keepComments` a comment is returned as a
token. -/
def popToken (keepComments : Bool) : List Located → Option Located × Bool × List Located
  | [] => (none, false, [])
  | l :: ls =>
    match l.token.kind with
    | .whitespace =>
      let (t, _, r) := popToken keepComments ls
      (t, true, r)
    | .comment =>
      if keepComments then (some l, false, ls)
      else popToken keepComments ls
    | _ => (some l, false, ls)

/-- A step of a construct that reads tokens one at a time. -/
inductive Step (σ α : Type) where
  | more (s : σ)
  | done (a : α)

/-- Feeds the tokens that are not blanks or comments to `step`, telling it
whether blanks, and whether comments, came right before each, until `step` is
done; at the end of the input `atEnd` gives the result. Returns the result and
the tokens after the last one read. -/
def feed {σ α : Type} (step : σ → Located → Bool → Bool → Step σ α) (atEnd : σ → α) :
    σ → Bool → Bool → List Located → α × List Located
  | s, _, _, [] => (atEnd s, [])
  | s, b, c, l :: ls =>
    match l.token.kind with
    | .whitespace => feed step atEnd s true c ls
    | .comment => feed step atEnd s b true ls
    | _ =>
      match step s l b c with
      | .more s' => feed step atEnd s' false false ls
      | .done a => (a, ls)

/-- Runs one step on a token already read, then feeds the rest. -/
def feedFrom {σ α : Type} (step : σ → Located → Bool → Bool → Step σ α) (atEnd : σ → α)
    (s : σ) (first : Option Located) (blank : Bool) (toks : List Located) : α × List Located :=
  match first with
  | none => (atEnd s, toks)
  | some l =>
    match step s l blank false with
    | .more s' => feed step atEnd s' false false toks
    | .done a => (a, toks)

/-- The nesting level after a token. -/
def levelAfter (level : Int) (k : TokenKind) : Int :=
  if k.opens then level + 1 else if k.closes then level - 1 else level

/-- Whether a token is `;` or `}`. -/
def endsDeclaration (k : TokenKind) : Bool :=
  k == .semicolon || k == .rightBrace

/-- The outcome of a construct: the event, the nesting level after it, a block
it opens, and whether a closing brace ended it. -/
structure Outcome where
  event : Event
  level : Int
  opens : Option Block := none
  pendingEnd : Bool := false

/-! ## Selectors -/

/-- The state of reading a selector: nesting level, whether blanks are dropped
before the next token, whether inside an attribute selector, and the tokens
kept. -/
structure SelectorState where
  level : Int
  skipBlank : Bool := true
  inAttribute : Bool := false
  kept : Array Token := #[]

/-- One token of a selector. A `{` of level zero begins the rule, a comma ends
a selector of the group, and a closing bracket of level zero is an error.
Blanks around combinators are dropped, and inside attribute selectors. -/
def selectorStep (s : SelectorState) (l : Located) (blank _comment : Bool) :
    Step SelectorState Outcome :=
  let k := l.token.kind
  let text := l.token.text
  if k == .leftBrace && s.level == 0 then
    .done { event := .beginRule s.kept.toList, level := s.level, opens := some .style }
  else if k.closes && s.level == 0 then
    .done { event := .error "unexpected ending in qualified rule" l.stop s.kept.toList, level := s.level }
  else
    let level := levelAfter s.level k
    if text == "," then
      .done { event := .selectors s.kept.toList, level }
    else
      let (skipBlank, kept) :=
        if text == ">" || text == "+" || text == "~" then (true, s.kept)
        else if blank && !s.skipBlank && !s.inAttribute then (s.skipBlank, s.kept.push blankToken)
        else (false, s.kept)
      let inAttribute :=
        if k == .leftBracket then true else if k == .rightBracket then false else s.inAttribute
      .more { level, skipBlank, inAttribute, kept := kept.push l.token }

/-- One token of a style rule nested in a block of declarations. The
selector is kept as written: a blank run before a token stays as one blank. A
`{` of level zero begins the rule. -/
def nestedSelectorStep (s : SelectorState) (l : Located) (blank _comment : Bool) :
    Step SelectorState Outcome :=
  let k := l.token.kind
  if k == .leftBrace && s.level == 0 then
    .done { event := .beginRule s.kept.toList, level := s.level, opens := some .style }
  else if k.closes && s.level == 0 then
    .done { event := .error "unexpected ending in qualified rule" l.stop s.kept.toList, level := s.level }
  else
    let kept := if blank then s.kept.push blankToken else s.kept
    .more { s with level := levelAfter s.level k, kept := kept.push l.token }

/-- A selector that runs to the end of the input is an error. -/
def selectorAtEnd (size : Nat) (s : SelectorState) : Outcome :=
  { event := .error "unexpected ending in qualified rule" size s.kept.toList, level := s.level }

/-! ## At-rules -/

/-- The state of reading an at-rule's prelude. -/
structure PreludeState where
  level : Int
  first : Bool := true
  skipBlank : Bool := false
  kept : Array Token := #[]

/-- One token of an at-rule's prelude. A `{` of level zero opens the block, a
`;` or `}` of level zero ends the at-rule. Blanks after `,`, `:` and `(` and
before `)` are dropped. -/
def preludeStep (name : String) (s : PreludeState) (l : Located) (blank _comment : Bool) :
    Step PreludeState Outcome :=
  let k := l.token.kind
  let text := l.token.text
  if k == .leftBrace && s.level == 0 then
    .done { event := .beginAtRule name s.kept.toList, level := s.level, opens := some (blockOf name) }
  else if endsDeclaration k && s.level == 0 then
    .done { event := .atRule name s.kept.toList, level := s.level, pendingEnd := k == .rightBrace }
  else
    let level := levelAfter s.level k
    let blank := if s.first && (k == .leftParen || k == .leftBracket) then false else blank
    let (skipBlank, kept) :=
      if text == "," || text == ":" then (true, s.kept)
      else if blank && !s.skipBlank && k != .rightParen then (s.skipBlank, s.kept.push blankToken)
      else (false, s.kept)
    let skipBlank := if k == .leftParen then true else skipBlank
    .more { level, first := false, skipBlank, kept := kept.push l.token }

/-! ## Declarations -/

/-- The state of skipping a broken declaration: the nesting level and the
tokens passed over, a blank run before a token kept as one blank. -/
structure SkipState where
  level : Int
  kept : Array Token

/-- One token of a broken declaration, skipped up to a `;` or `}` of level
zero; a `;` that ends it is kept. -/
def skipStep (message : String) (offset : Nat) (s : SkipState) (l : Located) (blank _comment : Bool) :
    Step SkipState Outcome :=
  let k := l.token.kind
  if endsDeclaration k && s.level == 0 then
    let kept := if k == .semicolon then s.kept.push l.token else s.kept
    .done { event := .error message offset kept.toList, level := s.level, pendingEnd := k == .rightBrace }
  else
    let kept := if blank then s.kept.push blankToken else s.kept
    .more { level := levelAfter s.level k, kept := kept.push l.token }

/-- Skips a broken declaration from its offending token on, reporting the
error with the tokens read before it, `kept`, and those skipped. -/
def skipDeclaration (message : String) (offset : Nat) (level : Int) (kept : Array Token)
    (first : Option Located) (blank : Bool) (toks : List Located) : Outcome × List Located :=
  feedFrom (skipStep message offset)
    (fun s => { event := .error message offset s.kept.toList, level := s.level })
    { level, kept } first blank toks

/-- The state of reading a declaration's value. -/
structure ValueState where
  level : Int
  skipBlank : Bool := true
  kept : Array Token := #[]

/-- One token of a declaration's value: a `;` or `}` of level zero ends it, a
closing bracket of level zero breaks it. Blanks and comments between tokens
become one blank, except after `,`, `/`, `:`, `!` and `=`. -/
def valueStep (name : String) (s : ValueState) (l : Located) (blank comment : Bool) :
    Step ValueState (Option Outcome) :=
  let k := l.token.kind
  let text := l.token.text
  if endsDeclaration k && s.level == 0 then
    .done (some { event := .declaration name s.kept.toList, level := s.level,
                  pendingEnd := k == .rightBrace })
  else if k.closes && s.level == 0 then .done none
  else
    let level := levelAfter s.level k
    let (skipBlank, kept) :=
      if text == "," || text == "/" || text == ":" || text == "!" || text == "=" then (true, s.kept)
      else if (blank || comment) && !s.skipBlank then (s.skipBlank, s.kept.push blankToken)
      else (false, s.kept)
    .more { level, skipBlank, kept := kept.push l.token }

/-- The raw text of a custom property's value, up to a `;` or `}` of level
zero, blanks and comments included. -/
def rawValue (level : Int) (acc : String) : List Located → String × Int × Bool × List Located
  | [] => (acc, level, false, [])
  | l :: ls =>
    let k := l.token.kind
    if endsDeclaration k && level == 0 then (acc, level, k == .rightBrace, ls)
    else rawValue (levelAfter level k) (acc ++ l.token.text) ls

/-- The next token that is not `;`, a blank or a comment, whether blanks
came after the last `;` before it, and the tokens after it. -/
def skipSemicolons (blank : Bool) : List Located → Option Located × Bool × List Located
  | [] => (none, false, [])
  | l :: ls =>
    match l.token.kind with
    | .whitespace => skipSemicolons true ls
    | .comment => skipSemicolons blank ls
    | .semicolon => skipSemicolons false ls
    | _ => (some l, blank, ls)

/-- The current token, with blanks before it or not, with the `;` tokens from
it on passed over. -/
def passSemicolons (cur : Option Located) (blank : Bool) (toks : List Located) :
    Option Located × Bool × List Located :=
  match cur with
  | some l => if l.token.kind == .semicolon then skipSemicolons false toks else (cur, blank, toks)
  | none => (none, blank, toks)

/-- Whether a `{` of level zero comes before the `;` or `}` that would end a
declaration: the tokens then form a nested style rule. -/
def opensRuleAhead (level : Nat) : List Located → Bool
  | [] => false
  | l :: ls =>
    match l.token.kind with
    | .leftBrace => level == 0 || opensRuleAhead (level + 1) ls
    | .semicolon => level != 0 && opensRuleAhead level ls
    | .rightBrace => level != 0 && opensRuleAhead (level - 1) ls
    | k =>
      if k.opens then opensRuleAhead (level + 1) ls
      else if k.closes then level != 0 && opensRuleAhead (level - 1) ls
      else opensRuleAhead level ls

/-! ## The reader -/

/-- The state of the reader. -/
structure Reader where
  /-- The tokens not read yet. -/
  rest : List Located
  /-- The byte length of the text: the offset of its end. -/
  size : Nat
  /-- The open blocks, innermost first; the sheet is at the bottom. -/
  blocks : List Block := [.sheet]
  /-- The nesting level of brackets, shared by all blocks. -/
  level : Int := 0
  /-- A closing brace ended a construct and is still to end its block. -/
  pendingEnd : Bool := false

namespace Reader

/-- The byte offset of the first token not read yet. -/
def offset (r : Reader) : Nat :=
  match r.rest with
  | l :: _ => l.stop - l.token.text.utf8ByteSize
  | [] => r.size

/-- The reader after a construct that read up to `toks`. -/
def apply (r : Reader) (o : Outcome) (toks : List Located) : Event × Reader :=
  (o.event, { r with
    rest := toks
    level := o.level
    blocks := match o.opens with
      | some b => b :: r.blocks
      | none => r.blocks
    pendingEnd := o.pendingEnd })

/-- The reader with its innermost block closed. -/
def close (r : Reader) (e : Event) : Event × Reader :=
  (e, { r with blocks := r.blocks.tail })

/-- A selector, or a group of them up to a comma, from its first token on. -/
def qualifiedRule (r : Reader) (first : Located) : Event × Reader :=
  let (o, toks) := feedFrom selectorStep (selectorAtEnd r.size) { level := r.level }
    (some first) false r.rest
  r.apply o toks

/-- A style rule nested in a block of declarations, from its first token on. -/
def nestedRule (r : Reader) (first : Located) : Event × Reader :=
  let (o, toks) := feed nestedSelectorStep (selectorAtEnd r.size)
    { level := r.level, kept := #[first.token] } false false r.rest
  r.apply o toks

/-- An at-rule from its keyword on: its prelude, then its block or its end. -/
def atRule (r : Reader) (keyword : Located) : Event × Reader :=
  let name := asciiLower keyword.token.text
  let (o, toks) := feed (preludeStep name)
    (fun s => { event := .atRule name s.kept.toList, level := s.level }) { level := r.level }
    false false r.rest
  r.apply o toks

/-- A declaration from its property name on. A missing colon, or a closing
bracket of level zero in the value, is an error; the rest of the declaration
is then skipped. The tokens passed on with the error are those of the value
read so far, then the name and a colon, then the skipped ones. -/
def declaration (r : Reader) (nameTok : Located) : Event × Reader :=
  let name := asciiLower nameTok.token.text
  let nameKept : Array Token := #[⟨nameTok.token.kind, name⟩]
  let (colon, blank, toks) := popToken false r.rest
  if colon.map (·.token.kind) != some .colon then
    -- a closing bracket other than a brace ends the declaration early
    let message := match colon with
      | some c =>
        if c.token.kind.closes && c.token.kind != .rightBrace then "unexpected ending in declaration"
        else "expected colon in declaration"
      | none => "expected colon in declaration"
    let (o, toks) := skipDeclaration message (errorOffset colon r.size) r.level nameKept colon blank toks
    r.apply o toks
  else
    let start : ValueState := { level := r.level }
    let rec go (s : ValueState) (b c : Bool) : List Located → Event × Reader
      | [] => r.apply { event := .declaration name s.kept.toList, level := s.level } []
      | l :: ls =>
        match l.token.kind with
        | .whitespace => go s true c ls
        | .comment => go s b true ls
        | _ =>
          match valueStep name s l b c with
          | .more s' => go s' false false ls
          | .done (some o) => r.apply o ls
          | .done none =>
            let (o, toks) := skipDeclaration "unexpected ending in declaration"
              (errorOffset (some l) r.size) s.level (s.kept ++ nameKept.push colonToken) (some l) b ls
            r.apply o toks
    go start false false toks

/-- A custom property from its name on: a colon, then the raw value. -/
def customProperty (r : Reader) (nameTok : Located) : Event × Reader :=
  let (colon, _, toks) := popToken false r.rest
  if colon.map (·.token.kind) != some .colon then
    let e := Event.error "expected colon in custom property" (errorOffset colon r.size) []
    r.apply { event := e, level := r.level } toks
  else
    let (value, level, pendingEnd, toks) := rawValue r.level "" toks
    r.apply { event := .customProperty nameTok.token.text value, level, pendingEnd } toks

/-- An item of a block of declarations from its first token on: a
declaration, a custom property, a nested at-rule, or a nested style rule when
a `{` comes before the end of the declaration. The legacy `*property`
form joins a leading `*` to the token after it. Any other token is an error,
and the rest of its declaration is skipped. -/
def declarationItem (r : Reader) (cur : Option Located) (blank : Bool) : Event × Reader :=
  let (cur, blank, toks) := passSemicolons cur blank r.rest
  let r := { r with rest := toks }
  let (cur, blank, r) : Option Located × Bool × Reader := match cur with
    | some l =>
      if l.token.kind == .delim && l.token.text == "*" then
        let (t, b, toks) := popToken false r.rest
        match t with
        | some m => (some ⟨⟨m.token.kind, "*" ++ m.token.text⟩, m.stop⟩, b, { r with rest := toks })
        | none => (none, b, { r with rest := toks })
      else (cur, blank, r)
    | none => (none, blank, r)
  match cur with
  | none => (.finish, r)
  | some l =>
    match l.token.kind with
    | .atKeyword => r.atRule l
    | .ident | .delim => if opensRuleAhead 0 r.rest then r.nestedRule l else r.declaration l
    | .customPropertyName => r.customProperty l
    | k =>
      let message := "unexpected token '" ++ l.token.text ++ "' in declaration"
      let offset := errorOffset (some l) r.size
      if k == .rightBrace then (.error message offset [], r)
      else
        let (o, toks) := skipDeclaration message offset r.level #[] (some l) blank r.rest
        r.apply o toks

/-- Reads one event. -/
def next (r : Reader) : Event × Reader :=
  let (cur, blank, r) : Option Located × Bool × Reader :=
    if r.pendingEnd then (some ⟨rightBraceToken, r.offset⟩, false, { r with pendingEnd := false })
    else
      let (t, b, toks) := popToken (r.blocks.length == 1) r.rest
      (t, b, { r with rest := toks })
  match r.blocks with
  | .rules :: _ =>
    match cur with
    | none => r.close .endAtRule
    | some l =>
      match l.token.kind with
      | .rightBrace => r.close .endAtRule
      | .atKeyword => r.atRule l
      | _ => r.qualifiedRule l
  | .descriptors :: _ =>
    let (cur, blank, toks) := passSemicolons cur blank r.rest
    let r := { r with rest := toks }
    match cur with
    | none => r.close .endAtRule
    | some l =>
      if l.token.kind == .rightBrace then r.close .endAtRule else r.declarationItem cur blank
  | .style :: _ =>
    let (cur, blank, toks) := passSemicolons cur blank r.rest
    let r := { r with rest := toks }
    match cur with
    | none => r.close .endRule
    | some l =>
      if l.token.kind == .rightBrace then r.close .endRule else r.declarationItem cur blank
  | .skipped :: _ =>
    match cur with
    | none => r.close .endAtRule
    | some l =>
      if l.token.kind == .rightBrace && r.level == 0 then r.close .endAtRule
      else (.skip l.token, { r with level := levelAfter r.level l.token.kind })
  | _ =>
    match cur with
    | none => (.finish, r)
    | some l =>
      match l.token.kind with
      | .cdo | .cdc => (.skip l.token, r)
      | .atKeyword => r.atRule l
      | .comment => (.comment l.token.text, r)
      | .customPropertyName => r.customProperty l
      | _ => r.qualifiedRule l

end Reader

/-- Reads events until the input is exhausted, for at most `fuel` events. -/
def eventsFrom : Nat → Reader → List Event
  | 0, _ => []
  | n + 1, r =>
    let (e, r') := r.next
    match e with
    | .finish => [.finish]
    | _ => e :: eventsFrom n r'

/-- The events of a style sheet, ending with `finish`. Each event reads a
token, ends a block at the end of the input, or takes up a closing brace read
before, so three events per token and one more suffice. -/
def events (s : String) : List Event :=
  let toks := tokenize s
  eventsFrom (3 * toks.length + 3) { rest := toks, size := s.utf8ByteSize }

end CriticalCss.Css
