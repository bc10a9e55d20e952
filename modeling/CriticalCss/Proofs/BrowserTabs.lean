import CriticalCss.Probe.Browser
import CriticalCss.Proofs.PureRun
import Mathlib.Data.List.Forall2

/-!
# The tab state machine of the browser probe

The browser probe keeps a tab for each page it is asked about. The first call
on a page opens its tab: the page is navigated to, once, and a failure to open
it is kept in the tab and in the probe's failure tracker. Every later call on
the page answers that failure and leaves the browser alone. A call in a
viewport first sets the tab's window size, only when it differs from the size
last set, and records the new size only when the browser lets it through.
Cleaning up closes the tabs; after it a call on a page answers that the probe
is closed, and a second cleanup does nothing.

`probe_tab_machine` states all of this for every sequence of calls on a new
probe. The invariant that carries it is `Consistent`; each call keeps it
(`Consistent.call`), so every run does (`Consistent.runCalls`).

## The clause it costs

A browser may leave a navigation, or the script that waits for a page to load,
unanswered until the load timeout; that fails the page. An unanswered request
of any other kind ends the whole operation, as a cancellation does, and leaves
the tab half set up. So the browser is taken to answer every other request
(`Devtools.AnswersBeyondLoads`), and each call is made with no deadline of its
own (`Call.run`).

## Observing the browser

The requests are observed through `Devtools.recording`, the same browser
keeping a log of what it is sent: the pages navigated to are read off the log.
-/

namespace CriticalCss.Probe

variable {σ : Type}

/-- The browser `dt`, keeping a log of the requests it is sent. -/
def Devtools.recording (dt : Devtools σ) : Devtools (σ × List Request) where
  answer w r := (((dt.answer w.1 r).1, w.2 ++ [r]), (dt.answer w.1 r).2)
  listens w := dt.listens w.1
  launch w bin := (((dt.launch w.1 bin).1, w.2), (dt.launch w.1 bin).2)

/-- The address a request sends a tab to, if it is a navigation. -/
def Request.navigation? : Request → Option String
  | .navigate _ url => some url
  | _ => none

/-- Whether a request neither sends a tab to a page nor sets a window size. -/
def Request.quiet : Request → Bool
  | .navigate .. | .setViewport .. => false
  | _ => true

/-- Whether a browser may leave a request unanswered until the load timeout: a navigation, or the
script that waits for a page to load. -/
def Request.loads : Request → Bool
  | .navigate .. | .run _ .load _ => true
  | _ => false

/-- Whether an answer lets a request through: it is neither a refusal nor none at all. -/
def Answer.accepted : Answer → Bool
  | .refused .. | .silent => false
  | _ => true

/-- A browser that answers every request but a navigation or a page's load script, which may run
into the load timeout. With no deadline of their own, operations on it are never cancelled. -/
def Devtools.AnswersBeyondLoads (dt : Devtools σ) : Prop :=
  ∀ w r, (dt.answer w r).2 = .silent → r.loads = true

theorem Request.navigation?_eq_none_of_quiet {r : Request} (h : r.quiet = true) : r.navigation? = none := by
  cases r <;> simp_all [Request.quiet, Request.navigation?]

/-! ## Steps that keep the probe's pages

Most steps of an operation send requests of one kind and leave the tabs and the
tracker alone (`Keeps`); `Framed` says so of a step from every state, so that
the steps of a `do` block compose (`Framed.bind`). -/

/-- A step of an operation with no deadline that sends requests `q` allows, at most `k` of them
navigations, and keeps the probe open or closed and its settings. -/
structure Moves (q : Request → Prop) (k : Nat) (s t : Browsing (σ × List Request)) : Prop where
  closed : t.probe.closed = s.probe.closed
  settings : t.probe.settings = s.probe.settings
  deadline : t.deadline = none
  expired : t.expired = false
  sent : ∃ L, t.world.2 = s.world.2 ++ L ∧ (∀ r ∈ L, q r) ∧ (L.filterMap Request.navigation?).length ≤ k

/-- A `Moves` step that keeps the tabs and the tracker as well. -/
structure Keeps (q : Request → Prop) (k : Nat) (s t : Browsing (σ × List Request)) : Prop
    extends Moves q k s t where
  tabs : t.probe.tabs = s.probe.tabs
  tracker : t.probe.tracker = s.probe.tracker

theorem Moves.trans {q : Request → Prop} {k k' : Nat} {s t u : Browsing (σ × List Request)}
    (h : Moves q k s t) (h' : Moves q k' t u) : Moves q (k + k') s u := by
  obtain ⟨L, hL, hq, hk⟩ := h.sent
  obtain ⟨L', hL', hq', hk'⟩ := h'.sent
  refine ⟨h'.closed.trans h.closed, h'.settings.trans h.settings, h'.deadline, h'.expired,
    L ++ L', by rw [hL', hL, List.append_assoc], ?_, ?_⟩
  · exact List.forall_mem_append.2 ⟨hq, hq'⟩
  · rw [List.filterMap_append, List.length_append]
    omega

/-- A step that changes nothing but the probe's bookkeeping of windows and the log host. -/
theorem Keeps.of_eq {q : Request → Prop} {k : Nat} {s t : Browsing (σ × List Request)}
    (hd : s.deadline = none) (he : s.expired = false) (hw : t.world = s.world) (hp : t.probe.tabs = s.probe.tabs)
    (htr : t.probe.tracker = s.probe.tracker) (hc : t.probe.closed = s.probe.closed)
    (hst : t.probe.settings = s.probe.settings) (hd' : t.deadline = s.deadline)
    (he' : t.expired = s.expired) : Keeps q k s t :=
  ⟨⟨hc, hst, hd'.trans hd, he'.trans he, [], by simp [hw], by simp, by simp⟩, hp, htr⟩

/-- A step from every state of an operation with no deadline that has not passed. -/
def Framed (q : Request → Prop) (k : Nat) {α : Type} (m : BrowseM (σ × List Request) α) : Prop :=
  ∀ s : Browsing (σ × List Request), s.deadline = none → s.expired = false → Keeps q k s (m.run s).2

section Framed

variable {q : Request → Prop} {k : Nat} {α β : Type}

theorem Framed.pure (a : α) : Framed q k (pure a : BrowseM (σ × List Request) α) :=
  fun _ hd he => Keeps.of_eq hd he rfl rfl rfl rfl rfl rfl rfl

theorem Framed.get : Framed q k (get : BrowseM (σ × List Request) _) :=
  fun _ hd he => Keeps.of_eq hd he rfl rfl rfl rfl rfl rfl rfl

theorem Framed.windows (f : List Nat → List Nat) :
    Framed q k (modifyProbe fun p => { p with windows := f p.windows } : BrowseM (σ × List Request) Unit) :=
  fun _ hd he => Keeps.of_eq hd he rfl rfl rfl rfl rfl rfl rfl

theorem Framed.note (level : CriticalCss.Log.Level) (message : String) (fields : List CriticalCss.Log.LogField) :
    Framed q k (note level message fields : BrowseM (σ × List Request) Unit) :=
  fun _ hd he => Keeps.of_eq hd he rfl rfl rfl rfl rfl rfl rfl

/-- Steps compose; the navigations of the first are counted against the whole. -/
theorem Framed.bind_quiet {m : BrowseM (σ × List Request) α} {f : α → BrowseM (σ × List Request) β}
    (hm : Framed q k m) (hf : ∀ a, Framed q 0 (f a)) : Framed q k (m >>= f) := by
  intro s hd he
  have h := hm s hd he
  have h' := hf (m.run s).1 _ h.deadline h.expired
  exact ⟨h.toMoves.trans h'.toMoves, h'.tabs.trans h.tabs, h'.tracker.trans h.tracker⟩

/-- Steps compose; the navigations of the second are counted against the whole. -/
theorem Framed.bind {m : BrowseM (σ × List Request) α} {f : α → BrowseM (σ × List Request) β}
    (hm : Framed q 0 m) (hf : ∀ a, Framed q k (f a)) : Framed q k (m >>= f) := by
  intro s hd he
  have h := hm s hd he
  have h' := hf (m.run s).1 _ h.deadline h.expired
  have hm := h.toMoves.trans h'.toMoves
  rw [Nat.zero_add] at hm
  exact ⟨hm, h'.tabs.trans h.tabs, h'.tracker.trans h.tracker⟩

theorem Framed.ite {c : Prop} [Decidable c] {a b : BrowseM (σ × List Request) α} (ha : Framed q k a)
    (hb : Framed q k b) : Framed q k (if c then a else b) := by
  split
  · exact ha
  · exact hb

end Framed

variable {dt : Devtools σ} {s s' s1 : Browsing (σ × List Request)}

/-! ## Requests

With no deadline, a request sent is logged and answered, and the operation goes
on (`send_run`). -/

/-- With no deadline, a request that cannot hang past the load timeout leaves the operation
running: sending it adds it to the log, and it goes through when the browser lets it. -/
theorem send_run (hdt : dt.AnswersBeyondLoads) {r : Request} {loading : Bool}
    (hl : r.loads = true → loading = true) (hd : s.deadline = none) :
    ∃ res : Except Failure Answer, (send dt.recording r loading).run s =
      (res, { s with world := ((dt.answer s.world.1 r).1, s.world.2 ++ [r]) }) ∧
      res.toBool = (dt.answer s.world.1 r).2.accepted := by
  have hs : (dt.answer s.world.1 r).2 = .silent → loading = true := fun h => hl (hdt _ _ h)
  simp only [send, Devtools.recording]
  cases h : (dt.answer s.world.1 r).2 with
  | silent =>
    simp [h, hd, hs h]
    refine ⟨_, rfl, ?_⟩
    rfl
  | _ =>
    simp [h]
    refine ⟨_, rfl, ?_⟩
    rfl

theorem send_framed (hdt : dt.AnswersBeyondLoads) {r : Request} {loading : Bool} {q : Request → Prop}
    {k : Nat} (hq : q r) (hk : (r.navigation?).toList.length ≤ k) (hl : r.loads = true → loading = true) :
    Framed q k (send dt.recording r loading) := by
  intro s hd he
  obtain ⟨res, hrun, -⟩ := send_run hdt hl hd
  rw [hrun]
  exact ⟨⟨rfl, rfl, hd, he, [r], rfl, by simpa using hq, by cases h : r.navigation? <;> simp_all⟩, rfl, rfl⟩

theorem sendAll_framed (hdt : dt.AnswersBeyondLoads) {q : Request → Prop} {rs : List Request}
    (h : ∀ r ∈ rs, q r ∧ r.navigation? = none ∧ r.loads = false) : Framed q 0 (sendAll dt.recording rs) := by
  induction rs with
  | nil => exact Framed.pure _
  | cons r rest ih =>
    obtain ⟨hq, hn, hl⟩ := h r List.mem_cons_self
    refine Framed.bind (send_framed hdt hq (by simp [hn]) (by simp [hl])) fun a => ?_
    split
    · exact Framed.pure _
    · exact ih fun r' hr' => h r' (List.mem_cons_of_mem _ hr')

/-- A new tab is set up without navigating anywhere. -/
theorem newTab_framed (hdt : dt.AnswersBeyondLoads) {q : Request → Prop}
    (hq : ∀ r, r.navigation? = none → q r) : Framed q 0 (newTab dt.recording) := by
  unfold newTab
  refine Framed.bind (send_framed hdt (hq _ rfl) (by simp [Request.navigation?]) (by simp [Request.loads]))
    fun a => ?_
  split
  · exact Framed.pure _
  · rename_i tab
    refine Framed.bind Framed.get fun st => ?_
    dsimp only
    refine Framed.bind (sendAll_framed hdt fun r hr => ?_) fun _ => by split <;> exact Framed.pure _
    -- the setup requests: attaching, the first window size, touch, the user agent, the stealth script
    have : r.navigation? = none ∧ r.loads = false := by
      simp only [List.mem_append, List.mem_cons, List.mem_nil_iff, or_false] at hr
      rcases hr with (rfl | rfl | rfl | rfl) | hr
      any_goals exact ⟨rfl, rfl⟩
      split at hr
      · rw [List.mem_singleton.1 hr]
        exact ⟨rfl, rfl⟩
      · cases hr
    exact ⟨hq r this.1, this⟩
  · exact Framed.pure _

/-- A script runs without navigating or setting a window size. -/
theorem runScript_framed (hdt : dt.AnswersBeyondLoads) {q : Request → Prop} (hq : ∀ r, r.quiet → q r)
    {tab : Nat} {script : Script} {pairs : List (String × String)} {loading : Bool}
    (hl : script = .load → loading = true) :
    Framed q 0 (runScript dt.recording tab script pairs loading) := by
  have hrun : Framed q 0 (send dt.recording (.run tab script pairs) loading) :=
    send_framed hdt (hq _ rfl) (by simp [Request.navigation?])
      fun h => hl (by cases script <;> simp_all [Request.loads])
  unfold runScript
  refine Framed.bind Framed.get fun p => ?_
  dsimp only
  split
  · refine Framed.bind (send_framed hdt (hq _ rfl) (by simp [Request.navigation?]) (by simp [Request.loads]))
      fun a => ?_
    split
    · exact Framed.pure _
    · exact Framed.bind (Framed.windows _) fun _ => Framed.bind hrun fun a => by split <;> exact Framed.pure _
  · exact Framed.bind hrun fun a => by split <;> exact Framed.pure _

/-- Sending a tab to a page is one navigation. -/
theorem navigate_framed (hdt : dt.AnswersBeyondLoads) {q : Request → Prop} (hq : ∀ r, r.quiet → q r)
    {tab : Nat} {target : String} (hnav : q (.navigate tab target)) :
    Framed q 1 (navigate dt.recording tab target) := by
  unfold navigate
  refine Framed.bind_quiet (send_framed hdt hnav (by simp [Request.navigation?]) fun _ => rfl) fun a => ?_
  split
  · exact Framed.pure _
  · split
    · exact Framed.pure _
    · refine Framed.bind (Framed.windows _) fun _ => ?_
      exact Framed.bind (runScript_framed hdt hq fun _ => rfl) fun a => by split <;> exact Framed.pure _
  · exact Framed.pure _

theorem dropTab_framed (hdt : dt.AnswersBeyondLoads) {q : Request → Prop} (hq : ∀ r, r.quiet → q r)
    {k : Nat} {tab : Nat} : Framed q k (dropTab dt.recording tab) :=
  Framed.bind (send_framed hdt (hq _ rfl) (by simp [Request.navigation?]) (by simp [Request.loads]))
    fun _ => Framed.pure _

/-- A step that reads the settings first may allow requests by them. -/
theorem Framed.settings_bind {q : BrowserSettings → Request → Prop} {k : Nat} {β : Type}
    {f : BrowserSettings → BrowseM (σ × List Request) β} (hf : ∀ st, Framed (q st) k (f st))
    (s : Browsing (σ × List Request)) (hd : s.deadline = none) (he : s.expired = false) :
    Keeps (q s.probe.settings) k s ((settings >>= f).run s).2 :=
  hf _ s hd he

/-- Whether a request, if it navigates, goes to the address of `page` with the query parameters
`params` added. -/
def NavigatesTo (page : String) (params : List (String × String)) (r : Request) : Prop :=
  ∀ u, r.navigation? = some u → withGetParameters page params = .ok u

/-- Opening a page navigates at most once, to the page's address with the configured query
parameters added. -/
theorem openPage_keeps (hdt : dt.AnswersBeyondLoads) (page : String)
    (hd : s.deadline = none) (he : s.expired = false) :
    Keeps (NavigatesTo page s.probe.settings.getParameters) 1 s ((openPage dt.recording page).run s).2 := by
  unfold openPage
  -- the query parameters are read from the settings, which no step changes
  refine @Framed.settings_bind σ (fun st => NavigatesTo page st.getParameters) 1 _ _ (fun st => ?_) s hd he
  have hquiet : ∀ r : Request, r.quiet → NavigatesTo page st.getParameters r := by
    intro r hr u hu
    rw [Request.navigation?_eq_none_of_quiet hr] at hu
    cases hu
  have hnav : ∀ r : Request, r.navigation? = none → NavigatesTo page st.getParameters r := by
    intro r hr u hu
    rw [hr] at hu
    cases hu
  have hdrop : ∀ {tab : Nat}, Framed (NavigatesTo page st.getParameters) 0 (dropTab dt.recording tab) :=
    dropTab_framed hdt hquiet
  split
  · exact Framed.pure _
  · rename_i target htarget
    refine Framed.bind (newTab_framed hdt hnav) fun a => ?_
    split
    · exact Framed.pure _
    · refine Framed.bind_quiet (navigate_framed hdt hquiet fun u hu => ?_) fun a => ?_
      · cases hu
        exact htarget
      split
      · exact Framed.bind hdrop fun _ => Framed.bind Framed.get fun _ => Framed.ite (Framed.pure _) (Framed.pure _)
      · refine Framed.bind (runScript_framed hdt hquiet nofun) fun a => ?_
        split
        · exact Framed.bind hdrop fun _ => Framed.pure _
        · exact Framed.ite (Framed.bind hdrop fun _ => Framed.pure _)
            (Framed.bind (Framed.note _ _ _) fun _ => Framed.pure _)

/-! ## The tab of a page

A page with a tab answers as the tab does; a page without one gets a new tab,
opened by at most one navigation to its address (`Opens`). A call then runs its
script there, setting the window size first when it changed (`Evaluates`). -/

/-- The tab of a page, if the probe has one. -/
def BrowserProbe.tabOf (p : BrowserProbe) (page : String) : Option Tab :=
  p.tabs.find? (·.page == page)

/-- What a call on the page of an opened tab answers: the failure of its opening, or the tab. -/
def Tab.answer (t : Tab) : Except Failure Tab :=
  match t.failure with
  | some f => .error f
  | none => .ok t

/-- A step that opens a page in a new tab `t`: the tab is added to the probe's tabs, opened, and
its failure, if any, is tracked. -/
structure Opens (t : Tab) (s s' : Browsing (σ × List Request)) : Prop
    extends Moves (NavigatesTo t.page s.probe.settings.getParameters) 1 s s' where
  tabs : s'.probe.tabs = s.probe.tabs ++ [t]
  opened : t.opened = true
  loaded : t.failure = none → t.id.isSome
  tracker : s'.probe.tracker = t.failure.elim s.probe.tracker (s.probe.tracker.track t.page)

theorem tabFor_closed {page : String} (h : s.probe.closed = true) :
    (tabFor dt.recording page).run s = (.error (.plain "browser probe is closed"), s) := by
  simp [tabFor, h]

/-- An opened page answers as its tab does, and nothing changes. -/
theorem tabFor_of_tabOf {page : String} {t : Tab}
    (hc : s.probe.closed = false) (ht : s.probe.tabOf page = some t) (ho : t.opened = true) :
    (tabFor dt.recording page).run s = (t.answer, s) := by
  simp only [BrowserProbe.tabOf] at ht
  have hany : ¬ ∀ x ∈ s.probe.tabs, ¬ x.page = page :=
    fun h => h t (List.mem_of_find?_eq_some ht) (by simpa using List.find?_some ht)
  simp [tabFor, hc, hany, ht, ho]
  cases h : t.failure <;> simp [Tab.answer, h]

/-- Setting the tab of a page that was just added changes that tab only. -/
theorem map_setTab_append {tabs : List Tab} {page : String} (hnone : ∀ x ∈ tabs, ¬ x.page = page)
    (g : Tab → Tab) :
    (tabs ++ [({ page } : Tab)]).map (fun t => if t.page = page then g t else t) = tabs ++ [g { page }] := by
  have h : ∀ x ∈ tabs, (if x.page = page then g x else x) = id x := fun x hx => by simp [hnone x hx]
  rw [List.map_append, List.map_congr_left h, List.map_id]
  simp

/-- A page the probe has no tab for is opened in a new tab. -/
theorem tabFor_new (hdt : dt.AnswersBeyondLoads) {page : String}
    (hc : s.probe.closed = false) (hn : s.probe.tabOf page = none) (hd : s.deadline = none)
    (he : s.expired = false) :
    ∃ t : Tab, t.page = page ∧ ((tabFor dt.recording page).run s).1 = t.answer ∧
      Opens t s ((tabFor dt.recording page).run s).2 := by
  have hnone : ∀ x ∈ s.probe.tabs, ¬ x.page = page := by simpa [BrowserProbe.tabOf] using hn
  have hfind : (s.probe.tabs ++ [({ page } : Tab)]).find? (·.page == page) = some { page } := by
    rw [List.find?_append, List.find?_eq_none.2 (by simpa using hnone)]
    simp
  -- the tab is added, then the page opened from there
  have hm := @openPage_keeps σ dt
    { s with probe := { s.probe with tabs := s.probe.tabs ++ [({ page } : Tab)], closed := false } } hdt page hd he
  rcases hop : (openPage dt.recording page).run
    { s with probe := { s.probe with tabs := s.probe.tabs ++ [({ page } : Tab)], closed := false } }
    with ⟨o, s2⟩
  rw [hop] at hm
  obtain ⟨⟨hc2, hst2, hd2, he2, L, hL, hq, hk⟩, htabs2, htr2⟩ := hm
  simp only at hc2 hst2 hd2 he2 htabs2 htr2 hL hq
  cases o with
  | error f =>
    refine ⟨{ page, opened := true, failure := some f }, rfl, ?_, ?_⟩
    · simp [tabFor, hc, eq_true hnone, modifyProbe, hfind, hop, he2, note, setTab]
      rfl
    · simp [tabFor, hc, eq_true hnone, modifyProbe, hfind, hop, he2, note, setTab]
      refine ⟨⟨hc2.trans hc.symm, hst2, hd2, rfl, L, hL, hq, hk⟩, ?_, rfl, nofun, ?_⟩
      · show List.map _ s2.probe.tabs = _
        rw [htabs2, map_setTab_append hnone]
      · show s2.probe.tracker.track page f = _
        rw [htr2]
        rfl
  | ok id =>
    refine ⟨{ page, id := some id, opened := true }, rfl, ?_, ?_⟩
    · simp [tabFor, hc, eq_true hnone, modifyProbe, hfind, hop, setTab]
      rfl
    · simp [tabFor, hc, eq_true hnone, modifyProbe, hfind, hop, setTab]
      refine ⟨⟨hc2.trans hc.symm, hst2, hd2, he2, L, hL, hq, hk⟩, ?_, rfl, fun _ => rfl, htr2⟩
      show List.map _ s2.probe.tabs = _
      rw [htabs2, map_setTab_append hnone]

theorem evalIn_of_tabFor_error {page : String} {f : Failure}
    (h : (tabFor dt.recording page).run s = (.error f, s1)) (vp : Option Viewport) (script : Script)
    (pairs : List (String × String)) :
    (evalIn dt.recording page vp script pairs).run s = (.error f, s1) := by
  simp [evalIn, h]

/-- A step of a known run continues from where it ends. -/
theorem run_bind_of_eq {α β : Type} {m : BrowseM (σ × List Request) α} {f : α → BrowseM (σ × List Request) β}
    {a : α} (h : m.run s = (a, s1)) : (m >>= f).run s = (f a).run s1 := by
  rw [StateT.run_bind, h]
  rfl

theorem get_run (s : Browsing (σ × List Request)) : (get : BrowseM (σ × List Request) _).run s = (s, s) :=
  rfl

theorem modifyProbe_run (f : BrowserProbe → BrowserProbe) (s : Browsing (σ × List Request)) :
    (modifyProbe f).run s = ((), { s with probe := f s.probe }) :=
  rfl

theorem setTab_run (page : String) (g : Tab → Tab) (s : Browsing (σ × List Request)) :
    (setTab page g).run s =
      ((), { s with probe := { s.probe with tabs := s.probe.tabs.map fun t => if t.page == page then g t else t } }) :=
  rfl

/-- The request that sets the window size of a tab. -/
def Tab.resize (t : Tab) (v : Viewport) : Request :=
  .setViewport (t.id.getD 0) v.width v.height

/-- The window size a call in viewport `vp` sets first: `vp`, when it differs from the last one
set. -/
def Tab.newViewport? (t : Tab) (vp : Option Viewport) : Option Viewport :=
  vp.filter (· != t.viewport)

/-- The window size a tab is left with by a call in viewport `vp` to a browser in state `w`: the
new one when the browser lets it through, the last one set otherwise. -/
def Tab.viewportAfter (dt : Devtools σ) (w : σ) (t : Tab) (vp : Option Viewport) : Viewport :=
  match t.newViewport? vp with
  | some v => if (dt.answer w (t.resize v)).2.accepted then v else t.viewport
  | none => t.viewport

/-- A step that runs a script in the open tab `t` of a page, in the viewport `vp` when one is
given: it sets the window size first exactly when `vp` differs from the last one set, records it
when the browser lets it through, and then neither navigates nor sets the window size again. -/
structure Evaluates (dt : Devtools σ) (t : Tab) (vp : Option Viewport) (s s' : Browsing (σ × List Request)) :
    Prop where
  closed : s'.probe.closed = s.probe.closed
  settings : s'.probe.settings = s.probe.settings
  deadline : s'.deadline = none
  expired : s'.expired = false
  tracker : s'.probe.tracker = s.probe.tracker
  sent : ∃ L, s'.world.2 = s.world.2 ++ (t.newViewport? vp).toList.map t.resize ++ L ∧ ∀ r ∈ L, r.quiet
  tabs : s'.probe.tabs = if t.viewportAfter dt s.world.1 vp = t.viewport then s.probe.tabs else
    s.probe.tabs.map fun u => if u.page = t.page then { u with viewport := t.viewportAfter dt s.world.1 vp } else u

/-- A `Keeps` step that sends only quiet requests runs a script without a new window size. -/
theorem Keeps.evaluates (t : Tab) (vp : Option Viewport)
    (h : Keeps (fun r => r.quiet = true) 0 s s') (hv : t.newViewport? vp = none) : Evaluates dt t vp s s' := by
  obtain ⟨L, hL, hq, -⟩ := h.sent
  refine ⟨h.closed, h.settings, h.deadline, h.expired, h.tracker, ⟨L, by simp [hL, hv], hq⟩, ?_⟩
  simp [Tab.viewportAfter, hv, h.tabs]

/-- Setting a new window size that the browser lets through, then running a script. -/
theorem Keeps.evaluates_resized {t : Tab} {v : Viewport}
    (hv : v ≠ t.viewport) (hacc : (dt.answer s.world.1 (t.resize v)).2.accepted = true)
    (h : Keeps (fun r => r.quiet = true) 0 { s with
      world := ((dt.answer s.world.1 (t.resize v)).1, s.world.2 ++ [t.resize v]),
      probe := { s.probe with
        tabs := s.probe.tabs.map fun u => if u.page == t.page then { u with viewport := v } else u } } s') :
    Evaluates dt t (some v) s s' := by
  have hnew : t.newViewport? (some v) = some v := by simp [Tab.newViewport?, hv]
  obtain ⟨L, hL, hq, -⟩ := h.sent
  refine ⟨h.closed, h.settings, h.deadline, h.expired, h.tracker, ⟨L, by simp [hL, hnew], hq⟩, ?_⟩
  rw [h.tabs]
  simp [Tab.viewportAfter, hnew, hacc, hv]

theorem evalIn_evaluates (hdt : dt.AnswersBeyondLoads) {page : String} {vp : Option Viewport} {script : Script}
    (hscript : script ≠ .load) {pairs : List (String × String)} {t : Tab}
    (h : (tabFor dt.recording page).run s = (.ok t, s1)) (hpage : t.page = page) (hd : s1.deadline = none)
    (he : s1.expired = false) :
    Evaluates dt t vp s1 ((evalIn dt.recording page vp script pairs).run s).2 := by
  subst hpage
  have hscript : script = .load → false = true := fun h => absurd h hscript
  rcases vp with _ | v
  case' none =>
    rw [evalIn, run_bind_of_eq h]
    dsimp only
    refine Keeps.evaluates t none (Framed.bind (runScript_framed hdt (fun _ h => h) hscript) (fun r => ?_) s1 hd he) rfl
  case' some =>
    rw [evalIn, run_bind_of_eq h]
    dsimp only
    by_cases hv : v = t.viewport
    case' pos =>
      rw [if_neg (by simp [hv])]
      refine Keeps.evaluates t (some v) (Framed.bind (runScript_framed hdt (fun _ h => h) hscript)
        (fun r => ?_) s1 hd he) (by simp [Tab.newViewport?, hv])
    case' neg =>
      rw [if_pos (by simpa using hv)]
      have hnew : t.newViewport? (some v) = some v := by simp [Tab.newViewport?, hv]
      obtain ⟨res, hsend, hres⟩ :=
        @send_run σ dt s1 hdt (.setViewport (t.id.getD 0) v.width v.height) false nofun hd
      rw [run_bind_of_eq hsend]
      cases res
      case' error f =>
        have hrej : (dt.answer s1.world.1 (t.resize v)).2.accepted = false := hres.symm
        exact ⟨rfl, rfl, hd, he, rfl, ⟨[], by simp [hnew, Tab.resize], by simp⟩,
          by simp [Tab.viewportAfter, hnew, hrej]⟩
      case' ok a =>
        have hacc : (dt.answer s1.world.1 (t.resize v)).2.accepted = true := hres.symm
        rw [run_bind_of_eq (setTab_run _ _ _)]
        refine Keeps.evaluates_resized hv hacc
          (Framed.bind (runScript_framed hdt (fun _ h => h) hscript) (fun r => ?_) _ hd he)
  all_goals
    split
    · exact Framed.bind Framed.get fun _ => Framed.pure _
    · exact Framed.pure _


theorem Framed.forIn {q : Request → Prop} {α β : Type} {f : α → β → BrowseM (σ × List Request) (ForInStep β)}
    (hf : ∀ a b, Framed q 0 (f a b)) (l : List α) : ∀ b : β, Framed q 0 (forIn l b f) := by
  induction l with
  | nil =>
    intro b
    rw [List.forIn_nil]
    exact Framed.pure b
  | cons a l ih =>
    intro b
    rw [List.forIn_cons]
    refine Framed.bind (hf a b) fun r => ?_
    split
    · exact Framed.pure _
    · exact ih _

theorem cleanup_closed (h : s.probe.closed = true) :
    (cleanup dt.recording).run s = (.ok (), s) := by
  simp [cleanup, h]

/-- Cleaning up an open probe closes it and forgets its tabs; it closes tabs and perhaps the browser,
and navigates nowhere. -/
theorem cleanup_open (hdt : dt.AnswersBeyondLoads) (hc : s.probe.closed = false)
    (hd : s.deadline = none) (he : s.expired = false) :
    Keeps (fun r => r.navigation? = none) 0
      { s with probe := { s.probe with closed := true, tabs := [] } } ((cleanup dt.recording).run s).2 := by
  have hq : ∀ r : Request, r.quiet → r.navigation? = none := fun _ h => Request.navigation?_eq_none_of_quiet h
  unfold cleanup
  rw [run_bind_of_eq (get_run s)]
  dsimp only
  rw [if_neg (by simp [hc]), run_bind_of_eq (modifyProbe_run _ s)]
  refine Framed.bind (Framed.forIn (fun t fs => ?_) _ _) (fun fs => ?_) _ hd he
  · split
    · exact Framed.bind (send_framed hdt (hq _ rfl) (by simp [Request.navigation?]) (by simp [Request.loads]))
        fun r => by split <;> exact Framed.pure _
    · exact Framed.pure _
  · have hnote : ∀ {α : Type} (a : α) (l m fields), Framed (fun r : Request => r.navigation? = none) 0
        ((note l m fields : BrowseM (σ × List Request) Unit) >>= fun _ => pure a) :=
      fun a _ _ _ => Framed.bind (Framed.note _ _ _) fun _ => Framed.pure a
    refine Framed.ite (Framed.bind (send_framed hdt (hq _ rfl) (by simp [Request.navigation?])
      (by simp [Request.loads])) fun r => ?_) (hnote _ _ _ _)
    split <;> exact hnote _ _ _ _


/-! ## Calls -/

/-- A call on the browser probe. -/
inductive Call where
  | includes (page : String)
  | matchAny (page : String) (selectors : List String)
  | matchAboveFold (page : String) (vp : Viewport) (selectors : List String)
  | cleanup

/-- The page a call asks about; none for a cleanup. -/
def Call.page? : Call → Option String
  | .includes page | .matchAny page _ | .matchAboveFold page _ _ => some page
  | .cleanup => none

/-- The viewport a call asks for, if any. -/
def Call.viewport? : Call → Option Viewport
  | .matchAboveFold _ vp _ => some vp
  | _ => none

/-- The failure an answer ends with, if any. -/
def answerFailure {α : Type} : Except Failure α → Option Failure
  | .error f => some f
  | .ok _ => none

/-- Makes a call as an operation of its own with no deadline: the failure it answers, if any. -/
def Call.run (dt : Devtools σ) (c : Call) : BrowseM σ (Option Failure) := do
  modify fun s => { s with deadline := none, expired := false }
  match c with
  | .includes page => return answerFailure (← dt.includes page)
  | .matchAny page sels => return answerFailure (← dt.matchAny page sels)
  | .matchAboveFold page vp sels => return answerFailure (← dt.matchAboveFold page vp sels)
  | .cleanup => return answerFailure (← CriticalCss.Probe.cleanup dt)

/-- Makes calls in turn. -/
def runCalls (dt : Devtools σ) (calls : List Call) : BrowseM σ (List (Option Failure)) :=
  calls.mapM (Call.run dt)

theorem Browsing.reset_eq (hd : s.deadline = none) (he : s.expired = false) :
    { s with deadline := none, expired := false } = s := by
  cases s
  simp_all

theorem reset_run (hd : s.deadline = none) (he : s.expired = false) :
    (modify fun s => { s with deadline := none, expired := false } : BrowseM (σ × List Request) Unit).run s =
      ((), s) := by
  show ((), { s with deadline := none, expired := false }) = ((), s)
  rw [Browsing.reset_eq hd he]

/-- A call on a page runs a script in it other than the load script, and answers its failure. -/
theorem Call.run_page {c : Call} {page : String} (hc : c.page? = some page) (hd : s.deadline = none)
    (he : s.expired = false) :
    ∃ script pairs, script ≠ .load ∧
      ((c.run dt.recording).run s).2 = ((evalIn dt.recording page c.viewport? script pairs).run s).2 ∧
      ∀ f, ((evalIn dt.recording page c.viewport? script pairs).run s).1 = .error f →
        ((c.run dt.recording).run s).1 = some f := by
  -- a failure of the script passes through the reading of its result
  have hread : ∀ {α : Type} (conv : ScriptValue → Except String α) {vp script pairs f},
      ((evalIn dt.recording page vp script pairs).run s).1 = .error f →
      answerFailure (readResult page conv ((evalIn dt.recording page vp script pairs).run s).1) = some f :=
    by intro _ _ _ _ _ _ h; rw [h]; rfl
  cases c <;> simp only [Call.page?, Option.some.injEq, reduceCtorEq] at hc <;> subst hc <;>
    rw [Call.run, run_bind_of_eq (reset_run hd he)]
  · exact ⟨.includes, [], nofun, rfl, fun _ => hread _⟩
  · exact ⟨.matchAny, queryPairs _, nofun, rfl, fun _ => hread _⟩
  · exact ⟨.aboveFold, queryPairs _, nofun, rfl, fun _ => hread _⟩

theorem Call.run_cleanup (hd : s.deadline = none) (he : s.expired = false) :
    (Call.cleanup.run dt.recording).run s = (answerFailure ((CriticalCss.Probe.cleanup dt.recording).run s).1,
      ((CriticalCss.Probe.cleanup dt.recording).run s).2) := by
  rw [Call.run, run_bind_of_eq (reset_run hd he)]
  rfl

/-! ## The invariant

`Consistent` is what every run of calls keeps: the tracker holds the failures
of the tabs, and the pages navigated to are distinct pages with a tab. -/

/-- Changing the tabs of one page keeps the tabs of the others, and the tab of that page is the
one changed, when the change keeps pages. -/
theorem find?_map_setTab {tabs : List Tab} {page : String} {g : Tab → Tab} (hg : ∀ t, (g t).page = t.page)
    (q : String) :
    (tabs.map fun t => if t.page = page then g t else t).find? (·.page == q) =
      (tabs.find? (·.page == q)).map fun t => if t.page = page then g t else t := by
  rw [List.find?_map]
  congr 2
  funext t
  by_cases h : t.page = page <;> simp [h, hg]

/-- A tab added for a page the probe had none for is that page's tab. -/
theorem find?_append_new {tabs : List Tab} {t : Tab} (hn : tabs.find? (·.page == t.page) = none) (q : String) :
    (tabs ++ [t]).find? (·.page == q) = if q = t.page then some t else tabs.find? (·.page == q) := by
  rw [List.find?_append]
  by_cases h : q = t.page
  · subst h
    simp [hn]
  · simp [h, Ne.symm h]

theorem Tracker.failureOf_track (tr : Tracker) (page : String) (f : Failure) (u : String) :
    (tr.track page f).failureOf u = (tr.failureOf u).or (if u = page then some f else none) := by
  unfold Tracker.track
  split
  · rename_i h
    by_cases hu : u = page
    · subst hu
      obtain ⟨g, hg⟩ := Option.isSome_iff_exists.1 h
      simp [hg]
    · simp [hu]
  · simp only [Tracker.failureOf, List.find?_append, Option.map_or]
    by_cases hu : u = page
    · subst hu
      simp
    · simp [hu, Ne.symm hu]

/-- What holds after any calls with no cancellation, on a probe with settings `st`: every tab is
opened; while the probe is open, each page's tracked failure is the failure of its tab; and the
pages navigated to, each once, are pages with a tab while the probe is open. -/
structure Consistent (st : BrowserSettings) (s : Browsing (σ × List Request)) : Prop where
  deadline : s.deadline = none
  expired : s.expired = false
  settings : s.probe.settings = st
  opened : ∀ t ∈ s.probe.tabs, t.opened = true
  tracked : s.probe.closed = false → ∀ page, s.probe.tracker.failureOf page = (s.probe.tabOf page).bind (·.failure)
  navigated : ∃ pages : List String, pages.Nodup ∧
    List.Forall₂ (fun p u => withGetParameters p st.getParameters = .ok u) pages
      (s.world.2.filterMap Request.navigation?) ∧
    (s.probe.closed = false → ∀ p ∈ pages, (s.probe.tabOf p).isSome)

/-- The four ways a call on a page goes on an open probe: the page failed to open before, and the
call answers that failure; the page is open; or the call opens the page, which fails, or which
opens and runs the script. -/
theorem pageCall_cases (hdt : dt.AnswersBeyondLoads) {st : BrowserSettings} {c : Call} {page : String}
    (hc : c.page? = some page) (hs : Consistent st s)
    (hopen : s.probe.closed = false) :
    let out := (c.run dt.recording).run s
    (∃ t f, s.probe.tabOf page = some t ∧ t.failure = some f ∧ out = (some f, s)) ∨
    (∃ t, s.probe.tabOf page = some t ∧ t.failure = none ∧ Evaluates dt t c.viewport? s out.2) ∨
    (∃ t f, s.probe.tabOf page = none ∧ t.page = page ∧ t.failure = some f ∧ Opens t s out.2 ∧
      out.1 = some f) ∨
    (∃ t s1, s.probe.tabOf page = none ∧ t.page = page ∧ t.failure = none ∧ Opens t s s1 ∧
      Evaluates dt t c.viewport? s1 out.2) := by
  obtain ⟨script, pairs, hscript, hstate, hfail⟩ := @Call.run_page σ dt s c page hc hs.deadline hs.expired
  -- a failure of the page's tab, from before or from opening it now, is the call's answer
  have hfailed : ∀ {f s1}, (tabFor dt.recording page).run s = (.error f, s1) →
      (c.run dt.recording).run s = (some f, s1) := fun h => by
    have he := evalIn_of_tabFor_error h c.viewport? script pairs
    exact Prod.ext (hfail _ (by rw [he])) (by rw [hstate, he])
  intro out
  cases ht : s.probe.tabOf page with
  | some t =>
    have hpage : t.page = page := by simpa using List.find?_some ht
    have htab := @tabFor_of_tabOf σ dt s page t hopen ht (hs.opened t (List.mem_of_find?_eq_some ht))
    cases hf : t.failure with
    | some f => exact .inl ⟨t, f, rfl, hf, hfailed (by rw [htab, Tab.answer, hf])⟩
    | none =>
      refine .inr (.inl ⟨t, rfl, hf, ?_⟩)
      rw [show out.2 = _ from hstate]
      exact evalIn_evaluates hdt hscript (by rw [htab, Tab.answer, hf]) hpage hs.deadline hs.expired
  | none =>
    obtain ⟨t, hpage, hans, hopens⟩ := tabFor_new hdt hopen ht hs.deadline hs.expired
    cases hf : t.failure with
    | some f =>
      have h := hfailed (Prod.ext (by rw [hans, Tab.answer, hf]) rfl)
      exact .inr (.inr (.inl ⟨t, f, rfl, hpage, hf, by rw [show out = _ from h]; exact hopens,
        by rw [show out = _ from h]⟩))
    | none =>
      refine .inr (.inr (.inr ⟨t, _, rfl, hpage, hf, hopens, ?_⟩))
      rw [show out.2 = _ from hstate]
      exact evalIn_evaluates hdt hscript (Prod.ext (by rw [hans, Tab.answer, hf]) rfl) hpage
        hopens.deadline hopens.expired


section Consistent

variable {st : BrowserSettings}

/-- Running a script in an open tab keeps the probe consistent: only a window size is recorded,
and nothing navigates. -/
theorem Consistent.evaluates (hs : Consistent st s) {t : Tab} {vp : Option Viewport}
    (h : Evaluates dt t vp s s') : Consistent st s' := by
  obtain ⟨L, hL, hq⟩ := h.sent
  -- the tabs are those before, with at most one window size changed
  obtain ⟨g, hg, htabs⟩ : ∃ g : Tab → Tab, (∀ u, g u = { u with viewport := (g u).viewport }) ∧
      s'.probe.tabs = s.probe.tabs.map g := by
    rw [h.tabs]
    split
    · exact ⟨id, fun u => rfl, List.map_id _ |>.symm⟩
    · exact ⟨_, fun u => by split <;> rfl, rfl⟩
  have hfind : ∀ q, s'.probe.tabOf q = (s.probe.tabOf q).map g := by
    intro q
    simp only [BrowserProbe.tabOf, htabs, List.find?_map]
    congr 2
    funext u
    rw [Function.comp_apply, hg u]
  refine ⟨h.deadline, h.expired, h.settings.trans hs.settings, ?_, ?_, ?_⟩
  · intro u hu
    rw [htabs] at hu
    obtain ⟨u₀, hu₀, rfl⟩ := List.mem_map.1 hu
    rw [hg u₀]
    exact hs.opened u₀ hu₀
  · intro hc page
    rw [h.tracker, hs.tracked (h.closed ▸ hc) page, hfind, Option.bind_map]
    congr 1
    funext u
    rw [Function.comp_apply, hg u]
  · obtain ⟨pages, hnd, hnav, hopen⟩ := hs.navigated
    refine ⟨pages, hnd, ?_, fun hc p hp => ?_⟩
    · have hnone : ∀ r ∈ (t.newViewport? vp).toList.map t.resize ++ L, r.navigation? = none :=
        List.forall_mem_append.2 ⟨List.forall_mem_map.2 fun _ _ => rfl,
          fun r hr => Request.navigation?_eq_none_of_quiet (hq r hr)⟩
      rw [hL, List.append_assoc, List.filterMap_append, List.filterMap_eq_nil_iff.2 hnone, List.append_nil]
      exact hnav
    · rw [hfind, Option.isSome_map]
      exact hopen (h.closed ▸ hc) p hp

/-- Opening a page that had no tab keeps the probe consistent: its tab is added, its failure
tracked, and it is navigated to at most once. -/
theorem Consistent.opens (hs : Consistent st s) (hopen : s.probe.closed = false) {t : Tab}
    (hn : s.probe.tabOf t.page = none) (h : Opens t s s') : Consistent st s' := by
  have hfind : ∀ q, s'.probe.tabOf q = if q = t.page then some t else s.probe.tabOf q := by
    intro q
    simp only [BrowserProbe.tabOf, h.tabs]
    exact find?_append_new hn q
  have hnone : s.probe.tracker.failureOf t.page = none := by
    rw [hs.tracked hopen, hn]
    rfl
  obtain ⟨pages, hnd, hnav, hpages⟩ := hs.navigated
  obtain ⟨L, hL, hq, hk⟩ := h.sent
  refine ⟨h.deadline, h.expired, h.settings.trans hs.settings, ?_, fun hc q => ?_, ?_⟩
  · rw [h.tabs]
    exact List.forall_mem_append.2 ⟨hs.opened, List.forall_mem_singleton.2 h.opened⟩
  · -- the tracker holds the new tab's failure, and the others' as before
    rw [hfind, h.tracker]
    by_cases hq : q = t.page
    · subst hq
      cases hf : t.failure <;> simp [hf, Tracker.failureOf_track, hnone]
    · have hold := hs.tracked hopen q
      cases t.failure <;> simp [Tracker.failureOf_track, hq, hold]
  · -- the page had no tab, so it was not navigated to before
    have hnew : t.page ∉ pages := fun hp => by simpa [hn] using hpages hopen t.page hp
    have hL' : ∀ u ∈ L.filterMap Request.navigation?, withGetParameters t.page st.getParameters = .ok u := by
      intro u hu
      obtain ⟨r, hr, hu⟩ := List.mem_filterMap.1 hu
      exact hs.settings ▸ hq r hr u hu
    rw [hL, List.filterMap_append]
    rcases hlen : L.filterMap Request.navigation? with _ | ⟨u, _ | ⟨u', rest⟩⟩
    · refine ⟨pages, hnd, by simpa using hnav, fun hc p hp => ?_⟩
      rw [hfind]
      split
      · rfl
      · exact hpages hopen p hp
    · have hnd' : (pages ++ [t.page]).Nodup := by
        simpa [List.nodup_append, hnd] using fun a ha (h : a = t.page) => hnew (h ▸ ha)
      refine ⟨pages ++ [t.page], hnd',
        List.rel_append hnav (List.Forall₂.cons (hL' u (by simp [hlen])) List.Forall₂.nil), fun hc p hp => ?_⟩
      rw [hfind]
      split
      · rfl
      · rcases List.mem_append.1 hp with hp | hp
        · exact hpages hopen p hp
        · simp_all
    · rw [hlen] at hk
      simp at hk

/-- Cleaning up keeps the probe consistent: it is closed and navigates nowhere. -/
theorem Consistent.cleanup (hdt : dt.AnswersBeyondLoads) (hs : Consistent st s) :
    Consistent st ((cleanup dt.recording).run s).2 := by
  cases hc : s.probe.closed
  · have h := cleanup_open hdt hc hs.deadline hs.expired
    obtain ⟨L, hL, hq, -⟩ := h.sent
    obtain ⟨pages, hnd, hnav, -⟩ := hs.navigated
    refine ⟨h.deadline, h.expired, h.settings.trans hs.settings, by simp [h.tabs], by simp [h.closed],
      pages, hnd, ?_, by simp [h.closed]⟩
    rw [hL, List.filterMap_append, List.filterMap_eq_nil_iff.2 hq, List.append_nil]
    exact hnav
  · rw [cleanup_closed hc]
    exact hs

/-- Every call keeps the probe consistent. -/
theorem Consistent.call (hdt : dt.AnswersBeyondLoads) (hs : Consistent st s) (c : Call) :
    Consistent st ((c.run dt.recording).run s).2 := by
  cases hp : c.page? with
  | none =>
    cases c <;> simp only [Call.page?, reduceCtorEq] at hp
    rw [Call.run_cleanup hs.deadline hs.expired]
    exact hs.cleanup hdt
  | some page =>
    cases hc : s.probe.closed
    · rcases pageCall_cases hdt hp hs hc with ⟨t, f, -, -, h⟩ | ⟨t, ht, -, h⟩ | ⟨t, f, hn, rfl, -, h, -⟩ |
        ⟨t, s1, hn, rfl, -, h1, h⟩
      · rw [h]
        exact hs
      · exact hs.evaluates h
      · exact hs.opens hc hn h
      · exact (hs.opens hc hn h1).evaluates h
    · obtain ⟨script, pairs, -, hstate, -⟩ := @Call.run_page σ dt s c page hp hs.deadline hs.expired
      rw [hstate, evalIn_of_tabFor_error (tabFor_closed hc)]
      exact hs

end Consistent

/-- On a closed probe a call on a page fails as closed and a cleanup does nothing, and nothing
changes. -/
theorem Call.run_closed (c : Call) (hd : s.deadline = none)
    (he : s.expired = false) (hc : s.probe.closed = true) :
    (c.run dt.recording).run s = (c.page?.map fun _ => .plain "browser probe is closed", s) := by
  cases hp : c.page? with
  | none =>
    cases c <;> simp only [Call.page?, reduceCtorEq] at hp
    rw [Call.run_cleanup hd he, cleanup_closed hc]
    rfl
  | some page =>
    obtain ⟨script, pairs, -, hstate, hfail⟩ := @Call.run_page σ dt s c page hp hd he
    have he := evalIn_of_tabFor_error (@tabFor_closed σ dt s page hc) c.viewport? script pairs
    exact Prod.ext (by rw [hfail _ (by rw [he])]; rfl) (by rw [hstate, he])

section Calls

variable {st : BrowserSettings} {c : Call} {page : String}

/-- A page whose opening failed answers that failure, and nothing changes. -/
theorem Call.run_failed (hdt : dt.AnswersBeyondLoads) (hs : Consistent st s) (hc : c.page? = some page)
    (hopen : s.probe.closed = false) {f : Failure} (hf : s.probe.tracker.failureOf page = some f) :
    (c.run dt.recording).run s = (some f, s) := by
  rw [hs.tracked hopen] at hf
  obtain ⟨t, ht, htf⟩ := Option.bind_eq_some_iff.1 hf
  rcases pageCall_cases hdt hc hs hopen with ⟨t', f', ht', hf', h⟩ | ⟨t', ht', hf', -⟩ | ⟨-, -, hn, -⟩ |
    ⟨-, -, hn, -⟩
  · rw [ht, Option.some.injEq] at ht'
    subst ht'
    rw [h, ← htf, ← hf']
  · rw [ht, Option.some.injEq] at ht'
    subst ht'
    rw [hf'] at htf
    cases htf
  all_goals rw [ht] at hn; cases hn

/-- A tracked failure stays tracked. -/
theorem Opens.failureOf {t : Tab} (h : Opens t s s') {u : String}
    {f : Failure} (hf : s.probe.tracker.failureOf u = some f) : s'.probe.tracker.failureOf u = some f := by
  rw [h.tracker]
  cases t.failure <;> simp [Tracker.failureOf_track, hf]

/-- A call tracks no failure but that of opening its page, which it answers; tracked failures stay. -/
theorem Call.run_tracker (hdt : dt.AnswersBeyondLoads) (hs : Consistent st s) :
    (∀ u f, s.probe.tracker.failureOf u = some f →
      ((c.run dt.recording).run s).2.probe.tracker.failureOf u = some f) ∧
    (∀ u f, s.probe.tracker.failureOf u = none → ((c.run dt.recording).run s).2.probe.tracker.failureOf u = some f →
      c.page? = some u ∧ ((c.run dt.recording).run s).1 = some f) := by
  cases hc : s.probe.closed
  case true =>
    rw [Call.run_closed c hs.deadline hs.expired hc]
    exact ⟨fun _ _ h => h, fun _ _ h h' => by rw [h] at h'; cases h'⟩
  cases hp : c.page? with
  | none =>
    cases c <;> simp only [Call.page?, reduceCtorEq] at hp
    have h := (cleanup_open hdt hc hs.deadline hs.expired).tracker
    rw [Call.run_cleanup hs.deadline hs.expired]
    exact ⟨fun _ _ hf => by rw [h]; exact hf, fun _ _ hn hf => by rw [h] at hf; rw [hn] at hf; cases hf⟩
  | some page =>
    rcases pageCall_cases hdt hp hs hc with ⟨t, f, -, -, h⟩ | ⟨t, -, -, h⟩ | ⟨t, g, -, rfl, hg, h, hout⟩ |
      ⟨t, s1, -, rfl, hg, h1, h⟩
    · rw [h]
      exact ⟨fun _ _ h => h, fun _ _ h h' => by rw [h] at h'; cases h'⟩
    · rw [h.tracker]
      exact ⟨fun _ _ h => h, fun _ _ h h' => by rw [h] at h'; cases h'⟩
    · refine ⟨fun _ _ => h.failureOf, fun u f hn hf => ?_⟩
      rw [h.tracker, hg, Option.elim_some, Tracker.failureOf_track, hn, Option.none_or] at hf
      split at hf
      · subst u
        cases hf
        exact ⟨rfl, hout⟩
      · cases hf
    · have htr : s1.probe.tracker = s.probe.tracker := by rw [h1.tracker, hg, Option.elim_none]
      rw [h.tracker, htr]
      exact ⟨fun _ _ h => h, fun _ _ h h' => by rw [h] at h'; cases h'⟩

theorem BrowserProbe.page_of_tabOf {p : BrowserProbe} {t : Tab} (h : p.tabOf page = some t) : t.page = page := by
  simpa using List.find?_some h

/-- Running a script in an open tab changes that tab's window size and no other tab's. -/
theorem Evaluates.tabOf {t : Tab} {vp : Option Viewport}
    (h : Evaluates dt t vp s s') (ht : s.probe.tabOf t.page = some t) :
    s'.probe.tabOf t.page = some { t with viewport := t.viewportAfter dt s.world.1 vp } := by
  unfold BrowserProbe.tabOf at ht ⊢
  rw [h.tabs]
  split
  · rename_i hv
    rw [hv]
    exact ht
  · rw [@find?_map_setTab s.probe.tabs t.page (fun u => { u with viewport := t.viewportAfter dt s.world.1 vp })
      (fun _ => rfl), ht]
    simp

/-- A call on an open page runs its script there. -/
theorem Call.run_viewport (hdt : dt.AnswersBeyondLoads) (hs : Consistent st s) (hc : c.page? = some page)
    (hopen : s.probe.closed = false) {t : Tab} (ht : s.probe.tabOf page = some t) (hf : t.failure = none) :
    Evaluates dt t c.viewport? s ((c.run dt.recording).run s).2 := by
  rcases pageCall_cases hdt hc hs hopen with ⟨t', f, ht', hf', -⟩ | ⟨t', ht', -, h⟩ | ⟨-, -, hn, -⟩ |
    ⟨-, -, hn, -⟩
  · rw [ht, Option.some.injEq] at ht'
    subst ht'
    rw [hf] at hf'
    cases hf'
  · rw [ht, Option.some.injEq] at ht'
    subst ht'
    exact h
  all_goals rw [ht] at hn; cases hn

/-- A tab added for a page the probe had none for is that page's tab. -/
theorem Opens.tabOf {t : Tab} (h : Opens t s s') (hn : s.probe.tabOf t.page = none) :
    s'.probe.tabOf t.page = some t := by
  simp only [BrowserProbe.tabOf, h.tabs]
  rw [find?_append_new hn]
  simp

/-- A call on a page the probe has no tab for opens it in a new tab: a failure to open is the
call's answer, and a page that opens runs its script there as on an open page. -/
theorem Call.run_opens (hdt : dt.AnswersBeyondLoads) (hs : Consistent st s) (hc : c.page? = some page)
    (hopen : s.probe.closed = false) (hn : s.probe.tabOf page = none) :
    ∃ t s1, t.page = page ∧ Opens t s s1 ∧
      (∀ f, t.failure = some f → (c.run dt.recording).run s = (some f, s1)) ∧
      (t.failure = none → Evaluates dt t c.viewport? s1 ((c.run dt.recording).run s).2) := by
  rcases pageCall_cases hdt hc hs hopen with ⟨t, f, ht, -⟩ | ⟨t, ht, -⟩ | ⟨t, f, -, hpage, hf, h, hout⟩ |
    ⟨t, s1, -, hpage, hf, h1, h⟩
  · rw [hn] at ht
    cases ht
  · rw [hn] at ht
    cases ht
  · refine ⟨t, _, hpage, h, fun f' hf' => Prod.ext ?_ rfl, fun h0 => ?_⟩
    · rw [hf] at hf'
      cases hf'
      exact hout
    · rw [hf] at h0
      cases h0
  · refine ⟨t, s1, hpage, h1, fun f hf' => ?_, fun _ => h⟩
    rw [hf] at hf'
    cases hf'

theorem Call.run_cleanup_closes (hdt : dt.AnswersBeyondLoads) (hs : Consistent st s) :
    ((Call.cleanup.run dt.recording).run s).2.probe.closed = true := by
  rw [Call.run_cleanup hs.deadline hs.expired]
  cases hc : s.probe.closed
  · exact (cleanup_open hdt hc hs.deadline hs.expired).closed
  · rw [cleanup_closed hc]
    exact hc

end Calls

/-! ## Runs of calls -/

/-- Every run of calls keeps the probe consistent. -/
theorem Consistent.runCalls (hdt : dt.AnswersBeyondLoads) {st : BrowserSettings} (hs : Consistent st s)
    (calls : List Call) : Consistent st ((runCalls dt.recording calls).run s).2 := by
  induction calls generalizing s with
  | nil => exact hs
  | cons c cs ih =>
    have hc : (c.run dt.recording).run s = (((c.run dt.recording).run s).1, ((c.run dt.recording).run s).2) := rfl
    rw [Probe.runCalls, List.mapM_cons, run_bind_of_eq hc]
    exact ih (hs.call hdt c)

/-- A browser session with a new probe: no tabs, no failures, nothing sent. -/
def Browsing.fresh (w : σ) (pr : BrowserProbe) (host : Host) : Browsing (σ × List Request) :=
  { world := (w, []), probe := { pr with tabs := [], closed := false, tracker := {} }, host }

theorem Consistent.fresh (w : σ) (pr : BrowserProbe) (host : Host) :
    Consistent pr.settings (Browsing.fresh w pr host) :=
  ⟨rfl, rfl, rfl, nofun, fun _ _ => rfl, [], List.nodup_nil, List.Forall₂.nil, fun _ _ h => nomatch h⟩

/-- The tab state machine of a browser probe. Along any run of calls from a new probe, with no call
cancelled: the pages navigated to are distinct; the tracker holds exactly the failures of the open
tabs; a call on a page that failed to open answers that failure and changes nothing; a failure once
tracked stays, and a new one is the answer of the call on its page that opened it; a call on an open
page sends a new window size only when it differs from the tab's, and keeps the size the browser
refused; a call on a page with no tab opens it in a new tab, answers the failure if it fails to
open, and otherwise sets the window size there by the same rule; once cleaned up, every call on a
page answers that the probe is closed and nothing changes, and a cleanup answers nothing. -/
theorem probe_tab_machine (hdt : Devtools.AnswersBeyondLoads dt) (w : σ) (pr : BrowserProbe) (host : Host)
    (calls : List Call) (c : Call) :
    let s := ((runCalls dt.recording calls).run (Browsing.fresh w pr host)).2
    let out := (c.run dt.recording).run s
    (∃ pages : List String, pages.Nodup ∧
      List.Forall₂ (fun p u => withGetParameters p pr.settings.getParameters = .ok u) pages
        (s.world.2.filterMap Request.navigation?)) ∧
    (s.probe.closed = false → ∀ page, s.probe.tracker.failureOf page = (s.probe.tabOf page).bind (·.failure)) ∧
    (∀ page f, c.page? = some page → s.probe.closed = false → s.probe.tracker.failureOf page = some f →
      out = (some f, s)) ∧
    (∀ u f, s.probe.tracker.failureOf u = some f → out.2.probe.tracker.failureOf u = some f) ∧
    (∀ u f, s.probe.tracker.failureOf u = none → out.2.probe.tracker.failureOf u = some f →
      c.page? = some u ∧ out.1 = some f) ∧
    (∀ page t, c.page? = some page → s.probe.closed = false → s.probe.tabOf page = some t →
      t.failure = none →
      (∃ L, out.2.world.2 = s.world.2 ++ (t.newViewport? c.viewport?).toList.map t.resize ++ L ∧
        ∀ r ∈ L, r.quiet) ∧
      out.2.probe.tabOf page = some { t with viewport := t.viewportAfter dt s.world.1 c.viewport? }) ∧
    (∀ page, c.page? = some page → s.probe.closed = false → s.probe.tabOf page = none →
      ∃ t s1, t.page = page ∧ Opens t s s1 ∧ (∀ f, t.failure = some f → out = (some f, s1)) ∧
        (t.failure = none →
          (∃ L, out.2.world.2 = s1.world.2 ++ (t.newViewport? c.viewport?).toList.map t.resize ++ L ∧
            ∀ r ∈ L, r.quiet) ∧
          out.2.probe.tabOf page = some { t with viewport := t.viewportAfter dt s1.world.1 c.viewport? })) ∧
    (s.probe.closed = true → out = (c.page?.map fun _ => .plain "browser probe is closed", s)) ∧
    (c = .cleanup → out.2.probe.closed = true) := by
  intro s out
  have hs : Consistent pr.settings s := (Consistent.fresh w pr host).runCalls hdt calls
  obtain ⟨pages, hnd, hnav, -⟩ := hs.navigated
  refine ⟨⟨pages, hnd, hnav⟩, hs.tracked, fun page f hc hopen hf => Call.run_failed hdt hs hc hopen hf,
    (Call.run_tracker hdt hs).1, (Call.run_tracker hdt hs).2, fun page t hc hopen ht hf => ?_,
    fun page hc hopen hn => ?_, Call.run_closed c hs.deadline hs.expired, ?_⟩
  · have h := Call.run_viewport hdt hs hc hopen ht hf
    obtain rfl := BrowserProbe.page_of_tabOf ht
    exact ⟨h.sent, h.tabOf ht⟩
  · -- the new tab is the page's tab when the script runs
    obtain ⟨t, s1, rfl, h1, hfail, hrun⟩ := Call.run_opens hdt hs hc hopen hn
    refine ⟨t, s1, rfl, h1, hfail, fun hf => ?_⟩
    have h := hrun hf
    exact ⟨h.sent, h.tabOf (h1.tabOf hn)⟩
  · rintro rfl
    exact Call.run_cleanup_closes hdt hs

/-- A browser that accepts every request and answers nothing but that it is done. -/
def Devtools.accepting : Devtools Unit where
  answer _ _ := ((), .done)
  listens _ _ := true
  launch _ _ := ((), .ok "")

theorem Devtools.accepting_answersBeyondLoads : Devtools.accepting.AnswersBeyondLoads := nofun

theorem probe_tab_machine_cleanup_closes :
    Devtools.accepting.AnswersBeyondLoads ∧
      ((Call.cleanup.run Devtools.accepting.recording).run
        ((runCalls Devtools.accepting.recording [.includes "a", .cleanup]).run
          (Browsing.fresh () {} {})).2).2.probe.closed = true :=
  ⟨Devtools.accepting_answersBeyondLoads,
    (probe_tab_machine Devtools.accepting_answersBeyondLoads () {} {} [.includes "a", .cleanup]
      .cleanup).2.2.2.2.2.2.2.2 rfl⟩

end CriticalCss.Probe
