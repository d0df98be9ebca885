import FlutterEngine.Navigation.BrowserHistory
import Mathlib.Data.List.Induction

/-!
# Serial counts are distances

`PageHistory` is the history as the app and the user see it: the pages from the one the app was
launched on. `Tracks` says that the browser history has these pages, each wrapped in a state with
its distance from the first one; every action keeps it. What tearing down restores is then what the
first page has, which is its original state unless the app replaced it there.
-/

namespace FlutterEngine.Navigation

open FlutterEngine.Std

structure PageHistory (Value : Type) where
  pages : SessionHistory (RouteInformation Value)
  /-- What the framework was told of the moves of the user. -/
  informed : List (RouteInformation Value) := []

namespace PageHistory

variable {Value : Type} (app : PageHistory Value)

/-- The app is launched on the entry that the tab shows. -/
def launch (strategy : UrlStrategy Value) : PageHistory Value :=
  { pages := .single ⟨strategy.getPath, strategy.getState⟩ }

def setRouteName (routeName : String) (state : HistoryState Value) :
    (replace : Bool) → PageHistory Value
  | true => { app with
      pages := app.pages.replace
        ⟨if routeName = "" then app.pages.current.location else routeName, state⟩ }
  | false => { app with pages := app.pages.push ⟨routeName, state⟩ }

def visit (pages : SessionHistory (RouteInformation Value)) : PageHistory Value :=
  ⟨pages, app.informed ++ [pages.current]⟩

/-- `none` when the user moves out of the app's pages. -/
def perform : Action Value → Option (PageHistory Value)
  | .setRouteName routeName state replace => some (app.setRouteName routeName state replace)
  | .go count => (app.pages.go? count).map app.visit
  | .typeUrl url => some (app.visit (app.pages.push ⟨url, .null⟩))
  | .refresh => some { pages := app.pages }

def after (strategy : UrlStrategy Value) (actions : List (Action Value)) :
    Option (PageHistory Value) :=
  actions.foldlM perform (launch strategy)

end PageHistory

variable {Value : Type} {before ahead : List (HistoryEntry Value)}
  {app next : PageHistory Value} {history : MultiEntriesBrowserHistory Value}
  {strategy : UrlStrategy Value}

/-- The entry that a page has in the browser. -/
def RouteInformation.entry (page : RouteInformation Value) (position : Nat) : HistoryEntry Value :=
  ⟨page.state.tagWithSerialCount position, some "flutter", page.location⟩

def Tagged (position : Nat) (page : RouteInformation Value) (entry : HistoryEntry Value) : Prop :=
  entry = page.entry position

/-- A history shows the pages after `before`, each with its distance from the first one. -/
structure Tracks (before ahead : List (HistoryEntry Value)) (app : PageHistory Value)
    (history : MultiEntriesBrowserHistory Value) : Prop where
  embeds : SessionHistory.Embeds Tagged before ahead app.pages history.urlStrategy
  lastSeen : history.lastSeenSerialCount = app.pages.index
  messages : history.messages = app.informed
  listens : history.isDisposed = false
  standing : history.isTornDown = false

namespace Tracks

open MultiEntriesBrowserHistory

section

variable (tracks : Tracks before ahead app history)

include tracks

theorem current :
    history.urlStrategy.current = app.pages.current.entry app.pages.index :=
  tracks.embeds.current

theorem currentSerialCount :
    history.urlStrategy.currentSerialCount = some (app.pages.index : Int) := by
  unfold UrlStrategy.currentSerialCount UrlStrategy.getState
  rw [tracks.current]
  rfl

/-- A `popstate` after which the entry that is shown is tagged. -/
theorem onPopState {pages : SessionHistory (RouteInformation Value)}
    {urlStrategy tagged : UrlStrategy Value}
    (tags : (if urlStrategy.getState.hasSerialCount then urlStrategy
      else urlStrategy.replaceState
        (urlStrategy.getState.tagWithSerialCount (history.lastSeenSerialCount + 1)) "flutter"
        urlStrategy.getPath) = tagged)
    (wrapped : urlStrategy.getState.wrapped? = some pages.current.state)
    (embeds : SessionHistory.Embeds Tagged before ahead pages tagged) :
    ∃ after, { history with urlStrategy }.firePopStateEvent = some after ∧
      Tracks before ahead (app.visit pages) after := by
  have shown : tagged.getState = pages.current.state.tagWithSerialCount pages.index :=
    congrArg HistoryEntry.state embeds.current
  have path : tagged.getPath = pages.current.location :=
    congrArg HistoryEntry.url embeds.current
  unfold firePopStateEvent
  rw [if_neg (by rw [tracks.listens]; nofun)]
  simp only [MultiEntriesBrowserHistory.onPopState, tags, wrapped, shown, path,
    UrlStrategy.currentSerialCount, HistoryState.hasSerialCount_tag, if_true,
    HistoryState.serialCount?_tag, Option.bind_eq_bind, Option.bind_some]
  exact ⟨_, rfl, embeds, rfl, by rw [tracks.messages]; rfl, tracks.listens, tracks.standing⟩

theorem setRouteName (routeName : String) (state : HistoryState Value) (replace : Bool) :
    ∃ after, history.setRouteName (some routeName) state replace = some after ∧
      Tracks before ahead (app.setRouteName routeName state replace) after := by
  cases replace with
  | true =>
    refine ⟨_, rfl, ?_, tracks.lastSeen, tracks.messages, tracks.listens, tracks.standing⟩
    refine tracks.embeds.replace ?_
    change HistoryEntry.mk _ _ _ = HistoryEntry.mk _ _ _
    rw [tracks.lastSeen, UrlStrategy.getPath, tracks.current]
    rfl
  | false =>
    have count : history.lastSeenSerialCount + 1 = (app.pages.index + 1 : Nat) := by
      rw [tracks.lastSeen]; rfl
    refine ⟨_, rfl, ?_, count, tracks.messages, tracks.listens, tracks.standing⟩
    refine tracks.embeds.push ?_
    change HistoryEntry.mk _ _ _ = HistoryEntry.mk _ _ _
    rw [count]

theorem go {count : Int} (moves : app.perform (.go count) = some next) :
    ∃ after, history.go count = some after ∧ Tracks before ahead next after := by
  obtain ⟨pages, moved, rfl⟩ := Option.map_eq_some_iff.mp moves
  obtain ⟨urlStrategy, same, embeds⟩ := tracks.embeds.go? moved
  unfold MultiEntriesBrowserHistory.go
  rw [same]
  have shown : UrlStrategy.getState urlStrategy =
      pages.current.state.tagWithSerialCount pages.index :=
    congrArg HistoryEntry.state embeds.current
  refine tracks.onPopState (if_pos ?_) ?_ embeds
  · rw [shown, HistoryState.hasSerialCount_tag]
  · rw [shown, HistoryState.wrapped?_tag]

/-- The entry of an address that was entered is tagged as the one after the last one seen. -/
theorem typeUrl (url : String) :
    ∃ after, history.typeUrl url = some after ∧
      Tracks before ahead (app.visit (app.pages.push ⟨url, .null⟩)) after := by
  have count : history.lastSeenSerialCount + 1 = (app.pages.index + 1 : Nat) := by
    rw [tracks.lastSeen]; rfl
  have typed : (history.urlStrategy.pushState .null "" url).current = ⟨.null, some "", url⟩ :=
    SessionHistory.current_push _
  have embeds : SessionHistory.Embeds Tagged before ahead (app.pages.push ⟨url, .null⟩)
      (history.urlStrategy.push ((RouteInformation.mk url .null).entry (app.pages.index + 1))) :=
    tracks.embeds.push rfl
  refine tracks.onPopState ?_ ?_ embeds
  · -- The address has no tag yet, and the listener puts one there.
    rw [UrlStrategy.replaceState, UrlStrategy.getState, UrlStrategy.getPath, typed, ite_self, count]
    exact SessionHistory.replace_push _ _
  · rw [UrlStrategy.getState, typed, SessionHistory.current_push]
    rfl

theorem refresh :
    ∃ after, ofUrlStrategy history.urlStrategy = some after ∧
      Tracks before ahead { pages := app.pages } after := by
  have shown : history.urlStrategy.getState.hasSerialCount = true := by
    rw [UrlStrategy.getState, tracks.current]
    rfl
  refine ⟨{ urlStrategy := history.urlStrategy, lastSeenSerialCount := app.pages.index },
    ?_, tracks.embeds, rfl, rfl, rfl, rfl⟩
  simp only [ofUrlStrategy, shown, if_true, tracks.currentSerialCount, Option.map_some]

theorem perform {action : Action Value} (performed : app.perform action = some next) :
    ∃ after, history.perform action = some after ∧ Tracks before ahead next after := by
  cases action with
  | setRouteName routeName state replace =>
    obtain rfl := Option.some.inj performed
    exact tracks.setRouteName routeName state replace
  | go count => exact tracks.go performed
  | typeUrl url =>
    obtain rfl := Option.some.inj performed
    exact tracks.typeUrl url
  | refresh =>
    obtain rfl := Option.some.inj performed
    exact tracks.refresh

theorem performs {actions : List (Action Value)}
    (performed : actions.foldlM PageHistory.perform app = some next) :
    ∃ after, actions.foldlM MultiEntriesBrowserHistory.perform history = some after ∧
      Tracks before ahead next after := by
  induction actions generalizing app history with
  | nil =>
    obtain rfl := Option.some.inj performed
    exact ⟨history, rfl, tracks⟩
  | cons action rest ih =>
    obtain ⟨middle, first, others⟩ := Option.bind_eq_some_iff.mp performed
    obtain ⟨reached, same, middleTracks⟩ := tracks.perform first
    obtain ⟨after, run, afterTracks⟩ := ih middleTracks others
    exact ⟨after, Option.bind_eq_some_iff.mpr ⟨reached, same, run⟩, afterTracks⟩

/-- Moving back by the serial count shows the first page. No listener hears of it. -/
theorem goBack (disposed : MultiEntriesBrowserHistory Value)
    (same : disposed.urlStrategy = history.urlStrategy) (deaf : disposed.isDisposed = true) :
    ∃ back, disposed.goBack app.pages.index = some back ∧ back.isDisposed = true ∧
      back.urlStrategy.index = before.length ∧
      back.urlStrategy.entries = history.urlStrategy.entries ∧
      back.urlStrategy.current = app.pages.first.entry 0 := by
  unfold MultiEntriesBrowserHistory.goBack
  split
  · obtain ⟨moved, moves, index, entries, first⟩ := tracks.embeds.go_back
    refine ⟨{ disposed with urlStrategy := moved }, ?_, deaf, index, entries, first⟩
    unfold MultiEntriesBrowserHistory.go
    rw [same, moves]
    exact if_pos deaf
  · have start : app.pages.index = 0 := by omega
    have index := tracks.embeds.index
    refine ⟨disposed, rfl, deaf, by rw [same]; omega, by rw [same], ?_⟩
    rw [same, tracks.current, start, SessionHistory.first_eq_current start]

end

theorem restore_eq_some (history : MultiEntriesBrowserHistory Value)
    {back : MultiEntriesBrowserHistory Value} {backCount : Int}
    {original : HistoryState Value}
    (tagged : history.urlStrategy.getState.hasSerialCount = true)
    (count : history.urlStrategy.currentSerialCount = some backCount)
    (goes : history.goBack backCount = some back)
    (state : back.urlStrategy.getState = original.tagWithSerialCount 0) :
    history.restore = some { back with
      urlStrategy := back.urlStrategy.replaceState original "flutter"
        back.urlStrategy.getPath } := by
  have first : back.urlStrategy.currentSerialCount = some 0 := by
    rw [UrlStrategy.currentSerialCount, state]
    rfl
  simp [restore, tagged, count, goes, state, first]

/-- Tearing down ends on the first page and unwraps the state it has. -/
theorem tearDown (tracks : Tracks before ahead app history) :
    ∃ tornDown, history.tearDown = some tornDown ∧ tornDown.isDisposed = true ∧
      tornDown.urlStrategy.index = before.length ∧
      UrlStrategy.getState tornDown.urlStrategy = app.pages.first.state := by
  have tagged : history.urlStrategy.getState.hasSerialCount = true := by
    rw [UrlStrategy.getState, tracks.current]
    rfl
  let disposed : MultiEntriesBrowserHistory Value := { history.dispose with isTornDown := true }
  obtain ⟨back, goes, deaf, index, -, current⟩ := tracks.goBack disposed rfl rfl
  have state : UrlStrategy.getState back.urlStrategy = app.pages.first.state.tagWithSerialCount 0 :=
    congrArg HistoryEntry.state current
  have restored := restore_eq_some disposed tagged
    tracks.currentSerialCount goes state
  unfold MultiEntriesBrowserHistory.tearDown
  rw [if_neg (by rw [show history.dispose.isTornDown = _ from tracks.standing]; nofun)]
  exact ⟨_, restored, deaf, index,
    congrArg HistoryEntry.state (SessionHistory.current_replace _)⟩

/-- Exiting shows the page before the app's. -/
theorem exit (tracks : Tracks before ahead app history) (nonempty : before ≠ []) :
    ∃ left, history.exit = some left ∧ left.urlStrategy.index + 1 = before.length := by
  obtain ⟨tornDown, tears, deaf, index, -⟩ := tracks.tearDown
  have valid := tornDown.urlStrategy.valid
  have positive := List.length_pos_iff.mpr nonempty
  obtain ⟨moved, moves⟩ : ∃ moved, tornDown.urlStrategy.go? (-1) = some moved :=
    SessionHistory.go?_of_bounds (by omega) (by omega)
  refine ⟨{ tornDown with urlStrategy := moved }, ?_, ?_⟩
  · rw [MultiEntriesBrowserHistory.exit, tears]
    change tornDown.go (-1) = _
    unfold MultiEntriesBrowserHistory.go
    rw [moves]
    exact if_pos deaf
  · have position := (SessionHistory.go?_eq_some moves).2
    change moved.index + 1 = _
    omega

theorem launch (untagged : strategy.getState.hasSerialCount = false) :
    ∃ history, ofUrlStrategy strategy = some history ∧
      Tracks (strategy.entries.take strategy.index) (strategy.entries.drop (strategy.index + 1))
        (.launch strategy) history := by
  let tagged := strategy.replaceState (strategy.getState.tagWithSerialCount 0) "flutter"
    strategy.getPath
  refine ⟨{ urlStrategy := tagged, lastSeenSerialCount := 0 }, ?_, .single ?_, rfl, rfl, rfl, rfl⟩
  · have state : tagged.getState = strategy.getState.tagWithSerialCount 0 :=
      congrArg HistoryEntry.state (SessionHistory.current_replace _)
    simp [ofUrlStrategy, untagged, UrlStrategy.currentSerialCount, tagged, state]
  · rw [ite_self]
    rfl

theorem after {actions : List (Action Value)}
    (untagged : strategy.getState.hasSerialCount = false)
    (performed : PageHistory.after strategy actions = some app) :
    ∃ history, after strategy actions = some history ∧
      Tracks (strategy.entries.take strategy.index) (strategy.entries.drop (strategy.index + 1))
        app history := by
  obtain ⟨launched, same, tracks⟩ := launch untagged
  obtain ⟨history, run, reached⟩ := tracks.performs performed
  exact ⟨history, Option.bind_eq_some_iff.mpr ⟨launched, same, run⟩, reached⟩

end Tracks

/-- The app is launched on the second page. -/
def launched : UrlStrategy Nat := ⟨[⟨.null, none, "/"⟩, ⟨.null, none, "/home"⟩], 1, by decide⟩

/-- Every entry from the starting one on has its distance from it as its serial count; entries that
were ahead of it at launch are another page's. The last count seen is the current one, and tearing
down ends on the starting entry with the state that it had. -/
structure Keeps (strategy : UrlStrategy Value) (history : MultiEntriesBrowserHistory Value) :
    Prop where
  counts : ∀ distance entry,
    history.urlStrategy.entries[strategy.index + distance]? = some entry →
      entry.state.serialCount? = some (distance : Int) ∨
        entry ∈ strategy.entries.drop (strategy.index + 1)
  lastSeen : history.urlStrategy.currentSerialCount = some history.lastSeenSerialCount
  restores : ∃ tornDown, history.tearDown = some tornDown ∧
    tornDown.urlStrategy.index = strategy.index ∧
    UrlStrategy.getState tornDown.urlStrategy = strategy.getState

/-- After every prefix of the actions. -/
def KeepsThroughout (strategy : UrlStrategy Value) (actions : List (Action Value)) : Prop :=
  ∀ done, done <+: actions → ∃ history, MultiEntriesBrowserHistory.after strategy done =
    some history ∧ Keeps strategy history

/-- Where the app replaces the route of the starting entry, it gives it the state it had. -/
def KeepsStartingState (strategy : UrlStrategy Value) (actions : List (Action Value)) : Prop :=
  ∀ done routeName state, done ++ [.setRouteName routeName state true] <+: actions →
    ∀ app, PageHistory.after strategy done = some app → app.pages.index = 0 →
      state = strategy.getState

/-- The promises hold of a history that shows the app's pages exactly when the first page has the
state of the entry the app was launched on. -/
theorem Tracks.keeps_iff
    (tracks : Tracks (strategy.entries.take strategy.index)
      (strategy.entries.drop (strategy.index + 1)) app history) :
    Keeps strategy history ↔ app.pages.first.state = strategy.getState := by
  have length : (strategy.entries.take strategy.index).length = strategy.index := by
    have valid := strategy.valid
    rw [List.length_take]
    omega
  obtain ⟨tornDown, tears, -, index, state⟩ := tracks.tearDown
  constructor
  · intro keeps
    obtain ⟨other, same, -, restored⟩ := keeps.restores
    obtain rfl := Option.some.inj (tears.symm.trans same)
    rw [← state, restored]
  · intro first
    refine ⟨?_, ?_, tornDown, tears, index.trans length, state.trans first⟩
    · intro distance entry found
      rw [← length] at found
      refine (tracks.embeds.related_or_mem found).imp_left ?_
      rintro ⟨page, -, rfl⟩
      rfl
    · rw [tracks.currentSerialCount, tracks.lastSeen]

variable {done actions : List (Action Value)} {action : Action Value}

theorem PageHistory.after_concat :
    PageHistory.after strategy (done ++ [action]) =
      (PageHistory.after strategy done).bind fun app => app.perform action := by
  simp [PageHistory.after, List.foldlM_append]

theorem PageHistory.exists_after_of_prefix
    (performed : PageHistory.after strategy actions = some app) (start : done <+: actions) :
    ∃ middle, PageHistory.after strategy done = some middle := by
  obtain ⟨rest, rfl⟩ := start
  rw [PageHistory.after, List.foldlM_append] at performed
  obtain ⟨middle, same, -⟩ := Option.bind_eq_some_iff.mp performed
  exact ⟨middle, same⟩

/-- Only a replacement on the first page changes it. -/
theorem PageHistory.first_perform (performed : app.perform action = some next)
    (kept : ∀ routeName state, action = .setRouteName routeName state true →
      app.pages.index = 0 → state = app.pages.first.state) :
    next.pages.first.state = app.pages.first.state := by
  cases action with
  | setRouteName routeName state replace =>
    obtain rfl := Option.some.inj performed
    cases replace with
    | false => exact congrArg RouteInformation.state (SessionHistory.first_push _)
    | true =>
      by_cases start : app.pages.index = 0
      · rw [← kept routeName state rfl start]
        exact congrArg RouteInformation.state (SessionHistory.first_replace_of_zero _ start)
      · exact congrArg RouteInformation.state (SessionHistory.first_replace_of_ne _ start)
  | go count =>
    obtain ⟨pages, moved, rfl⟩ := Option.map_eq_some_iff.mp performed
    exact congrArg RouteInformation.state (SessionHistory.first_go? moved)
  | typeUrl url =>
    obtain rfl := Option.some.inj performed
    exact congrArg RouteInformation.state (SessionHistory.first_push _)
  | refresh =>
    obtain rfl := Option.some.inj performed
    rfl

theorem PageHistory.first_after (kept : KeepsStartingState strategy actions)
    (performed : PageHistory.after strategy actions = some app) :
    app.pages.first.state = strategy.getState := by
  induction actions using List.reverseRecOn generalizing app with
  | nil =>
    obtain rfl := Option.some.inj performed
    rfl
  | append_singleton done action ih =>
    rw [after_concat] at performed
    obtain ⟨middle, same, last⟩ := Option.bind_eq_some_iff.mp performed
    have earlier : middle.pages.first.state = strategy.getState :=
      ih (fun early routeName state start =>
        kept early routeName state (start.trans (List.prefix_append _ _))) same
    rw [first_perform last, earlier]
    rintro routeName state rfl start
    rw [earlier]
    exact kept done routeName state List.prefix_rfl middle same start

/-- Counts, positions and the page that tearing down shows are right in every run. The state it
restores is the original one exactly when no replacement on the starting entry put another there. -/
theorem keepsThroughout_iff_keepsStartingState {actions : List (Action Value)}
    (untagged : strategy.getState.hasSerialCount = false)
    (performed : PageHistory.after strategy actions = some app) :
    KeepsThroughout strategy actions ↔ KeepsStartingState strategy actions := by
  constructor
  · intro keeps done routeName state start app reached current
    obtain ⟨history, run, kept⟩ := keeps _ start
    have next : PageHistory.after strategy (done ++ [.setRouteName routeName state true]) =
        some (app.setRouteName routeName state true) := by
      rw [PageHistory.after_concat, reached]
      rfl
    obtain ⟨other, same, tracks⟩ := Tracks.after untagged next
    obtain rfl := Option.some.inj (run.symm.trans same)
    have changed : (app.setRouteName routeName state true).pages.first.state = state :=
      congrArg RouteInformation.state (SessionHistory.first_replace_of_zero _ current)
    exact changed.symm.trans (tracks.keeps_iff.mp kept)
  · intro kept done start
    obtain ⟨middle, reached⟩ := PageHistory.exists_after_of_prefix performed start
    obtain ⟨history, run, tracks⟩ := Tracks.after untagged reached
    have first : middle.pages.first.state = strategy.getState :=
      PageHistory.first_after (fun early routeName state within =>
        kept early routeName state (within.trans start)) reached
    exact ⟨history, run, tracks.keeps_iff.mpr first⟩

/-- A page that is pushed, one that is entered, and a move back over both. -/
theorem keepsThroughout_iff_tour :
    KeepsThroughout (.single ⟨.null, none, "/home"⟩)
        [.setRouteName "/page1" (.other 1) false, .typeUrl "/page3", .go (-2),
          .setRouteName "/home" .null true] ↔
      KeepsStartingState (.single ⟨.null, none, "/home"⟩)
        [.setRouteName "/page1" (.other 1) false, .typeUrl "/page3", .go (-2),
          .setRouteName "/home" .null true] :=
  keepsThroughout_iff_keepsStartingState rfl rfl

/-- The app replaces the route it was launched with: tearing down leaves the app's state. -/
theorem not_restored_after_replace :
    (PageHistory.after (.single ⟨.null, none, "/home"⟩)
      [.setRouteName "/home" (.other 1) true]).isSome = true ∧
    ¬ KeepsThroughout (.single ⟨.null, none, "/home"⟩) [.setRouteName "/home" (.other 1) true] := by
  refine ⟨rfl, ?_⟩
  intro keeps
  obtain ⟨history, run, kept⟩ := keeps _ List.prefix_rfl
  have replaced : PageHistory.after (.single ⟨.null, none, "/home"⟩)
      [.setRouteName "/home" (.other 1) true] =
        some { pages := .replace (.single ⟨"/home", .null⟩) ⟨"/home", .other 1⟩ } := rfl
  obtain ⟨other, same, tracks⟩ := Tracks.after rfl replaced
  obtain rfl := Option.some.inj (run.symm.trans same)
  exact absurd (tracks.keeps_iff.mp kept) nofun

end FlutterEngine.Navigation
