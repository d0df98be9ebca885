import FlutterEngine.Std.SessionHistory

/-!
# The browser history of an app with a router

`MultiEntriesBrowserHistory` of `history.dart`, with a url strategy. The entries of the tab are the
strategy's, as `TestUrlStrategy` keeps them. A call fails (`none`) at a cast or an assertion that
does not hold.
-/

namespace FlutterEngine.Navigation

open FlutterEngine.Std

/-- The states that a browser keeps with an entry. Of the doubles only whole ones are told apart. -/
inductive HistoryState (Value : Type) where
  | null
  | double (value : Int)
  | map (fields : List (String × HistoryState Value))
  | other (value : Value)

namespace HistoryState

variable {Value : Type}

/-- `state[name]` of a map. -/
def get (fields : List (String × HistoryState Value)) (name : String) : HistoryState Value :=
  (fields.lookup name).getD null

def isNull : HistoryState Value → Bool
  | null => true
  | _ => false

def hasSerialCount : HistoryState Value → Bool
  | map fields => !(get fields "serialCount").isNull
  | _ => false

def tagWithSerialCount (originalState : HistoryState Value) (count : Int) : HistoryState Value :=
  map [("serialCount", double count), ("state", originalState)]

/-- The count that a tagged state has; `none` when it is not a double. -/
def serialCount? : HistoryState Value → Option Int
  | map fields =>
    match get fields "serialCount" with
    | double value => some value
    | _ => none
  | _ => none

/-- `(state as Map?)?['state']`. -/
def wrapped? : HistoryState Value → Option (HistoryState Value)
  | null => some null
  | map fields => some (get fields "state")
  | _ => none

@[simp] theorem hasSerialCount_tag (state : HistoryState Value) (count : Int) :
    (state.tagWithSerialCount count).hasSerialCount = true := rfl

@[simp] theorem serialCount?_tag (state : HistoryState Value) (count : Int) :
    (state.tagWithSerialCount count).serialCount? = some count := rfl

@[simp] theorem wrapped?_tag (state : HistoryState Value) (count : Int) :
    (state.tagWithSerialCount count).wrapped? = some state := rfl

end HistoryState

structure HistoryEntry (Value : Type) where
  state : HistoryState Value
  title : Option String
  url : String

abbrev UrlStrategy (Value : Type) : Type := SessionHistory (HistoryEntry Value)

namespace UrlStrategy

variable {Value : Type} (strategy : UrlStrategy Value)

def getPath : String := strategy.current.url

def getState : HistoryState Value := strategy.current.state

def pushState (state : HistoryState Value) (title url : String) : UrlStrategy Value :=
  strategy.push { state, title, url }

/-- An empty url keeps the one of the entry. -/
def replaceState (state : HistoryState Value) (title url : String) : UrlStrategy Value :=
  strategy.replace { state, title, url := if url = "" then strategy.getPath else url }

def currentSerialCount : Option Int :=
  if strategy.getState.hasSerialCount then strategy.getState.serialCount? else some 0

end UrlStrategy

/-- The arguments of `pushRouteInformation`. -/
structure RouteInformation (Value : Type) where
  location : String
  state : HistoryState Value

/-- `messages` has the route information sent to the framework. The listener is subscribed until
the history is disposed of. -/
structure MultiEntriesBrowserHistory (Value : Type) where
  urlStrategy : UrlStrategy Value
  lastSeenSerialCount : Int
  isDisposed : Bool := false
  isTornDown : Bool := false
  messages : List (RouteInformation Value) := []

namespace MultiEntriesBrowserHistory

variable {Value : Type} (history : MultiEntriesBrowserHistory Value)

/-- The constructor. -/
def ofUrlStrategy (urlStrategy : UrlStrategy Value) : Option (MultiEntriesBrowserHistory Value) :=
  let urlStrategy :=
    if urlStrategy.getState.hasSerialCount then urlStrategy
    else urlStrategy.replaceState (urlStrategy.getState.tagWithSerialCount 0) "flutter"
      urlStrategy.getPath
  urlStrategy.currentSerialCount.map fun count => { urlStrategy, lastSeenSerialCount := count }

def setRouteName (routeName : Option String) (state : HistoryState Value) (replace : Bool) :
    Option (MultiEntriesBrowserHistory Value) := do
  let routeName ← routeName
  if replace then
    some { history with
      urlStrategy := history.urlStrategy.replaceState
        (state.tagWithSerialCount history.lastSeenSerialCount) "flutter" routeName }
  else
    let count := history.lastSeenSerialCount + 1
    some { history with
      lastSeenSerialCount := count
      urlStrategy := history.urlStrategy.pushState (state.tagWithSerialCount count) "flutter"
        routeName }

def onPopState (state : HistoryState Value) : Option (MultiEntriesBrowserHistory Value) := do
  let urlStrategy :=
    if state.hasSerialCount then history.urlStrategy
    else history.urlStrategy.replaceState
      (state.tagWithSerialCount (history.lastSeenSerialCount + 1)) "flutter"
      history.urlStrategy.getPath
  let count ← urlStrategy.currentSerialCount
  let informed ← state.wrapped?
  some { history with
    urlStrategy
    lastSeenSerialCount := count
    messages := history.messages ++ [⟨urlStrategy.getPath, informed⟩] }

/-- The listener is called while the history is not disposed of. -/
def firePopStateEvent : Option (MultiEntriesBrowserHistory Value) :=
  if history.isDisposed then some history else history.onPopState history.urlStrategy.getState

/-- Move by `count` entries. Nothing happens where there is no entry. -/
def go (count : Int) : Option (MultiEntriesBrowserHistory Value) :=
  match history.urlStrategy.go? count with
  | none => some history
  | some urlStrategy => { history with urlStrategy }.firePopStateEvent

def typeUrl (url : String) : Option (MultiEntriesBrowserHistory Value) :=
  { history with urlStrategy := history.urlStrategy.pushState .null "" url }.firePopStateEvent

def dispose : MultiEntriesBrowserHistory Value := { history with isDisposed := true }

def goBack (backCount : Int) : Option (MultiEntriesBrowserHistory Value) :=
  if 0 < backCount then history.go (-backCount) else some history

/-- What `tearDown` does once, after the history is disposed of. -/
def restore : Option (MultiEntriesBrowserHistory Value) := do
  guard history.urlStrategy.getState.hasSerialCount
  let backCount ← history.urlStrategy.currentSerialCount
  let back ← history.goBack backCount
  guard (back.urlStrategy.getState.hasSerialCount ∧ back.urlStrategy.currentSerialCount = some 0)
  let original ← back.urlStrategy.getState.wrapped?
  some { back with
    urlStrategy := back.urlStrategy.replaceState original "flutter" back.urlStrategy.getPath }

def tearDown : Option (MultiEntriesBrowserHistory Value) :=
  let disposed := history.dispose
  if disposed.isTornDown then some disposed else { disposed with isTornDown := true }.restore

/-- Tear down and move to the page before the app's. -/
def exit : Option (MultiEntriesBrowserHistory Value) := do
  let tornDown ← history.tearDown
  tornDown.go (-1)

end MultiEntriesBrowserHistory

/-- What happens to a history: the app sets a route, the user moves or enters an address, and the
page is loaded again. -/
inductive Action (Value : Type) where
  | setRouteName (routeName : String) (state : HistoryState Value) (replace : Bool)
  | go (count : Int)
  | typeUrl (url : String)
  | refresh

namespace MultiEntriesBrowserHistory

variable {Value : Type} (history : MultiEntriesBrowserHistory Value)

def perform : Action Value → Option (MultiEntriesBrowserHistory Value)
  | .setRouteName routeName state replace => history.setRouteName (some routeName) state replace
  | .go count => history.go count
  | .typeUrl url => history.typeUrl url
  | .refresh => ofUrlStrategy history.urlStrategy

/-- An app that is launched in `strategy`, after some actions. -/
def after (strategy : UrlStrategy Value) (actions : List (Action Value)) :
    Option (MultiEntriesBrowserHistory Value) := do
  let launched ← ofUrlStrategy strategy
  actions.foldlM perform launched

end MultiEntriesBrowserHistory

end FlutterEngine.Navigation
