import FlutterEngine.Ohos.TextUtils
import FlutterEngine.Std.Machine

/-!
# The editing state of an input method

`ListenableEditingState.ets` keeps a text and a selection, and records each change it
makes as a `TextEditingDelta`. The listener is the `TextInputPlugin`: with the delta model
it sends the recorded deltas and clears them, else it sends the state. A handler that
throws leaves the state as it is.
-/

namespace FlutterEngine.Ohos

open FlutterEngine.Std

/-- A string of the scripting language. -/
abbrev JsString := List UInt16

namespace JsString

variable (text : JsString)

/-- An index of a substring, which is kept inside the text. -/
def clamp (index : Int) : Nat := min index.toNat text.length

/-- `substring(start, end)`. -/
def substring (start stop : Int) : JsString :=
  let first := min (text.clamp start) (text.clamp stop)
  let last := max (text.clamp start) (text.clamp stop)
  (text.drop first).take (last - first)

/-- An index of a slice, which counts from the end when negative. -/
def sliceIndex (index : Int) : Nat :=
  if index < 0 then (text.length + index).toNat else text.clamp index

/-- `slice(start, end)`. -/
def slice (start stop : Int) : JsString :=
  (text.drop (text.sliceIndex start)).take (text.sliceIndex stop - text.sliceIndex start)

end JsString

/-- A recorded change. -/
structure TextEditingDelta where
  oldText : JsString
  newSelectionStart : Int
  newSelectionEnd : Int
  newComposingStart : Int
  newComposingEnd : Int
  deltaStart : Int
  deltaEnd : Int
  deltaText : JsString
deriving DecidableEq, Repr

structure ListenableEditingState where
  mStringCache : JsString := []
  mSelectionStartCache : Int := 0
  mSelectionEndCache : Int := 0
  mComposingStartCache : Int := -1
  mComposingEndCache : Int := -1
  mBatchTextEditingDeltas : List TextEditingDelta := []
  /-- Whether a listener takes the deltas. -/
  enableDeltaModel : Bool := true
  /-- The batches `updateEditingStateWithDeltas` was called with. -/
  sent : List (List TextEditingDelta) := []
deriving DecidableEq, Repr

namespace ListenableEditingState

variable (unicode : Unicode) (state : ListenableEditingState)

def start : Int := min state.mSelectionStartCache state.mSelectionEndCache

/-- `end`, the greater of the two positions. -/
def stop : Int := max state.mSelectionStartCache state.mSelectionEndCache

def length : Int := state.mStringCache.length

/-- The delta that `replace` records. -/
def delta (start stop : Int) (tb : JsString) (tbStart tbEnd : Int) : TextEditingDelta :=
  let placeIndex := state.start
  { oldText := state.mStringCache
    newSelectionStart := placeIndex + tbEnd
    newSelectionEnd := placeIndex + tbEnd
    newComposingStart := state.mComposingStartCache
    newComposingEnd := state.mComposingEndCache
    deltaStart := start
    deltaEnd := stop + tbStart
    deltaText := tb }

def replace (start stop : Int) (tb : JsString) (tbStart tbEnd : Int) : ListenableEditingState :=
  { state with
    mBatchTextEditingDeltas :=
      state.mBatchTextEditingDeltas ++ [state.delta start stop tb tbStart tbEnd] }

/-- `TextInputPlugin.didChangeEditingState`. -/
def didChangeEditingState : ListenableEditingState :=
  if state.enableDeltaModel then
    { state with
      sent := state.sent ++ [state.mBatchTextEditingDeltas]
      mBatchTextEditingDeltas := [] }
  else state

/-- Put a text in the place of the selection and the cursor behind it. -/
def insertAtSelection (text : JsString) : ListenableEditingState :=
  let tempStr := state.mStringCache.substring 0 state.start ++ text ++
    state.mStringCache.substring state.stop state.length
  if state.length = state.mSelectionStartCache then
    -- One by one: the cursor goes to the end of the text.
    { state with
      mStringCache := tempStr
      mSelectionStartCache := tempStr.length
      mSelectionEndCache := tempStr.length }
  else if state.length > state.mSelectionStartCache then
    { state with
      mStringCache := tempStr
      mSelectionStartCache := state.start + text.length
      mSelectionEndCache := state.start + text.length }
  else state

def handleInsertTextEvent (text : JsString) : ListenableEditingState :=
  ((state.replace state.start state.stop text 0 text.length).insertAtSelection text).didChangeEditingState

/-- No change is recorded. -/
def handleNewlineEvent : ListenableEditingState := (state.insertAtSelection [0x0A]).didChangeEditingState

/-- So many characters before an offset, as far as the start of the text. -/
def offsetBefore (text : JsString) : (remaining : Nat) → (unicodeStart : Int) → Except TextError Int
  | 0, unicodeStart => .ok unicodeStart
  | remaining + 1, unicodeStart => do
      let unicodeStart ← FlutterTextUtils.getOffsetBefore unicode text unicodeStart
      if unicodeStart = 0 then return unicodeStart
      else offsetBefore text remaining unicodeStart

/-- So many characters after an offset, as far as the end of the text. -/
def offsetAfter (text : JsString) : (remaining : Nat) → (unicodeEnd : Int) → Except TextError Int
  | 0, unicodeEnd => .ok unicodeEnd
  | remaining + 1, unicodeEnd => do
      let unicodeEnd ← FlutterTextUtils.getOffsetAfter unicode text unicodeEnd
      if unicodeEnd = text.length then return unicodeEnd
      else offsetAfter text remaining unicodeEnd

/-- Where a deletion to the left begins: a selection is deleted as it is. -/
def unicodeStart (length : Int) : Except TextError Int :=
  if state.start = state.stop then
    offsetBefore unicode state.mStringCache length.toNat state.start
  else .ok state.start

/-- Where a deletion to the right ends. -/
def unicodeEnd (length : Int) : Except TextError Int :=
  if state.start = state.stop then offsetAfter unicode state.mStringCache length.toNat state.stop
  else .ok state.stop

/-- `handleDeleteEvent(false, length)`. -/
def handleDeleteLeft (length : Int) : Except TextError ListenableEditingState := do
  if length = 0 then return state
  let start := state.start
  let stop := state.stop
  if start = 0 ∧ stop = 0 then return state
  let unicodeStart ← state.unicodeStart unicode length
  let state := state.replace unicodeStart stop [] 0 0
  return { state with
    mSelectionStartCache := unicodeStart
    mStringCache := state.mStringCache.slice 0 unicodeStart ++
      state.mStringCache.slice stop state.length
    mSelectionEndCache := unicodeStart }.didChangeEditingState

/-- `handleDeleteEvent(true, length)`. -/
def handleDeleteRight (length : Int) : Except TextError ListenableEditingState := do
  if length = 0 then return state
  let start := state.start
  if start = state.length then return state
  let unicodeEnd ← state.unicodeEnd unicode length
  let state := state.replace start unicodeEnd [] 0 0
  return { state with
    mSelectionEndCache := start
    mStringCache := state.mStringCache.slice 0 start ++
      if unicodeEnd ≥ state.length then [] else state.mStringCache.slice unicodeEnd state.length
    mSelectionStartCache := start }.didChangeEditingState

/-- An event of the input method. -/
inductive Event where
  | insertText (text : JsString)
  | deleteLeft (length : Int)
  | deleteRight (length : Int)
  | newline
deriving DecidableEq, Repr

def handle : Event → Except TextError ListenableEditingState
  | .insertText text => .ok (state.handleInsertTextEvent text)
  | .deleteLeft length => state.handleDeleteLeft unicode length
  | .deleteRight length => state.handleDeleteRight unicode length
  | .newline => .ok state.handleNewlineEvent

end ListenableEditingState

end FlutterEngine.Ohos
