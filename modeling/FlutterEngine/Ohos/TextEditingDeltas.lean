import FlutterEngine.Ohos.ListenableEditingState

/-!
# Replaying the recorded deltas

In the delta model the framework sees only the deltas. It follows the editing state as
long as every change is recorded with the selection it leaves; a newline is not recorded,
and a deletion to the left of the cursor is recorded with the cursor before it.
-/

namespace FlutterEngine.Ohos

open FlutterEngine.Std

/-- What the framework knows of the state. -/
structure TextEditingValue where
  text : JsString
  selectionBase : Int
  selectionExtent : Int
deriving DecidableEq, Repr

/-- The delta replaces a range of its old text and then sets the selection. It does not
apply to another text. -/
def TextEditingDelta.apply (delta : TextEditingDelta) (value : TextEditingValue) :
    Option TextEditingValue :=
  if delta.oldText = value.text then some {
    text := delta.oldText.take delta.deltaStart.toNat ++ delta.deltaText ++
      delta.oldText.drop delta.deltaEnd.toNat
    selectionBase := delta.newSelectionStart
    selectionExtent := delta.newSelectionEnd }
  else none

/-- Apply the deltas one after the other. -/
def replay (value : TextEditingValue) (deltas : List TextEditingDelta) : Option TextEditingValue :=
  deltas.foldlM (fun value delta => delta.apply value) value

theorem replay_append (value : TextEditingValue) (first second : List TextEditingDelta) :
    replay value (first ++ second) = (replay value first).bind fun value => replay value second :=
  List.foldlM_append

namespace JsString

variable {text : JsString} {index : Int}

theorem clamp_of_le (most : index ≤ text.length) : text.clamp index = index.toNat := by
  unfold clamp
  omega

theorem sliceIndex_of_le (least : 0 ≤ index) (most : index ≤ text.length) :
    text.sliceIndex index = index.toNat := by
  rw [sliceIndex, if_neg (not_lt.mpr least), clamp_of_le most]

theorem substring_zero (most : index ≤ text.length) :
    text.substring 0 index = text.take index.toNat := by
  rw [substring, clamp_of_le most, clamp_of_le (Int.natCast_nonneg _)]
  simp

theorem substring_length (most : index ≤ text.length) :
    text.substring index text.length = text.drop index.toNat := by
  rw [substring, clamp_of_le most, clamp_of_le (Int.le_refl _), Int.toNat_natCast,
    min_eq_left (by omega), max_eq_right (by omega)]
  exact List.take_of_length_le (by rw [List.length_drop])

theorem slice_zero (least : 0 ≤ index) (most : index ≤ text.length) :
    text.slice 0 index = text.take index.toNat := by
  rw [slice, sliceIndex_of_le least most, sliceIndex_of_le (Int.le_refl 0) (Int.natCast_nonneg _)]
  simp

theorem slice_length (least : 0 ≤ index) (most : index ≤ text.length) :
    text.slice index text.length = text.drop index.toNat := by
  rw [slice, sliceIndex_of_le least most,
    sliceIndex_of_le (Int.natCast_nonneg _) (Int.le_refl _), Int.toNat_natCast]
  exact List.take_of_length_le (by rw [List.length_drop])

end JsString

/-! ## Offsets after an offset -/

/-- What a text function returns is not negative. -/
def NotNegative (result : Except TextError Int) : Prop := ∀ r, result = .ok r → 0 ≤ r

theorem notNegative_ok {value : Int} (least : 0 ≤ value) : NotNegative (.ok value) := by
  rintro r ⟨⟩
  exact least

theorem bind_eq_ok {α β : Type} {first : Except TextError α} {next : α → Except TextError β}
    {result : β} (done : first >>= next = .ok result) :
    ∃ value, first = .ok value ∧ next value = .ok result := by
  cases first with
  | error thrown => cases done
  | ok value => exact ⟨value, rfl, done⟩

theorem notNegative_bind {α : Type} (first : Except TextError α) {next : α → Except TextError Int}
    (all : ∀ value, NotNegative (next value)) : NotNegative (first >>= next) := by
  intro r done
  obtain ⟨value, -, done⟩ := bind_eq_ok done
  exact all value r done

theorem notNegative_ite {condition : Prop} [Decidable condition]
    {first second : Except TextError Int} (yes : NotNegative first) (no : NotNegative second) :
    NotNegative (if condition then first else second) := by
  split
  · exact yes
  · exact no

theorem getOffsetAfter_nonneg (unicode : Unicode) (text : JsString) {offset : Int}
    (least : 0 ≤ offset) : NotNegative (FlutterTextUtils.getOffsetAfter unicode text offset) := by
  have counted : ∀ count : Nat, NotNegative (.ok (offset + count)) :=
    fun count => notNegative_ok (by omega)
  unfold FlutterTextUtils.getOffsetAfter
  apply notNegative_ite
  · exact notNegative_ok (by omega)
  apply notNegative_bind
  intro codePoint
  apply notNegative_ite
  · exact notNegative_ok (Int.le_refl 0)
  apply notNegative_ite
  · apply notNegative_bind
    intro next
    exact notNegative_ite (counted _) (counted _)
  apply notNegative_ite
  · apply notNegative_ite (counted _)
    apply notNegative_bind
    intro second
    apply notNegative_ite (counted _)
    apply notNegative_bind
    intro regionalIndicatorSymbolCount
    exact notNegative_ite (counted _) (counted _)
  · apply notNegative_ite
    · exact notNegative_bind _ counted
    · exact notNegative_ite (notNegative_bind _ counted) (counted _)

namespace ListenableEditingState

theorem offsetAfter_nonneg {unicode : Unicode} {text : JsString} {remaining : Nat}
    {unicodeEnd result : Int} (least : 0 ≤ unicodeEnd)
    (done : offsetAfter unicode text remaining unicodeEnd = .ok result) : 0 ≤ result := by
  induction remaining generalizing unicodeEnd with
  | zero =>
    cases done
    exact least
  | succ remaining ih =>
    obtain ⟨next, found, done⟩ := bind_eq_ok done
    have nextLeast := getOffsetAfter_nonneg unicode text least next found
    split at done
    · cases done
      exact nextLeast
    · exact ih nextLeast done

def value (state : ListenableEditingState) : TextEditingValue :=
  ⟨state.mStringCache, state.mSelectionStartCache, state.mSelectionEndCache⟩

/-- All deltas so far: those that were sent and those that wait. -/
def recorded (state : ListenableEditingState) : List TextEditingDelta :=
  state.sent.flatten ++ state.mBatchTextEditingDeltas

/-- The selection lies inside the text. -/
structure Inside (state : ListenableEditingState) : Prop where
  start : 0 ≤ state.start
  stop : state.stop ≤ state.length

variable {unicode : Unicode} {state next : ListenableEditingState}

theorem Inside.bounds (inside : Inside state) :
    0 ≤ state.start ∧ state.start ≤ state.stop ∧ state.stop ≤ state.length ∧
      0 ≤ state.mSelectionStartCache ∧ state.mSelectionStartCache ≤ state.length :=
  ⟨inside.start, min_le_max, inside.stop, inside.start.trans (min_le_left _ _),
    (le_max_left _ _).trans inside.stop⟩

@[simp] theorem value_didChangeEditingState : state.didChangeEditingState.value = state.value := by
  unfold didChangeEditingState
  split <;> rfl

/-- Sending the deltas loses none. -/
@[simp] theorem recorded_didChangeEditingState :
    state.didChangeEditingState.recorded = state.recorded := by
  unfold didChangeEditingState
  split
  · simp [recorded]
  · rfl

@[simp] theorem inside_didChangeEditingState : Inside state.didChangeEditingState ↔ Inside state := by
  unfold didChangeEditingState
  split
  · exact ⟨fun inside => ⟨inside.start, inside.stop⟩, fun inside => ⟨inside.start, inside.stop⟩⟩
  · rfl

/-- What is inserted takes the place of the selection, and the cursor goes behind it. -/
theorem insertAtSelection_eq (inside : Inside state) (text : JsString) :
    state.insertAtSelection text = { state with
      mStringCache := state.mStringCache.take state.start.toNat ++ text ++
        state.mStringCache.drop state.stop.toNat
      mSelectionStartCache := state.start + text.length
      mSelectionEndCache := state.start + text.length } := by
  obtain ⟨least, order, most, startLeast, startMost⟩ := inside.bounds
  have replaced : state.mStringCache.substring 0 state.start ++ text ++
      state.mStringCache.substring state.stop state.length =
        state.mStringCache.take state.start.toNat ++ text ++
          state.mStringCache.drop state.stop.toNat := by
    rw [JsString.substring_zero (order.trans most), length, JsString.substring_length most]
  rw [insertAtSelection, replaced]
  by_cases atEnd : state.length = state.mSelectionStartCache
  · -- The selection ends where the text does.
    have last : state.stop = state.length := by
      have greater : state.mSelectionStartCache ≤ state.stop := le_max_left _ _
      omega
    have place : ((state.mStringCache.take state.start.toNat ++ text ++
        state.mStringCache.drop state.stop.toNat).length : Int) = state.start + text.length := by
      rw [length] at last most
      rw [List.length_append, List.length_append, List.length_take, List.length_drop]
      omega
    rw [if_pos atEnd, place]
  · rw [if_neg atEnd, if_pos (by omega)]

/-- What a handler does that records its change: one delta more, which leads to the next
text and selection. -/
structure Records (state next : ListenableEditingState) : Prop where
  delta : ∃ delta, next.recorded = state.recorded ++ [delta] ∧ delta.apply state.value = some next.value
  inside : Inside next

variable (state) in
theorem recorded_replace (start stop : Int) (tb : JsString) (tbStart tbEnd : Int) :
    (state.replace start stop tb tbStart tbEnd).recorded =
      state.recorded ++ [state.delta start stop tb tbStart tbEnd] := by
  simp [recorded, replace]

/-- A replacement that is recorded with the cursor behind it. -/
theorem records_replace (inside : Inside state) (stop : Int) (text : JsString) {cursor : Int}
    (place : cursor = state.start + text.length) :
    Records state { state.replace state.start stop text 0 text.length with
      mStringCache := state.mStringCache.take state.start.toNat ++ text ++
        state.mStringCache.drop stop.toNat
      mSelectionStartCache := cursor
      mSelectionEndCache := cursor }.didChangeEditingState := by
  obtain ⟨least, within, most, -, -⟩ := inside.bounds
  refine ⟨⟨state.delta state.start stop text 0 text.length, ?_, ?_⟩, ?_⟩
  · rw [recorded_didChangeEditingState]
    exact recorded_replace state state.start stop text 0 text.length
  · have sameText : (state.delta state.start stop text 0 text.length).oldText = state.value.text := rfl
    rw [value_didChangeEditingState, place, TextEditingDelta.apply, if_pos sameText]
    simp only [delta, Int.add_zero]
    rfl
  · rw [inside_didChangeEditingState]
    have fits : state.start + text.length ≤ ((state.mStringCache.take state.start.toNat ++ text ++
        state.mStringCache.drop stop.toNat).length : Int) := by
      rw [length] at most
      rw [List.length_append, List.length_append, List.length_take]
      omega
    constructor
    · change 0 ≤ min cursor cursor
      rw [min_self, place]
      omega
    · change max cursor cursor ≤ _
      rw [max_self, place]
      exact fits

theorem handleInsertTextEvent_records (inside : Inside state) (text : JsString) :
    Records state (state.handleInsertTextEvent text) := by
  have replaced : Inside (state.replace state.start state.stop text 0 text.length) :=
    ⟨inside.start, inside.stop⟩
  rw [handleInsertTextEvent, insertAtSelection_eq replaced]
  exact records_replace inside state.stop text rfl

/-- What is left without a part of the text. -/
theorem slices_eq (inside : Inside state) {stop : Int} (positive : 0 ≤ stop) :
    (state.mStringCache.slice 0 state.start ++
      if stop ≥ state.length then [] else state.mStringCache.slice stop state.length) =
    state.mStringCache.take state.start.toNat ++ [] ++ state.mStringCache.drop stop.toNat := by
  obtain ⟨least, within, most, -, -⟩ := inside.bounds
  rw [JsString.slice_zero least (within.trans most), List.append_nil]
  by_cases behind : stop ≥ state.length
  · rw [if_pos behind, List.drop_of_length_le (by rw [length] at behind; omega)]
  · rw [if_neg behind, length, JsString.slice_length positive (not_le.mp behind).le]

variable {length : Int} {initial : TextEditingValue}

/-- A deletion to the left that keeps the start of the selection, as one of a selection does. -/
theorem handleDeleteLeft_records (inside : Inside state)
    (keeps : state.unicodeStart unicode length = .ok state.start)
    (done : state.handleDeleteLeft unicode length = .ok next) :
    next = state ∨ Records state next := by
  obtain ⟨least, order, most, -, -⟩ := inside.bounds
  have kept : state.mStringCache.slice 0 state.start ++
      state.mStringCache.slice state.stop state.length =
        state.mStringCache.take state.start.toNat ++ [] ++
          state.mStringCache.drop state.stop.toNat := by
    rw [JsString.slice_zero least (order.trans most), ListenableEditingState.length,
      JsString.slice_length (least.trans order) most, List.append_nil]
  rw [handleDeleteLeft] at done
  by_cases none : length = 0
  · rw [if_pos none] at done
    cases done
    exact .inl rfl
  by_cases atStart : state.start = 0 ∧ state.stop = 0
  · rw [if_neg none, if_pos atStart] at done
    cases done
    exact .inl rfl
  rw [if_neg none, if_neg atStart, keeps] at done
  have replaced := records_replace inside state.stop [] (add_zero state.start).symm
  rw [← kept] at replaced
  cases done
  exact .inr replaced

/-- A deletion to the right that does not throw goes behind the cursor. -/
theorem handleDeleteRight_records (inside : Inside state)
    (done : state.handleDeleteRight unicode length = .ok next) :
    next = state ∨ Records state next := by
  obtain ⟨least, order, most, -, -⟩ := inside.bounds
  rw [handleDeleteRight] at done
  by_cases none : length = 0
  · rw [if_pos none] at done
    cases done
    exact .inl rfl
  by_cases atEnd : state.start = state.length
  · rw [if_neg none, if_pos atEnd] at done
    cases done
    exact .inl rfl
  rw [if_neg none, if_neg atEnd] at done
  obtain ⟨unicodeEnd, found, done⟩ := bind_eq_ok done
  have positive : 0 ≤ unicodeEnd := by
    unfold ListenableEditingState.unicodeEnd at found
    split at found
    · exact offsetAfter_nonneg (least.trans order) found
    · cases found
      exact least.trans order
  have replaced := records_replace inside unicodeEnd [] (add_zero state.start).symm
  rw [← slices_eq inside positive] at replaced
  cases done
  exact .inr replaced

/-! ## Runs -/

/-- An editing state and the value it started with. -/
structure Session where
  initial : TextEditingValue
  state : ListenableEditingState
deriving DecidableEq, Repr

/-- The events of the input method, beginning with any text and a selection inside it. -/
def machine (unicode : Unicode) : Machine Session Event where
  Initial session := Inside session.state ∧ session.state.recorded = [] ∧
    session.initial = session.state.value
  step session event := some { session with
    state := match session.state.handle unicode event with
      | .ok next => next
      | .error _ => session.state }

/-- Whether the change an event makes is recorded as it is: it is no newline, and no deletion
to the left of a cursor that is not at the start. -/
def IsRecorded (session : Session) : Event → Prop
  | .newline => False
  | .deleteLeft length =>
    length ≤ 0 ∨ session.state.start ≠ session.state.stop ∨ session.state.start = 0
  | .insertText _ => True
  | .deleteRight _ => True

instance (session : Session) : ∀ event, Decidable (IsRecorded session event)
  | .newline => inferInstanceAs (Decidable False)
  | .deleteLeft length => inferInstanceAs (Decidable (length ≤ 0 ∨ _ ∨ _))
  | .insertText _ => inferInstanceAs (Decidable True)
  | .deleteRight _ => inferInstanceAs (Decidable True)

/-- The deltas lead from the initial value to the state's own. -/
def Replays (session : Session) : Prop :=
  replay session.initial session.state.recorded = some session.state.value

/-- A handler that does not throw records its change. -/
theorem handle_records (inside : Inside state) {event : Event}
    (meets : IsRecorded ⟨initial, state⟩ event) (done : state.handle unicode event = .ok next) :
    next = state ∨ Records state next := by
  cases event with
  | newline => exact meets.elim
  | insertText text =>
    cases done
    exact .inr (handleInsertTextEvent_records inside text)
  | deleteRight length => exact handleDeleteRight_records inside done
  | deleteLeft length =>
    by_cases atStart : state.start = 0 ∧ state.stop = 0
    · have unchanged : state.handleDeleteLeft unicode length = .ok state := by
        rw [handleDeleteLeft]
        split
        · rfl
        · simp only [if_pos atStart]
          rfl
      rw [handle, unchanged] at done
      cases done
      exact .inl rfl
    · apply handleDeleteLeft_records inside _ done
      unfold unicodeStart
      split
      · next collapsed =>
          have nothing : length ≤ 0 := by
            rcases meets with nothing | selected | first
            · exact nothing
            · exact absurd collapsed selected
            · exact absurd ⟨first, collapsed ▸ first⟩ atStart
          rw [Int.toNat_of_nonpos nothing]
          rfl
      · rfl

/-- A recorded change keeps the replay up to date. -/
theorem Records.replays (records : Records state next)
    (replays : Replays ⟨initial, state⟩) : Replays ⟨initial, next⟩ := by
  obtain ⟨⟨delta, recorded, applies⟩, -⟩ := records
  have before : replay initial state.recorded = some state.value := replays
  rw [Replays, recorded, replay_append, before, Option.bind_some]
  change (delta.apply state.value).bind some = some next.value
  rw [applies]
  rfl

/-- What ICU says of letters. -/
def sampleIcu : Unicode where
  isEmoji _ := false
  isEmojiModifier _ := false
  isEmojiModifierBase _ := false
  isVariationSelector _ := false
  isRegionalIndicatorSymbol _ := false

/-- The text "ab" with this selection, and nothing recorded. -/
def opened (selectionStart selectionEnd : Int) : Session :=
  let state : ListenableEditingState := {
    mStringCache := [0x61, 0x62]
    mSelectionStartCache := selectionStart
    mSelectionEndCache := selectionEnd }
  ⟨state.value, state⟩

end ListenableEditingState

end FlutterEngine.Ohos
