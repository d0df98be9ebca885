import FlutterEngine.Window.PointerProtocol

/-!
# The places of converted pointer data

With exact coordinates: where the events of a device are, and how far a pan-zoom has gone.
-/

namespace FlutterEngine.Window

open FlutterEngine.Std
open PointerData (ofDevice)
open PointerDataPacketConverter (Steady)

variable {Coord : Type}

namespace PointerData

variable (event : PointerData Coord)

/-- An event that is where its device already is. -/
def stays : Bool :=
  event.signals || decide (event.Is .kDown) || decide (event.Is .kUp) ||
    decide (event.Is .kCancel) || decide (event.Is .kRemove) ||
      decide (event.Is .kPanZoomStart) || decide (event.Is .kPanZoomEnd)

/-- An event that takes its device along. -/
def moves : Bool :=
  decide (event.Is .kHover) || decide (event.Is .kMove) || decide (event.Is .kPanZoomUpdate)

end PointerData

section Travel

variable [AddCommGroup Coord]

/-- How far a pan-zoom has gone after the event: its updates add to it. -/
def panStep (delta : PointerData Coord → Coord) (travelled : Coord) (event : PointerData Coord) :
    Coord :=
  if event.Is .kPanZoomStart then 0
  else if event.Is .kPanZoomUpdate then travelled + delta event
  else travelled

/-- The sum over the updates of the device since its latest pan-zoom started. -/
def panTravel (delta : PointerData Coord → Coord) (device : Int)
    (trace : List (PointerData Coord)) : Coord :=
  (trace.filter (ofDevice device)).foldl (panStep delta) 0

/-- The events of every device are spatially continuous. -/
structure Continuous (trace : List (PointerData Coord)) : Prop where
  stays : Trace.Each (fun before event => event.stays = true →
    ∃ previous, Trace.last (ofDevice event.device) before = some previous ∧
      event.physicalX = previous.physicalX ∧ event.physicalY = previous.physicalY) trace
  moves : Trace.Each (fun before event => event.moves = true →
    ∃ previous, Trace.last (ofDevice event.device) before = some previous ∧
      event.physicalDeltaX = event.physicalX - previous.physicalX ∧
        event.physicalDeltaY = event.physicalY - previous.physicalY) trace
  pans : Trace.Each (fun before event => event.Is .kPanZoomUpdate →
    panTravel PointerData.panDeltaX event.device (before ++ [event]) = event.panX ∧
      panTravel PointerData.panDeltaY event.device (before ++ [event]) = event.panY) trace

theorem panTravel_concat_own (delta : PointerData Coord → Coord) (trace : List (PointerData Coord))
    (event : PointerData Coord) :
    panTravel delta event.device (trace ++ [event]) =
      panStep delta (panTravel delta event.device trace) event := by
  simp [panTravel, List.filter_append, ofDevice]

theorem panTravel_concat_other (delta : PointerData Coord → Coord)
    (trace : List (PointerData Coord)) {device : Int} {event : PointerData Coord}
    (other : ofDevice device event = false) :
    panTravel delta device (trace ++ [event]) = panTravel delta device trace := by
  rw [panTravel, Trace.filter_concat_skip other, panTravel]

end Travel

theorem eq_undefined {change : Change} (undefined : change.defined = false) :
    ∃ value, change = .undefined value := by
  cases change with
  | undefined value => exact ⟨value, rfl⟩
  | _ => contradiction

theorem not_is_of_undefined {event : PointerData Coord} {change : Change}
    (undefined : event.change.defined = false) (defined : change.defined = true) :
    ¬event.Is change := by
  rintro ⟨-, rfl⟩
  exact Bool.false_ne_true (undefined.symm.trans defined)

/-! ## One emission -/

section Emissions

variable [AddCommGroup Coord] [DecidableEq Coord] {calm steady : Prop}
  {before after : Option (PointerState Coord)} {pointer count : Int} {event : PointerData Coord}
  {state : PointerState Coord}

omit [AddCommGroup Coord] in
theorem SamePlace.eq (place : SamePlace event state) :
    event.physicalX = state.physicalX ∧ event.physicalY = state.physicalY := by
  obtain same | ⟨samePlaceX, samePlaceY⟩ := place
  · simp only [PointerDataPacketConverter.locationNeedsUpdate, Bool.or_eq_false_iff,
      bne_eq_false_iff_eq] at same
    exact ⟨same.1.symm, same.2.symm⟩
  · exact ⟨samePlaceX.symm, samePlaceY.symm⟩

section

variable (emission : Emission calm steady before pointer event after count)

include emission

/-- After an event, its device is where the event is. -/
theorem Emission.located (steadily : steady) (ends : after = some state) :
    event.physicalX = state.physicalX ∧ event.physicalY = state.physicalY := by
  cases emission with
  | add _ _ _ physicalX physicalY =>
    cases ends
    exact ⟨physicalX.symm, physicalY.symm⟩
  | hover _ _ _ moves _ =>
    cases ends
    exact ⟨moves.physicalX.symm, moves.physicalY.symm⟩
  | move _ _ _ moves _ =>
    cases ends
    exact ⟨moves.physicalX.symm, moves.physicalY.symm⟩
  | panZoomUpdate _ _ _ moves _ _ _ _ =>
    cases ends
    exact ⟨moves.physicalX.symm, moves.physicalY.symm⟩
  | down _ _ _ _ place =>
    cases ends
    exact place.eq
  | release _ _ _ place =>
    cases ends
    exact (place steadily).eq
  | panZoomStart _ _ _ _ place =>
    cases ends
    exact place.eq
  | panZoomEnd _ _ _ place =>
    cases ends
    exact place.eq
  | remove _ _ _ _ => contradiction
  | signal _ _ place =>
    cases ends
    exact place.eq
  | undefined _ _ _ place => exact (place steadily state ends).eq

theorem Emission.staying (steadily : steady) (stays : event.stays = true) :
    ∃ state, before = some state ∧
      event.physicalX = state.physicalX ∧ event.physicalY = state.physicalY := by
  cases emission with
  | down _ _ _ _ place => exact ⟨_, rfl, place.eq⟩
  | release _ _ _ place => exact ⟨_, rfl, (place steadily).eq⟩
  | panZoomStart _ _ _ _ place => exact ⟨_, rfl, place.eq⟩
  | panZoomEnd _ _ _ place => exact ⟨_, rfl, place.eq⟩
  | remove _ _ _ place => exact ⟨_, rfl, place.eq⟩
  | signal _ _ place => exact ⟨_, rfl, place.eq⟩
  | add is _ _ _ _ =>
    simp [PointerData.stays, is.iff, is.signals_eq] at stays
  | hover is _ _ _ _ =>
    simp [PointerData.stays, is.iff, is.signals_eq] at stays
  | move is _ _ _ _ =>
    simp [PointerData.stays, is.iff, is.signals_eq] at stays
  | panZoomUpdate is _ _ _ _ _ _ _ =>
    simp [PointerData.stays, is.iff, is.signals_eq] at stays
  | undefined plain undefined _ _ =>
    obtain ⟨value, change⟩ := eq_undefined undefined
    simp [PointerData.stays, PointerData.Is, PointerData.signals, plain, change] at stays

theorem Emission.moving (moves : event.moves = true) :
    ∃ state, before = some state ∧ event.physicalDeltaX = event.physicalX - state.physicalX ∧
      event.physicalDeltaY = event.physicalY - state.physicalY := by
  cases emission with
  | hover _ _ _ moves _ => exact ⟨_, rfl, moves.deltaX, moves.deltaY⟩
  | move _ _ _ moves _ => exact ⟨_, rfl, moves.deltaX, moves.deltaY⟩
  | panZoomUpdate _ _ _ moves _ _ _ _ => exact ⟨_, rfl, moves.deltaX, moves.deltaY⟩
  | add is _ _ _ _ => simp [PointerData.moves, is.iff] at moves
  | down is _ _ _ _ => simp [PointerData.moves, is.iff] at moves
  | release is _ _ _ =>
    obtain is | is := is <;> simp [PointerData.moves, is.iff] at moves
  | panZoomStart is _ _ _ _ => simp [PointerData.moves, is.iff] at moves
  | panZoomEnd is _ _ _ => simp [PointerData.moves, is.iff] at moves
  | remove is _ _ _ => simp [PointerData.moves, is.iff] at moves
  | signal signals _ _ =>
    simp [PointerData.moves, PointerData.not_plain_of_signals signals] at moves
  | undefined _ undefined _ _ =>
    obtain ⟨value, change⟩ := eq_undefined undefined
    simp [PointerData.moves, PointerData.Is, change] at moves

end

/-- The offset of an active pan-zoom goes by its updates. -/
structure PanFollows (before : Option (PointerState Coord)) (event : PointerData Coord)
    (state : PointerState Coord) : Prop where
  started : event.Is .kPanZoomStart → state.panX = 0 ∧ state.panY = 0
  continued : ¬event.Is .kPanZoomStart → ∃ earlier, before = some earlier ∧
    earlier.isPanZoomActive = true ∧
      state.panX = panStep PointerData.panDeltaX earlier.panX event ∧
        state.panY = panStep PointerData.panDeltaY earlier.panY event

omit [DecidableEq Coord] in
theorem panStep_of_other {delta : PointerData Coord → Coord} {travelled : Coord}
    (start : ¬event.Is .kPanZoomStart) (update : ¬event.Is .kPanZoomUpdate) :
    panStep delta travelled event = travelled := by
  rw [panStep, if_neg start, if_neg update]

omit [DecidableEq Coord] in
/-- Where the offset stays, neither does the pan-zoom move. -/
theorem PanFollows.of_kept {earlier : PointerState Coord} (start : ¬event.Is .kPanZoomStart)
    (update : ¬event.Is .kPanZoomUpdate) (active : earlier.isPanZoomActive = true)
    (panX : state.panX = earlier.panX) (panY : state.panY = earlier.panY) :
    PanFollows (some earlier) event state where
  started is := absurd is start
  continued _ := ⟨earlier, rfl, active, by rw [panStep_of_other start update, panX],
    by rw [panStep_of_other start update, panY]⟩

theorem Emission.panning (emission : Emission calm steady before pointer event after count)
    (steadily : steady) (ends : after = some state) (active : state.isPanZoomActive = true) :
    PanFollows before event state := by
  have other : ∀ {change}, event.Is change → change ≠ .kPanZoomStart → change ≠ .kPanZoomUpdate →
      ¬event.Is .kPanZoomStart ∧ ¬event.Is .kPanZoomUpdate :=
    fun is start update => ⟨mt (is.iff _).mp start, mt (is.iff _).mp update⟩
  cases emission with
  | add _ _ idle _ _ =>
    cases ends
    exact absurd (idle.symm.trans active) Bool.false_ne_true
  | hover is _ _ moves keeps =>
    cases ends
    obtain ⟨start, update⟩ := other is (by decide) (by decide)
    have was := moves.isPanZoomActive.symm.trans active
    obtain ⟨panX, panY⟩ := keeps steadily was
    exact .of_kept start update was panX panY
  | move is _ _ moves keeps =>
    cases ends
    obtain ⟨start, update⟩ := other is (by decide) (by decide)
    have was := moves.isPanZoomActive.symm.trans active
    obtain ⟨panX, panY⟩ := keeps steadily was
    exact .of_kept start update was panX panY
  | @panZoomUpdate earlier _ _ _ is was _ moves deltaX deltaY panX panY =>
    cases ends
    have start : ¬event.Is .kPanZoomStart := fun same => by cases is.2.symm.trans same.2
    refine ⟨fun same => absurd same start, fun _ => ⟨earlier, rfl, was, ?_, ?_⟩⟩
    · rw [panStep, if_neg start, if_pos is, panX, deltaX, add_sub_cancel]
    · rw [panStep, if_neg start, if_pos is, panY, deltaY, add_sub_cancel]
  | down is _ _ _ _ =>
    cases ends
    obtain ⟨start, update⟩ := other is (by decide) (by decide)
    exact .of_kept start update active rfl rfl
  | release is _ _ _ =>
    cases ends
    obtain is | is := is
    · obtain ⟨start, update⟩ := other is (by decide) (by decide)
      exact .of_kept start update active rfl rfl
    · obtain ⟨start, update⟩ := other is (by decide) (by decide)
      exact .of_kept start update active rfl rfl
  | panZoomStart is _ _ _ _ =>
    cases ends
    exact ⟨fun _ => ⟨rfl, rfl⟩, fun start => absurd is start⟩
  | panZoomEnd is _ _ _ =>
    cases ends
    exact absurd active Bool.false_ne_true
  | remove _ _ _ _ => contradiction
  | signal signals _ _ =>
    cases ends
    exact .of_kept (PointerData.not_plain_of_signals signals _)
      (PointerData.not_plain_of_signals signals _) active rfl rfl
  | undefined _ undefined _ _ =>
    subst ends
    exact .of_kept (not_is_of_undefined undefined rfl) (not_is_of_undefined undefined rfl)
      active rfl rfl

theorem Emission.updating (emission : Emission calm steady before pointer event after count)
    (is : event.Is .kPanZoomUpdate) :
    ∃ state, after = some state ∧ state.isPanZoomActive = true ∧ state.panX = event.panX ∧
      state.panY = event.panY := by
  cases emission with
  | @panZoomUpdate _ _ after _ _ active _ moves _ _ panX panY =>
    exact ⟨after, rfl, moves.isPanZoomActive.trans active, panX, panY⟩
  | signal signals _ _ => exact absurd is (PointerData.not_plain_of_signals signals _)
  | undefined _ undefined _ _ => exact absurd is (not_is_of_undefined undefined rfl)
  | release same _ _ _ => obtain same | same := same <;> cases same.2.symm.trans is.2
  | add same _ _ _ _ => cases same.2.symm.trans is.2
  | hover same _ _ _ _ => cases same.2.symm.trans is.2
  | move same _ _ _ _ => cases same.2.symm.trans is.2
  | down same _ _ _ _ => cases same.2.symm.trans is.2
  | panZoomStart same _ _ _ _ => cases same.2.symm.trans is.2
  | panZoomEnd same _ _ _ => cases same.2.symm.trans is.2
  | remove same _ _ _ => cases same.2.symm.trans is.2

end Emissions

/-! ## Runs -/

section Runs

variable [AddCommGroup Coord] [DecidableEq Coord] {calm steady : Prop}
  {converter : PointerDataPacketConverter Coord} {trace : List (PointerData Coord)}

/-- The trace is continuous so far, and the converter knows where every device is. -/
structure Located (converter : PointerDataPacketConverter Coord)
    (trace : List (PointerData Coord)) : Prop where
  continuous : Continuous trace
  places : ∀ device state, converter.states device = some state →
    ∃ previous, Trace.last (ofDevice device) trace = some previous ∧
      previous.physicalX = state.physicalX ∧ previous.physicalY = state.physicalY
  offsets : ∀ device state, converter.states device = some state →
    state.isPanZoomActive = true →
      panTravel PointerData.panDeltaX device trace = state.panX ∧
        panTravel PointerData.panDeltaY device trace = state.panY

omit [DecidableEq Coord] in
theorem located_nil : Located ({} : PointerDataPacketConverter Coord) [] where
  continuous := ⟨Trace.each_nil, Trace.each_nil, Trace.each_nil⟩
  places _ _ absent := by contradiction
  offsets _ _ absent := by contradiction

/-- How far the pan-zoom has gone after an emission. -/
theorem Located.travelled {event : PointerData Coord} {after : Option (PointerState Coord)}
    {state : PointerState Coord} {count : Int} (located : Located converter trace)
    (steadily : steady)
    (emission : Emission calm steady (converter.states event.device) converter.pointer event
      after count)
    (ends : after = some state) (active : state.isPanZoomActive = true) :
    panTravel PointerData.panDeltaX event.device (trace ++ [event]) = state.panX ∧
      panTravel PointerData.panDeltaY event.device (trace ++ [event]) = state.panY := by
  have pans := emission.panning steadily ends active
  rw [panTravel_concat_own, panTravel_concat_own]
  by_cases start : event.Is .kPanZoomStart
  · obtain ⟨panX, panY⟩ := pans.started start
    rw [panStep, panStep, if_pos start, if_pos start, panX, panY]
    exact ⟨rfl, rfl⟩
  · obtain ⟨earlier, stored, was, panX, panY⟩ := pans.continued start
    obtain ⟨offsetX, offsetY⟩ := located.offsets event.device earlier stored was
    rw [offsetX, offsetY]
    exact ⟨panX.symm, panY.symm⟩

/-- Every emission is a continuous next event. -/
theorem located_kept (steadily : steady) : KeptByEmissions calm steady (@Located Coord _) := by
  intro converter trace event after count located emission
  have elsewhere : ∀ device, device ≠ event.device → ofDevice device event = false :=
    fun device other => decide_eq_false (Ne.symm other)
  refine ⟨⟨?_, ?_, ?_⟩, ?_, ?_⟩
  · refine located.continuous.stays.concat fun stays => ?_
    obtain ⟨state, stored, placeX, placeY⟩ := emission.staying steadily stays
    obtain ⟨previous, last, wasX, wasY⟩ := located.places _ state stored
    exact ⟨previous, last, placeX.trans wasX.symm, placeY.trans wasY.symm⟩
  · refine located.continuous.moves.concat fun moves => ?_
    obtain ⟨state, stored, deltaX, deltaY⟩ := emission.moving moves
    obtain ⟨previous, last, wasX, wasY⟩ := located.places _ state stored
    exact ⟨previous, last, by rw [wasX, deltaX], by rw [wasY, deltaY]⟩
  · refine located.continuous.pans.concat fun is => ?_
    obtain ⟨state, ends, active, panX, panY⟩ := emission.updating is
    obtain ⟨travelX, travelY⟩ := located.travelled steadily emission ends active
    exact ⟨travelX.trans panX, travelY.trans panY⟩
  · intro device state stored
    by_cases own : device = event.device
    · subst own
      rw [states_advance_self] at stored
      exact ⟨event, Trace.last_concat_pass (decide_eq_true rfl), emission.located steadily stored⟩
    · rw [states_advance_of_ne converter own] at stored
      rw [Trace.last_concat_skip (elsewhere device own)]
      exact located.places device state stored
  · intro device state stored active
    by_cases own : device = event.device
    · subst own
      rw [states_advance_self] at stored
      exact located.travelled steadily emission stored active
    · rw [states_advance_of_ne converter own] at stored
      rw [panTravel_concat_other _ _ (elsewhere device own),
        panTravel_concat_other _ _ (elsewhere device own)]
      exact located.offsets device state stored active

/-- Steady runs push what is spatially continuous. -/
theorem reachable_continuous [One Coord] {unset : PointerState Coord} {state : Conversion Coord}
    (reached : (conversion unset).Reachable
      (fun state packet => MeetsEach unset Steady state.converter packet) state) :
    Continuous state.trace := by
  have kept : KeptByEmissions False True (@Located Coord _) := located_kept trivial
  have located := reachable_keeps kept (fun meets => ⟨False.elim, fun _ => meets⟩) located_nil
    reached
  exact located.continuous

end Runs

theorem reachable_continuous_panZoom : ∃ state : Conversion Int,
    state.trace.length = 12 ∧ Continuous state.trace :=
  ⟨_, rfl, @reachable_continuous Int _ _ _ unsetState _ (.step
    [pointerAt .kDown 0, pointerAt .kMove 1, pointerAt .kUp 2, pointerAt .kPanZoomStart 3,
      { pointerAt .kPanZoomUpdate 4 with panX := 7 }, { pointerAt .kPanZoomUpdate 4 with panX := 9 },
      pointerAt .kPanZoomEnd 5, pointerAt .kRemove 5]
    (.initial rfl) (by decide) rfl)⟩

/-- A pointer that is removed elsewhere while it is down is cancelled where it has not been. -/
theorem remove_not_continuous : ¬∀ (unset : PointerState Int) (state : Conversion Int),
    (conversion unset).Reachable (fun _ _ => True) state → Continuous state.trace := by
  intro continuous
  have stays := (continuous unsetState _ (.step [pointerAt .kDown 0, pointerAt .kRemove 5]
    (.initial rfl) trivial rfl)).stays
  obtain ⟨previous, last, placeX, -⟩ := stays [_, _] _ [_, _] rfl rfl
  cases last
  exact absurd placeX (by decide)

end FlutterEngine.Window
