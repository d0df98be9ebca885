import Mathlib.Algebra.Ring.Int.Defs
import Mathlib.Data.List.Induction
import FlutterEngine.WebPointer.PointerConversions

/-!
# Runs of the converter

What leaves the converter while the data of every device arrive in order.
-/

namespace FlutterEngine.WebPointer

open FlutterEngine.Std
open PointerDataConverter

variable {Coord Detail : Type} [Zero Coord] [Sub Coord] [BEq Coord]

/-- A new converter converts one after another. -/
def convertAll (stream : List (PointerMetrics Coord Detail)) :
    Option (PointerDataConverter Coord Detail) :=
  stream.foldlM convert {}

omit [Zero Coord] in
theorem follows_nil :
    ({} : PointerDataConverter Coord Detail).FollowsAt (fun _ => .absent) where
  phase _ := rfl
  located _ present := absurd rfl present
  started _ down := by contradiction
  bounded _ nowhere := by contradiction
  held _ _ absent := by contradiction
  positive := Int.le_refl 0
  fits := Trace.each_nil

/-- The rest of a stream that may arrive is converted. -/
theorem foldlM_convert_follows {phases : Int → Phase}
    {converter : PointerDataConverter Coord Detail} {stream : List (PointerMetrics Coord Detail)}
    (follows : converter.FollowsAt phases) (settled : converter.Settled phases)
    (received : ∀ device, ∃ phase,
      (stream.filter (PointerMetrics.ofDevice device)).foldlM Phase.receive (phases device) =
        some phase) :
    ∃ final phases, stream.foldlM convert converter = some final ∧ final.FollowsAt phases := by
  induction stream generalizing phases converter with
  | nil => exact ⟨converter, phases, rfl, follows⟩
  | cons data stream ih =>
    obtain ⟨_, own⟩ := received data.device
    rw [List.filter_cons_of_pos (p := PointerMetrics.ofDevice data.device) (decide_eq_true rfl)]
      at own
    obtain ⟨phase, receives, own⟩ := Option.bind_eq_some_iff.mp own
    obtain ⟨next, converts, reaches⟩ := convert_spec follows settled receives
    have kept := keeps_convert converts
    obtain ⟨final, last, rest, follows⟩ := ih reaches.follows (by
      intro device absent
      by_cases same : device = data.device
      · subst same
        rw [Function.update_self] at absent
        exact reaches.gone absent
      · rw [Function.update_of_ne same] at absent
        exact (kept device same).trans (settled device absent)) (by
      intro device
      by_cases same : device = data.device
      · subst same
        rw [Function.update_self]
        exact ⟨_, own⟩
      · have others := received device
        rw [List.filter_cons_of_neg (by simpa [PointerMetrics.ofDevice] using Ne.symm same)]
          at others
        rwa [Function.update_of_ne same])
    exact ⟨final, last, Option.bind_eq_some_iff.mpr ⟨next, converts, rest⟩, follows⟩

/-- While the data of every device arrive in order all are converted, the data of every device
leave in order, and each fits those before it. -/
theorem convertAll_legal {stream : List (PointerMetrics Coord Detail)}
    (received : Received stream) :
    ∃ final, convertAll stream = some final ∧ Legal final.result := by
  obtain ⟨final, phases, converts, follows⟩ :=
    foldlM_convert_follows follows_nil (fun _ _ => rfl) received
  exact ⟨final, converts, fun device => ⟨_, follows.phase device⟩, follows.fits⟩

/-- A finger in a row of places. -/
def fingerAt (change : PointerChange) (place buttons : Int) : PointerMetrics Int Unit where
  change
  physicalX := place
  physicalY := 0
  buttons
  pressure := 1
  detail := ()

/-- A finger that taps at two places, the second time after a move. -/
def twoTaps : List (PointerMetrics Int Unit) :=
  [fingerAt .down 0 1, fingerAt .up 0 0, fingerAt .down 5 1, fingerAt .move 6 1, fingerAt .up 7 0]

theorem received_twoTaps : Received twoTaps := by
  intro device
  by_cases same : device = 0
  · subst same
    exact ⟨.absent, rfl⟩
  · have none : twoTaps.filter (PointerMetrics.ofDevice device) = [] := by
      simp [twoTaps, fingerAt, PointerMetrics.ofDevice, Ne.symm same]
    rw [none]
    exact ⟨.absent, rfl⟩

theorem convertAll_legal_twoTaps : ∃ final, convertAll twoTaps = some final ∧ Legal final.result :=
  convertAll_legal received_twoTaps

/-- No down has an identifier that was used before. -/
def NeverUsed (trace : List (PointerData Coord Detail)) : Prop :=
  Trace.Each (fun before event => event.Is .down →
    ∀ other ∈ before, other.pointerIdentifier ≠ event.pointerIdentifier) trace

/-- Every event is as far as it says from the one of its device before it. -/
def AlwaysDisplaced (trace : List (PointerData Coord Detail)) : Prop :=
  Trace.Each (fun before event => ∀ latest,
    Trace.last (fromDevice event.device) before = some latest → Displaced latest event) trace

/-- The add that is synthesized for a down has its identifier already, and a device that is
added again is not displaced from where it was removed. -/
theorem twoTaps_not_claimed :
    (¬∀ stream : List (PointerMetrics Int Unit), Received stream →
      ∀ final, convertAll stream = some final → NeverUsed final.result) ∧
    ¬∀ stream : List (PointerMetrics Int Unit), Received stream →
      ∀ final, convertAll stream = some final → AlwaysDisplaced final.result := by
  constructor
  · intro claimed
    have used := claimed twoTaps received_twoTaps _ rfl
    exact used [_] _ _ rfl ⟨.inl rfl, rfl⟩ _ (.head _) rfl
  · intro claimed
    have displaced := claimed twoTaps received_twoTaps _ rfl
    have again := (displaced [_, _, _, _] _ _ rfl _ rfl).deltaX
    exact absurd again (by decide)

/-! ## Active buttons -/

section ActiveButtons

variable {data : PointerMetrics Coord Detail} {converter next : PointerDataConverter Coord Detail}
  {state : PointerDeviceState Coord}

omit [Zero Coord] [Sub Coord] [BEq Coord] in
/-- The device is down from such data on. -/
def holds (device : Int) (data : PointerMetrics Coord Detail) : Bool :=
  data.ofDevice device && decide (data.Is .down ∨ data.Is .move)

/-- Every move synthesized before an up event has the buttons of the last down or move event of
its device. -/
def CarriesButtons (stream : List (PointerMetrics Coord Detail)) : Prop :=
  Trace.Each (fun before data => data.Is .up →
    ∀ converter next, convertAll before = some converter → converter.convert data = some next →
      ∀ event ∈ next.result.drop converter.result.length, event.Is .move →
        ∃ held, Trace.last (holds data.device) before = some held ∧
          event.buttons = held.buttons) stream

/-- Where an up event finds its device elsewhere, the last event of any device that sets the
buttons has those of the last down or move event of its own. -/
def KeepsOwnButtons (stream : List (PointerMetrics Coord Detail)) : Prop :=
  Trace.Each (fun before data => data.Is .up →
    ∀ converter state, convertAll before = some converter →
      converter.stateOf data.device = some state →
        state.locationHasChanged data.physicalX data.physicalY = true →
          ∃ held, Trace.last (holds data.device) before = some held ∧
            (Trace.last setsButtons before).map (·.buttons) = some held.buttons) stream

omit [Zero Coord] [BEq Coord] in
theorem addData_stored (data : PointerMetrics Coord Detail)
    (stored : converter.stateOf data.device = some state) (synthesized : Bool) : ∃ added, converter.addData data synthesized = some added ∧
      added.stateOf data.device = some (state.moved data) ∧
      added.result = converter.result ++ [data.event state synthesized] := by
  have found : converter.globalPointerState.pointers data.device = some state := stored
  rw [addData, found]
  exact ⟨_, rfl, Function.update_self .., rfl⟩

omit [BEq Coord] in
theorem removeTouch_stored (stored : converter.stateOf data.device = some state) :
    ∃ next rest, converter.removeTouch data = some next ∧
      next.result = converter.result ++ rest ∧ ∀ event ∈ rest, ¬event.Is .move := by
  rw [removeTouch]
  split
  · obtain ⟨removed, adds, -, result⟩ := addData_stored
      { data with change := .remove, signalKind := some .none, buttons := 0, pressure := 0 }
      stored true
    refine ⟨removed.removeDevice data, _, Option.bind_eq_some_iff.mpr ⟨removed, adds, rfl⟩,
      result, ?_⟩
    refine List.forall_mem_singleton.mpr fun is => ?_
    cases is.2
  · exact ⟨converter, [], rfl, (List.append_nil _).symm, List.forall_mem_nil _⟩

theorem convert_up (is : data.Is .up) : converter.convert data = converter.upOrCancel data := by
  obtain ⟨plain, up⟩ := is
  rw [convert, convertChange, up]
  rcases plain with plain | plain <;> rw [plain]

/-- What an up event pushes: a move with the active buttons where the location has changed. -/
theorem up_pushes (is : data.Is .up) (stored : converter.stateOf data.device = some state) :
    ∃ next moves rest, converter.convert data = some next ∧
      next.result = converter.result ++ (moves ++ rest) ∧ (∀ event ∈ rest, ¬event.Is .move) ∧
      (∀ event ∈ moves, event.buttons = converter.globalPointerState.activeButtons ∧
        state.locationHasChanged data.physicalX data.physicalY = true) ∧
      (state.locationHasChanged data.physicalX data.physicalY = true →
        ∃ event ∈ moves, event.Is .move) := by
  let move := { data with
    change := .move, buttons := converter.globalPointerState.activeButtons }
  obtain ⟨moved, moves, here, synthesizes, kept, result, carried, needed⟩ :
      ∃ moved moves here, converter.synthesizeIfMoved move = some moved ∧
        moved.stateOf data.device = some here ∧ moved.result = converter.result ++ moves ∧
        (∀ event ∈ moves, event.buttons = converter.globalPointerState.activeButtons ∧
          state.locationHasChanged data.physicalX data.physicalY = true) ∧
        (state.locationHasChanged data.physicalX data.physicalY = true →
          ∃ event ∈ moves, event.Is .move) := by
    have found : converter.globalPointerState.pointers move.device = some state := stored
    rw [synthesizeIfMoved, found]
    by_cases changed : state.locationHasChanged data.physicalX data.physicalY = true
    · obtain ⟨moved, adds, kept, result⟩ := addData_stored
        { move with signalKind := some .none } stored true
      refine ⟨moved, _, _, (if_pos changed).trans adds, kept, result, ?_, fun _ => ?_⟩
      · exact List.forall_mem_singleton.mpr ⟨rfl, changed⟩
      · exact ⟨_, List.mem_singleton_self _, .inr rfl, rfl⟩
    · exact ⟨converter, [], state, if_neg changed, stored, (List.append_nil _).symm,
        List.forall_mem_nil _, fun moved => absurd moved changed⟩
  obtain ⟨released, generates, stays, pushed⟩ := addData_stored data kept false
  obtain ⟨next, rest, removes, ends, still⟩ := removeTouch_stored stays
  refine ⟨next, moves, [data.event here false] ++ rest, ?_, ?_, ?_, carried, needed⟩
  · have up : data.change ≠ .cancel := by simp [is.2]
    rw [convert_up is]
    refine Option.bind_eq_some_iff.mpr ⟨state, stored, ?_⟩
    rw [located, if_neg up]
    exact Option.bind_eq_some_iff.mpr ⟨moved, synthesizes,
      Option.bind_eq_some_iff.mpr ⟨released, generates, removes⟩⟩
  · rw [ends, pushed, result, List.append_assoc, List.append_assoc]
  · intro event member
    rcases List.mem_append.mp member with own | other
    · cases List.mem_singleton.mp own
      intro moves
      cases is.2.symm.trans moves.2
    · exact still event other

theorem activeButtons_convertAll {stream : List (PointerMetrics Coord Detail)}
    (ran : convertAll stream = some converter) :
    converter.globalPointerState.activeButtons =
      ((Trace.last setsButtons stream).map (·.buttons)).getD 0 := by
  induction stream using List.reverseRecOn generalizing converter with
  | nil =>
    cases ran
    rfl
  | append_singleton stream data ih =>
    rw [convertAll, List.foldlM_append] at ran
    obtain ⟨before, ran, converts⟩ := Option.bind_eq_some_iff.mp ran
    obtain ⟨_, converts, ends⟩ := Option.bind_eq_some_iff.mp converts
    cases ends
    rw [activeButtons_convert converts]
    split
    · next sets => rw [Trace.last_concat_pass sets, Option.map_some, Option.getD_some]
    · next skips => rw [Trace.last_concat_skip (Bool.not_eq_true _ ▸ skips), ih ran]

omit [Zero Coord] [Sub Coord] [BEq Coord] in
theorem last_setsButtons {before : List (PointerMetrics Coord Detail)} {device : Int}
    {held : PointerMetrics Coord Detail} (found : Trace.last (holds device) before = some held) :
    ∃ latest, Trace.last setsButtons before = some latest := by
  obtain ⟨member, is⟩ := Trace.mem_of_last found
  simp only [holds, Bool.and_eq_true, decide_eq_true_eq] at is
  have sets : held ∈ before.filter setsButtons :=
    List.mem_filter.mpr ⟨member, decide_eq_true (.inr is.2)⟩
  exact Option.isSome_iff_exists.mp (List.getLast?_isSome.mpr (List.ne_nil_of_mem sets))

/-- The active buttons are those of the last event of any device, so a move before an up event
carries the buttons of its own device exactly where the two agree. -/
theorem carriesButtons_iff (stream : List (PointerMetrics Coord Detail)) :
    CarriesButtons stream ↔ KeepsOwnButtons stream := by
  constructor
  · intro carries before data after split is converter state ran stored changed
    obtain ⟨next, moves, rest, converts, result, -, carried, needed⟩ := up_pushes is stored
    obtain ⟨event, pushed, moved⟩ := needed changed
    obtain ⟨held, last, same⟩ := carries before data after split is converter next ran converts
      event (by
        rw [result, List.drop_left]
        exact List.mem_append_left _ pushed) moved
    obtain ⟨latest, sets⟩ := last_setsButtons last
    have active := activeButtons_convertAll ran
    rw [sets, Option.map_some, Option.getD_some, ← (carried event pushed).1, same] at active
    exact ⟨held, last, by rw [sets, Option.map_some, active]⟩
  · intro keeps before data after split is converter next ran converts event pushed moved
    have found := converts
    rw [convert_up is] at found
    obtain ⟨state, stored, -⟩ := Option.bind_eq_some_iff.mp found
    obtain ⟨_, moves, rest, again, result, still, carried, -⟩ := up_pushes is stored
    cases converts.symm.trans again
    rw [result, List.drop_left] at pushed
    have own := (List.mem_append.mp pushed).resolve_right fun other => still event other moved
    obtain ⟨buttons, changed⟩ := carried event own
    obtain ⟨held, last, same⟩ := keeps before data after split is converter state ran stored changed
    refine ⟨held, last, ?_⟩
    rw [buttons, activeButtons_convertAll ran, same, Option.getD_some]

/-- While a finger is down the secondary button of a mouse is pressed. The move to where the
finger is lifted has the button of the mouse. -/
theorem fingerAndMouse_not_carriesButtons :
    let stream := [fingerAt .down 0 1,
      { fingerAt .down 9 2 with device := 1, kind := .mouse }, fingerAt .up 5 0]
    Received stream ∧ ¬CarriesButtons stream := by
  constructor
  · intro device
    by_cases finger : device = 0
    · subst finger
      exact ⟨.absent, rfl⟩
    · by_cases mouse : device = 1
      · subst mouse
        exact ⟨.down, rfl⟩
      · refine ⟨.absent, ?_⟩
        simp [fingerAt, PointerMetrics.ofDevice, Ne.symm finger, Ne.symm mouse]
  · intro carries
    obtain ⟨held, last, same⟩ := carries [_, _] _ [] rfl ⟨.inl rfl, rfl⟩ _ _ rfl rfl _ (.head _)
      ⟨.inr rfl, rfl⟩
    cases last
    exact absurd same (by decide)

end ActiveButtons

end FlutterEngine.WebPointer
