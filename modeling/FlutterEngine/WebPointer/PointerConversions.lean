import FlutterEngine.WebPointer.PointerSequences

/-!
# What a conversion does

What one event that leaves does to what the converter knows of its device, the events that a
conversion adds, and the phase that it leaves the device in.
-/

namespace FlutterEngine.WebPointer

open FlutterEngine.Std

variable {Coord Detail : Type} [Sub Coord] [BEq Coord]

/-- What has left fits, and the converter knows where each device stands. -/
structure Follows (phases : Int → Phase) (pointers : Int → Option (PointerDeviceState Coord))
    (count : Int) (trace : List (PointerData Coord Detail)) : Prop where
  phase : ∀ device, (trace.filter (fromDevice device)).foldlM Phase.next .absent =
    some (phases device)
  located : ∀ device, phases device ≠ .absent → ∃ state latest,
    pointers device = some state ∧ Trace.last (fromDevice device) trace = some latest ∧
      state.x = latest.physicalX ∧ state.y = latest.physicalY
  started : ∀ device, phases device = .down → ∃ state start,
    pointers device = some state ∧ Trace.last (downFrom device) trace = some start ∧
      state.pointer = some start.pointerIdentifier
  bounded : ∀ event ∈ trace, event.pointerIdentifier ≤ count
  held : ∀ device state, pointers device = some state → state.pointer.getD 0 ≤ count
  positive : 0 ≤ count
  fits : Trace.Each Fits trace

namespace PointerDataConverter

/-- The converter knows where each device stands. -/
abbrev FollowsAt (phases : Int → Phase) (converter : PointerDataConverter Coord Detail) : Prop :=
  Follows phases converter.globalPointerState.pointers converter.globalPointerState.pointerCount
    converter.result

/-- It has states of just the devices that are not absent. -/
def Settled (phases : Int → Phase) (converter : PointerDataConverter Coord Detail) : Prop :=
  ∀ device, phases device = .absent → converter.globalPointerState.pointers device = none

end PointerDataConverter

open PointerDataConverter

/-! ## One event -/

/-- The event that leaves for such data. -/
def PointerMetrics.event (data : PointerMetrics Coord Detail) (state : PointerDeviceState Coord)
    (synthesized : Bool) : PointerData Coord Detail :=
  { data with
    pointerIdentifier := state.pointer.getD 0
    physicalDeltaX := data.physicalX - state.x
    physicalDeltaY := data.physicalY - state.y
    synthesized }

/-- The state after it. -/
def PointerDeviceState.moved (state : PointerDeviceState Coord)
    (data : PointerMetrics Coord Detail) : PointerDeviceState Coord :=
  { state with x := data.physicalX, y := data.physicalY }

/-- The data are where the device is. -/
def PointerDeviceState.At (state : PointerDeviceState Coord) (data : PointerMetrics Coord Detail) :
    Prop :=
  state.locationHasChanged data.physicalX data.physicalY = false ∨
    state.x = data.physicalX ∧ state.y = data.physicalY

section Events

variable {phases : Int → Phase} {pointers : Int → Option (PointerDeviceState Coord)} {count : Int}
  {trace : List (PointerData Coord Detail)} {data : PointerMetrics Coord Detail}
  {state : PointerDeviceState Coord} {synthesized : Bool} {phase : Phase}

variable (follows : Follows phases pointers count trace)

include follows

theorem Follows.fits_event (stored : pointers data.device = some state)
    (takes : Phase.Takes (data.event state synthesized) (phases data.device) phase)
    (begins : phases data.device = .absent → state.x = data.physicalX ∧ state.y = data.physicalY)
    (still : ¬Positions (data.event state synthesized) → state.At data)
    (fresh : data.Is .down → Fresh trace (data.event state synthesized)) :
    Fits trace (data.event state synthesized) := by
  have latest (present : phases data.device ≠ .absent) : ∃ latest,
      Trace.last (fromDevice data.device) trace = some latest ∧
        state.x = latest.physicalX ∧ state.y = latest.physicalY := by
    obtain ⟨known, latest, found, last, same⟩ := follows.located _ present
    cases stored.symm.trans found
    exact ⟨latest, last, same⟩
  have present (other : ¬data.Is .add) : phases data.device ≠ .absent := by
    generalize phases data.device = before at takes
    cases takes with
    | add is => exact absurd is other
    | hover | down | remove | move | release => exact Phase.noConfusion
    | signal _ present => exact present
  constructor
  · intro is
    have absent : phases data.device = .absent := by
      generalize phases data.device = before at takes
      cases takes with
      | add => rfl
      | signal signals _ => exact absurd is (signals.not_is _)
      | release other => rcases other with other | other <;> exact nomatch is.unique other
      | hover other | down other | move other | remove other => exact nomatch is.unique other
    obtain ⟨sameX, sameY⟩ := begins absent
    constructor
    · change data.physicalX - state.x = _
      rw [sameX]
      rfl
    · change data.physicalY - state.y = _
      rw [sameY]
      rfl
  · intro other
    obtain ⟨latest, last, sameX, sameY⟩ := latest (present other)
    refine ⟨latest, last, ?_, ?_⟩
    · rw [← sameX]
      rfl
    · rw [← sameY]
      rfl
  · intro other
    obtain ⟨latest, last, sameX, sameY⟩ := latest (present fun is => other (.inl is))
    refine ⟨latest, last, ?_⟩
    have here := still other
    rwa [PointerDeviceState.At, PointerDeviceState.locationHasChanged, sameX, sameY] at here
  · exact fresh
  · intro continues
    have down : phases data.device = .down := by
      generalize phases data.device = before at takes
      cases takes with
      | move | release => rfl
      | signal signals _ =>
        rcases continues with is | is | is <;> exact absurd is (signals.not_is _)
      | add other | hover other | down other | remove other =>
        rcases continues with is | is | is <;> exact nomatch is.unique other
    obtain ⟨known, start, found, last, same⟩ := follows.started _ down
    cases stored.symm.trans found
    refine ⟨start, last, ?_⟩
    change state.pointer.getD 0 = _
    rw [same]
    rfl

/-- A state may be given to an absent device, and another pointer to one that is not down. -/
theorem Follows.begin {device later : Int} (kept : ∀ old, pointers device = some old →
      state.x = old.x ∧ state.y = old.y ∧ (phases device = .down → state.pointer = old.pointer))
    (more : count ≤ later) (held : state.pointer.getD 0 ≤ later) :
    Follows phases (Function.update pointers device (some state)) later trace where
  phase := follows.phase
  located other present := by
    obtain ⟨old, latest, found, last, sameX, sameY⟩ := follows.located other present
    by_cases same : other = device
    · subst same
      obtain ⟨keptX, keptY, -⟩ := kept old found
      exact ⟨state, latest, Function.update_self .., last, keptX.trans sameX, keptY.trans sameY⟩
    · exact ⟨old, latest, (Function.update_of_ne same ..).trans found, last, sameX, sameY⟩
  started other down := by
    obtain ⟨old, start, found, last, pointer⟩ := follows.started other down
    by_cases same : other = device
    · subst same
      obtain ⟨-, -, keeps⟩ := kept old found
      exact ⟨state, start, Function.update_self .., last, (keeps down).trans pointer⟩
    · exact ⟨old, start, (Function.update_of_ne same ..).trans found, last, pointer⟩
  bounded event member := Int.le_trans (follows.bounded event member) more
  held other known found := by
    by_cases same : other = device
    · subst same
      rw [Function.update_self] at found
      cases found
      exact held
    · rw [Function.update_of_ne same] at found
      exact Int.le_trans (follows.held other known found) more
  positive := Int.le_trans follows.positive more
  fits := follows.fits

/-- The state of an absent device may be forgotten. -/
theorem Follows.forget {device : Int} (absent : phases device = .absent) :
    Follows phases (Function.update pointers device none) count trace := by
  have elsewhere {other : Int} (present : phases other ≠ .absent) : other ≠ device := by
    rintro rfl
    exact present absent
  refine { follows with located := ?_, started := ?_, held := ?_ }
  · intro other present
    rw [Function.update_of_ne (elsewhere present)]
    exact follows.located other present
  · intro other down
    rw [Function.update_of_ne (elsewhere (by rw [down]; exact Phase.noConfusion))]
    exact follows.started other down
  · intro other known found
    by_cases same : other = device
    · subst same
      rw [Function.update_self] at found
      contradiction
    · rw [Function.update_of_ne same] at found
      exact follows.held other known found

/-- An event leaves. -/
theorem Follows.adds (stored : pointers data.device = some state)
    (next : (phases data.device).next (data.event state synthesized) = some phase)
    (begins : phases data.device = .absent → state.x = data.physicalX ∧ state.y = data.physicalY)
    (still : ¬Positions (data.event state synthesized) → state.At data)
    (fresh : data.Is .down → Fresh trace (data.event state synthesized))
    (identified : data.Is .down → state.pointer.isSome = true) :
    Follows (Function.update phases data.device phase)
      (Function.update pointers data.device (some (state.moved data))) count
      (trace ++ [data.event state synthesized]) := by
  have takes := Phase.takes_of_next next
  have own : fromDevice data.device (data.event state synthesized) = true := decide_eq_true rfl
  have foreign {device : Int} (other : device ≠ data.device) :
      fromDevice device (data.event state synthesized) = false := decide_eq_false (Ne.symm other)
  constructor
  · intro device
    by_cases same : device = data.device
    · subst same
      rw [Function.update_self]
      exact Trace.foldlM_concat_pass own (follows.phase _) next
    · rw [Function.update_of_ne same,
        Trace.filter_concat_skip (foreign same)]
      exact follows.phase device
  · intro device present
    by_cases same : device = data.device
    · subst same
      exact ⟨_, _, Function.update_self .., Trace.last_concat_pass own, rfl, rfl⟩
    · rw [Function.update_of_ne same] at present ⊢
      rw [Trace.last_concat_skip (foreign same)]
      exact follows.located device present
  · intro device down
    by_cases same : device = data.device
    · subst same
      rw [Function.update_self] at down
      have kept (other : ¬data.Is .down) (before : phases data.device = .down) :
          ∃ after start, Function.update pointers data.device (some (state.moved data))
              data.device = some after ∧
            Trace.last (downFrom data.device) (trace ++ [data.event state synthesized]) =
              some start ∧ after.pointer = some start.pointerIdentifier := by
        obtain ⟨known, start, found, last, identifier⟩ := follows.started _ before
        cases stored.symm.trans found
        have skip : downFrom data.device (data.event state synthesized) = false := by
          rw [downFrom, own, Bool.true_and]
          exact decide_eq_false other
        exact ⟨_, start, Function.update_self .., (Trace.last_concat_skip skip).trans last,
          identifier⟩
      subst down
      generalize before : phases data.device = earlier at takes
      cases takes with
      | down is =>
        have pass : downFrom data.device (data.event state synthesized) = true := by
          rw [downFrom, own, Bool.true_and]
          exact decide_eq_true is
        obtain ⟨pointer, some⟩ := Option.isSome_iff_exists.mp (identified is)
        refine ⟨_, _, Function.update_self .., Trace.last_concat_pass pass, ?_⟩
        change state.pointer = Option.some (state.pointer.getD 0)
        rw [some]
        rfl
      | move is => exact kept (fun other => nomatch is.unique other) before
      | signal signals _ => exact kept (signals.not_is _) before
    · rw [Function.update_of_ne same] at down ⊢
      rw [Trace.last_concat_skip (by rw [downFrom, foreign same, Bool.false_and])]
      exact follows.started device down
  · intro event member
    obtain earlier | rfl := List.mem_append.mp member |>.imp_right List.mem_singleton.mp
    · exact follows.bounded event earlier
    · exact follows.held _ state stored
  · intro device other found
    by_cases same : device = data.device
    · subst same
      rw [Function.update_self] at found
      cases found
      exact follows.held _ state stored
    · rw [Function.update_of_ne same] at found
      exact follows.held device other found
  · exact follows.positive
  · exact follows.fits.concat (follows.fits_event stored takes begins still fresh)

end Events

/-! ## Pieces of a conversion -/

namespace PointerDataConverter

variable {phases : Int → Phase} {converter : PointerDataConverter Coord Detail}
  {data : PointerMetrics Coord Detail} {state : PointerDeviceState Coord} {synthesized : Bool}
  {phase : Phase}

/-- The state of a device. -/
abbrev stateOf (converter : PointerDataConverter Coord Detail) (device : Int) :
    Option (PointerDeviceState Coord) :=
  converter.globalPointerState.pointers device

/-- The data were synthesized for a device, with such a change. -/
def Synthesizes (device : Int) (change : PointerChange) (pushed : List (PointerData Coord Detail)) :
    Prop :=
  ∀ event ∈ pushed, event.synthesized = true ∧ event.device = device ∧ event.Is change

/-- What a piece of a conversion leaves. -/
structure Leaves (phases : Int → Phase) (device : Int) (state : PointerDeviceState Coord)
    (change : PointerChange) (converter next : PointerDataConverter Coord Detail) : Prop where
  follows : next.FollowsAt phases
  stored : next.stateOf device = some state
  pointerCount : next.globalPointerState.pointerCount = converter.globalPointerState.pointerCount
  synthesizes : ∃ pushed, next.result = converter.result ++ pushed ∧
    Synthesizes device change pushed

theorem Leaves.refl {device : Int} {change : PointerChange}
    (follows : converter.FollowsAt phases) (stored : converter.stateOf device = some state) :
    Leaves phases device state change converter converter :=
  ⟨follows, stored, rfl, [], (List.append_nil _).symm, fun _ nowhere => by contradiction⟩

/-- Some data are added. -/
theorem addData_spec (data : PointerMetrics Coord Detail) (synthesized : Bool) (phase : Phase)
    (follows : converter.FollowsAt phases)
    (stored : converter.stateOf data.device = some state)
    (next : (phases data.device).next (data.event state synthesized) = some phase)
    (begins : phases data.device = .absent → state.x = data.physicalX ∧ state.y = data.physicalY)
    (still : ¬Positions (data.event state synthesized) → state.At data)
    (fresh : data.Is .down → Fresh converter.result (data.event state synthesized) ∧
      state.pointer.isSome = true) :
    ∃ added, converter.addData data synthesized = some added ∧
      added.FollowsAt (Function.update phases data.device phase) ∧
      added.stateOf data.device = some (state.moved data) ∧
      added.globalPointerState.pointerCount = converter.globalPointerState.pointerCount ∧
      added.result = converter.result ++ [data.event state synthesized] := by
  have adds := follows.adds stored next begins still (fun is => (fresh is).1)
    fun is => (fresh is).2
  have found : converter.globalPointerState.pointers data.device = some state := stored
  rw [addData, found]
  exact ⟨_, rfl, adds, Function.update_self .., rfl, rfl⟩

/-- Positional data are synthesized. -/
theorem synthesizePointerData_spec (data : PointerMetrics Coord Detail) (phase : Phase)
    (follows : converter.FollowsAt phases)
    (stored : converter.stateOf data.device = some state)
    (step : (phases data.device).step data.change = some phase)
    (begins : phases data.device = .absent → state.x = data.physicalX ∧ state.y = data.physicalY)
    (positions : data.change = .add ∨ data.change = .hover ∨ data.change = .move) :
    ∃ next, converter.synthesizePointerData data = some next ∧
      Leaves (Function.update phases data.device phase) data.device (state.moved data) data.change
        converter next := by
  have is (change : PointerChange) (same : data.change = change) :
      { data with signalKind := some .none : PointerMetrics Coord Detail }.Is change :=
    ⟨.inr rfl, same⟩
  have other : data.change ≠ .down := by
    rintro same
    simp [same] at positions
  obtain ⟨next, adds, follows, kept, pointerCount, result⟩ := addData_spec
    { data with signalKind := some .none } true phase follows stored step begins
    (fun still => absurd (positions.imp (is _) (Or.imp (is _) (is _))) still)
    fun down => absurd down.2 other
  refine ⟨next, adds, follows, kept, pointerCount, _, result, ?_⟩
  intro event member
  rw [List.mem_singleton.mp member]
  exact ⟨rfl, rfl, is _ rfl⟩

/-- The phase of a device that is added unless it was. -/
def introduced : Phase → Phase
  | .absent => .up
  | .up => .up
  | .down => .down

theorem alreadyAdded_eq (follows : converter.FollowsAt phases)
    (settled : converter.Settled phases) :
    converter.alreadyAdded data = decide (phases data.device ≠ .absent) := by
  by_cases absent : phases data.device = .absent
  · rw [alreadyAdded, settled _ absent, decide_eq_false (not_not_intro absent)]
    rfl
  · obtain ⟨known, -, found, -⟩ := follows.located _ absent
    rw [alreadyAdded, found, decide_eq_true absent]
    rfl

/-- A device that was absent is added. -/
theorem synthesizeAdd_spec (follows : converter.FollowsAt phases)
    (stored : converter.stateOf data.device = some state)
    (begins : phases data.device = .absent → state.x = data.physicalX ∧ state.y = data.physicalY) :
    ∃ added after, converter.synthesizeAdd data (decide (phases data.device ≠ .absent)) =
        some added ∧ after.pointer = state.pointer ∧
      Leaves (Function.update phases data.device (introduced (phases data.device))) data.device
        after .add converter added := by
  by_cases absent : phases data.device = .absent
  · rw [decide_eq_false (not_not_intro absent), absent]
    obtain ⟨added, synthesizes, leaves⟩ := synthesizePointerData_spec
      { data with change := .add } .up follows stored
      (by change (phases data.device).step .add = _; rw [absent]; rfl) begins (.inl rfl)
    exact ⟨added, state.moved { data with change := .add }, synthesizes, rfl, leaves⟩
  · rw [decide_eq_true absent]
    have same : introduced (phases data.device) = phases data.device := by
      cases known : phases data.device with
      | absent => exact absurd known absent
      | up | down => rfl
    rw [same, Function.update_eq_self]
    exact ⟨converter, state, rfl, rfl, .refl follows stored⟩

/-- Positional data are synthesized where the location has changed. -/
theorem synthesizeIfMoved_spec (data : PointerMetrics Coord Detail)
    (follows : converter.FollowsAt phases)
    (stored : converter.stateOf data.device = some state)
    (step : (phases data.device).step data.change = some (phases data.device))
    (positions : data.change = .hover ∨ data.change = .move) :
    ∃ moved after, converter.synthesizeIfMoved data = some moved ∧
      after.pointer = state.pointer ∧ after.At data ∧
        Leaves phases data.device after data.change converter moved := by
  have present : phases data.device ≠ .absent := by
    intro absent
    rw [absent] at step
    rcases positions with change | change <;> rw [change] at step <;> contradiction
  have found : converter.globalPointerState.pointers data.device = some state := stored
  rw [synthesizeIfMoved, found]
  cases changed : state.locationHasChanged data.physicalX data.physicalY with
  | true =>
    obtain ⟨moved, synthesizes, leaves⟩ := synthesizePointerData_spec data _ follows stored step
      (fun absent => absurd absent present) (.inr positions)
    rw [Function.update_eq_self] at leaves
    exact ⟨moved, state.moved data, (if_pos changed).trans synthesizes, rfl, .inr ⟨rfl, rfl⟩,
      leaves⟩
  | false =>
    exact ⟨converter, state, if_neg (ne_true_of_eq_false changed), rfl, .inl changed,
      .refl follows stored⟩

/-! ## Conversions -/

/-- The device is in this phase after data of it are converted. -/
structure Converts (phases : Int → Phase) (device : Int) (phase : Phase)
    (next : PointerDataConverter Coord Detail) : Prop where
  follows : next.FollowsAt (Function.update phases device phase)
  gone : phase = .absent → next.stateOf device = none

/-- The state of the device is ensured. -/
theorem ensure_spec (data : PointerMetrics Coord Detail) (follows : converter.FollowsAt phases)
    (settled : converter.Settled phases) :
    ∃ state, (converter.ensure data).stateOf data.device = some state ∧
      (phases data.device = .absent → state.x = data.physicalX ∧ state.y = data.physicalY) ∧
      (converter.ensure data).FollowsAt phases := by
  refine ⟨_, Function.update_self .., fun absent => ?_, follows.begin ?_ (Int.le_refl _) ?_⟩
  · have gone : converter.globalPointerState.pointers data.device = none := settled _ absent
    rw [GlobalPointerState.ensured, gone]
    exact ⟨rfl, rfl⟩
  · intro old found
    rw [GlobalPointerState.ensured, found]
    exact ⟨rfl, rfl, fun _ => rfl⟩
  · rw [GlobalPointerState.ensured]
    cases found : converter.globalPointerState.pointers data.device with
    | none => exact follows.positive
    | some old => exact follows.held _ old found

theorem add_spec (follows : converter.FollowsAt phases) (settled : converter.Settled phases)
    (is : data.Is .add) (absent : phases data.device = .absent) :
    ∃ next, converter.add data = some next ∧ Converts phases data.device .up next := by
  obtain ⟨state, stored, begins, ensured⟩ := ensure_spec data follows settled
  obtain ⟨next, adds, follows, -⟩ := addData_spec data false .up ensured stored
    (by rw [absent, Phase.next_of_is is]; rfl) begins (fun still => absurd (.inl is) still)
    (fun down => nomatch is.unique down)
  exact ⟨next, adds, follows, nofun⟩

/-- A device is up when it is introduced and is not down. -/
theorem introduced_of_not_down {phase : Phase} (released : phase ≠ .down) :
    introduced phase = .up := by
  cases phase with
  | absent | up => rfl
  | down => contradiction

theorem hover_spec (follows : converter.FollowsAt phases) (settled : converter.Settled phases)
    (is : data.Is .hover) (released : phases data.device ≠ .down) :
    ∃ next, converter.hover data = some next ∧ Converts phases data.device .up next := by
  obtain ⟨state, stored, begins, ensured⟩ := ensure_spec data follows settled
  obtain ⟨added, after, synthesizes, -, leaves⟩ := synthesizeAdd_spec ensured stored begins
  rw [introduced_of_not_down released] at leaves
  have up : Function.update phases data.device Phase.up data.device = .up := Function.update_self ..
  obtain ⟨hovered, adds, follows', -⟩ := addData_spec data false .up leaves.follows
    leaves.stored (by rw [up, Phase.next_of_is is]; rfl)
    (fun absent => by rw [up] at absent; contradiction)
    (fun still => absurd (.inr (.inl is)) still) (fun down => nomatch is.unique down)
  rw [Function.update_idem] at follows'
  rw [← alreadyAdded_eq follows settled] at synthesizes
  refine ⟨hovered.setActiveButtons data, ?_, follows', nofun⟩
  exact Option.bind_eq_some_iff.mpr ⟨added, synthesizes,
    Option.bind_eq_some_iff.mpr ⟨hovered, adds, rfl⟩⟩

theorem move_spec (follows : converter.FollowsAt phases) (is : data.Is .move)
    (down : phases data.device = .down) :
    ∃ next, converter.move data = some next ∧ Converts phases data.device .down next := by
  obtain ⟨state, -, stored, -⟩ := follows.started _ down
  obtain ⟨moved, adds, follows', -⟩ := addData_spec data false .down follows
    stored (by rw [down, Phase.next_of_is is]; rfl)
    (fun absent => by rw [down] at absent; contradiction)
    (fun still => absurd (.inr (.inr is)) still) (fun other => nomatch is.unique other)
  refine ⟨moved.setActiveButtons data, ?_, follows', nofun⟩
  exact Option.bind_eq_some_iff.mpr ⟨moved, adds, rfl⟩

omit [Sub Coord] [BEq Coord] in
/-- What was synthesized for a new pointer is all that has its identifier. -/
theorem fresh_of_synthesizes {older added hovered : List (PointerData Coord Detail)} {count : Int}
    {event : PointerData Coord Detail} (bounded : ∀ other ∈ older, other.pointerIdentifier ≤ count)
    (next : event.pointerIdentifier = count + 1)
    (adds : Synthesizes event.device .add added)
    (hovers : Synthesizes event.device .hover hovered) :
    Fresh (older ++ added ++ hovered) event := by
  refine ⟨older, added ++ hovered, List.append_assoc .., ?_, ?_⟩
  · intro other member
    have := bounded other member
    omega
  · intro other member
    obtain member | member := List.mem_append.mp member
    · obtain ⟨synthesized, own, is⟩ := adds other member
      exact ⟨synthesized, own, .inl is⟩
    · obtain ⟨synthesized, own, is⟩ := hovers other member
      exact ⟨synthesized, own, .inr is⟩

/-- A new pointer starts. -/
theorem startNewPointer_spec (follows : converter.FollowsAt phases)
    (settled : converter.Settled phases) (released : phases data.device ≠ .down) :
    let state := converter.globalPointerState.ensured data.device data.physicalX data.physicalY
    let started := { converter with
      globalPointerState := converter.globalPointerState.startNewPointer data.device state }
    started.stateOf data.device = some
        { state with pointer := some (converter.globalPointerState.pointerCount + 1) } ∧
      (phases data.device = .absent → state.x = data.physicalX ∧ state.y = data.physicalY) ∧
      started.FollowsAt phases := by
  refine ⟨Function.update_self .., fun absent => ?_, follows.begin ?_ ?_ (Int.le_refl _)⟩
  · have gone : converter.globalPointerState.pointers data.device = none := settled _ absent
    rw [GlobalPointerState.ensured, gone]
    exact ⟨rfl, rfl⟩
  · intro old found
    rw [GlobalPointerState.ensured, found]
    exact ⟨rfl, rfl, fun down => absurd down released⟩
  · exact Int.le_of_lt (Int.lt_succ _)

theorem down_spec [Zero Coord] (follows : converter.FollowsAt phases)
    (settled : converter.Settled phases) (is : data.Is .down)
    (released : phases data.device ≠ .down) :
    ∃ next, converter.down data = some next ∧ Converts phases data.device .down next := by
  obtain ⟨stored, begins, started⟩ := startNewPointer_spec follows settled released
  obtain ⟨added, after, synthesizes, pointer, leaves⟩ := synthesizeAdd_spec started stored begins
  rw [introduced_of_not_down released] at leaves
  have up : Function.update phases data.device Phase.up data.device = .up := Function.update_self ..
  obtain ⟨hovered, here, moves, same, place, hovers⟩ := synthesizeIfMoved_spec
    { data with change := .hover, buttons := 0, pressure := 0 } leaves.follows
    leaves.stored (by
      change (Function.update phases data.device Phase.up data.device).step .hover = _
      rw [up]
      rfl)
    (.inl rfl)
  obtain ⟨firstPushed, firstResult, firstSynthesizes⟩ := leaves.synthesizes
  obtain ⟨secondPushed, secondResult, secondSynthesizes⟩ := hovers.synthesizes
  have identifier : here.pointer = some (converter.globalPointerState.pointerCount + 1) :=
    same.trans pointer
  have fresh : Fresh hovered.result (data.event here false) := by
    rw [secondResult, firstResult]
    refine fresh_of_synthesizes follows.bounded ?_ firstSynthesizes secondSynthesizes
    change here.pointer.getD 0 = _
    rw [identifier]
    rfl
  obtain ⟨downed, adds, follows', -⟩ := addData_spec data false .down
    hovers.follows hovers.stored (by rw [up, Phase.next_of_is is]; rfl)
    (fun absent => by rw [up] at absent; contradiction) (fun _ => place)
    (fun _ => ⟨fresh, by rw [identifier]; rfl⟩)
  rw [Function.update_idem] at follows'
  rw [← alreadyAdded_eq follows settled] at synthesizes
  refine ⟨downed.setActiveButtons data, ?_, follows', nofun⟩
  exact Option.bind_eq_some_iff.mpr ⟨added, synthesizes, Option.bind_eq_some_iff.mpr
    ⟨hovered, moves, Option.bind_eq_some_iff.mpr ⟨downed, adds, rfl⟩⟩⟩

omit [Sub Coord] in
/-- Where a state has just moved to, data are at. -/
theorem at_moved (state : PointerDeviceState Coord) (data : PointerMetrics Coord Detail) :
    (state.moved data).At data :=
  .inr ⟨rfl, rfl⟩

/-- What follows the end of a gesture. -/
theorem removeTouch_spec [Zero Coord] (follows : converter.FollowsAt phases)
    (stored : converter.stateOf data.device = some (state.moved data))
    (up : phases data.device = .up) :
    ∃ next, converter.removeTouch data = some next ∧
      Converts phases data.device (.ended data.kind) next := by
  rw [removeTouch, Phase.ended]
  split
  · obtain ⟨removed, adds, follows', -⟩ := addData_spec
      { data with change := .remove, signalKind := some .none, buttons := 0, pressure := 0 }
      true .absent follows stored
      (by change (phases data.device).step .remove = _; rw [up]; rfl)
      (fun absent => nomatch absent.symm.trans up) (fun _ => at_moved state data)
      (fun down => nomatch down.2)
    refine ⟨removed.removeDevice data, ?_, follows'.forget (Function.update_self ..), fun _ => ?_⟩
    · exact Option.bind_eq_some_iff.mpr ⟨removed, adds, rfl⟩
    · exact Function.update_self ..
  · refine ⟨converter, rfl, ?_, nofun⟩
    change Follows _ _ _ _
    rwa [← up, Function.update_eq_self]

/-- The end of a gesture. -/
theorem release_spec [Zero Coord] (data : PointerMetrics Coord Detail)
    (follows : converter.FollowsAt phases)
    (is : data.Is .up ∨ data.Is .cancel) (down : phases data.device = .down) :
    ∃ next, converter.release data = some next ∧
      Converts phases data.device (.ended data.kind) next := by
  obtain ⟨state, -, stored, -⟩ := follows.started _ down
  obtain ⟨moved, here, moves, -, place, leaves⟩ := synthesizeIfMoved_spec
    { data with change := .move, buttons := converter.globalPointerState.activeButtons }
    follows stored (by change (phases data.device).step .move = _; rw [down]; rfl) (.inr rfl)
  obtain ⟨released, adds, follows', stored', -⟩ := addData_spec data
    false .up leaves.follows leaves.stored
    (by rcases is with is | is <;> rw [down, Phase.next_of_is is] <;> rfl)
    (fun absent => nomatch absent.symm.trans down) (fun _ => place)
    (fun other => by rcases is with is | is <;> exact nomatch is.unique other)
  obtain ⟨next, removes, converts⟩ := removeTouch_spec follows' stored' (Function.update_self ..)
  refine ⟨next, ?_, ?_, converts.gone⟩
  · exact Option.bind_eq_some_iff.mpr ⟨moved, moves,
      Option.bind_eq_some_iff.mpr ⟨released, adds, removes⟩⟩
  · have final := converts.follows
    rwa [Function.update_idem] at final

section

variable (follows : converter.FollowsAt phases)

include follows

theorem upOrCancel_spec [Zero Coord]
    (is : data.Is .up ∨ data.Is .cancel) (down : phases data.device = .down) :
    ∃ next, converter.upOrCancel data = some next ∧
      Converts phases data.device (.ended data.kind) next := by
  obtain ⟨state, -, stored, -⟩ := follows.started _ down
  obtain ⟨next, releases, converts⟩ : ∃ next,
      converter.release (located data state) = some next ∧
        Converts phases data.device (.ended data.kind) next := by
    rw [located]
    split
    · exact release_spec { data with physicalX := state.x, physicalY := state.y }
        follows is down
    · exact release_spec data follows is down
  exact ⟨next, Option.bind_eq_some_iff.mpr ⟨state, stored, releases⟩, converts⟩

theorem remove_spec (is : data.Is .remove) (up : phases data.device = .up) :
    ∃ next, converter.remove data = some next ∧ Converts phases data.device .absent next := by
  obtain ⟨state, -, stored, -⟩ := follows.located data.device (by rw [up]; exact Phase.noConfusion)
  obtain ⟨removed, adds, follows', -⟩ := addData_spec
    { data with physicalX := state.x, physicalY := state.y } false .absent follows stored
    (by
      change (phases data.device).next _ = _
      rw [up, Phase.next_of_is is]
      rfl)
    (fun absent => nomatch absent.symm.trans up) (fun _ => .inr ⟨rfl, rfl⟩)
    (fun down => nomatch is.unique down)
  refine ⟨removed.removeDevice data, ?_, follows'.forget (Function.update_self ..), fun _ => ?_⟩
  · exact Option.bind_eq_some_iff.mpr ⟨state, stored,
      Option.bind_eq_some_iff.mpr ⟨removed, adds, rfl⟩⟩
  · exact Function.update_self ..

/-- A signal, with buttons exactly while the pointer is down. -/
theorem signal_spec (settled : converter.Settled phases)
    (signals : data.IsSignal) (buttons : data.buttons ≠ 0 ↔ phases data.device = .down) :
    ∃ next, converter.signal data = some next ∧
      Converts phases data.device (introduced (phases data.device)) next := by
  obtain ⟨state, stored, begins, ensured⟩ := ensure_spec data follows settled
  obtain ⟨added, after, synthesizes, -, leaves⟩ := synthesizeAdd_spec ensured stored begins
  have steps : (introduced (phases data.device)).step (if data.buttons ≠ 0 then .move else .hover) =
      some (introduced (phases data.device)) := by
    by_cases down : phases data.device = .down
    · rw [if_pos (buttons.mpr down), down]
      rfl
    · rw [if_neg (fun pressed => down (buttons.mp pressed)), introduced_of_not_down down]
      rfl
  have present : introduced (phases data.device) ≠ .absent := by
    cases phases data.device <;> exact Phase.noConfusion
  generalize introduced (phases data.device) = phase at *
  have here : Function.update phases data.device phase data.device = phase :=
    Function.update_self ..
  obtain ⟨moved, place, moves, -, still, leaves⟩ := synthesizeIfMoved_spec
    { data with change := if data.buttons ≠ 0 then .move else .hover }
    leaves.follows leaves.stored (by
      change (Function.update phases data.device phase data.device).step _ =
        some (Function.update phases data.device phase data.device)
      rw [here]
      exact steps)
    (by split <;> simp)
  obtain ⟨next, adds, follows', -⟩ := addData_spec data false phase
    leaves.follows leaves.stored
    (by rw [here]; exact Phase.next_of_signal signals present)
    (fun absent => absurd (here.symm.trans absent) present) (fun _ => still)
    (fun down => absurd down (signals.not_is _))
  rw [Function.update_idem] at follows'
  rw [← alreadyAdded_eq follows settled] at synthesizes
  refine ⟨next, ?_, follows', fun absent => absurd absent present⟩
  exact Option.bind_eq_some_iff.mpr ⟨added, synthesizes,
    Option.bind_eq_some_iff.mpr ⟨moved, moves, adds⟩⟩

theorem convertChange_spec [Zero Coord] (settled : converter.Settled phases)
    (plain : data.signalKind = none ∨ data.signalKind = some .none)
    (arrives : (phases data.device).arrive data.kind data.change = some phase) :
    ∃ next, converter.convertChange data = some next ∧
      Converts phases data.device phase next := by
  unfold Phase.arrive at arrives
  split at arrives
  all_goals cases arrives
  all_goals
    rename_i before change
    rw [convertChange, change]
  · exact add_spec follows settled ⟨plain, change⟩ before
  · exact hover_spec follows settled ⟨plain, change⟩ (by rw [before]; exact Phase.noConfusion)
  · exact hover_spec follows settled ⟨plain, change⟩ (by rw [before]; exact Phase.noConfusion)
  · exact down_spec follows settled ⟨plain, change⟩ (by rw [before]; exact Phase.noConfusion)
  · exact down_spec follows settled ⟨plain, change⟩ (by rw [before]; exact Phase.noConfusion)
  · exact move_spec follows ⟨plain, change⟩ before
  · exact upOrCancel_spec follows (.inl ⟨plain, change⟩) before
  · exact upOrCancel_spec follows (.inr ⟨plain, change⟩) before
  · exact remove_spec follows ⟨plain, change⟩ before

/-- Data that may arrive are converted, and their device is in the phase they lead to. -/
theorem convert_spec [Zero Coord] (settled : converter.Settled phases)
    (receives : (phases data.device).receive data = some phase) :
    ∃ next, converter.convert data = some next ∧ Converts phases data.device phase next := by
  have signal (signals : data.IsSignal)
      (kept : (if phases data.device = .down then if data.buttons = 0 then none else some .down
        else if data.buttons = 0 then some .up else none) = some phase) :
      ∃ next, converter.signal data = some next ∧ Converts phases data.device phase next := by
    split at kept
    · next down =>
      split at kept
      · contradiction
      · next pressed =>
        cases kept
        have converts := signal_spec follows settled signals (iff_of_true pressed down)
        rwa [down] at converts
    · next released =>
      split at kept
      · next none =>
        cases kept
        have converts := signal_spec follows settled signals
          (iff_of_false (not_not_intro none) released)
        rwa [introduced_of_not_down released] at converts
      · contradiction
  unfold Phase.receive at receives
  split at receives
  case h_1 kind =>
    rw [convert, kind]
    exact convertChange_spec follows settled (.inl kind) receives
  case h_2 kind =>
    rw [convert, kind]
    exact convertChange_spec follows settled (.inr kind) receives
  case h_3 kind =>
    rw [convert, kind]
    exact signal (.inl kind) receives
  case h_4 kind =>
    rw [convert, kind]
    exact signal (.inr (.inl kind)) receives
  case h_5 kind =>
    rw [convert, kind]
    exact signal (.inr (.inr kind)) receives
  case h_6 kind =>
    cases receives
    rw [convert, kind]
    refine ⟨converter, rfl, ?_, fun absent => settled _ absent⟩
    rwa [Function.update_eq_self]

end

/-! ## What a conversion leaves alone -/

section Others

variable {next : PointerDataConverter Coord Detail} {device : Int}

omit [Sub Coord] [BEq Coord] in
/-- After these `activeButtons` are theirs. -/
def setsButtons (data : PointerMetrics Coord Detail) : Bool :=
  decide (data.Is .hover ∨ data.Is .down ∨ data.Is .move)

/-- The states of the other devices stay. -/
def Keeps (device : Int) (converter next : PointerDataConverter Coord Detail) : Prop :=
  ∀ other, other ≠ device → next.stateOf other = converter.stateOf other

/-- So do the active buttons. -/
structure Spares (device : Int) (converter next : PointerDataConverter Coord Detail) : Prop where
  keeps : Keeps device converter next
  activeButtons : next.globalPointerState.activeButtons =
    converter.globalPointerState.activeButtons

omit [Sub Coord] [BEq Coord] in
theorem Spares.trans {middle : PointerDataConverter Coord Detail}
    (first : Spares device converter middle) (second : Spares device middle next) :
    Spares device converter next where
  keeps other different := (second.keeps other different).trans (first.keeps other different)
  activeButtons := second.activeButtons.trans first.activeButtons

omit [Sub Coord] [BEq Coord] in
theorem spares_refl : Spares device converter converter := ⟨fun _ _ => rfl, rfl⟩

omit [Sub Coord] [BEq Coord] in
theorem spares_ensure : Spares data.device converter (converter.ensure data) :=
  ⟨fun _ different => Function.update_of_ne different .., rfl⟩

omit [Sub Coord] [BEq Coord] in
theorem spares_removeDevice : Spares data.device converter (converter.removeDevice data) :=
  ⟨fun _ different => Function.update_of_ne different .., rfl⟩

omit [BEq Coord] in
theorem spares_addData (adds : converter.addData data synthesized = some next)
    (own : data.device = device) : Spares device converter next := by
  unfold addData at adds
  split at adds
  · contradiction
  · cases adds
    exact ⟨fun _ different => Function.update_of_ne (own ▸ different) .., rfl⟩

omit [BEq Coord] in
theorem spares_synthesize (synthesizes : converter.synthesizePointerData data = some next)
    (own : data.device = device) : Spares device converter next := by
  rw [synthesizePointerData] at synthesizes
  exact spares_addData synthesizes own

omit [BEq Coord] in
theorem spares_synthesizeAdd {alreadyAdded : Bool}
    (adds : converter.synthesizeAdd data alreadyAdded = some next) :
    Spares data.device converter next := by
  unfold synthesizeAdd at adds
  split at adds
  · cases adds
    exact spares_refl
  · exact spares_synthesize adds rfl

theorem spares_synthesizeIfMoved (moves : converter.synthesizeIfMoved data = some next)
    (own : data.device = device) : Spares device converter next := by
  unfold synthesizeIfMoved at moves
  split at moves
  · contradiction
  · split at moves
    · exact spares_synthesize moves own
    · cases moves
      exact spares_refl

omit [BEq Coord] in
theorem spares_removeTouch [Zero Coord] (removes : converter.removeTouch data = some next) :
    Spares data.device converter next := by
  unfold removeTouch at removes
  split at removes
  · obtain ⟨removed, generates, removes⟩ := Option.bind_eq_some_iff.mp removes
    cases removes
    exact (spares_synthesize generates rfl).trans spares_removeDevice
  · cases removes
    exact spares_refl

theorem spares_release [Zero Coord] (releases : converter.release data = some next) :
    Spares data.device converter next := by
  obtain ⟨moved, moves, releases⟩ := Option.bind_eq_some_iff.mp releases
  obtain ⟨released, generates, removes⟩ := Option.bind_eq_some_iff.mp releases
  exact ((spares_synthesizeIfMoved moves rfl).trans (spares_addData generates rfl)).trans
    (spares_removeTouch removes)

theorem spares_upOrCancel [Zero Coord] (releases : converter.upOrCancel data = some next) :
    Spares data.device converter next := by
  obtain ⟨state, -, releases⟩ := Option.bind_eq_some_iff.mp releases
  have device : (located data state).device = data.device := by
    rw [located]
    split <;> rfl
  exact device ▸ spares_release releases

theorem spares_signal (signals : converter.signal data = some next) :
    Spares data.device converter next := by
  obtain ⟨added, adds, signals⟩ := Option.bind_eq_some_iff.mp signals
  obtain ⟨moved, moves, generates⟩ := Option.bind_eq_some_iff.mp signals
  exact ((spares_ensure.trans (spares_synthesizeAdd adds)).trans
    (spares_synthesizeIfMoved moves rfl)).trans (spares_addData generates rfl)

/-- A hover, a down or a move ends in setting the buttons. -/
theorem spares_convertChange [Zero Coord] (converts : converter.convertChange data = some next)
    (plain : data.signalKind = none ∨ data.signalKind = some .none) :
    (setsButtons data = true ∧ ∃ spared, Spares data.device converter spared ∧
      next = spared.setActiveButtons data) ∨
    (setsButtons data = false ∧ Spares data.device converter next) := by
  unfold convertChange at converts
  split at converts <;> rename_i change
  · exact .inr ⟨by simp [setsButtons, PointerMetrics.Is, change],
      spares_ensure.trans (spares_addData converts rfl)⟩
  · obtain ⟨added, adds, hovers⟩ := Option.bind_eq_some_iff.mp converts
    obtain ⟨hovered, generates, hovers⟩ := Option.bind_eq_some_iff.mp hovers
    cases hovers
    exact .inl ⟨decide_eq_true (.inl ⟨plain, change⟩), hovered,
      (spares_ensure.trans (spares_synthesizeAdd adds)).trans (spares_addData generates rfl), rfl⟩
  · obtain ⟨added, adds, downs⟩ := Option.bind_eq_some_iff.mp converts
    obtain ⟨hovered, hovers, downs⟩ := Option.bind_eq_some_iff.mp downs
    obtain ⟨downed, generates, downs⟩ := Option.bind_eq_some_iff.mp downs
    cases downs
    refine .inl ⟨decide_eq_true (.inr (.inl ⟨plain, change⟩)), downed, ?_, rfl⟩
    have last := (spares_synthesizeAdd adds).trans
      ((spares_synthesizeIfMoved hovers rfl).trans (spares_addData generates rfl))
    exact ⟨fun other different => (last.keeps other different).trans
      (Function.update_of_ne different ..), last.activeButtons⟩
  · obtain ⟨moved, generates, converts⟩ := Option.bind_eq_some_iff.mp converts
    cases converts
    exact .inl ⟨decide_eq_true (.inr (.inr ⟨plain, change⟩)), moved,
      spares_addData generates rfl, rfl⟩
  · exact .inr ⟨by simp [setsButtons, PointerMetrics.Is, change], spares_upOrCancel converts⟩
  · exact .inr ⟨by simp [setsButtons, PointerMetrics.Is, change], spares_upOrCancel converts⟩
  · obtain ⟨state, -, converts⟩ := Option.bind_eq_some_iff.mp converts
    obtain ⟨removed, generates, converts⟩ := Option.bind_eq_some_iff.mp converts
    cases converts
    exact .inr ⟨by simp [setsButtons, PointerMetrics.Is, change],
      (spares_addData generates rfl).trans spares_removeDevice⟩
  all_goals
    cases converts
    exact .inr ⟨by simp [setsButtons, PointerMetrics.Is, change], spares_refl⟩

theorem spares_convert [Zero Coord] (converts : converter.convert data = some next) :
    (setsButtons data = true ∧ ∃ spared, Spares data.device converter spared ∧
      next = spared.setActiveButtons data) ∨
    (setsButtons data = false ∧ Spares data.device converter next) := by
  unfold convert at converts
  split at converts <;> rename_i kind
  · exact spares_convertChange converts (.inl kind)
  · exact spares_convertChange converts (.inr kind)
  · exact .inr ⟨by simp [setsButtons, PointerMetrics.Is, kind], spares_signal converts⟩
  · exact .inr ⟨by simp [setsButtons, PointerMetrics.Is, kind], spares_signal converts⟩
  · exact .inr ⟨by simp [setsButtons, PointerMetrics.Is, kind], spares_signal converts⟩
  · cases converts
    exact .inr ⟨by simp [setsButtons, PointerMetrics.Is, kind], spares_refl⟩

theorem keeps_convert [Zero Coord] (converts : converter.convert data = some next) :
    Keeps data.device converter next := by
  obtain ⟨-, spared, spares, rfl⟩ | ⟨-, spares⟩ := spares_convert converts
  · exact spares.keeps
  · exact spares.keeps

theorem activeButtons_convert [Zero Coord] (converts : converter.convert data = some next) :
    next.globalPointerState.activeButtons = if setsButtons data then data.buttons
      else converter.globalPointerState.activeButtons := by
  obtain ⟨sets, spared, -, rfl⟩ | ⟨skips, spares⟩ := spares_convert converts
  · rw [if_pos sets]
    rfl
  · rw [skips, if_neg Bool.false_ne_true]
    exact spares.activeButtons

end Others

end PointerDataConverter

end FlutterEngine.WebPointer
