import FlutterEngine.Std.Bits
import FlutterEngine.Std.Utf16
import FlutterEngine.TextInput.Bounds

/-!
# What `DeleteSurrounding` removes

The model holds a well-formed text whose editable range is a run of its code points, with a
collapsed cursor between two of them. What a call should remove is given by the indices of the
code points, counted from the cursor.
-/

namespace FlutterEngine.TextInput

open FlutterEngine.Std Utf16

/-! ## Code points in the text -/

theorem isLeadingSurrogate_iff (unit : UInt16) :
    isLeadingSurrogate unit = true ↔ unit.toNat / 2 ^ 10 = 54 := by
  rw [isLeadingSurrogate, beq_iff_eq, ← UInt16.toNat_inj, UInt16.toNat_and]
  exact Bits.upperMask_eq_iff (show unit.toNat < 2 ^ (10 + 6) from unit.toNat_lt) 54

theorem isTrailingSurrogate_iff (unit : UInt16) :
    isTrailingSurrogate unit = true ↔ unit.toNat / 2 ^ 10 = 55 := by
  rw [isTrailingSurrogate, beq_iff_eq, ← UInt16.toNat_inj, UInt16.toNat_and]
  exact Bits.upperMask_eq_iff (show unit.toNat < 2 ^ (10 + 6) from unit.toNat_lt) 55

theorem isLeadingSurrogate_eq (unit : UInt16) : isLeadingSurrogate unit = isHighSurrogate unit := by
  rw [Bool.eq_iff_iff, isLeadingSurrogate_iff, isHighSurrogate, Bool.and_eq_true]
  simp only [decide_eq_true_iff]
  omega

theorem isTrailingSurrogate_eq (unit : UInt16) :
    isTrailingSurrogate unit = isLowSurrogate unit := by
  rw [Bool.eq_iff_iff, isTrailingSurrogate_iff, isLowSurrogate, Bool.and_eq_true]
  simp only [decide_eq_true_iff]
  omega

/-- The first unit of a code point gives its width, and so does the last one. -/
theorem widths_encodeChar (char : Char) :
    ∃ first last, (encodeChar char)[0]? = some first ∧ widthForward first = width char ∧
      (encodeChar char)[width char - 1]? = some last ∧ widthBack last = width char := by
  obtain ⟨one, basic⟩ | ⟨two, supplementary⟩ := width_eq char
  · obtain ⟨unit, units_eq, -, notHigh, notLow⟩ := encodeChar_basic basic
    refine ⟨unit, unit, ?_⟩
    simp [units_eq, one, widthForward, widthBack, isLeadingSurrogate_eq, isTrailingSurrogate_eq,
      notHigh, notLow]
  · obtain ⟨high, low, units_eq, -, isHigh, isLow⟩ := encodeChar_supplementary supplementary
    refine ⟨high, low, ?_⟩
    simp [units_eq, two, widthForward, widthBack, isLeadingSurrogate_eq, isTrailingSurrogate_eq,
      isHigh, isLow]

/-- The code point after a boundary is read forward. -/
theorem at?_units (before after : List Char) (char : Char) :
    ∃ unit, U16String.at? (encode (before ++ char :: after)) (units before) = some unit ∧
      widthForward unit = width char := by
  obtain ⟨first, -, read, forward, -⟩ := widths_encodeChar char
  refine ⟨first, ?_, forward⟩
  have inside : 0 < (encodeChar char).length := (length_encodeChar char).symm ▸ width_pos char
  have found := encode_getElem? before after char 0
  rwa [List.getElem?_append_left inside, read] at found

/-- The code point before a boundary is read back. -/
theorem at?_units_back (before after : List Char) (char : Char) :
    ∃ unit, U16String.at? (encode (before ++ char :: after))
        (sizeSub (units (before ++ [char])) 1) = some unit ∧
      widthBack unit = width char := by
  obtain ⟨-, last, -, -, read, back⟩ := widths_encodeChar char
  refine ⟨last, ?_, back⟩
  have positive := width_pos char
  have inside : width char - 1 < (encodeChar char).length := by
    rw [length_encodeChar]
    omega
  have found := encode_getElem? before after char (width char - 1)
  rw [List.getElem?_append_left inside, read] at found
  rw [units_append, units_cons, units_nil, sizeSub_of_le (by omega), Nat.add_zero,
    Nat.add_sub_assoc positive]
  exact found

namespace TextInputModel

theorem widthAt_units (before after : List Char) (char : Char) :
    widthAt (encode (before ++ char :: after)) (units before) = width char := by
  obtain ⟨unit, read, forward⟩ := at?_units before after char
  have found : (encode (before ++ char :: after))[units before]? = some unit := read
  rw [widthAt, found, Option.map_some, Option.getD_some, forward]

/-! ## The walks -/

/-- The walk back over the code points of the editable range before the cursor. -/
theorem retreat_encode (before behind rest : List Char) (remaining i : Nat) (count : Int) :
    retreat (encode (before ++ behind ++ rest)) (units before) remaining i
        (units (before ++ behind)) count =
      some (if remaining ≤ behind.length then
        (units (before ++ behind.take (behind.length - remaining)), count)
      else (units before, ((i + behind.length : Nat) : Int))) := by
  induction remaining generalizing behind rest i with
  | zero => simp [retreat]
  | succ remaining ih =>
    obtain rfl | ⟨behind, char, rfl⟩ := List.eq_nil_or_concat behind
    · simp [retreat]
    · rw [List.concat_eq_append] at *
      have positive := width_pos char
      have notStart : units (before ++ (behind ++ [char])) ≠ units before := by
        simp only [units_append, units_cons, units_nil]
        omega
      have text_eq : before ++ (behind ++ [char]) ++ rest = before ++ behind ++ char :: rest := by
        simp
      obtain ⟨unit, read, back⟩ := at?_units_back (before ++ behind) rest char
      rw [List.append_assoc before behind [char]] at read
      have position : sizeSub (units (before ++ (behind ++ [char]))) (width char) =
          units (before ++ behind) := by
        rw [sizeSub_of_le] <;> simp only [units_append, units_cons, units_nil] <;> omega
      simp only [retreat, text_eq, if_neg notStart, read, Option.bind_eq_bind, Option.bind_some,
        back, position, ih]
      by_cases reaches : remaining ≤ behind.length
      · have left : behind.length + 1 - (remaining + 1) ≤ behind.length := by omega
        rw [if_pos reaches, if_pos (by simpa using reaches), List.length_append,
          List.length_singleton, List.take_append_of_le_length left, Nat.add_sub_add_right]
      · rw [if_neg reaches, if_neg (by simpa using reaches), List.length_append,
          List.length_singleton]
        congr 3
        omega

/-- The walk forward over the code points of the editable range after the cursor. -/
theorem advance_encode (before ahead after : List Char) (remaining : Nat) :
    advance (encode (before ++ ahead ++ after)) (units (before ++ ahead)) remaining
        (units before) = some (units (before ++ ahead.take remaining)) := by
  induction remaining generalizing before ahead with
  | zero => simp [advance]
  | succ remaining ih =>
    cases ahead with
    | nil => simp [advance]
    | cons char ahead =>
      have positive := width_pos char
      have notEnd : units before ≠ units (before ++ char :: ahead) := by
        simp only [units_append, units_cons]
        omega
      obtain ⟨unit, read, forward⟩ := at?_units before (ahead ++ after) char
      rw [← List.cons_append, ← List.append_assoc] at read
      have next := ih (before ++ [char]) ahead
      rw [List.append_assoc before, List.singleton_append] at next
      simp only [advance, if_neg notEnd, read, Option.bind_eq_bind, Option.bind_some, forward]
      simpa [Nat.add_assoc] using next

end TextInputModel

/-! ## What a call should remove -/

/-- The code points around a collapsed cursor: before the editable range, in it before and after
the cursor, and after it. -/
structure Surroundings where
  before : List Char
  behind : List Char
  ahead : List Char
  after : List Char
deriving DecidableEq

namespace Surroundings

variable (surroundings : Surroundings) (offset count : Int)

def editable : List Char := surroundings.behind ++ surroundings.ahead

/-- The code point at this place of the editable range has an index relative to the cursor in
`[offset, offset + count)`. -/
def Requests (place : Nat) : Prop :=
  offset ≤ place - surroundings.behind.length ∧
    place - surroundings.behind.length < offset + count

instance (place : Nat) : Decidable (surroundings.Requests offset count place) :=
  inferInstanceAs (Decidable (_ ∧ _))

def requested : List Char :=
  (surroundings.editable.zipIdx.filter fun point => surroundings.Requests offset count point.2).map
    Prod.fst

def kept : List Char :=
  (surroundings.editable.zipIdx.filter fun point =>
    ¬surroundings.Requests offset count point.2).map Prod.fst

/-- The surroundings of the model's cursor. -/
structure Of (model : TextInputModel) : Prop where
  text : model.text =
    encode (surroundings.before ++ surroundings.editable ++ surroundings.after)
  start : model.editableRange.start = units surroundings.before
  stop : model.editableRange.stop = units (surroundings.before ++ surroundings.editable)
  cursor : model.selection = .ofPosition (units (surroundings.before ++ surroundings.behind))

/-- The call removes what is requested and nothing else, and the composing range with it; it tells
whether that was anything. -/
def DeletesRequested (model : TextInputModel) : Prop :=
  ∃ next, model.deleteSurrounding offset count =
      some (!(surroundings.requested offset count).isEmpty, next) ∧
    next.text =
      encode (surroundings.before ++ surroundings.kept offset count ++ surroundings.after) ∧
    (model.composing = true →
      next.composingRange.start = model.composingRange.start ∧
      next.composingRange.stop + units (surroundings.requested offset count) =
        model.composingRange.stop)

/-- The code points of the editable range from where the deletion starts. -/
def following : List Char :=
  surroundings.editable.drop (offset + surroundings.behind.length).toNat

/-- The steps to the end of the deletion: where the request starts before the editable range they
are as many as the code points passed, whatever `count` was. -/
def steps : Nat :=
  if offset < -surroundings.behind.length then surroundings.behind.length else count.toNat

/-- The condition under which steps as wide as the first code point end where the request does: the
requested code points are as wide as the steps, or they are all that follows and the steps pass
it. In composing mode these have to end where the range does. -/
def MeasuredByFirst (composing : Bool) : Prop :=
  match surroundings.following offset with
  | [] => True
  | first :: rest =>
    units (surroundings.requested offset count) = surroundings.steps offset count * width first ∨
      units (surroundings.requested offset count) = units (first :: rest) ∧
        units (first :: rest) ≤ surroundings.steps offset count * width first ∧
        (composing = true → width first ∣ units (first :: rest))

/-- The places of a list between two others. -/
theorem filter_zipIdx (points : List Char) (place : Nat) (lower upper : Int) :
    ((points.zipIdx place).filter fun point => lower ≤ point.2 ∧ (point.2 : Int) < upper).map
        Prod.fst =
      (points.take (upper - place).toNat).drop (lower - place).toNat := by
  induction points generalizing place with
  | nil => simp
  | cons point points ih =>
    have next := ih (place + 1)
    rw [List.zipIdx_cons, List.filter_cons]
    by_cases inside : (place : Int) < upper
    · have upper_eq : (upper - place).toNat = (upper - (place + 1 : Nat)).toNat + 1 := by omega
      by_cases from_here : lower ≤ place
      · have lower_eq : (lower - place).toNat = 0 := by omega
        have lower_next : (lower - (place + 1 : Nat)).toNat = 0 := by omega
        rw [if_pos (by simp [inside, from_here]), List.map_cons, next, upper_eq, lower_eq,
          lower_next]
        rfl
      · have lower_eq : (lower - place).toNat = (lower - (place + 1 : Nat)).toNat + 1 := by omega
        rw [if_neg (by simp [from_here]), next, upper_eq, lower_eq]
        rfl
    · have upper_eq : (upper - place).toNat = 0 := by omega
      have upper_next : (upper - (place + 1 : Nat)).toNat = 0 := by omega
      rw [if_neg (by simp [inside]), next, upper_eq, upper_next]
      simp

theorem filter_not_zipIdx (points : List Char) (place : Nat) {lower upper : Int}
    (ordered : lower ≤ upper) :
    ((points.zipIdx place).filter fun point => ¬(lower ≤ point.2 ∧ (point.2 : Int) < upper)).map
        Prod.fst =
      points.take (lower - place).toNat ++ points.drop (upper - place).toNat := by
  induction points generalizing place with
  | nil => simp
  | cons point points ih =>
    have next := ih (place + 1)
    rw [List.zipIdx_cons, List.filter_cons]
    by_cases before_it : (place : Int) < lower
    · have lower_eq : (lower - place).toNat = (lower - (place + 1 : Nat)).toNat + 1 := by omega
      have upper_eq : (upper - place).toNat = (upper - (place + 1 : Nat)).toNat + 1 := by omega
      rw [if_pos (by simp [before_it]), List.map_cons, next, upper_eq, lower_eq]
      rfl
    · have lower_eq : (lower - place).toNat = 0 := by omega
      have lower_next : (lower - (place + 1 : Nat)).toNat = 0 := by omega
      by_cases inside : (place : Int) < upper
      · have upper_eq : (upper - place).toNat = (upper - (place + 1 : Nat)).toNat + 1 := by omega
        rw [if_neg (by simp [inside, not_lt.mp before_it]), next, upper_eq, lower_eq, lower_next]
        rfl
      · have upper_eq : (upper - place).toNat = 0 := by omega
        have upper_next : (upper - (place + 1 : Nat)).toNat = 0 := by omega
        rw [if_pos (by simp [inside]), List.map_cons, next, upper_eq, upper_next, lower_eq,
          lower_next]
        rfl

theorem requests_iff (place : Nat) : surroundings.Requests offset count place ↔
    offset + surroundings.behind.length ≤ place ∧
      (place : Int) < offset + count + surroundings.behind.length := by
  unfold Requests
  omega

/-- How many of the code points from the start of the deletion on are requested. -/
def requestedLength : Nat :=
  (offset + count + surroundings.behind.length).toNat -
    (offset + surroundings.behind.length).toNat

theorem requested_eq : surroundings.requested offset count =
    (surroundings.following offset).take (surroundings.requestedLength offset count) := by
  have picked := filter_zipIdx surroundings.editable 0 (offset + surroundings.behind.length)
    (offset + count + surroundings.behind.length)
  rw [Int.natCast_zero, Int.sub_zero, Int.sub_zero, List.drop_take] at picked
  simp only [requested, requests_iff]
  exact picked

theorem kept_eq {count : Int} (nonneg : 0 ≤ count) : surroundings.kept offset count =
    surroundings.editable.take (offset + surroundings.behind.length).toNat ++
      (surroundings.following offset).drop (surroundings.requestedLength offset count) := by
  have picked := filter_not_zipIdx surroundings.editable 0
    (show offset + surroundings.behind.length ≤ offset + count + surroundings.behind.length by
      omega)
  have together : (offset + surroundings.behind.length).toNat +
      surroundings.requestedLength offset count =
        (offset + count + surroundings.behind.length).toNat := by
    unfold requestedLength
    omega
  rw [Int.natCast_zero, Int.sub_zero, Int.sub_zero] at picked
  simp only [kept, requests_iff, following, List.drop_drop, together]
  exact picked

end Surroundings

namespace TextInputModel

variable {model : TextInputModel}

/-! ## The deletion from its start -/

theorem setEnd_stop (range : TextRange) : range.setEnd range.stop = range := by
  unfold TextRange.setEnd TextRange.stop
  split
  · next ordered => rw [Nat.max_eq_right ordered]
  · next reversed => rw [Nat.max_eq_left (by omega)]

theorem deletedLength_nil (text : U16String) (start count : Nat) :
    deletedLength text start start count = 0 := by
  simp [deletedLength]

/-- The code units counted where code points follow. -/
theorem deletedLength_cons (before rest after : List Char) (first : Char) (count : Nat) :
    deletedLength (encode (before ++ first :: rest ++ after)) (units (before ++ first :: rest))
        (units before) count =
      if width first ∣ units (first :: rest) then
        min (count * width first) (units (first :: rest))
      else count * width first := by
  have text_eq : before ++ first :: rest ++ after = before ++ first :: (rest ++ after) := by simp
  rw [deletedLength, text_eq, widthAt_units, units_append, Nat.add_sub_cancel_left]
  simp

/-- What `DeleteSurrounding` does from the loop that looks for the end. -/
theorem deleteFrom_eq (offsetFromCursor count : Int) {before rest after : List Char}
    (text : model.text = encode (before ++ rest ++ after))
    (stop : model.editableRange.stop = units (before ++ rest)) (deleted : Nat)
    (counted : deletedLength model.text model.editableRange.stop (units before) count.toNat =
      deleted) :
    ∃ next, model.deleteFrom offsetFromCursor (units before) count =
        some (decide (0 < deleted), next) ∧
      next.text = model.text.take (units before) ++ model.text.drop (units before + deleted) ∧
      (model.composing = true → next.composingRange =
        model.composingRange.setEnd (sizeSub model.composingRange.stop deleted)) := by
  have length : model.text.length = units before + units rest + units after := by
    rw [text, length_encode, units_append, units_append]
  have inside : deleted = 0 ∨ units before < model.text.length := by
    cases rest with
    | nil =>
      rw [stop, List.append_nil, deletedLength_nil] at counted
      exact .inl counted.symm
    | cons first rest =>
      have := width_pos first
      rw [units_cons] at length
      exact .inr (by omega)
  rw [← counted] at inside
  have stopEq := extend_inside inside
  rw [counted] at stopEq
  by_cases none : deleted = 0
  · subst none
    refine ⟨model, ?_, ?_, fun _ => ?_⟩
    · simp [deleteFrom, stopEq]
    · simp
    · rw [sizeSub_of_le (Nat.zero_le _), Nat.sub_zero, setEnd_stop]
  · have erased : model.text.erase (units before) deleted =
        some (model.text.take (units before) ++ model.text.drop (units before + deleted)) :=
      if_pos (by omega)
    have different : units before ≠ units before + deleted := by omega
    refine ⟨{ model with
      text := model.text.take (units before) ++ model.text.drop (units before + deleted)
      selection :=
        .ofPosition (if offsetFromCursor ≤ 0 then units before else model.selection.start)
      composingRange := if model.composing then
        model.composingRange.setEnd (sizeSub model.composingRange.stop deleted)
        else model.composingRange }, ?_, rfl, fun composing => if_pos composing⟩
    simp only [deleteFrom, stopEq, Option.bind_eq_bind, Option.bind_some, if_neg different,
      sizeSub_of_le (Nat.le_add_right _ _), Nat.add_sub_cancel_left, erased,
      decide_eq_true (Nat.pos_of_ne_zero none)]
    rfl

/-- The text without the units counted is the text without the requested code points when they are
as many, as far as the text goes. -/
theorem erased_eq_iff (before rest after : List Char) (asked deleted : Nat) :
    (encode (before ++ rest ++ after)).take (units before) ++
        (encode (before ++ rest ++ after)).drop (units before + deleted) =
      encode (before ++ rest.drop asked ++ after) ↔
    min deleted (units rest + units after) = units (rest.take asked) := by
  have split : units rest = units (rest.take asked) + units (rest.drop asked) := by
    rw [← units_append, List.take_append_drop]
  have front : (encode (before ++ rest ++ after)).take (units before) = encode before := by
    rw [List.append_assoc, encode_append, ← length_encode, List.take_left]
  have back : (encode (before ++ rest ++ after)).drop (units before + deleted) =
      (encode (rest ++ after)).drop deleted := by
    rw [List.append_assoc, encode_append, ← length_encode, List.drop_length_add_append]
  have kept : encode (rest.drop asked ++ after) =
      (encode (rest ++ after)).drop (units (rest.take asked)) := by
    conv_rhs => rw [← List.take_append_drop asked rest, List.append_assoc, encode_append,
      List.take_append_drop asked rest, ← length_encode, List.drop_left]
  rw [front, back, List.append_assoc, encode_append before, List.append_cancel_left_eq, kept]
  constructor
  · intro same
    have lengths := congrArg List.length same
    simp only [List.length_drop, length_encode, units_append] at lengths
    omega
  · intro same
    rcases Nat.le_total deleted (units rest + units after) with fits | past
    · rw [Nat.min_eq_left fits] at same
      rw [same]
    · rw [Nat.min_eq_right past] at same
      rw [← same, List.drop_eq_nil_of_le (by simpa using past),
        List.drop_eq_nil_of_le (by simp)]

/-- The composing range loses what was requested when that many units were counted. -/
theorem shrinks_iff {range : TextRange} {asked deleted : Nat}
    (fits : range.start + asked ≤ range.stop) (counted : deleted < 2 ^ 64) :
    (range.setEnd (sizeSub range.stop deleted)).start = range.start ∧
        (range.setEnd (sizeSub range.stop deleted)).stop + asked = range.stop ↔
      deleted = asked := by
  have moved : deleted ≤ range.stop ∧ sizeSub range.stop deleted + deleted = range.stop ∨
      range.stop < deleted ∧ sizeSub range.stop deleted + deleted = 2 ^ 64 + range.stop := by
    unfold sizeSub
    split <;> omega
  generalize sizeSub range.stop deleted = position at moved
  simp only [TextRange.start, TextRange.stop] at fits moved
  unfold TextRange.setEnd
  split <;> simp only [TextRange.start, TextRange.stop] <;> omega

/-- Units counted as steps of one width, up to where these end with the range, are as many as asked
for. -/
theorem counted_eq_iff {asked rest steps width : Nat} (within : asked ≤ rest) :
    (if width ∣ rest then min (steps * width) rest else steps * width) = asked ↔
      asked = steps * width ∨ asked = rest ∧ rest ≤ steps * width ∧ width ∣ rest := by
  split
  · next divides =>
    constructor
    · rintro rfl
      rcases Nat.le_total (steps * width) rest with fits | past
      · exact .inl (Nat.min_eq_left fits)
      · exact .inr ⟨Nat.min_eq_right past, past, divides⟩
    · rintro (rfl | ⟨rfl, past, -⟩)
      · exact Nat.min_eq_left within
      · exact Nat.min_eq_right past
  · next notDivides =>
    constructor
    · exact fun same => .inl same.symm
    · rintro (same | ⟨-, -, divides⟩)
      · exact same.symm
      · exact absurd divides notDivides

/-- Where the range ends with the text, what is counted past the end is not there. -/
theorem counted_min_eq_iff {asked rest steps width : Nat} (within : asked ≤ rest) :
    min (if width ∣ rest then min (steps * width) rest else steps * width) rest = asked ↔
      asked = steps * width ∨ asked = rest ∧ rest ≤ steps * width := by
  have least : min (if width ∣ rest then min (steps * width) rest else steps * width) rest =
      min (steps * width) rest := by
    split <;> omega
  rw [least]
  omega

end TextInputModel

namespace Surroundings

variable {surroundings : Surroundings} {model : TextInputModel} {offset count : Int}

/-- Where the deletion starts, and how many steps it is to take. -/
theorem Of.deletionStart_eq (of : surroundings.Of model) :
    model.deletionStart offset count =
      some (units (surroundings.before ++
          surroundings.editable.take (offset + surroundings.behind.length).toNat),
        if offset < -surroundings.behind.length then (surroundings.behind.length : Int)
        else count) := by
  have cursor : model.selection.extent = units (surroundings.before ++ surroundings.behind) :=
    congrArg TextRange.extent of.cursor
  have text : model.text = encode (surroundings.before ++ surroundings.behind ++
      (surroundings.ahead ++ surroundings.after)) := by
    rw [of.text, editable]
    simp only [List.append_assoc]
  unfold TextInputModel.deletionStart
  rw [cursor]
  by_cases back : offset < 0
  · rw [if_pos back, text, of.start, TextInputModel.retreat_encode]
    by_cases passes : (-offset).toNat ≤ surroundings.behind.length
    · have taken : (offset + surroundings.behind.length).toNat =
          surroundings.behind.length - (-offset).toNat := by omega
      rw [if_pos passes, if_neg (by omega), taken, editable,
        List.take_append_of_le_length (Nat.sub_le _ _)]
    · have none : (offset + surroundings.behind.length).toNat = 0 := by omega
      rw [if_neg passes, if_pos (by omega), none, List.take_zero, List.append_nil, Nat.zero_add]
  · have ahead : surroundings.behind.length + offset.toNat =
        (offset + surroundings.behind.length).toNat := by omega
    have text' : model.text = encode (surroundings.before ++ surroundings.behind ++
        surroundings.ahead ++ surroundings.after) := by
      rw [text, List.append_assoc _ surroundings.ahead]
    have stop : model.editableRange.stop =
        units (surroundings.before ++ surroundings.behind ++ surroundings.ahead) := by
      rw [of.stop, editable, List.append_assoc]
    rw [if_neg back, text', stop, TextInputModel.advance_encode, if_neg (by omega), ← ahead,
      editable, List.take_length_add_append, List.append_assoc, Option.map_some]

/-- A call removes what is requested when it counts as many units, as far as the text goes, and in
composing mode exactly as many. -/
theorem Of.deletesRequested_iff_counted (of : surroundings.Of model) (nonneg : 0 ≤ count)
    {deleted : Nat} (counted : TextInputModel.deletedLength model.text model.editableRange.stop
      (units (surroundings.before ++
        surroundings.editable.take (offset + surroundings.behind.length).toNat))
      (surroundings.steps offset count) = deleted) (bounded : deleted < 2 ^ 64) :
    surroundings.DeletesRequested offset count model ↔
      min deleted (units (surroundings.following offset) + units surroundings.after) =
          units (surroundings.requested offset count) ∧
        (model.composing = true → deleted = units (surroundings.requested offset count)) := by
  have points : surroundings.editable.take (offset + surroundings.behind.length).toNat ++
      surroundings.following offset = surroundings.editable := List.take_append_drop _ _
  have text := of.text
  have stop := of.stop
  have range : model.editableRange.start = units surroundings.before := of.start
  rw [← points, ← List.append_assoc] at text stop
  obtain ⟨next, result, erased, shrunk⟩ := TextInputModel.deleteFrom_eq offset
    (if offset < -surroundings.behind.length then (surroundings.behind.length : Int) else count)
    text stop deleted (by
      rw [← counted, Surroundings.steps]
      split <;> rfl)
  have called : model.deleteSurrounding offset count = some (decide (0 < deleted), next) := by
    rw [TextInputModel.deleteSurrounding, of.deletionStart_eq]
    exact result
  have within : units (surroundings.requested offset count) ≤
      units (surroundings.following offset) := by
    have whole := List.take_append_drop (surroundings.requestedLength offset count)
      (surroundings.following offset)
    rw [← surroundings.requested_eq] at whole
    rw [← whole, units_append]
    exact Nat.le_add_right _ _
  have text_iff := TextInputModel.erased_eq_iff (surroundings.before ++
    surroundings.editable.take (offset + surroundings.behind.length).toNat)
    (surroundings.following offset) surroundings.after (surroundings.requestedLength offset count)
    deleted
  rw [← text, ← erased, ← surroundings.requested_eq, List.append_assoc _ _
    (List.drop _ _), ← surroundings.kept_eq offset nonneg] at text_iff
  have empty : (surroundings.requested offset count).isEmpty = true ↔
      units (surroundings.requested offset count) = 0 := by
    rw [units_eq_zero, List.isEmpty_iff]
  have shrinks (composing : model.composing = true) :
      next.composingRange.start = model.composingRange.start ∧
          next.composingRange.stop + units (surroundings.requested offset count) =
            model.composingRange.stop ↔
        deleted = units (surroundings.requested offset count) := by
    have editing : model.editableRange = model.composingRange := if_pos composing
    rw [editing] at range stop
    rw [shrunk composing]
    refine TextInputModel.shrinks_iff ?_ bounded
    rw [range, stop, units_append, units_append]
    omega
  constructor
  · rintro ⟨_, same, removed, range_shrinks⟩
    rw [called] at same
    obtain ⟨-, rfl⟩ := Prod.mk.inj (Option.some.inj same)
    exact ⟨text_iff.mp removed, fun composing => (shrinks composing).mp (range_shrinks composing)⟩
  · rintro ⟨removed, exactly⟩
    refine ⟨next, ?_, text_iff.mpr removed, fun composing =>
      (shrinks composing).mpr (exactly composing)⟩
    have nothing : units (surroundings.following offset) = 0 → deleted = 0 := by
      intro none
      rw [units_eq_zero.mp none, List.append_nil] at stop
      rw [← counted, stop, TextInputModel.deletedLength_nil]
    rw [called]
    congr 2
    rw [Bool.eq_iff_iff, decide_eq_true_iff, Bool.not_eq_true', ← Bool.not_eq_true, empty]
    omega

theorem Of.deletesRequested_iff (of : surroundings.Of model) (nonneg : 0 ≤ count)
    (bounded : surroundings.steps offset count < 2 ^ 32) :
    surroundings.DeletesRequested offset count model ↔
      surroundings.MeasuredByFirst offset count model.composing := by
  have points : surroundings.editable.take (offset + surroundings.behind.length).toNat ++
      surroundings.following offset = surroundings.editable := List.take_append_drop _ _
  have text := of.text
  have stop := of.stop
  rw [← points, ← List.append_assoc] at text stop
  have taken := surroundings.requested_eq offset count
  unfold MeasuredByFirst
  cases following : surroundings.following offset with
  | nil =>
    rw [following, List.take_nil] at taken
    have none := TextInputModel.deletedLength_nil model.text model.editableRange.stop
      (surroundings.steps offset count)
    rw [following, List.append_nil] at stop
    conv at none => enter [1, 3]; rw [stop]
    rw [of.deletesRequested_iff_counted nonneg none (by omega), taken, following]
    simp
  | cons first rest =>
    rw [following] at text stop taken
    have counted := TextInputModel.deletedLength_cons (surroundings.before ++
      surroundings.editable.take (offset + surroundings.behind.length).toNat) rest
      surroundings.after first (surroundings.steps offset count)
    rw [← text, ← stop] at counted
    have wide := width_eq first
    have fits : (if width first ∣ units (first :: rest) then
        min (surroundings.steps offset count * width first) (units (first :: rest))
        else surroundings.steps offset count * width first) ≤ 2 ^ 33 := by
      have most : surroundings.steps offset count * width first ≤ 2 ^ 32 * 2 :=
        Nat.mul_le_mul (Nat.le_of_lt bounded) (by omega)
      split
      · exact Nat.le_trans (Nat.min_le_left _ _) most
      · exact most
    have within : units (surroundings.requested offset count) ≤ units (first :: rest) := by
      conv_rhs => rw [← List.take_append_drop (surroundings.requestedLength offset count)
        (first :: rest), units_append, ← taken]
      exact Nat.le_add_right _ _
    rw [of.deletesRequested_iff_counted nonneg counted (by omega), following]
    cases composing : model.composing with
    | true =>
      simp only [forall_const, TextInputModel.counted_eq_iff within]
      refine and_iff_right_of_imp fun same => ?_
      rw [← TextInputModel.counted_eq_iff within] at same
      rw [same]
      omega
    | false =>
      have whole : model.editableRange.stop = model.text.length := by
        simp [TextInputModel.editableRange, composing, TextInputModel.textRange, TextRange.stop]
      have none : units surroundings.after = 0 := by
        rw [stop, text, length_encode] at whole
        simp only [units_append] at whole
        omega
      rw [none, Nat.add_zero, TextInputModel.counted_min_eq_iff within]
      simp

/-- A request that lies before the text as a whole removes what is before the cursor. -/
example : (TextInputModel.deleteSurrounding
    { text := encode ['a', 'b'], selection := .ofPosition 2 } (-5) 1).map (·.2.text) = some [] := by
  decide

end Surroundings

end FlutterEngine.TextInput
