import FlutterEngine.TextInput.TextInputModel

/-!
# Ranges that stay inside the text

`InRange` says that the selection and the composing range lie within the text,
`Safe` when an operation keeps that and throws nothing.

Three things are left out by the operations: a refused `SetText` has already
replaced the text, outside composing mode a deletion does not adjust the composing
range, and a step over a code point is not checked against the end it approaches.
-/

namespace FlutterEngine.TextInput

namespace TextInputModel

variable {model : TextInputModel}

/-- The selection and the composing range lie within the text. -/
structure InRange (model : TextInputModel) : Prop where
  selection : model.selection.stop ≤ model.text.length
  composingRange : model.composingRange.stop ≤ model.text.length

instance (model : TextInputModel) : Decidable model.InRange :=
  decidable_of_iff (model.selection.stop ≤ model.text.length ∧
      model.composingRange.stop ≤ model.text.length)
    ⟨fun both => ⟨both.1, both.2⟩, fun inRange => ⟨inRange.1, inRange.2⟩⟩

theorem InRange.editableRange (inRange : model.InRange) :
    model.editableRange.stop ≤ model.text.length := by
  unfold TextInputModel.editableRange
  split
  · exact inRange.composingRange
  · simp [textRange, TextRange.stop]

/-- The width of the code point that ends at `position`. -/
def widthBefore (text : U16String) (position : Nat) : Nat :=
  ((text[position - 1]?).map widthBack).getD 1

/-- The width of the code point that starts at `position`. -/
def widthAt (text : U16String) (position : Nat) : Nat :=
  ((text[position]?).map widthForward).getD 1

theorem widthBefore_pos (text : U16String) (position : Nat) : 0 < widthBefore text position := by
  unfold widthBefore
  cases text[position - 1]? with
  | none => decide
  | some unit => simp only [Option.map_some, Option.getD_some, widthBack]; split <;> decide

theorem widthAt_pos (text : U16String) (position : Nat) : 0 < widthAt text position := by
  unfold widthAt
  cases text[position]? with
  | none => decide
  | some unit => simp only [Option.map_some, Option.getD_some, widthForward]; split <;> decide

variable {text : U16String}

/-- Reading the code unit before a position inside the text. -/
theorem at?_before {position : Nat} (positive : 0 < position) (inside : position ≤ text.length) :
    ∃ unit, text.at? (sizeSub position 1) = some unit ∧ widthBack unit = widthBefore text position := by
  have bound : position - 1 < text.length := by omega
  rw [sizeSub_of_le positive]
  exact ⟨_, U16String.at?_of_lt bound, by simp [widthBefore, bound]⟩

/-- Reading the code unit at a position inside the text. -/
theorem at?_at {position : Nat} (inside : position < text.length) :
    ∃ unit, text.at? position = some unit ∧ widthForward unit = widthAt text position :=
  ⟨_, U16String.at?_of_lt inside, by simp [widthAt, inside]⟩

/-! ## The condition on a call -/

/-- A deletion that removes `removed` code units and counts them as `counted`
leaves the composing range in the text: in composing mode its end moves by
`counted` and must not wrap, otherwise it stays where it is. -/
def Shrinks (model : TextInputModel) (removed counted : Nat) : Prop :=
  if model.composing then
    counted ≤ model.composingRange.stop ∧
      model.composingRange.start + removed ≤ model.text.length
  else model.composingRange.stop + removed ≤ model.text.length

instance (model : TextInputModel) (removed counted : Nat) :
    Decidable (model.Shrinks removed counted) :=
  decidable_of_iff ((model.composing = true → counted ≤ model.composingRange.stop ∧
        model.composingRange.start + removed ≤ model.text.length) ∧
      (model.composing = false → model.composingRange.stop + removed ≤ model.text.length)) (by
    cases composing : model.composing <;> simp [Shrinks, composing])

/-- Outside composing mode the composing range lies in a text of this length. -/
def Holds (model : TextInputModel) (length : Nat) : Prop :=
  model.composing = true ∨ model.composingRange.stop ≤ length

/-- A walk back over `count` code points stays in front of the text. -/
def RetreatsInside (text : U16String) (minPos : Nat) : (count position : Nat) → Prop
  | 0, _ => True
  | count + 1, position => position = minPos ∨
      widthBefore text position ≤ position ∧
        RetreatsInside text minPos count (position - widthBefore text position)

/-- A walk forward over `count` code points stays in the text. -/
def AdvancesInside (text : U16String) (maxPos : Nat) : (count position : Nat) → Prop
  | 0, _ => True
  | count + 1, position => position = maxPos ∨
      position + widthAt text position ≤ text.length ∧
        AdvancesInside text maxPos count (position + widthAt text position)

/-- The position `count` code points before `position`, not passing `minPos`,
with the number of code points that were there. -/
def positionBefore (text : U16String) (minPos : Nat) : (count position : Nat) → Nat × Nat
  | 0, position => (position, 0)
  | count + 1, position =>
    if position = minPos then (position, 0)
    else
      let (start, passed) :=
        positionBefore text minPos count (position - widthBefore text position)
      (start, passed + 1)

/-- The position `count` code points after `position`, not passing `maxPos`. -/
def positionAfter (text : U16String) (maxPos : Nat) : (count position : Nat) → Nat
  | 0, position => position
  | count + 1, position =>
    if position = maxPos then position
    else positionAfter text maxPos count (position + widthAt text position)

/-- The code units counted for `count` code points at `start`: all are taken to
be as wide as the first, and the editable range's end stops the count only when
a multiple of that width lands on it. -/
def deletedLength (text : U16String) (maxPos start count : Nat) : Nat :=
  if start ≤ maxPos ∧ widthAt text start ∣ maxPos - start then
    min (count * widthAt text start) (maxPos - start)
  else count * widthAt text start

/-- The deletion of `count` code points at `start` stays inside. -/
def DeletesInside (model : TextInputModel) (start count : Nat) : Prop :=
  let deleted := deletedLength model.text model.editableRange.stop start count
  deleted = 0 ∨ start < model.text.length ∧
    model.Shrinks (min deleted (model.text.length - start)) deleted

/-- The condition under which an operation keeps the ranges inside the text. -/
def Safe (model : TextInputModel) : Op → Prop
  | .setText text selection composingRange =>
    -- An accepted call sets ranges of the new text, a refused one keeps the old ranges.
    (selection.stop ≤ text.length ∧ composingRange.stop ≤ text.length) ∨
      (model.selection.stop ≤ text.length ∧ model.composingRange.stop ≤ text.length)
  | .updateComposingText text _ =>
    -- With nothing composed yet the selection goes, from under the composing position.
    text = [] ∨ model.composingRange.collapsed = false ∨
      model.composingRange.start + model.selection.length ≤ model.text.length
  | .addText text => model.Holds (model.text.length - model.selection.length + text.length)
  | .addCodePoint c =>
    model.Holds (model.text.length - model.selection.length + (codeUnitsOf c).length)
  | .backspace =>
    if model.selection.collapsed then
      let position := model.selection.position
      let width := widthBefore model.text position
      position = model.editableRange.start ∨ width ≤ position ∧ model.Shrinks width width
    else model.Holds (model.text.length - model.selection.length)
  | .delete =>
    if model.selection.collapsed then
      let position := model.selection.position
      let width := widthAt model.text position
      model.editableRange.stop ≤ position ∨
        model.Shrinks (min width (model.text.length - position)) width
    else model.Holds (model.text.length - model.selection.length)
  | .deleteSurrounding offsetFromCursor count =>
    let cursor := model.selection.extent
    if offsetFromCursor < 0 then
      let back := (-offsetFromCursor).toNat
      let (start, passed) := positionBefore model.text model.editableRange.start back cursor
      RetreatsInside model.text model.editableRange.start back cursor ∧
        model.DeletesInside start (if passed < back then passed else count.toNat)
    else
      let ahead := offsetFromCursor.toNat
      AdvancesInside model.text model.editableRange.stop ahead cursor ∧
        model.DeletesInside (positionAfter model.text model.editableRange.stop ahead cursor)
          count.toNat
  | .moveCursorForward =>
    model.selection.collapsed = false ∨ model.selection.position = model.editableRange.stop ∨
      model.selection.position + widthAt model.text model.selection.position ≤ model.text.length
  | .moveCursorBack =>
    model.selection.collapsed = false ∨ model.selection.position = model.editableRange.start ∨
      widthBefore model.text model.selection.position ≤ model.selection.position
  | .setSelection _ | .setComposingRange .. | .beginComposing | .commitComposing | .endComposing
  | .moveCursorToBeginning | .moveCursorToEnd | .selectToBeginning | .selectToEnd => True


/-! ## One operation -/

/-- The composing range after a deletion, adjusted or not, lies in the text. -/
theorem Shrinks.composingRange {removed counted length : Nat} (inRange : model.InRange)
    (shrinks : model.Shrinks removed counted) (fewer : removed ≤ counted)
    (shrunk : length = model.text.length - removed) :
    (if model.composing then
        model.composingRange.setEnd (sizeSub model.composingRange.stop counted)
      else model.composingRange).stop ≤ length := by
  have before := inRange.composingRange
  cases composing : model.composing with
  | true =>
    simp only [Shrinks, composing, if_true] at shrinks ⊢
    rw [sizeSub_of_le shrinks.1]
    apply TextRange.stop_setEnd_le <;> omega
  | false =>
    simp only [Shrinks, composing, Bool.false_eq_true, if_false] at shrinks ⊢
    omega

theorem setText_inRange {selection composingRange : TextRange}
    (safe : model.Safe (.setText text selection composingRange)) :
    (model.setText text selection composingRange).2.InRange := by
  simp only [Safe] at safe
  by_cases accepted : selection.stop ≤ text.length ∧ composingRange.stop ≤ text.length
  · have contained : ∀ range : TextRange, range.stop ≤ text.length →
        TextRange.contains ⟨0, text.length⟩ range = true := fun range inside =>
      TextRange.contains_iff.mpr ⟨by simp [TextRange.start], by simpa [TextRange.stop] using inside⟩
    simp only [setText, textRange, contained _ accepted.1, contained _ accepted.2]
    exact ⟨accepted.1, accepted.2⟩
  · have kept := safe.resolve_left accepted
    simp only [setText]
    split_ifs with refused
    · exact ⟨kept.1, kept.2⟩
    · simp only [textRange, Bool.or_eq_true, Bool.not_eq_true', not_or, Bool.not_eq_false,
        TextRange.contains_iff] at refused
      exact absurd ⟨by simpa [TextRange.stop] using refused.1.2,
        by simpa [TextRange.stop] using refused.2.2⟩ accepted

section

variable (inRange : model.InRange)

include inRange

theorem setSelection_inRange {range : TextRange} :
    (model.setSelection range).2.InRange := by
  simp only [setSelection]
  split
  · exact inRange
  split
  · exact inRange
  · rename_i contained
    simp only [Bool.not_eq_true', Bool.not_eq_false, TextRange.contains_iff] at contained
    exact ⟨Nat.le_trans contained.2 inRange.editableRange, inRange.composingRange⟩

theorem setComposingRange_inRange {range : TextRange} {cursorOffset : Nat} (offset : cursorOffset ≤ range.length) :
    (model.setComposingRange range cursorOffset).2.InRange := by
  simp only [setComposingRange]
  split
  · exact inRange
  · rename_i contained
    simp only [Bool.or_eq_true, Bool.not_eq_true', not_or, Bool.not_eq_false,
      TextRange.contains_iff] at contained
    have inText : range.stop ≤ model.text.length := by
      simpa [textRange, TextRange.stop] using contained.2.2
    refine ⟨?_, inText⟩
    have order := range.start_le_stop
    simp only [TextRange.length] at offset
    simp only [TextRange.stop_ofPosition]
    omega

theorem beginComposing_inRange : model.beginComposing.InRange where
  selection := inRange.selection
  composingRange := by
    have order := model.selection.start_le_stop
    have selection := inRange.selection
    simp only [beginComposing, TextRange.stop_ofPosition]
    omega

theorem commitComposing_inRange : model.commitComposing.InRange := by
  unfold commitComposing
  split
  · exact inRange
  · have composingRange := inRange.composingRange
    constructor <;> simpa using composingRange

theorem endComposing_inRange : model.endComposing.InRange :=
  ⟨inRange.selection, by simp [endComposing]⟩

theorem updateComposingText_inRange {selection : TextRange} (inside : selection.stop ≤ text.length)
    (safe : model.Safe (.updateComposingText text selection)) :
    ∃ next, model.updateComposingText text selection = some next ∧ next.InRange := by
  simp only [Safe] at safe
  unfold updateComposingText
  by_cases noop : text.length == 0 && model.composingRange.collapsed
  · exact ⟨model, by simp [noop], inRange⟩
  have composing := inRange.composingRange
  have selected := inRange.selection
  have composingOrder := model.composingRange.start_le_stop
  have selectedOrder := model.selection.start_le_stop
  -- What is replaced ends inside the text and leaves the composing start inside.
  obtain ⟨range, rangeEq, fits, leaves⟩ : ∃ range, range =
      (if model.composingRange.collapsed then model.selection else model.composingRange) ∧
      range.start + range.length ≤ model.text.length ∧
      model.composingRange.start + range.length ≤ model.text.length := by
    refine ⟨_, rfl, ?_⟩
    split
    · rename_i collapsed
      simp only [TextRange.length] at safe ⊢
      have nonempty : text ≠ [] := by
        rintro rfl
        simp [collapsed] at noop
      rcases safe with empty | uncollapsed | room
      · exact absurd empty nonempty
      · rw [collapsed] at uncollapsed
        exact absurd uncollapsed (by decide)
      · omega
    · simp only [TextRange.length]
      omega
  obtain ⟨replaced, replacedEq, replacedLength⟩ := U16String.replace_of_le text fits
  have stop : (model.composingRange.setEnd (model.composingRange.start + text.length)).stop ≤
      replaced.length := by
    apply TextRange.stop_setEnd_le <;> omega
  have start : (model.composingRange.setEnd (model.composingRange.start + text.length)).start ≤
      model.composingRange.start := by
    simp only [TextRange.setEnd, TextRange.start]
    split <;> simp only <;> omega
  refine ⟨_, by simp [noop, ← rangeEq, replacedEq]; rfl, ?_, stop⟩
  have startInside := Nat.le_trans selection.start_le_stop inside
  have extentInside := Nat.le_trans selection.extent_le_stop inside
  simp only [TextRange.stop, Nat.max_le]
  omega

end

/-- What `DeleteSelected` leaves, whether or not something was selected. -/
structure Deselected (model next : TextInputModel) : Prop where
  composing : next.composing = model.composing
  collapsed : next.selection.collapsed = true
  selection : next.selection.stop ≤ next.text.length
  length : next.text.length = model.text.length - model.selection.length
  adjusted : model.composing = true → next.composingRange.stop ≤ next.text.length
  kept : model.composing = false → next.composingRange = model.composingRange

theorem deleteSelected_spec (inRange : model.InRange) :
    ∃ next, model.deleteSelected = some (!model.selection.collapsed, next) ∧
      model.Deselected next ∧ (model.selection.collapsed = true → next = model) := by
  unfold deleteSelected
  cases collapsed : model.selection.collapsed with
  | true =>
    have empty := TextRange.start_eq_stop collapsed
    have none : model.selection.length = 0 := by simp [TextRange.length, empty]
    refine ⟨model, by simp, ?_, fun _ => rfl⟩
    exact ⟨rfl, collapsed, inRange.selection, by simp [none], fun _ => inRange.composingRange,
      fun _ => rfl⟩
  | false =>
    have selected := inRange.selection
    have order := model.selection.start_le_stop
    obtain ⟨text, textEq, textLength⟩ := U16String.erase_of_le model.selection.length
      (by omega : model.selection.start ≤ model.text.length)
    have length : text.length = model.text.length - model.selection.length := by
      simp only [TextRange.length] at textLength ⊢
      omega
    have start : model.selection.start ≤ text.length := by
      simp only [TextRange.length] at length
      omega
    refine ⟨_, by simp [textEq]; rfl, ?_, by simp⟩
    exact ⟨rfl, by simp, by simpa using start, length, fun composing => by simpa [composing] using start,
      fun notComposing => by simp [notComposing]⟩

/-- With room for the composing range, what is left is in range. -/
theorem Deselected.inRange {next : TextInputModel} (deselected : model.Deselected next)
    (holds : model.Holds (model.text.length - model.selection.length)) : next.InRange where
  selection := deselected.selection
  composingRange := by
    cases composing : model.composing with
    | true => exact deselected.adjusted composing
    | false =>
      rw [deselected.kept composing, deselected.length]
      exact holds.resolve_left (by simp [composing])

theorem addText_inRange (inRange : model.InRange)
    (holds : model.Holds (model.text.length - model.selection.length + text.length)) :
    ∃ next, model.addText text = some next ∧ next.InRange := by
  obtain ⟨next, nextEq, deselected, _⟩ := deleteSelected_spec inRange
  have caret := TextRange.start_eq_stop deselected.collapsed
  have selection := deselected.selection
  cases composing : next.composing with
  | true =>
    have adjusted := deselected.adjusted (deselected.composing ▸ composing)
    have order := next.composingRange.start_le_stop
    obtain ⟨erased, erasedEq, erasedLength⟩ := U16String.erase_of_le
      next.composingRange.length
      (by omega : next.composingRange.start ≤ next.text.length)
    have start : next.composingRange.start ≤ erased.length := by
      simp only [TextRange.length] at erasedLength
      omega
    obtain ⟨inserted, insertedEq, insertedLength⟩ := U16String.insert_of_le text start
    refine ⟨_, by simp [addText, nextEq, composing, erasedEq, TextRange.position,
      TextRange.ofPosition, insertedEq]; rfl, ?_, ?_⟩
    · simp only [TextRange.stop]
      omega
    · apply TextRange.stop_setEnd_le <;> simp only <;> omega
  | false =>
    have notComposing : model.composing = false := deselected.composing ▸ composing
    have fits := holds.resolve_left (by simp [notComposing])
    have inside : next.selection.position ≤ next.text.length := by
      simp only [TextRange.position]
      omega
    obtain ⟨inserted, insertedEq, insertedLength⟩ := U16String.insert_of_le text inside
    refine ⟨_, by simp [addText, nextEq, composing, insertedEq]; rfl, ?_, ?_⟩
    · simp only [TextRange.stop_ofPosition]
      omega
    · rw [deselected.length] at insertedLength
      simp only [deselected.kept notComposing]
      omega

theorem backspace_inRange (inRange : model.InRange) (safe : model.Safe .backspace) :
    ∃ deleted next, model.backspace = some (deleted, next) ∧ next.InRange := by
  obtain ⟨next, nextEq, deselected, same⟩ := deleteSelected_spec inRange
  cases collapsed : model.selection.collapsed with
  | false =>
    simp only [Safe, collapsed, Bool.false_eq_true, if_false] at safe
    exact ⟨true, next, by simp [backspace, nextEq, collapsed], deselected.inRange safe⟩
  | true =>
    obtain rfl := same collapsed
    simp only [Safe, collapsed, if_true] at safe
    by_cases atStart : next.selection.position = next.editableRange.start
    · exact ⟨false, next, by simp [backspace, nextEq, collapsed, atStart], inRange⟩
    obtain ⟨inFront, shrinks⟩ := safe.resolve_left atStart
    have positive := widthBefore_pos next.text next.selection.position
    have inside : next.selection.position ≤ next.text.length :=
      Nat.le_trans next.selection.extent_le_stop inRange.selection
    obtain ⟨unit, unitEq, width⟩ := at?_before (by omega) inside
    obtain ⟨text, textEq, textLength⟩ := U16String.erase_of_le (widthBack unit)
      (by omega : next.selection.position - widthBack unit ≤ next.text.length)
    have length : text.length = next.text.length - widthBack unit := by omega
    rw [← width] at inFront shrinks
    refine ⟨true, _, by simp [backspace, nextEq, collapsed, atStart, unitEq,
      sizeSub_of_le inFront, textEq]; rfl, ?_, ?_⟩
    · simp only [TextRange.stop_ofPosition]
      omega
    · exact shrinks.composingRange inRange (Nat.le_refl _) length

theorem delete_inRange (inRange : model.InRange) (safe : model.Safe .delete) :
    ∃ deleted next, model.delete = some (deleted, next) ∧ next.InRange := by
  obtain ⟨next, nextEq, deselected, same⟩ := deleteSelected_spec inRange
  cases collapsed : model.selection.collapsed with
  | false =>
    simp only [Safe, collapsed, Bool.false_eq_true, if_false] at safe
    exact ⟨true, next, by simp [delete, nextEq, collapsed], deselected.inRange safe⟩
  | true =>
    obtain rfl := same collapsed
    simp only [Safe, collapsed, if_true] at safe
    by_cases atEnd : next.editableRange.stop ≤ next.selection.position
    · exact ⟨false, next, by simp [delete, nextEq, collapsed, Nat.not_lt.mpr atEnd], inRange⟩
    have shrinks := safe.resolve_left atEnd
    have inside : next.selection.position < next.text.length :=
      Nat.lt_of_lt_of_le (Nat.lt_of_not_le atEnd) inRange.editableRange
    obtain ⟨unit, unitEq, width⟩ := at?_at inside
    obtain ⟨text, textEq, textLength⟩ := U16String.erase_of_le
      (widthForward unit) (Nat.le_of_lt inside)
    rw [← width] at shrinks
    have caret := TextRange.start_eq_stop collapsed
    refine ⟨true, _, by
      simp [delete, nextEq, collapsed, Nat.lt_of_not_le atEnd, unitEq, textEq]
      rfl, ?_, ?_⟩
    · simp only [TextRange.position] at inside textLength
      simp only [caret.2]
      omega
    · exact shrinks.composingRange inRange (Nat.min_le_left _ _) textLength

/-! ### The three walks of `DeleteSurrounding` -/

variable {position maxPos start : Nat} {offsetFromCursor : Int}

theorem retreat_inside {minPos count : Nat} (i : Nat) (deletions : Int)
    (inside : position ≤ text.length) (walk : RetreatsInside text minPos count position) :
    retreat text minPos count i position deletions =
        some ((positionBefore text minPos count position).1,
          if (positionBefore text minPos count position).2 < count then
            ((i + (positionBefore text minPos count position).2 : Nat) : Int)
          else deletions) ∧
      (positionBefore text minPos count position).1 ≤ position := by
  induction count generalizing i position with
  | zero => simp [retreat, positionBefore]
  | succ count ih =>
    by_cases atStart : position = minPos
    · simp [retreat, positionBefore, atStart]
    obtain ⟨inFront, rest⟩ := walk.resolve_left atStart
    have positive := widthBefore_pos text position
    obtain ⟨unit, unitEq, width⟩ := at?_before (by omega) inside
    obtain ⟨walked, before⟩ := ih (i := i + 1) (by omega) rest
    constructor
    · simp only [retreat, if_neg atStart, unitEq, Option.bind_eq_bind, Option.bind_some, width,
        sizeSub_of_le inFront, walked, positionBefore]
      congr 2
      split_ifs <;> first | rfl | omega
    · simp only [positionBefore, if_neg atStart]
      omega

theorem advance_inside {count : Nat} (inside : position ≤ text.length)
    (walk : AdvancesInside text maxPos count position) :
    advance text maxPos count position = some (positionAfter text maxPos count position) ∧
      position ≤ positionAfter text maxPos count position ∧
      positionAfter text maxPos count position ≤ text.length := by
  induction count generalizing position with
  | zero => exact ⟨rfl, Nat.le_refl _, inside⟩
  | succ count ih =>
    by_cases atEnd : position = maxPos
    · simpa [advance, positionAfter, atEnd] using atEnd ▸ inside
    obtain ⟨fits, rest⟩ := walk.resolve_left atEnd
    have positive := widthAt_pos text position
    obtain ⟨unit, unitEq, width⟩ := at?_at (by omega : position < text.length)
    obtain ⟨walked, ahead, bounded⟩ := ih fits rest
    simp only [advance, positionAfter, if_neg atEnd, unitEq, Option.bind_eq_bind,
      Option.bind_some, width]
    exact ⟨walked, by omega, bounded⟩

/-- The third loop after `passed` steps, none of which was on the editable
range's end. -/
theorem extend_loop (remaining passed : Nat) (inText : start < text.length)
    (before : start ≤ maxPos ∧ widthAt text start ∣ maxPos - start →
      start + passed * widthAt text start ≤ maxPos) :
    extend text maxPos start remaining (start + passed * widthAt text start) =
      some (start + deletedLength text maxPos start (passed + remaining)) := by
  obtain ⟨unit, unitEq, width⟩ := at?_at inText
  induction remaining generalizing passed with
  | zero =>
    simp only [extend, deletedLength, Nat.add_zero]
    split_ifs with reaches
    · rw [Nat.min_eq_left (by have := before reaches; omega)]
    · rfl
  | succ remaining ih =>
    by_cases reached : start + passed * widthAt text start = maxPos
    · have distance : maxPos - start = passed * widthAt text start := by omega
      have more : passed * widthAt text start ≤ (passed + (remaining + 1)) * widthAt text start :=
        Nat.mul_le_mul_right _ (by omega)
      have reaches : start ≤ maxPos ∧ widthAt text start ∣ maxPos - start :=
        ⟨by omega, distance ▸ Nat.dvd_mul_left _ _⟩
      simp only [extend, deletedLength]
      rw [if_pos reached, if_pos reaches, distance, Nat.min_eq_right more]
    · have next := ih (passed + 1) fun reaches => by
        obtain ⟨steps, distance⟩ := reaches.2
        have bounded := before reaches
        have further : passed + 1 ≤ steps := by
          by_contra past
          have := Nat.mul_le_mul_left (widthAt text start) (show steps ≤ passed by omega)
          rw [Nat.mul_comm _ passed] at this
          omega
        have := Nat.mul_le_mul_left (widthAt text start) further
        rw [Nat.mul_comm _ (passed + 1)] at this
        omega
      rw [Nat.succ_mul, ← Nat.add_assoc, Nat.add_right_comm passed, Nat.add_assoc passed] at next
      simpa only [extend, if_neg reached, unitEq, Option.bind_eq_bind, Option.bind_some,
        width] using next

/-- The third loop counts `deletedLength` code units. -/
theorem extend_inside {count : Nat}
    (inside : deletedLength text maxPos start count = 0 ∨ start < text.length) :
    extend text maxPos start count start = some (start + deletedLength text maxPos start count) := by
  by_cases inText : start < text.length
  · simpa using extend_loop count 0 inText fun reaches => by
      simpa using reaches.1
  · have none := inside.resolve_right inText
    rw [none]
    have positive := widthAt_pos text start
    cases count with
    | zero => rfl
    | succ count =>
      have counted : 0 < (count + 1) * widthAt text start := Nat.mul_pos (Nat.succ_pos _) positive
      unfold deletedLength at none
      split_ifs at none with reaches
      · have atEnd : start = maxPos := by omega
        simp [extend, atEnd]
      · omega

/-- From a start inside the text, and not before the selection's start when the
cursor stays, the deletion keeps the ranges in the text. -/
theorem deleteFrom_inRange {count : Int} (inRange : model.InRange)
    (inside : model.DeletesInside start count.toNat) (bounded : start ≤ model.text.length)
    (cursor : offsetFromCursor ≤ 0 ∨ model.selection.start ≤ start) :
    ∃ deleted next, model.deleteFrom offsetFromCursor start count = some (deleted, next) ∧
      next.InRange := by
  simp only [DeletesInside] at inside
  have stopEq := extend_inside (inside.imp id And.left)
  rcases inside with none | ⟨inText, shrinks⟩
  · exact ⟨false, model, by simp [deleteFrom, stopEq, none], inRange⟩
  · by_cases same : start =
        start + deletedLength model.text model.editableRange.stop start count.toNat
    · exact ⟨false, model, by simp [deleteFrom, stopEq, ← same], inRange⟩
    obtain ⟨text, textEq, textLength⟩ := U16String.erase_of_le
      (deletedLength model.text model.editableRange.stop start count.toNat) bounded
    refine ⟨true, _, by
      simp only [deleteFrom, stopEq, Option.bind_eq_bind, Option.bind_some, if_neg same,
        sizeSub_of_le (Nat.le_add_right _ _), Nat.add_sub_cancel_left, textEq]
      rfl, ?_, shrinks.composingRange inRange (Nat.min_le_left _ _) textLength⟩
    simp only [TextRange.stop_ofPosition]
    split_ifs
    · omega
    · have := cursor.resolve_left (by assumption)
      omega

theorem deleteSurrounding_inRange {count : Int} (inRange : model.InRange)
    (safe : model.Safe (.deleteSurrounding offsetFromCursor count)) :
    ∃ deleted next, model.deleteSurrounding offsetFromCursor count = some (deleted, next) ∧
      next.InRange := by
  have cursor : model.selection.extent ≤ model.text.length :=
    Nat.le_trans model.selection.extent_le_stop inRange.selection
  have startCursor : model.selection.start ≤ model.selection.extent := Nat.min_le_right _ _
  by_cases backward : offsetFromCursor < 0
  · simp only [Safe, if_pos backward] at safe
    obtain ⟨walk, inside⟩ := safe
    obtain ⟨walked, bounded⟩ := retreat_inside 0 count cursor walk
    simp only [deleteSurrounding, deletionStart, if_pos backward, walked, Option.bind_eq_bind,
      Option.bind_some]
    apply deleteFrom_inRange inRange
    · convert inside using 1
      split_ifs <;> simp
    · omega
    · exact .inl (Int.le_of_lt backward)
  · simp only [Safe, if_neg backward] at safe
    obtain ⟨walk, inside⟩ := safe
    obtain ⟨walked, ahead, bounded⟩ := advance_inside cursor walk
    simp only [deleteSurrounding, deletionStart, if_neg backward, walked, Option.map_some,
      Option.bind_eq_bind, Option.bind_some]
    exact deleteFrom_inRange inRange inside bounded (.inr (Nat.le_trans startCursor ahead))

/-! ### Cursor moves -/

/-- Each of the moves to an end of the editable range sets the selection to
positions of the old selection and of that range. -/
theorem moveTo_inRange {base extent : Nat} (inRange : model.InRange)
    (baseInside : base ≤ model.text.length) (extentInside : extent ≤ model.text.length) :
    InRange { model with selection := ⟨base, extent⟩ } :=
  ⟨Nat.max_le.mpr ⟨baseInside, extentInside⟩, inRange.composingRange⟩

theorem moveCursorForward_inRange (inRange : model.InRange) (safe : model.Safe .moveCursorForward) :
    ∃ moved next, model.moveCursorForward = some (moved, next) ∧ next.InRange := by
  cases collapsed : model.selection.collapsed with
  | false =>
    exact ⟨true, _, by simp [moveCursorForward, collapsed]; rfl,
      moveTo_inRange inRange inRange.selection inRange.selection⟩
  | true =>
    by_cases atEnd : model.selection.position = model.editableRange.stop
    · exact ⟨false, model, by simp [moveCursorForward, collapsed, atEnd], inRange⟩
    have fits := (safe.resolve_left (by simp [collapsed])).resolve_left atEnd
    have positive := widthAt_pos model.text model.selection.position
    obtain ⟨unit, unitEq, width⟩ := at?_at
      (by omega : model.selection.position < model.text.length)
    exact ⟨true, _, by simp [moveCursorForward, collapsed, atEnd, unitEq, width]; rfl,
      moveTo_inRange inRange fits fits⟩

theorem moveCursorBack_inRange (inRange : model.InRange) (safe : model.Safe .moveCursorBack) :
    ∃ moved next, model.moveCursorBack = some (moved, next) ∧ next.InRange := by
  have order := model.selection.start_le_stop
  have selection := inRange.selection
  cases collapsed : model.selection.collapsed with
  | false =>
    exact ⟨true, _, by simp [moveCursorBack, collapsed]; rfl,
      moveTo_inRange inRange (by omega) (by omega)⟩
  | true =>
    by_cases atStart : model.selection.position = model.editableRange.start
    · exact ⟨false, model, by simp [moveCursorBack, collapsed, atStart], inRange⟩
    have fits := (safe.resolve_left (by simp [collapsed])).resolve_left atStart
    have positive := widthBefore_pos model.text model.selection.position
    have inside : model.selection.position ≤ model.text.length :=
      Nat.le_trans model.selection.extent_le_stop selection
    obtain ⟨unit, unitEq, width⟩ := at?_before (by omega) inside
    exact ⟨true, _, by
      simp [moveCursorBack, collapsed, atStart, unitEq, width, sizeSub_of_le fits]
      rfl, moveTo_inRange inRange (by omega) (by omega)⟩

/-! ## Whole runs -/

/-- A safe call throws nothing and keeps the ranges in the text. -/
theorem call_inRange {op : Op} (inRange : model.InRange) (admissible : op.Admissible)
    (safe : model.Safe op) :
    ∃ returned next, model.call op = some (returned, next) ∧ next.InRange := by
  have minInside := Nat.le_trans model.editableRange.start_le_stop inRange.editableRange
  have maxInside := inRange.editableRange
  have baseInside : model.selection.base ≤ model.text.length :=
    Nat.le_trans (Nat.le_max_left _ _) inRange.selection
  cases op with
  | setText text selection composingRange =>
    exact ⟨_, _, rfl, setText_inRange safe⟩
  | setSelection range => exact ⟨_, _, rfl, setSelection_inRange inRange⟩
  | setComposingRange range cursorOffset =>
    exact ⟨_, _, rfl, setComposingRange_inRange inRange admissible⟩
  | beginComposing => exact ⟨_, _, rfl, beginComposing_inRange inRange⟩
  | updateComposingText text selection =>
    obtain ⟨next, nextEq, kept⟩ := updateComposingText_inRange inRange admissible safe
    exact ⟨true, next, by simp [call, nextEq], kept⟩
  | commitComposing => exact ⟨_, _, rfl, commitComposing_inRange inRange⟩
  | endComposing => exact ⟨_, _, rfl, endComposing_inRange inRange⟩
  | addText text =>
    obtain ⟨next, nextEq, kept⟩ := addText_inRange inRange safe
    exact ⟨true, next, by simp [call, nextEq], kept⟩
  | addCodePoint c =>
    obtain ⟨next, nextEq, kept⟩ := addText_inRange inRange safe
    exact ⟨true, next, by simp [call, addCodePoint, nextEq], kept⟩
  | backspace => exact backspace_inRange inRange safe
  | delete => exact delete_inRange inRange safe
  | deleteSurrounding offsetFromCursor count => exact deleteSurrounding_inRange inRange safe
  | moveCursorToBeginning =>
    refine ⟨model.moveCursorToBeginning.1, model.moveCursorToBeginning.2, rfl, ?_⟩
    simp only [moveCursorToBeginning]
    split_ifs
    · exact inRange
    · exact moveTo_inRange inRange minInside minInside
  | moveCursorToEnd =>
    refine ⟨model.moveCursorToEnd.1, model.moveCursorToEnd.2, rfl, ?_⟩
    simp only [moveCursorToEnd]
    split_ifs
    · exact inRange
    · exact moveTo_inRange inRange maxInside maxInside
  | selectToBeginning =>
    refine ⟨model.selectToBeginning.1, model.selectToBeginning.2, rfl, ?_⟩
    simp only [selectToBeginning]
    split_ifs
    · exact inRange
    · exact moveTo_inRange inRange baseInside minInside
  | selectToEnd =>
    refine ⟨model.selectToEnd.1, model.selectToEnd.2, rfl, ?_⟩
    simp only [selectToEnd]
    split_ifs
    · exact inRange
    · exact moveTo_inRange inRange baseInside maxInside
  | moveCursorForward => exact moveCursorForward_inRange inRange safe
  | moveCursorBack => exact moveCursorBack_inRange inRange safe

/-- The ranges stay in the text and nothing throws, whatever is called. -/
def RangesStayInText : Prop :=
  ∀ model, machine.Reachable (fun _ op => op.Admissible) model →
    model.InRange ∧ ∀ op : Op, op.Admissible → ∃ returned next, model.call op = some (returned, next)

end TextInputModel

end FlutterEngine.TextInput
