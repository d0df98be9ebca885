import FlutterEngine.TextInput.TextInputModel

/-!
# Calls that return false

A call reports a refusal by returning false. Every operation but one decides before it writes:
the checks of `SetSelection` and `SetComposingRange` stand first, and a deletion or a move that
has nothing to do falls through to its last return. `SetText` has replaced the text by the time
it looks at the two ranges.
-/

namespace FlutterEngine.TextInput.TextInputModel

variable {model next : TextInputModel}

/-- A call that returns false leaves the model as it was. -/
def KeepsWhenRefused (model : TextInputModel) (op : Op) : Prop :=
  ∀ next, model.call op = some (false, next) → next = model

/-! ## What each operation does before it refuses -/

/-- With nothing selected `DeleteSelected` has nothing to do. -/
theorem deleteSelected_refused (refused : model.deleteSelected = some (false, next)) :
    next = model := by
  unfold deleteSelected at refused
  split at refused
  · cases refused
    rfl
  · obtain ⟨_, -, goes⟩ := Option.bind_eq_some_iff.mp refused
    cases goes

theorem erase_refused
    (refused : model.backspace = some (false, next) ∨ model.delete = some (false, next)) :
    next = model := by
  rcases refused with refused | refused
  all_goals
    obtain ⟨⟨deleted, after⟩, called, goes⟩ := Option.bind_eq_some_iff.mp refused
    cases deleted with
    | true => cases goes
    | false =>
      simp only [Bool.false_eq_true, if_false] at goes
      split at goes
      · obtain ⟨_, -, goes⟩ := Option.bind_eq_some_iff.mp goes
        obtain ⟨_, -, goes⟩ := Option.bind_eq_some_iff.mp goes
        cases goes
      · cases goes
        exact deleteSelected_refused called

/-- The loops of `DeleteSurrounding` only look for the two ends, and an empty deletion writes
nothing. -/
theorem deleteSurrounding_refused {offsetFromCursor count : Int}
    (refused : model.deleteSurrounding offsetFromCursor count = some (false, next)) :
    next = model := by
  obtain ⟨⟨start, count⟩, -, goes⟩ := Option.bind_eq_some_iff.mp refused
  obtain ⟨stop, -, goes⟩ := Option.bind_eq_some_iff.mp goes
  split at goes
  · cases goes
    rfl
  · obtain ⟨_, -, goes⟩ := Option.bind_eq_some_iff.mp goes
    cases goes

theorem moveCursor_refused (refused : model.moveCursorForward = some (false, next) ∨
    model.moveCursorBack = some (false, next)) : next = model := by
  unfold moveCursorForward moveCursorBack at refused
  rcases refused with refused | refused
  all_goals
    split at refused
    · cases refused
    · simp only at refused
      split at refused
      · obtain ⟨_, -, goes⟩ := Option.bind_eq_some_iff.mp refused
        cases goes
      · cases refused
        rfl

/-- A setter that has checked everything before it writes. -/
theorem of_guard {guard : Bool} {after : TextInputModel}
    (refused : (if guard then (false, model) else (true, after)) = (false, next)) :
    next = model := by
  cases guard with
  | true => exact (Prod.mk.inj refused).2.symm
  | false => cases refused

theorem setSelection_refused {range : TextRange}
    (refused : model.setSelection range = (false, next)) : next = model := by
  unfold setSelection at refused
  split at refused
  · exact (Prod.mk.inj refused).2.symm
  · exact of_guard refused

variable {text : U16String} {selection composingRange : TextRange}

/-- When `SetText` refuses, the text is the only thing it has replaced. -/
theorem setText_refused (refused : model.setText text selection composingRange = (false, next)) :
    next = { model with text } :=
  of_guard refused

/-- `SetText` refuses exactly a range that ends past the new text. -/
theorem setText_refuses_iff :
    model.setText text selection composingRange = (false, { model with text }) ↔
      ¬ (selection.stop ≤ text.length ∧ composingRange.stop ≤ text.length) := by
  have inside (range : TextRange) :
      (textRange { model with text }).contains range = true ↔ range.stop ≤ text.length := by
    rw [TextRange.contains_iff]
    simp [textRange, TextRange.start, TextRange.stop]
  unfold setText
  simp only [← inside selection, ← inside composingRange, ← Bool.and_eq_true, Bool.not_eq_true,
    ← Bool.not_and]
  cases (textRange { model with text }).contains selection &&
    (textRange { model with text }).contains composingRange <;> simp

/-! ## Every operation -/

/-- The operations that check first. -/
theorem keepsWhenRefused_of_ne {op : Op}
    (other : ∀ text selection composingRange, op ≠ .setText text selection composingRange) :
    model.KeepsWhenRefused op := by
  intro next refused
  cases op with
  | setText text selection composingRange => exact absurd rfl (other _ _ _)
  | setSelection range => exact setSelection_refused (Option.some.inj refused)
  | setComposingRange range cursorOffset => exact of_guard (Option.some.inj refused)
  | beginComposing | commitComposing | endComposing => cases refused
  | updateComposingText | addText | addCodePoint =>
    obtain ⟨_, -, goes⟩ := Option.map_eq_some_iff.mp refused
    cases goes
  | backspace => exact erase_refused (.inl refused)
  | delete => exact erase_refused (.inr refused)
  | deleteSurrounding offsetFromCursor count => exact deleteSurrounding_refused refused
  | moveCursorToBeginning | moveCursorToEnd | selectToBeginning | selectToEnd =>
    exact of_guard (Option.some.inj refused)
  | moveCursorForward => exact moveCursor_refused (.inl refused)
  | moveCursorBack => exact moveCursor_refused (.inr refused)

/-- An operation that returns false has changed nothing, unless it is a `SetText` that brings
another text together with a range reaching past it. -/
theorem keepsWhenRefused_iff (model : TextInputModel) (op : Op) :
    model.KeepsWhenRefused op ↔
      ∀ text selection composingRange, op = .setText text selection composingRange →
        text = model.text ∨
          selection.stop ≤ text.length ∧ composingRange.stop ≤ text.length := by
  constructor
  · rintro keeps text selection composingRange rfl
    by_contra failing
    obtain ⟨other, outside⟩ := not_or.mp failing
    have kept := keeps _ (congrArg some (setText_refuses_iff.mpr outside))
    exact other (congrArg TextInputModel.text kept)
  · intro condition
    by_cases setsText : ∃ text selection composingRange, op = .setText text selection composingRange
    · obtain ⟨text, selection, composingRange, rfl⟩ := setsText
      intro next refused
      have written := setText_refused (Option.some.inj refused)
      rcases condition _ _ _ rfl with same | inside
      · rw [written, same]
      · exact absurd inside (setText_refuses_iff.mp (written ▸ Option.some.inj refused))
    · exact keepsWhenRefused_of_ne fun text selection composingRange op_eq =>
        setsText ⟨text, selection, composingRange, op_eq⟩

/-- A refused `SetText` of an empty text with a cursor at 1 empties a one-letter model, whose
cursor then stands past its text. -/
theorem setText_not_keepsWhenRefused :
    let model : TextInputModel := { text := [65], selection := ⟨1, 1⟩ }
    ¬ model.KeepsWhenRefused (.setText [] ⟨1, 1⟩ ⟨0, 0⟩) ∧
      model.call (.setText [] ⟨1, 1⟩ ⟨0, 0⟩) = some (false, { text := [], selection := ⟨1, 1⟩ }) := by
  refine ⟨fun keeps => ?_, rfl⟩
  have kept := keeps _ rfl
  exact List.cons_ne_nil _ _ (congrArg TextInputModel.text kept).symm

end FlutterEngine.TextInput.TextInputModel
