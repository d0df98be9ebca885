import FlutterEngine.Std.Machine
import FlutterEngine.TextInput.TextRange

/-!
# The text input model

`TextInputModel` of `text_input_model.cc`: a text, a selection, a composing
range and the composing flag, with one definition for each operation. A member
function that returns `bool` yields the flag beside the next model. The `std::string`
overloads convert with `fml::Utf8ToUtf16` and then do what is written here, so
operations take the converted text.
-/

namespace FlutterEngine.TextInput

/-- Returns true if `codePoint` is a leading surrogate of a surrogate pair. -/
def isLeadingSurrogate (codePoint : UInt16) : Bool := codePoint &&& 0xFC00 == 0xD800

/-- Returns true if `codePoint` is a trailing surrogate of a surrogate pair. -/
def isTrailingSurrogate (codePoint : UInt16) : Bool := codePoint &&& 0xFC00 == 0xDC00

/-- The code units a step forward over `codePoint` takes. -/
def widthForward (codePoint : UInt16) : Nat := if isLeadingSurrogate codePoint then 2 else 1

/-- The code units a step back over `codePoint` takes. -/
def widthBack (codePoint : UInt16) : Nat := if isTrailingSurrogate codePoint then 2 else 1

structure TextInputModel where
  text : U16String := []
  selection : TextRange := .ofPosition 0
  composingRange : TextRange := .ofPosition 0
  composing : Bool := false
deriving DecidableEq, Repr

namespace TextInputModel

variable (model : TextInputModel)

/-- Returns a range covering the entire text. -/
def textRange : TextRange := ⟨0, model.text.length⟩

/-- In composing mode the composing range, otherwise the entire text. -/
def editableRange : TextRange := if model.composing then model.composingRange else model.textRange

/-- The text is replaced before the ranges are checked against it. -/
def setText (text : U16String) (selection composingRange : TextRange) : Bool × TextInputModel :=
  let model := { model with text }
  if !model.textRange.contains selection || !model.textRange.contains composingRange then
    (false, model)
  else (true, { model with selection, composingRange, composing := !composingRange.collapsed })

def setSelection (range : TextRange) : Bool × TextInputModel :=
  if model.composing && !range.collapsed then (false, model)
  else if !model.editableRange.contains range then (false, model)
  else (true, { model with selection := range })

def setComposingRange (range : TextRange) (cursorOffset : Nat) : Bool × TextInputModel :=
  if !model.composing || !model.textRange.contains range then (false, model)
  else (true, { model with
    composingRange := range, selection := .ofPosition (range.start + cursorOffset) })

def beginComposing : TextInputModel :=
  { model with composing := true, composingRange := .ofPosition model.selection.start }

def updateComposingText (text : U16String) (selection : TextRange) : Option TextInputModel := do
  -- Preserve selection if we get a no-op update to the composing region.
  if text.length == 0 && model.composingRange.collapsed then return model
  let rangeToDelete :=
    if model.composingRange.collapsed then model.selection else model.composingRange
  let replaced ← model.text.replace rangeToDelete.start rangeToDelete.length text
  let composingRange := model.composingRange.setEnd (model.composingRange.start + text.length)
  return { model with
    text := replaced
    composingRange
    selection := ⟨selection.start + composingRange.start, selection.extent + composingRange.start⟩ }

def commitComposing : TextInputModel :=
  -- Preserve selection if no composing text was entered.
  if model.composingRange.collapsed then model
  else
    let composingRange := TextRange.ofPosition model.composingRange.stop
    { model with composingRange, selection := composingRange }

def endComposing : TextInputModel :=
  { model with composing := false, composingRange := .ofPosition 0 }

def deleteSelected : Option (Bool × TextInputModel) := do
  if model.selection.collapsed then return (false, model)
  let start := model.selection.start
  let text ← model.text.erase start model.selection.length
  let selection := TextRange.ofPosition start
  return (true, { model with
    text, selection
    -- This occurs only immediately after composing has begun with a selection.
    composingRange := if model.composing then selection else model.composingRange })

def addText (text : U16String) : Option TextInputModel := do
  let (_, model) ← model.deleteSelected
  let model ←
    if model.composing then do
      -- Delete the current composing text, set the cursor to composing start.
      let erased ← model.text.erase model.composingRange.start model.composingRange.length
      let start := model.composingRange.start
      pure { model with
        text := erased
        selection := .ofPosition start
        composingRange := model.composingRange.setEnd (start + text.length) }
    else pure model
  let position := model.selection.position
  let inserted ← model.text.insert position text
  return { model with text := inserted, selection := .ofPosition (position + text.length) }

/-- The UTF-16 encoding `AddCodePoint` inserts for a code point. -/
def codeUnitsOf (c : UInt32) : U16String :=
  if c ≤ 0xFFFF then [c.toUInt16]
  else
    let toDecompose := c - 0x10000
    -- High surrogate, low surrogate.
    [((toDecompose >>> 10) + 0xd800).toUInt16, ((toDecompose % 0x400) + 0xdc00).toUInt16]

def addCodePoint (c : UInt32) : Option TextInputModel := model.addText (codeUnitsOf c)

def backspace : Option (Bool × TextInputModel) := do
  let (deleted, model) ← model.deleteSelected
  if deleted then return (true, model)
  -- There is no selection. Delete the preceding codepoint.
  let position := model.selection.position
  if position ≠ model.editableRange.start then
    let count := widthBack (← model.text.at? (sizeSub position 1))
    let text ← model.text.erase (sizeSub position count) count
    return (true, { model with
      text
      selection := .ofPosition (sizeSub position count)
      composingRange :=
        if model.composing then
          model.composingRange.setEnd (sizeSub model.composingRange.stop count)
        else model.composingRange })
  return (false, model)

def delete : Option (Bool × TextInputModel) := do
  let (deleted, model) ← model.deleteSelected
  if deleted then return (true, model)
  -- There is no selection. Delete the preceding codepoint.
  let position := model.selection.position
  if position < model.editableRange.stop then
    let count := widthForward (← model.text.at? position)
    let text ← model.text.erase position count
    return (true, { model with
      text
      composingRange :=
        if model.composing then
          model.composingRange.setEnd (sizeSub model.composingRange.stop count)
        else model.composingRange })
  return (false, model)

/-- The first loop of `DeleteSurrounding`: from `start` back over `remaining`
code points, the `i`-th being next. Reaching the editable range's start cuts
`count` down to the code points passed. -/
def retreat (text : U16String) (minPos : Nat) :
    (remaining i : Nat) → (start : Nat) → (count : Int) → Option (Nat × Int)
  | 0, _, start, count => some (start, count)
  | remaining + 1, i, start, count =>
    if start = minPos then some (start, i)
    else do
      let unit ← text.at? (sizeSub start 1)
      retreat text minPos remaining (i + 1) (sizeSub start (widthBack unit)) count

/-- The second loop of `DeleteSurrounding`: from `start` forward over `remaining`
code points, up to the editable range's end. -/
def advance (text : U16String) (maxPos : Nat) : (remaining : Nat) → (start : Nat) → Option Nat
  | 0, start => some start
  | remaining + 1, start =>
    if start = maxPos then some start
    else do
      let unit ← text.at? start
      advance text maxPos remaining (start + widthForward unit)

/-- The third loop of `DeleteSurrounding`. Every step is as wide as the code
point at `start`, whatever stands at `stop`. -/
def extend (text : U16String) (maxPos start : Nat) : (remaining : Nat) → (stop : Nat) → Option Nat
  | 0, stop => some stop
  | remaining + 1, stop =>
    if stop = maxPos then some stop
    else do
      let unit ← text.at? start
      extend text maxPos start remaining (stop + widthForward unit)

/-- The first half of `DeleteSurrounding`: where the deletion starts, and its count. -/
def deletionStart (offsetFromCursor count : Int) : Option (Nat × Int) :=
  if offsetFromCursor < 0 then
    retreat model.text model.editableRange.start (-offsetFromCursor).toNat 0
      model.selection.extent count
  else
    (advance model.text model.editableRange.stop offsetFromCursor.toNat
      model.selection.extent).map (·, count)

/-- The second half of `DeleteSurrounding`, from the loop that finds the end on. -/
def deleteFrom (offsetFromCursor : Int) (start : Nat) (count : Int) :
    Option (Bool × TextInputModel) := do
  let stop ← extend model.text model.editableRange.stop start count.toNat start
  if start = stop then return (false, model)
  let deletedLength := sizeSub stop start
  let text ← model.text.erase start deletedLength
  return (true, { model with
    text
    -- Cursor moves only if deleted area is before it.
    selection := .ofPosition (if offsetFromCursor ≤ 0 then start else model.selection.start)
    -- Adjust composing range.
    composingRange :=
      if model.composing then
        model.composingRange.setEnd (sizeSub model.composingRange.stop deletedLength)
      else model.composingRange })

def deleteSurrounding (offsetFromCursor count : Int) : Option (Bool × TextInputModel) := do
  let (start, count) ← model.deletionStart offsetFromCursor count
  model.deleteFrom offsetFromCursor start count

def moveCursorToBeginning : Bool × TextInputModel :=
  let minPos := model.editableRange.start
  if model.selection.collapsed && model.selection.position == minPos then (false, model)
  else (true, { model with selection := .ofPosition minPos })

def moveCursorToEnd : Bool × TextInputModel :=
  let maxPos := model.editableRange.stop
  if model.selection.collapsed && model.selection.position == maxPos then (false, model)
  else (true, { model with selection := .ofPosition maxPos })

def selectToBeginning : Bool × TextInputModel :=
  let minPos := model.editableRange.start
  if model.selection.collapsed && model.selection.position == minPos then (false, model)
  else (true, { model with selection := ⟨model.selection.base, minPos⟩ })

def selectToEnd : Bool × TextInputModel :=
  let maxPos := model.editableRange.stop
  if model.selection.collapsed && model.selection.position == maxPos then (false, model)
  else (true, { model with selection := ⟨model.selection.base, maxPos⟩ })

def moveCursorForward : Option (Bool × TextInputModel) := do
  -- If there's a selection, move to the end of the selection.
  if !model.selection.collapsed then
    return (true, { model with selection := .ofPosition model.selection.stop })
  -- Otherwise, move the cursor forward.
  let position := model.selection.position
  if position ≠ model.editableRange.stop then
    let count := widthForward (← model.text.at? position)
    return (true, { model with selection := .ofPosition (position + count) })
  return (false, model)

def moveCursorBack : Option (Bool × TextInputModel) := do
  -- If there's a selection, move to the beginning of the selection.
  if !model.selection.collapsed then
    return (true, { model with selection := .ofPosition model.selection.start })
  -- Otherwise, move the cursor backward.
  let position := model.selection.position
  if position ≠ model.editableRange.start then
    let count := widthBack (← model.text.at? (sizeSub position 1))
    return (true, { model with selection := .ofPosition (sizeSub position count) })
  return (false, model)

end TextInputModel

/-- The public operations with their arguments. -/
inductive Op where
  | setText (text : U16String) (selection composingRange : TextRange)
  | setSelection (range : TextRange)
  | setComposingRange (range : TextRange) (cursorOffset : Nat)
  | beginComposing
  | updateComposingText (text : U16String) (selection : TextRange)
  | commitComposing
  | endComposing
  | addText (text : U16String)
  | addCodePoint (c : UInt32)
  | backspace
  | delete
  | deleteSurrounding (offsetFromCursor count : Int)
  | moveCursorToBeginning
  | moveCursorToEnd
  | selectToBeginning
  | selectToEnd
  | moveCursorForward
  | moveCursorBack
deriving DecidableEq, Repr

/-- What callers pass to the two operations whose arguments are relative to a
new range: a cursor offset inside it, a selection inside the new text. -/
def Op.Admissible : Op → Prop
  | .setComposingRange range cursorOffset => cursorOffset ≤ range.length
  | .updateComposingText text selection => selection.stop ≤ text.length
  | _ => True

namespace TextInputModel

/-- The model after an operation, with what the call returned (true for `void`). -/
def call (model : TextInputModel) : Op → Option (Bool × TextInputModel)
  | .setText text selection composingRange => some (model.setText text selection composingRange)
  | .setSelection range => some (model.setSelection range)
  | .setComposingRange range cursorOffset => some (model.setComposingRange range cursorOffset)
  | .beginComposing => some (true, model.beginComposing)
  | .updateComposingText text selection => (model.updateComposingText text selection).map (true, ·)
  | .commitComposing => some (true, model.commitComposing)
  | .endComposing => some (true, model.endComposing)
  | .addText text => (model.addText text).map (true, ·)
  | .addCodePoint c => (model.addCodePoint c).map (true, ·)
  | .backspace => model.backspace
  | .delete => model.delete
  | .deleteSurrounding offsetFromCursor count => model.deleteSurrounding offsetFromCursor count
  | .moveCursorToBeginning => some model.moveCursorToBeginning
  | .moveCursorToEnd => some model.moveCursorToEnd
  | .selectToBeginning => some model.selectToBeginning
  | .selectToEnd => some model.selectToEnd
  | .moveCursorForward => model.moveCursorForward
  | .moveCursorBack => model.moveCursorBack

/-- The model as a machine, starting from the default-constructed model. -/
def machine : Std.Machine TextInputModel Op where
  Initial model := model = {}
  step model op := (model.call op).map Prod.snd

end TextInputModel

end FlutterEngine.TextInput
