import Mathlib.Algebra.Order.Ring.Nat

/-!
# Text ranges and the UTF-16 buffer

`TextRange` of `text_range.h`, and the four operations of `std::u16string` that
`TextInputModel` calls on its text. Each of those throws `std::out_of_range`
when its position lies outside the string; a throw is `none`.
-/

namespace FlutterEngine.TextInput

/-- `std::u16string`: UTF-16 code units. -/
abbrev U16String := List UInt16

/-- Subtraction of `size_t`: an underflow wraps at 2^64. -/
def sizeSub (left right : Nat) : Nat :=
  if right ≤ left then left - right else 2 ^ 64 + left - right

theorem sizeSub_of_le {left right : Nat} (fits : right ≤ left) :
    sizeSub left right = left - right := if_pos fits

/-- A directional range of text; reversed when `base > extent`. -/
structure TextRange where
  base : Nat
  extent : Nat
deriving DecidableEq, Repr

namespace TextRange

/-- The collapsed range at a position. -/
def ofPosition (position : Nat) : TextRange := ⟨position, position⟩

def start (range : TextRange) : Nat := min range.base range.extent

/-- `TextRange::end`. -/
def stop (range : TextRange) : Nat := max range.base range.extent

def length (range : TextRange) : Nat := range.stop - range.start

def collapsed (range : TextRange) : Bool := range.base == range.extent

/-- `TextRange::position`, whose debug assertion asks for a collapsed range. -/
def position (range : TextRange) : Nat := range.extent

/-- `TextRange::set_end`: moves whichever of the two positions is the greater. -/
def setEnd (range : TextRange) (position : Nat) : TextRange :=
  if range.base ≤ range.extent then { range with extent := position }
  else { range with base := position }

/-- `TextRange::Contains(const TextRange&)`. -/
def contains (outer inner : TextRange) : Bool :=
  inner.start ≥ outer.start && inner.stop ≤ outer.stop

@[simp] theorem stop_ofPosition (position : Nat) : (TextRange.ofPosition position).stop = position := by
  simp [TextRange.ofPosition, stop]

theorem start_le_stop (range : TextRange) : range.start ≤ range.stop := by
  simp only [start, stop]
  omega

theorem start_eq_stop {range : TextRange} (collapsed : range.collapsed = true) :
    range.start = range.extent ∧ range.stop = range.extent := by
  simp only [TextRange.collapsed, beq_iff_eq] at collapsed
  simp [start, stop, collapsed]

@[simp] theorem collapsed_ofPosition (position : Nat) : (TextRange.ofPosition position).collapsed = true := by
  simp [TextRange.ofPosition, collapsed]

/-- Moving the end leaves the start, as long as the end does not pass it. -/
theorem stop_setEnd_le {range : TextRange} {position bound : Nat}
    (start : range.start ≤ bound) (moved : position ≤ bound) :
    (range.setEnd position).stop ≤ bound := by
  unfold setEnd
  simp only [TextRange.start, TextRange.stop] at *
  split <;> simp only <;> omega

theorem extent_le_stop (range : TextRange) : range.extent ≤ range.stop := by
  simp only [stop]
  omega

theorem contains_iff {outer inner : TextRange} :
    outer.contains inner = true ↔ outer.start ≤ inner.start ∧ inner.stop ≤ outer.stop := by
  simp [contains]

end TextRange

namespace U16String

/-- `std::u16string::at`. -/
def at? (text : U16String) (position : Nat) : Option UInt16 := text[position]?

/-- `std::u16string::erase`: removes at most what follows `position`. -/
def erase (text : U16String) (position count : Nat) : Option U16String :=
  if position ≤ text.length then some (text.take position ++ text.drop (position + count)) else none

/-- `std::u16string::insert`. -/
def insert (text : U16String) (position : Nat) (added : U16String) : Option U16String :=
  if position ≤ text.length then some (text.take position ++ added ++ text.drop position) else none

/-- `std::u16string::replace`. -/
def replace (text : U16String) (position count : Nat) (added : U16String) : Option U16String :=
  if position ≤ text.length then
    some (text.take position ++ added ++ text.drop (position + count))
  else none

variable {position : Nat} {text : U16String}

theorem erase_of_le (count : Nat) (inside : position ≤ text.length) :
    ∃ erased, erase text position count = some erased ∧
      erased.length = text.length - min count (text.length - position) := by
  refine ⟨_, if_pos inside, ?_⟩
  simp only [List.length_append, List.length_take, List.length_drop]
  omega

theorem insert_of_le (added : U16String) (inside : position ≤ text.length) :
    ∃ inserted, insert text position added = some inserted ∧
      inserted.length = text.length + added.length := by
  refine ⟨_, if_pos inside, ?_⟩
  simp only [List.length_append, List.length_take, List.length_drop]
  omega

theorem replace_of_le {count : Nat} (added : U16String) (inside : position + count ≤ text.length) :
    ∃ replaced, replace text position count added = some replaced ∧
      replaced.length = text.length - count + added.length := by
  refine ⟨_, if_pos (Nat.le_of_add_right_le inside), ?_⟩
  simp only [List.length_append, List.length_take, List.length_drop]
  omega

theorem at?_of_lt (inside : position < text.length) : at? text position = some text[position] := by
  simp [at?, inside]

end U16String

end FlutterEngine.TextInput
