import FlutterEngine.WebServices.StandardMessageCodec
import Mathlib.Tactic.IntervalCases

/-!
# Views of the same bytes

Numbers are read through the view, lists and texts through the buffer under it. What is decoded
depends on the bytes of the view alone where the buffer ends with it and it is aligned alike.
-/

namespace FlutterEngine.WebServices

open FlutterEngine.Std LittleEndian WriteBuffer StandardMessageCodec

/-- The bytes of a view. -/
def ByteData.bytes (data : ByteData) : List Byte :=
  (data.buffer.drop data.offsetInBytes).take data.lengthInBytes

/-- The view begins at `start`, and its buffer has `room` bytes after it. -/
structure ByteData.Placed (data : ByteData) (start room : Nat) : Prop where
  begins : data.offsetInBytes = start
  ends : data.buffer.length = start + data.lengthInBytes + room

/-- Views of the same bytes with the same bytes after them, aligned alike. -/
structure Alike (data other : ByteData) : Prop where
  length : data.lengthInBytes = other.lengthInBytes
  rest : data.buffer.drop data.offsetInBytes = other.buffer.drop other.offsetInBytes
  four : data.offsetInBytes % 4 = 0 ↔ other.offsetInBytes % 4 = 0
  eight : data.offsetInBytes % 8 = 0 ↔ other.offsetInBytes % 8 = 0

theorem length_bytes (data : ByteData) : data.bytes.length = data.lengthInBytes := by
  have within := data.within
  rw [ByteData.bytes, List.length_take, List.length_drop]
  omega

/-! ## Reading alike -/

section Reading

variable {α β : Type} {data other : ByteData}

/-- From each position both readers fail, or read the same and stop at the same position. -/
def ReadsAlike (data other : ByteData) (read : ReadBuffer → Except Thrown (α × ReadBuffer)) :
    Prop :=
  ∀ position, (∃ value next, read ⟨data, position⟩ = .ok (value, ⟨data, next⟩) ∧
      read ⟨other, position⟩ = .ok (value, ⟨other, next⟩)) ∨
    ∃ thrown otherThrown, read ⟨data, position⟩ = .error thrown ∧
      read ⟨other, position⟩ = .error otherThrown

namespace ReadsAlike

theorem ok (value : α) : ReadsAlike data other fun buffer => .ok (value, buffer) :=
  fun position => .inl ⟨value, position, rfl, rfl⟩

theorem error (thrown : Thrown) :
    ReadsAlike data other fun _ => (.error thrown : Except Thrown (α × ReadBuffer)) :=
  fun _ => .inr ⟨thrown, thrown, rfl, rfl⟩

theorem bind {read : ReadBuffer → Except Thrown (α × ReadBuffer)}
    {rest : α × ReadBuffer → Except Thrown (β × ReadBuffer)} (first : ReadsAlike data other read)
    (second : ∀ value, ReadsAlike data other fun buffer => rest (value, buffer)) :
    ReadsAlike data other fun buffer => read buffer >>= rest := by
  intro position
  dsimp only
  obtain ⟨value, next, here, there⟩ | ⟨thrown, otherThrown, here, there⟩ := first position
  · rw [here, there]
    exact second value next
  · rw [here, there]
    exact .inr ⟨thrown, otherThrown, rfl, rfl⟩

theorem ite {condition : Prop} [Decidable condition]
    {first second : ReadBuffer → Except Thrown (α × ReadBuffer)}
    (holds : ReadsAlike data other first) (fails : ReadsAlike data other second) :
    ReadsAlike data other fun buffer => if condition then first buffer else second buffer := by
  split
  · exact holds
  · exact fails

variable {readValue : ReadBuffer → Except Thrown (Value × ReadBuffer)}

theorem readValues (reads : ReadsAlike data other readValue) (count : Nat) :
    ReadsAlike data other (readValues readValue count) := by
  induction count with
  | zero => exact ok []
  | succ count ih => exact reads.bind fun _ => ih.bind fun _ => ok _

theorem readEntries
    (reads : ReadsAlike data other readValue) (count : Nat) (result : List (Value × Value)) :
    ReadsAlike data other (readEntries readValue count result) := by
  induction count generalizing result with
  | zero => exact ok result
  | succ count ih => exact reads.bind fun _ => reads.bind fun _ => ih _

end ReadsAlike

namespace Alike

variable (alike : Alike data other)

include alike

theorem ahead (position : Nat) :
    (⟨data, position⟩ : ReadBuffer).ahead = (⟨other, position⟩ : ReadBuffer).ahead := by
  rw [ReadBuffer.ahead, ReadBuffer.ahead, ← List.drop_drop, ← List.drop_drop, alike.rest]

theorem getNumber (size : Nat) : ReadsAlike data other (·.getNumber size) := by
  intro position
  unfold ReadBuffer.getNumber
  dsimp only
  rw [alike.length, alike.ahead]
  split
  · exact .inl ⟨_, _, rfl, rfl⟩
  · exact .inr ⟨_, _, rfl, rfl⟩

theorem getUint8List (count : Nat) : ReadsAlike data other (·.getUint8List count) := by
  intro position
  have rest := congrArg List.length alike.rest
  have within := data.within
  have otherWithin := other.within
  rw [List.length_drop, List.length_drop] at rest
  unfold ReadBuffer.getUint8List
  dsimp only
  by_cases fits : data.offsetInBytes + position + count ≤ data.buffer.length
  · rw [if_pos fits, if_pos (by omega), alike.ahead]
    exact .inl ⟨_, _, rfl, rfl⟩
  · rw [if_neg fits, if_neg (by omega)]
    exact .inr ⟨_, _, rfl, rfl⟩

theorem getList {size : Nat} (known : size = 4 ∨ size = 8) (count : Nat) :
    ReadsAlike data other (·.getList size count) := by
  intro position
  have whole : (position + padding size position) % size = 0 := add_padding_mod (by omega)
  have same : (data.offsetInBytes + (position + padding size position)) % size = 0 ↔
      (other.offsetInBytes + (position + padding size position)) % size = 0 := by
    rw [Nat.add_mod, whole, Nat.add_zero, Nat.mod_mod, Nat.add_mod other.offsetInBytes, whole,
      Nat.add_zero, Nat.mod_mod]
    obtain rfl | rfl := known
    · exact alike.four
    · exact alike.eight
  unfold ReadBuffer.getList
  dsimp only [ReadBuffer.alignTo, ReadBuffer.advance]
  split
  · next unaligned =>
      rw [if_pos (mt same.mpr unaligned)]
      exact .inr ⟨_, _, rfl, rfl⟩
  · next aligned =>
      rw [if_neg (mt (mt same.mp) aligned)]
      exact ReadsAlike.bind (alike.getUint8List (count * size))
        (fun bytes => .ok (toElements size count bytes)) _

theorem readSize : ReadsAlike data other readSize :=
  (alike.getNumber 1).bind fun _ => .ite ((alike.getNumber 2).bind fun _ => .ok _)
    (.ite ((alike.getNumber 4).bind fun _ => .ok _) (.ok _))

theorem readSized {elements : ReadBuffer → Nat → Except Thrown (α × ReadBuffer)}
    (reads : ∀ count, ReadsAlike data other (elements · count)) :
    ReadsAlike data other (readSized elements) :=
  alike.readSize.bind reads

theorem readText : ReadsAlike data other readText := by
  refine (alike.readSized alike.getUint8List).bind fun bytes => ?_
  dsimp only
  generalize Utf8.decodeWithoutMark? bytes = text
  cases text with
  | none => exact .error _
  | some text => exact .ok text

variable (parseHex : String → Option (BitVec 64))

theorem readValueOfType {readValue : ReadBuffer → Except Thrown (Value × ReadBuffer)}
    (reads : ReadsAlike data other readValue) (type : Byte) :
    ReadsAlike data other (readValueOfType parseHex readValue type) := by
  have number : ReadsAlike data other ReadBuffer.getInt32 :=
    (alike.getNumber 4).bind fun _ => .ok _
  have double : ReadsAlike data other ReadBuffer.getFloat64 :=
    fun position => alike.getNumber 8 (position + padding 8 position)
  have list {size : Nat} (known : size = 4 ∨ size = 8) := alike.readSized (alike.getList known)
  unfold StandardMessageCodec.readValueOfType
  generalize ValueType.ofByte? type = type
  obtain _ | type := type
  · exact .error _
  cases type with
  | null | true | false => exact .ok _
  | int32 => exact number.bind fun _ => .ok _
  | int64 => exact (alike.getNumber 8).bind fun _ => .ok _
  | largeInt =>
    refine alike.readText.bind fun hex => ?_
    dsimp only
    generalize parseHex hex = value
    cases value with
    | none => exact .error _
    | some value => exact .ok _
  | float64 => exact double.bind fun _ => .ok _
  | string => exact alike.readText.bind fun _ => .ok _
  | uint8List => exact (alike.readSized alike.getUint8List).bind fun _ => .ok _
  | int32List => exact (list (.inl rfl)).bind fun _ => .ok _
  | int64List | float64List => exact (list (.inr rfl)).bind fun _ => .ok _
  | list => exact alike.readSize.bind fun _ => (reads.readValues _).bind fun _ => .ok _
  | map => exact alike.readSize.bind fun _ => (reads.readEntries _ _).bind fun _ => .ok _

theorem readValue (fuel : Nat) : ReadsAlike data other (readValue parseHex fuel) := by
  induction fuel with
  | zero => exact .error _
  | succ fuel ih =>
    intro position
    unfold StandardMessageCodec.readValue ReadBuffer.hasRemaining
    dsimp only
    rw [alike.length]
    split
    · exact ReadsAlike.error _ position
    · exact ReadsAlike.bind (alike.getNumber 1) (alike.readValueOfType parseHex ih) position

theorem decodes :
    (decodeMessage parseHex (some data)).toOption =
      (decodeMessage parseHex (some other)).toOption := by
  unfold decodeMessage readMessage
  dsimp only
  rw [alike.length]
  obtain ⟨value, next, here, there⟩ | ⟨_, _, here, there⟩ :=
    alike.readValue parseHex (other.lengthInBytes + 1) 0
  · have remaining : (⟨data, next⟩ : ReadBuffer).hasRemaining =
        (⟨other, next⟩ : ReadBuffer).hasRemaining := by
      rw [ReadBuffer.hasRemaining, ReadBuffer.hasRemaining, alike.length]
    rw [here, there]
    dsimp only [Bind.bind, Except.bind]
    rw [remaining]
  · rw [here, there]
    rfl

end Alike

end Reading

/-! ## Views in larger buffers -/

section Placements

variable (parseHex : String → Option (BitVec 64)) (start room : Nat) (bytes : List Byte)
  (filler : Byte)

/-- A view of the bytes that has the filler all around it. -/
def ByteData.amid : ByteData where
  buffer := List.replicate start filler ++ (bytes ++ List.replicate room filler)
  offsetInBytes := start
  lengthInBytes := bytes.length
  within := by simp

theorem placed_amid : (ByteData.amid start room bytes filler).Placed start room :=
  ⟨rfl, by simp [ByteData.amid, Nat.add_assoc]⟩

theorem bytes_amid : (ByteData.amid start room bytes filler).bytes = bytes := by
  simp [ByteData.amid, ByteData.bytes]

/-- Only the last three bits of the start matter. -/
theorem decode_amid : (decodeMessage parseHex (some (.amid start room bytes filler))).toOption =
    (decodeMessage parseHex (some (.amid (start % 8) room bytes filler))).toOption := by
  have alike : Alike (.amid start room bytes filler) (.amid (start % 8) room bytes filler) :=
    ⟨rfl, by simp [ByteData.amid], by simp only [ByteData.amid]; omega,
      by simp only [ByteData.amid]; omega⟩
  exact alike.decodes parseHex

theorem decode_overread :
    (decodeMessage parseHex (some (.amid start room [8, 1] filler))).toOption =
      if room = 0 then none else some (.uint8List [filler]) := by
  rw [decode_amid]
  have small := Nat.mod_lt start (Nat.succ_pos 7)
  generalize start % 8 = start at small
  interval_cases start <;> cases room <;> rfl

theorem decode_ints : (decodeMessage parseHex (some (.amid start 0 [9, 0, 0, 0] 0))).toOption =
    if start % 4 = 0 then some (.int32List []) else none := by
  rw [decode_amid, ← Nat.mod_mod_of_dvd start (Dvd.intro 2 rfl : 4 ∣ 8)]
  have small := Nat.mod_lt start (Nat.succ_pos 7)
  generalize start % 8 = start at small
  interval_cases start <;> rfl

theorem decode_longs :
    (decodeMessage parseHex (some (.amid start 0 [10, 0, 0, 0, 0, 0, 0, 0] 0))).toOption =
      if start % 8 = 0 then some (.int64List []) else none := by
  rw [decode_amid]
  have small := Nat.mod_lt start (Nat.succ_pos 7)
  generalize start % 8 = start at small
  interval_cases start <;> rfl

/-- Views at two places decode alike for all bytes exactly if both end their buffers and their
starts are aligned alike. -/
theorem decodesAlike_iff (otherStart otherRoom : Nat) :
    (∀ data other : ByteData, data.Placed start room → other.Placed otherStart otherRoom →
      data.bytes = other.bytes → (decodeMessage parseHex (some data)).toOption =
        (decodeMessage parseHex (some other)).toOption) ↔
      room = 0 ∧ otherRoom = 0 ∧ (start % 4 = 0 ↔ otherStart % 4 = 0) ∧
        (start % 8 = 0 ↔ otherStart % 8 = 0) := by
  constructor
  · intro decodes
    have same (bytes : List Byte) (filler otherFiller : Byte) := decodes _ _
      (placed_amid start room bytes filler) (placed_amid otherStart otherRoom bytes otherFiller)
      ((bytes_amid ..).trans (bytes_amid ..).symm)
    obtain ⟨rfl, rfl⟩ : room = 0 ∧ otherRoom = 0 := by
      have overread := same [8, 1] 42 43
      rw [decode_overread, decode_overread] at overread
      by_cases tight : room = 0 <;> by_cases otherTight : otherRoom = 0 <;>
        simp [tight, otherTight] at overread ⊢
    have ints := same [9, 0, 0, 0] 0 0
    have longs := same [10, 0, 0, 0, 0, 0, 0, 0] 0 0
    rw [decode_ints, decode_ints] at ints
    rw [decode_longs, decode_longs] at longs
    refine ⟨rfl, rfl, ?_, ?_⟩
    · by_cases aligned : start % 4 = 0 <;> by_cases otherAligned : otherStart % 4 = 0 <;>
        simp [aligned, otherAligned] at ints ⊢
    · by_cases aligned : start % 8 = 0 <;> by_cases otherAligned : otherStart % 8 = 0 <;>
        simp [aligned, otherAligned] at longs ⊢
  · rintro ⟨rfl, rfl, four, eight⟩ data other placed otherPlaced bytes
    have whole {data : ByteData} {start : Nat} (placed : data.Placed start 0) :
        data.buffer.drop data.offsetInBytes = data.bytes := by
      have ends := placed.ends
      rw [← placed.begins] at ends
      exact (List.take_of_length_le (by rw [List.length_drop]; omega)).symm
    have length : data.lengthInBytes = other.lengthInBytes := by
      rw [← length_bytes, bytes, length_bytes]
    rw [← placed.begins, ← otherPlaced.begins] at four eight
    have alike : Alike data other := ⟨length, by rw [whole placed, bytes, whole otherPlaced], four, eight⟩
    exact alike.decodes parseHex

/-- A list in one view is read past its end, and in the other it is refused. -/
theorem overread_not_decodesAlike : ∃ data other : ByteData, data.bytes = other.bytes ∧
    ∀ parseHex, decodeMessage parseHex (some data) = .ok (.uint8List [42]) ∧
      decodeMessage parseHex (some other) = .error .rangeError :=
  ⟨⟨[8, 1, 42], 0, 2, by decide⟩, ⟨[8, 1], 0, 2, by decide⟩, rfl, fun _ => ⟨rfl, rfl⟩⟩

end Placements

end FlutterEngine.WebServices
