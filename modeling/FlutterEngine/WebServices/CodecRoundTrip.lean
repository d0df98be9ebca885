import FlutterEngine.Std.Exceptions
import FlutterEngine.WebServices.StandardMessageCodec

/-!
# What comes back from an encoded message

The reader follows the writer in every position, so a value that is written is read back, but for
its strings: the decoder of UTF-8 discards a byte order mark at the start of each.
-/

namespace FlutterEngine.WebServices

open FlutterEngine.Std LittleEndian FlutterEngine.Std.Exceptions
  FlutterEngine.Std.Ieee754 WriteBuffer StandardMessageCodec

namespace Value

mutual

/-- The value that is read where this one was written. -/
def received : Value → Value
  | .string value => .string (Utf8.withoutMark value)
  | .list value => .list (receivedValues value)
  | .map value => .map (EntryLists.assignAll sameKey [] (receivedEntries value))
  | value => value

def receivedValues : List Value → List Value
  | [] => []
  | value :: rest => received value :: receivedValues rest

def receivedEntries : List (Value × Value) → List (Value × Value)
  | [] => []
  | (key, value) :: rest => (received key, received value) :: receivedEntries rest

end

mutual

/-- No double is NaN, every length that is written is below 2^32 (of a string, the length of its
encoding), and the keys of a map are distinct. -/
def Encodable : Value → Prop
  | .null | .bool _ | .int _ => True
  | .double value => isNaN infinity64 value = false
  | .string value => (Utf8.encode value).length < 2 ^ 32
  | .uint8List value => value.length < 2 ^ 32
  | .int32List value => value.length < 2 ^ 32
  | .int64List value | .float64List value => value.length < 2 ^ 32
  | .list value => value.length < 2 ^ 32 ∧ EncodableValues value
  | .map value => value.length < 2 ^ 32 ∧ EntryLists.Distinct sameKey value ∧
      EncodableEntries value

def EncodableValues : List Value → Prop
  | [] => True
  | value :: rest => Encodable value ∧ EncodableValues rest

def EncodableEntries : List (Value × Value) → Prop
  | [] => True
  | (key, value) :: rest => Encodable key ∧ Encodable value ∧ EncodableEntries rest

end

/-- The text does not begin with a byte order mark. -/
def UnmarkedText (text : String) : Prop := text.toList.head? ≠ some Utf8.markCharacter

mutual

/-- No string in the value begins with a byte order mark. -/
def Unmarked : Value → Prop
  | .string value => UnmarkedText value
  | .list value => UnmarkedValues value
  | .map value => UnmarkedEntries value
  | .null | .bool _ | .int _ | .double _ | .uint8List _ | .int32List _ | .int64List _
  | .float64List _ => True

def UnmarkedValues : List Value → Prop
  | [] => True
  | value :: rest => Unmarked value ∧ UnmarkedValues rest

def UnmarkedEntries : List (Value × Value) → Prop
  | [] => True
  | (key, value) :: rest => Unmarked key ∧ Unmarked value ∧ UnmarkedEntries rest

end

theorem length_receivedEntries (entries : List (Value × Value)) :
    (receivedEntries entries).length = entries.length := by
  induction entries with
  | nil => rfl
  | cons entry rest ih => exact congrArg (· + 1) ih

mutual

/-- A value is received as it is when no string loses its mark. -/
theorem received_eq_iff : ∀ value, Encodable value → (received value = value ↔ Unmarked value)
  | .null, _ | .bool _, _ | .int _, _ | .double _, _ | .uint8List _, _ | .int32List _, _
  | .int64List _, _ | .float64List _, _ => iff_of_true rfl trivial
  | .string value, _ => by
      rw [received, Value.string.injEq]
      exact Utf8.withoutMark_eq_self_iff value
  | .list value, encodable => by
      rw [received, Value.list.injEq]
      exact receivedValues_eq_iff value encodable.2
  | .map value, encodable => by
      have entries := receivedEntries_eq_iff value encodable.2.2
      rw [received, Value.map.injEq, Unmarked, ← entries]
      constructor
      · intro same
        have full : (EntryLists.assignAll sameKey [] (receivedEntries value)).length =
            ([] : List (Value × Value)).length + (receivedEntries value).length := by
          rw [same, length_receivedEntries, List.length_nil, Nat.zero_add]
        rw [EntryLists.assignAll_of_distinct ((EntryLists.length_assignAll_iff .nil).mp full)] at same
        exact same
      · intro same
        rw [same]
        exact EntryLists.assignAll_of_distinct encodable.2.1

theorem receivedValues_eq_iff : ∀ values, EncodableValues values →
    (receivedValues values = values ↔ UnmarkedValues values)
  | [], _ => iff_of_true rfl trivial
  | value :: rest, encodable => by
      rw [receivedValues, List.cons.injEq, received_eq_iff value encodable.1,
        receivedValues_eq_iff rest encodable.2]
      rfl

theorem receivedEntries_eq_iff : ∀ entries, EncodableEntries entries →
    (receivedEntries entries = entries ↔ UnmarkedEntries entries)
  | [], _ => iff_of_true rfl trivial
  | (key, value) :: rest, encodable => by
      rw [receivedEntries, List.cons.injEq, Prod.mk.injEq, received_eq_iff key encodable.1,
        received_eq_iff value encodable.2.1, receivedEntries_eq_iff rest encodable.2.2, and_assoc]
      rfl

end

end Value

/-! ## Writing only appends -/

section Append

variable {buffer later : WriteBuffer}
variable {value size : Nat} {type : ValueType} {elements : WriteBuffer → WriteBuffer}

theorem prefix_writeSize (writes : writeSize buffer value = .ok later) :
    buffer <+: later := by
  unfold writeSize at writes
  split at writes
  · split at writes
    · obtain rfl := Except.ok.inj writes
      exact List.prefix_append _ _
    split at writes
    · obtain rfl := Except.ok.inj writes
      exact (List.prefix_append _ _).trans (List.prefix_append _ _)
    · obtain rfl := Except.ok.inj writes
      exact (List.prefix_append _ _).trans (List.prefix_append _ _)
  · cases writes

theorem exists_writeSize (bounded : value < 2 ^ 32) (buffer : WriteBuffer) :
    ∃ later, writeSize buffer value = .ok later := by
  unfold writeSize
  rw [if_pos (by omega)]
  split
  · exact ⟨_, rfl⟩
  split <;> exact ⟨_, rfl⟩

theorem writeSized_eq_ok_iff :
    writeSized buffer type size elements = .ok later ↔
      ∃ sized, writeSize (writeType buffer type) size = .ok sized ∧ elements sized = later := by
  unfold writeSized
  rw [bind_eq_ok_iff]
  constructor
  · rintro ⟨sized, writes, same⟩
    exact ⟨sized, writes, Except.ok.inj same⟩
  · rintro ⟨sized, writes, rfl⟩
    exact ⟨sized, writes, rfl⟩

theorem prefix_putList (size : Nat) (list : List (BitVec (8 * size))) :
    buffer <+: putList buffer size list :=
  (List.prefix_append _ _).trans (List.prefix_append _ _)

theorem prefix_writeSized (writes : writeSized buffer type size elements = .ok later)
    (appends : ∀ sized, sized <+: elements sized) : writeType buffer type <+: later := by
  obtain ⟨sized, writesSize, rfl⟩ := writeSized_eq_ok_iff.mp writes
  exact (prefix_writeSize writesSize).trans (appends sized)

theorem grows_of_type (typed : writeType buffer type <+: later) :
    buffer <+: later ∧ buffer.length < later.length := by
  have longer := typed.length_le
  rw [writeType, putUint8, List.length_append, List.length_singleton] at longer
  exact ⟨(List.prefix_append _ _).trans typed, longer⟩

mutual

theorem prefix_writeValue : ∀ value {buffer later : WriteBuffer},
    writeValue buffer value = .ok later → ∃ type, writeType buffer type <+: later
  | .null, _, _, writes => ⟨.null, by obtain rfl := Except.ok.inj writes; exact List.prefix_rfl⟩
  | .bool value, _, _, writes =>
    ⟨_, by obtain rfl := Except.ok.inj writes; exact List.prefix_rfl⟩
  | .double value, _, _, writes => by
      obtain rfl := Except.ok.inj writes
      exact ⟨.float64, (List.prefix_append _ _).trans (List.prefix_append _ _)⟩
  | .int value, _, _, writes => by
      rw [writeValue] at writes
      split at writes
      · obtain rfl := Except.ok.inj writes
        exact ⟨.int32, List.prefix_append _ _⟩
      · obtain rfl := Except.ok.inj writes
        exact ⟨.int64, List.prefix_append _ _⟩
  | .string _, _, _, writes => ⟨_, prefix_writeSized writes fun _ => List.prefix_append _ _⟩
  | .uint8List _, _, _, writes => ⟨_, prefix_writeSized writes fun _ => List.prefix_append _ _⟩
  | .int32List value, _, _, writes => ⟨_, prefix_writeSized writes fun _ => prefix_putList 4 value⟩
  | .int64List value, _, _, writes => ⟨_, prefix_writeSized writes fun _ => prefix_putList 8 value⟩
  | .float64List value, _, _, writes =>
    ⟨_, prefix_writeSized writes fun _ => prefix_putList 8 value⟩
  | .list value, _, _, writes => by
      obtain ⟨sized, size, values⟩ := bind_eq_ok_iff.mp writes
      exact ⟨_, (prefix_writeSize size).trans (prefix_writeValues value values)⟩
  | .map value, _, _, writes => by
      obtain ⟨sized, size, entries⟩ := bind_eq_ok_iff.mp writes
      exact ⟨_, (prefix_writeSize size).trans (prefix_writeEntries value entries)⟩

theorem prefix_writeValues : ∀ values {buffer later : WriteBuffer},
    writeValues buffer values = .ok later → buffer <+: later
  | [], _, _, writes => by obtain rfl := Except.ok.inj writes; exact List.prefix_rfl
  | value :: rest, _, _, writes => by
      obtain ⟨middle, first, others⟩ := bind_eq_ok_iff.mp writes
      obtain ⟨type, typed⟩ := prefix_writeValue value first
      exact (grows_of_type typed).1.trans (prefix_writeValues rest others)

theorem prefix_writeEntries : ∀ entries {buffer later : WriteBuffer},
    writeEntries buffer entries = .ok later → buffer <+: later
  | [], _, _, writes => by obtain rfl := Except.ok.inj writes; exact List.prefix_rfl
  | (key, value) :: rest, _, _, writes => by
      obtain ⟨keyed, first, others⟩ := bind_eq_ok_iff.mp writes
      obtain ⟨middle, second, others⟩ := bind_eq_ok_iff.mp others
      obtain ⟨keyType, keyTyped⟩ := prefix_writeValue key first
      obtain ⟨type, typed⟩ := prefix_writeValue value second
      exact ((grows_of_type keyTyped).1.trans (grows_of_type typed).1).trans
        (prefix_writeEntries rest others)

end

theorem writeValue_grows {value : Value} (writes : writeValue buffer value = .ok later) :
    buffer <+: later ∧ buffer.length < later.length := by
  obtain ⟨type, typed⟩ := prefix_writeValue value writes
  exact grows_of_type typed

/-! ## Encodable values are written -/

theorem exists_writeSized {size : Nat} (bounded : size < 2 ^ 32) (buffer : WriteBuffer)
    (type : ValueType) (elements : WriteBuffer → WriteBuffer) :
    ∃ later, writeSized buffer type size elements = .ok later := by
  obtain ⟨sized, writes⟩ := exists_writeSize bounded (writeType buffer type)
  exact ⟨_, writeSized_eq_ok_iff.mpr ⟨sized, writes, rfl⟩⟩

mutual

theorem exists_writeValue : ∀ value, value.Encodable → ∀ buffer,
    ∃ later, writeValue buffer value = .ok later
  | .null, _, _ | .bool _, _, _ | .double _, _, _ => ⟨_, rfl⟩
  | .int value, _, buffer => by
      rw [writeValue]
      split <;> exact ⟨_, rfl⟩
  | .string _, bounded, buffer => exists_writeSized bounded buffer _ _
  | .uint8List _, bounded, buffer => exists_writeSized bounded buffer _ _
  | .int32List _, bounded, buffer => exists_writeSized bounded buffer _ _
  | .int64List _, bounded, buffer => exists_writeSized bounded buffer _ _
  | .float64List _, bounded, buffer => exists_writeSized bounded buffer _ _
  | .list value, encodable, buffer => by
      obtain ⟨sized, size⟩ := exists_writeSize encodable.1 (writeType buffer .list)
      obtain ⟨later, values⟩ := exists_writeValues value encodable.2 sized
      exact ⟨later, bind_eq_ok size values⟩
  | .map value, encodable, buffer => by
      obtain ⟨sized, size⟩ := exists_writeSize encodable.1 (writeType buffer .map)
      obtain ⟨later, entries⟩ := exists_writeEntries value encodable.2.2 sized
      exact ⟨later, bind_eq_ok size entries⟩

theorem exists_writeValues : ∀ values, Value.EncodableValues values → ∀ buffer,
    ∃ later, writeValues buffer values = .ok later
  | [], _, buffer => ⟨buffer, rfl⟩
  | value :: rest, encodable, buffer => by
      obtain ⟨middle, first⟩ := exists_writeValue value encodable.1 buffer
      obtain ⟨later, others⟩ := exists_writeValues rest encodable.2 middle
      exact ⟨later, bind_eq_ok first others⟩

theorem exists_writeEntries : ∀ entries, Value.EncodableEntries entries → ∀ buffer,
    ∃ later, writeEntries buffer entries = .ok later
  | [], _, buffer => ⟨buffer, rfl⟩
  | (key, value) :: rest, encodable, buffer => by
      obtain ⟨keyed, first⟩ := exists_writeValue key encodable.1 buffer
      obtain ⟨middle, second⟩ := exists_writeValue value encodable.2.1 keyed
      obtain ⟨later, others⟩ := exists_writeEntries rest encodable.2.2 middle
      exact ⟨later, bind_eq_ok first (bind_eq_ok second others)⟩

end

end Append

/-! ## The reader follows the writer -/

section Read

variable {data : ByteData} {buffer later : WriteBuffer} {parseHex : String → Option (BitVec 64)}

theorem readSize_at {value : Nat} (writes : writeSize buffer value = .ok later)
    (holds : data.Holds later) :
    readSize (readerAt data buffer) = .ok (value, readerAt data later) := by
  unfold writeSize at writes
  split at writes
  · split at writes
    · rename_i small
      obtain rfl := Except.ok.inj writes
      have byte : (BitVec.ofNat 8 value).toNat = value := by
        rw [BitVec.toNat_ofNat]
        omega
      have plain : ∀ tag : Byte, 254 ≤ tag.toNat → BitVec.ofNat 8 value ≠ tag := by
        rintro _ large rfl
        omega
      refine bind_eq_ok (getUint8_at holds) ?_
      dsimp only
      rw [if_neg (plain 254 (by decide)), if_neg (plain 255 (by decide))]
      exact congrArg (fun value => Except.ok (value, _)) byte
    split at writes
    · obtain rfl := Except.ok.inj writes
      have word : (BitVec.ofNat 16 value).toNat = value := by
        rw [BitVec.toNat_ofNat]
        omega
      refine bind_eq_ok (getUint8_at (holds.of_prefix (List.prefix_append _ _))) ?_
      dsimp only
      rw [if_pos rfl]
      refine bind_eq_ok (getNumber_at holds) ?_
      exact congrArg (fun value => Except.ok (value, _)) word
    · obtain rfl := Except.ok.inj writes
      have word : (BitVec.ofNat 32 value).toNat = value := by
        rw [BitVec.toNat_ofNat]
        omega
      refine bind_eq_ok (getUint8_at (holds.of_prefix (List.prefix_append _ _))) ?_
      dsimp only
      rw [if_neg (by decide), if_pos rfl]
      refine bind_eq_ok (getNumber_at holds) ?_
      exact congrArg (fun value => Except.ok (value, _)) word
  · cases writes

variable {type : ValueType} {size : Nat}

theorem readSized_at {α : Type} {elements : WriteBuffer → WriteBuffer} {value : α}
    {read : ReadBuffer → Nat → Except Thrown (α × ReadBuffer)}
    (writes : writeSized buffer type size elements = .ok later) (holds : data.Holds later)
    (appends : ∀ sized, sized <+: elements sized)
    (reads : ∀ sized, data.Holds (elements sized) →
      read (readerAt data sized) size = .ok (value, readerAt data (elements sized))) :
    readSized read (readerAt data (writeType buffer type)) = .ok (value, readerAt data later) := by
  obtain ⟨sized, writesSize, rfl⟩ := writeSized_eq_ok_iff.mp writes
  exact bind_eq_ok (readSize_at writesSize (holds.of_prefix (appends sized))) (reads sized holds)

theorem readText_at {text : String} (holds : data.Holds later)
    (writes : writeSized buffer .string (Utf8.encode text).length
      (putUint8List · (Utf8.encode text)) = .ok later) :
    readText (readerAt data (writeType buffer .string)) =
      .ok (Utf8.withoutMark text, readerAt data later) := by
  have bytes : readSized ReadBuffer.getUint8List (readerAt data (writeType buffer .string)) =
      .ok (Utf8.encode text, readerAt data later) :=
    readSized_at writes holds (fun _ => List.prefix_append _ _) fun _ => getUint8List_at
  refine bind_eq_ok bytes ?_
  simp only [Utf8.decodeWithoutMark?_encode]
  rfl

theorem readValue_type (fuel : Nat) (holds : data.Holds (writeType buffer type)) :
    readValue parseHex (fuel + 1) (readerAt data buffer) =
      readValueOfType parseHex (readValue parseHex fuel) type.toByte
        (readerAt data (writeType buffer type)) := by
  have fits := holds.fits
  rw [writeType, putUint8, List.length_append, List.length_singleton] at fits
  have remains : (readerAt data buffer).hasRemaining = true := decide_eq_true fits
  rw [readValue, remains]
  exact congrArg (· >>= _) (getUint8_at holds)

/-- An integer of 32 bits keeps its sign. -/
theorem signExtend_ofNat {value : BitVec 64}
    (narrow : -0x7fffffff - 1 ≤ value.toInt ∧ value.toInt ≤ 0x7fffffff) :
    (BitVec.ofNat 32 value.toNat).signExtend 64 = value := by
  have low : BitVec.ofNat 32 value.toNat = value.setWidth 32 := rfl
  apply BitVec.eq_of_toInt_eq
  rw [low, BitVec.toInt_signExtend_of_le (by decide), BitVec.toInt_setWidth]
  rw [← Int.bmod_bmod_of_dvd (m := 2 ^ 64) (by decide), ← BitVec.toInt_eq_toNat_bmod]
  exact Int.bmod_eq_of_le (by omega) (by omega)

/-- A list of fixed-size elements is read where it was written. -/
theorem readList_at (positive : 0 < size) {list : List (BitVec (8 * size))}
    (writes : writeSized buffer type list.length (putList · size list) = .ok later)
    (holds : data.Holds later) :
    readSized (fun buffer => buffer.getList size) (readerAt data (writeType buffer type)) =
      .ok (list, readerAt data later) :=
  readSized_at writes holds (fun _ => prefix_putList size list) fun _ => getList_at positive

theorem readInt_at {value : BitVec 64} (fuel : Nat)
    (writes : writeValue buffer (.int value) = .ok later) (holds : data.Holds later) :
    readValue parseHex (fuel + 1) (readerAt data buffer) =
      .ok (.int value, readerAt data later) := by
  rw [writeValue] at writes
  split at writes
  · rename_i narrow
    obtain rfl := Except.ok.inj writes
    rw [readValue_type fuel (holds.of_prefix (List.prefix_append _ _))]
    have read : (readerAt data (writeType buffer .int32)).getInt32 =
        .ok (value, readerAt data (putInt32 (writeType buffer .int32) value)) := by
      refine bind_eq_ok (getNumber_at holds) ?_
      exact congrArg (fun value => Except.ok (value, _)) (signExtend_ofNat narrow)
    simp only [readValueOfType, ValueType.ofByte?_toByte]
    exact bind_eq_ok read rfl
  · obtain rfl := Except.ok.inj writes
    rw [readValue_type fuel (holds.of_prefix (List.prefix_append _ _))]
    have read : (readerAt data (writeType buffer .int64)).getInt64 =
        .ok (value, readerAt data (putInt64 (writeType buffer .int64) value)) := by
      refine (getNumber_at holds).trans ?_
      rw [BitVec.ofNat_toNat]
      rfl
    simp only [readValueOfType, ValueType.ofByte?_toByte]
    exact bind_eq_ok read rfl

mutual

theorem readValue_at : ∀ value {buffer later : WriteBuffer} (fuel : Nat),
    writeValue buffer value = .ok later → data.Holds later →
    later.length ≤ fuel + 1 + buffer.length →
    readValue parseHex (fuel + 1) (readerAt data buffer) =
      .ok (value.received, readerAt data later)
  | .null, _, _, fuel, writes, holds, _ => by
      obtain rfl := Except.ok.inj writes
      exact readValue_type fuel holds
  | .bool value, _, _, fuel, writes, holds, _ => by
      obtain rfl := Except.ok.inj writes
      rw [readValue_type fuel holds]
      cases value <;> rfl
  | .double value, buffer, _, fuel, writes, holds, _ => by
      obtain rfl := Except.ok.inj writes
      rw [readValue_type fuel (holds.of_prefix ((List.prefix_append _ _).trans
        (List.prefix_append _ _)))]
      have read : (readerAt data (writeType buffer .float64)).getFloat64 =
          .ok (value, readerAt data (putFloat64 (writeType buffer .float64) value)) := by
        rw [ReadBuffer.getFloat64, alignTo_at]
        refine (getNumber_at holds).trans ?_
        rw [BitVec.ofNat_toNat]
        rfl
      simp only [readValueOfType, ValueType.ofByte?_toByte]
      exact bind_eq_ok read rfl
  | .int _, _, _, fuel, writes, holds, _ => readInt_at fuel writes holds
  | .string value, _, _, fuel, writes, holds, _ => by
      have typed := prefix_writeSized writes fun _ => List.prefix_append _ _
      rw [readValue_type fuel (holds.of_prefix typed)]
      simp only [readValueOfType, ValueType.ofByte?_toByte]
      exact bind_eq_ok (readText_at holds writes) rfl
  | .uint8List value, _, _, fuel, writes, holds, _ => by
      have typed := prefix_writeSized writes fun _ => List.prefix_append _ _
      rw [readValue_type fuel (holds.of_prefix typed)]
      simp only [readValueOfType, ValueType.ofByte?_toByte]
      exact bind_eq_ok (readSized_at writes holds (fun _ => List.prefix_append _ _)
        fun _ => getUint8List_at) rfl
  | .int32List value, _, _, fuel, writes, holds, _ => by
      have typed := prefix_writeSized writes fun _ => prefix_putList 4 value
      rw [readValue_type fuel (holds.of_prefix typed)]
      simp only [readValueOfType, ValueType.ofByte?_toByte]
      exact bind_eq_ok (readList_at (by decide) writes holds) rfl
  | .int64List value, _, _, fuel, writes, holds, _ => by
      have typed := prefix_writeSized writes fun _ => prefix_putList 8 value
      rw [readValue_type fuel (holds.of_prefix typed)]
      simp only [readValueOfType, ValueType.ofByte?_toByte]
      exact bind_eq_ok (readList_at (by decide) writes holds) rfl
  | .float64List value, _, _, fuel, writes, holds, _ => by
      have typed := prefix_writeSized writes fun _ => prefix_putList 8 value
      rw [readValue_type fuel (holds.of_prefix typed)]
      simp only [readValueOfType, ValueType.ofByte?_toByte]
      exact bind_eq_ok (readList_at (by decide) writes holds) rfl
  | .list value, buffer, _, fuel, writes, holds, fueled => by
      obtain ⟨sized, size, values⟩ := bind_eq_ok_iff.mp writes
      have typed := prefix_writeSize size
      have grown := (grows_of_type typed).2
      have within := prefix_writeValues value values
      rw [readValue_type fuel (holds.of_prefix (typed.trans within))]
      simp only [readValueOfType, ValueType.ofByte?_toByte]
      exact bind_eq_ok (readSize_at size (holds.of_prefix within))
        (bind_eq_ok (readValues_at value fuel values holds (by omega)) rfl)
  | .map value, buffer, _, fuel, writes, holds, fueled => by
      obtain ⟨sized, size, entries⟩ := bind_eq_ok_iff.mp writes
      have typed := prefix_writeSize size
      have grown := (grows_of_type typed).2
      have within := prefix_writeEntries value entries
      rw [readValue_type fuel (holds.of_prefix (typed.trans within))]
      simp only [readValueOfType, ValueType.ofByte?_toByte]
      exact bind_eq_ok (readSize_at size (holds.of_prefix within))
        (bind_eq_ok (readEntries_at value [] fuel entries holds (by omega)) rfl)

theorem readValues_at : ∀ values {buffer later : WriteBuffer} (fuel : Nat),
    writeValues buffer values = .ok later → data.Holds later →
    later.length ≤ fuel + buffer.length →
    readValues (readValue parseHex fuel) values.length (readerAt data buffer) =
      .ok (Value.receivedValues values, readerAt data later)
  | [], _, _, _, writes, _, _ => by
      obtain rfl := Except.ok.inj writes
      rfl
  | value :: rest, buffer, later, fuel, writes, holds, fueled => by
      obtain ⟨middle, first, others⟩ := bind_eq_ok_iff.mp writes
      have grown := (writeValue_grows first).2
      have within := prefix_writeValues rest others
      have shorter := within.length_le
      obtain ⟨fuel, rfl⟩ : ∃ less, fuel = less + 1 := Nat.exists_eq_add_one.mpr (by omega)
      exact bind_eq_ok (readValue_at value fuel first (holds.of_prefix within) (by omega))
        (bind_eq_ok (readValues_at rest (fuel + 1) others holds (by omega)) rfl)

theorem readEntries_at : ∀ entries result {buffer later : WriteBuffer} (fuel : Nat),
    writeEntries buffer entries = .ok later → data.Holds later →
    later.length ≤ fuel + buffer.length →
    readEntries (readValue parseHex fuel) entries.length result (readerAt data buffer) =
      .ok (EntryLists.assignAll Value.sameKey result (Value.receivedEntries entries),
        readerAt data later)
  | [], _, _, _, _, writes, _, _ => by
      obtain rfl := Except.ok.inj writes
      rfl
  | (key, value) :: rest, result, buffer, later, fuel, writes, holds, fueled => by
      obtain ⟨keyed, first, others⟩ := bind_eq_ok_iff.mp writes
      obtain ⟨middle, second, others⟩ := bind_eq_ok_iff.mp others
      have keyGrown := (writeValue_grows first).2
      have grown := writeValue_grows second
      have within := prefix_writeEntries rest others
      have shorter := within.length_le
      obtain ⟨fuel, rfl⟩ : ∃ less, fuel = less + 1 := Nat.exists_eq_add_one.mpr (by omega)
      refine bind_eq_ok (readValue_at key fuel first (holds.of_prefix (grown.1.trans within))
        (by omega)) ?_
      refine bind_eq_ok (readValue_at value fuel second (holds.of_prefix within) (by omega)) ?_
      exact readEntries_at rest _ (fuel + 1) others holds (by omega)

end

end Read

/-! ## What is sent -/

/-- What the codecs encode. -/
inductive Sent where
  | message (message : Value)
  | methodCall (call : MethodCall)
  | successEnvelope (result : Value)
  | errorEnvelope (code : String) (message : Option String) (details : Value)

namespace Sent

/-- The values that are written. -/
def values : Sent → List Value
  | .message value => [value]
  | .methodCall call => [.string call.method, call.arguments]
  | .successEnvelope result => [result]
  | .errorEnvelope code text details => [.string code, .ofText? text, details]

/-- What decoding gives when it undoes the encoding: an error envelope throws the exception. -/
def Returns (parseHex : String → Option (BitVec 64)) (spare : List Byte) : Sent → Prop
  | .message value => ∃ data, encodeMessage spare value = .ok data ∧
      decodeMessage parseHex data = .ok value
  | .methodCall call => ∃ data, StandardMethodCodec.encodeMethodCall spare call = .ok data ∧
      StandardMethodCodec.decodeMethodCall parseHex (some data) = .ok call
  | .successEnvelope result =>
    ∃ data, StandardMethodCodec.encodeSuccessEnvelope spare result = .ok data ∧
      StandardMethodCodec.decodeEnvelope parseHex data = .ok result
  | .errorEnvelope code text details =>
    ∃ data, StandardMethodCodec.encodeErrorEnvelope spare code text details = .ok data ∧
      StandardMethodCodec.decodeEnvelope parseHex data =
        .error (.platformException code text details)

def Encodable (sent : Sent) : Prop := Value.EncodableValues sent.values

def Unmarked (sent : Sent) : Prop := Value.UnmarkedValues sent.values

end Sent

section Decode

variable {parseHex : String → Option (BitVec 64)} {spare : List Byte} {buffer later : WriteBuffer}

/-- A value of an encoded message, at the place where it was written. -/
theorem readMessage_at (parseHex : String → Option (BitVec 64)) {value : Value} {data : ByteData}
    (writes : writeValue buffer value = .ok later) (holds : data.Holds later) :
    readMessage parseHex (readerAt data buffer) = .ok (value.received, readerAt data later) := by
  have fits := holds.fits
  refine readValue_at value data.lengthInBytes writes holds ?_
  omega

theorem hasRemaining_done : (readerAt (done later spare) later).hasRemaining = false :=
  decide_eq_false (Nat.lt_irrefl _)

theorem encodeMessage_of_ne {message : Value} (other : message ≠ .null)
    (writes : writeValue [] message = .ok later) :
    encodeMessage spare message = .ok (some (done later spare)) := by
  have encodes : encodeMessage spare message =
      writeValue [] message >>= fun buffer => .ok (some (done buffer spare)) := by
    cases message with
    | null => exact absurd rfl other
    | _ => rfl
  rw [encodes]
  exact bind_eq_ok writes rfl

theorem decodeMessage_encodeMessage (parseHex : String → Option (BitVec 64)) (spare : List Byte)
    {message : Value} (encodable : message.Encodable) :
    ∃ data, encodeMessage spare message = .ok data ∧
      decodeMessage parseHex data = .ok message.received := by
  by_cases other : message = .null
  · subst other
    exact ⟨none, rfl, rfl⟩
  · obtain ⟨later, writes⟩ := exists_writeValue message encodable []
    refine ⟨_, encodeMessage_of_ne other writes, ?_⟩
    have read := readMessage_at parseHex writes (holds_done spare)
    refine bind_eq_ok read ?_
    dsimp only
    rw [hasRemaining_done]
    rfl

open StandardMethodCodec

theorem decodeMethodCall_encodeMethodCall (parseHex : String → Option (BitVec 64))
    (spare : List Byte) {call : MethodCall} (encodable : (Sent.methodCall call).Encodable) :
    ∃ data, encodeMethodCall spare call = .ok data ∧ decodeMethodCall parseHex (some data) =
      .ok ⟨Utf8.withoutMark call.method, call.arguments.received⟩ := by
  obtain ⟨named, first⟩ := exists_writeValue (.string call.method) encodable.1 []
  obtain ⟨later, second⟩ := exists_writeValue call.arguments encodable.2.1 named
  refine ⟨done later spare, bind_eq_ok first (bind_eq_ok second rfl), ?_⟩
  have holds : (done later spare).Holds later := holds_done spare
  have method := readMessage_at parseHex first
    (holds.of_prefix (writeValue_grows second).1)
  have arguments := readMessage_at parseHex second holds
  refine bind_eq_ok method (bind_eq_ok arguments ?_)
  simp only [Value.received, hasRemaining_done]
  rfl

theorem decodeEnvelope_encodeSuccessEnvelope (parseHex : String → Option (BitVec 64))
    (spare : List Byte) {result : Value} (encodable : result.Encodable) :
    ∃ data, encodeSuccessEnvelope spare result = .ok data ∧
      decodeEnvelope parseHex data = .ok result.received := by
  obtain ⟨later, writes⟩ := exists_writeValue result encodable (putUint8 [] 0)
  refine ⟨done later spare, bind_eq_ok writes rfl, ?_⟩
  have holds : (done later spare).Holds later := holds_done spare
  have grown := writeValue_grows writes
  have flag := getUint8_at (holds.of_prefix grown.1)
  have read := readMessage_at parseHex writes holds
  have nonempty : (done later spare).lengthInBytes ≠ 0 := Nat.ne_zero_of_lt grown.2
  unfold decodeEnvelope
  rw [if_neg nonempty]
  refine bind_eq_ok flag ?_
  dsimp only
  rw [if_pos rfl]
  exact bind_eq_ok read rfl

theorem received_ofText? (text : Option String) :
    (Value.ofText? text).received = .ofText? (text.map Utf8.withoutMark) := by
  cases text <;> rfl

@[simp] theorem text?_ofText? (text : Option String) : (Value.ofText? text).text? = some text := by
  cases text <;> rfl

theorem decodeEnvelope_encodeErrorEnvelope (parseHex : String → Option (BitVec 64))
    (spare : List Byte) {code : String} {text : Option String} {details : Value}
    (encodable : (Sent.errorEnvelope code text details).Encodable) :
    ∃ data, encodeErrorEnvelope spare code text details = .ok data ∧
      decodeEnvelope parseHex data = .error (.platformException (Utf8.withoutMark code)
        (text.map Utf8.withoutMark) details.received) := by
  obtain ⟨coded, first⟩ := exists_writeValue (.string code) encodable.1 (putUint8 [] 1)
  obtain ⟨texted, second⟩ := exists_writeValue (.ofText? text) encodable.2.1 coded
  obtain ⟨later, third⟩ := exists_writeValue details encodable.2.2.1 texted
  refine ⟨done later spare, bind_eq_ok first (bind_eq_ok second (bind_eq_ok third rfl)), ?_⟩
  have holds : (done later spare).Holds later := holds_done spare
  have textGrown := (writeValue_grows third).1
  have codeGrown := (writeValue_grows second).1.trans textGrown
  have grown := (writeValue_grows first).1.trans codeGrown
  have flag := getUint8_at (holds.of_prefix grown)
  have nonempty : (done later spare).lengthInBytes ≠ 0 :=
    Nat.ne_zero_of_lt (Nat.lt_of_succ_le grown.length_le)
  have readCode := readMessage_at parseHex first (holds.of_prefix codeGrown)
  have readText := readMessage_at parseHex second (holds.of_prefix textGrown)
  have readDetails := readMessage_at parseHex third holds
  unfold decodeEnvelope
  rw [if_neg nonempty]
  refine (bind_of_eq_ok flag).trans ?_
  dsimp only
  rw [if_neg (by decide)]
  refine (bind_of_eq_ok readCode).trans ((bind_of_eq_ok readText).trans
    ((bind_of_eq_ok readDetails).trans ?_))
  simp only [Value.received, received_ofText?, text?_ofText?, hasRemaining_done]
  rfl

/-- Decoding undoes an encoding exactly when no string that is sent begins with a byte order
mark. -/
theorem returns_iff_unmarked (parseHex : String → Option (BitVec 64)) (spare : List Byte)
    (sent : Sent) (encodable : sent.Encodable) : sent.Returns parseHex spare ↔ sent.Unmarked := by
  rw [Sent.Unmarked, ← Value.receivedValues_eq_iff _ encodable]
  cases sent with
  | message value =>
    obtain ⟨data, encodes, decodes⟩ := decodeMessage_encodeMessage parseHex spare encodable.1
    rw [Sent.Returns, exists_eq_ok_and_iff encodes, decodes]
    simp [Sent.values, Value.receivedValues]
  | methodCall call =>
    obtain ⟨data, encodes, decodes⟩ := decodeMethodCall_encodeMethodCall parseHex spare encodable
    rw [Sent.Returns, exists_eq_ok_and_iff encodes, decodes]
    cases call
    simp [Sent.values, Value.receivedValues, Value.received]
  | successEnvelope result =>
    obtain ⟨data, encodes, decodes⟩ :=
      decodeEnvelope_encodeSuccessEnvelope parseHex spare encodable.1
    rw [Sent.Returns, exists_eq_ok_and_iff encodes, decodes]
    simp [Sent.values, Value.receivedValues]
  | errorEnvelope code text details =>
    obtain ⟨data, encodes, decodes⟩ :=
      decodeEnvelope_encodeErrorEnvelope parseHex spare encodable
    rw [Sent.Returns, exists_eq_ok_and_iff encodes, decodes]
    cases text <;> simp [Sent.values, Value.receivedValues, Value.received, Value.ofText?]

/-- A list, a map with a number and a text for keys, and a double. -/
def sampleValue : Value :=
  .list [.map [(.int 5, .double 0x3FF8000000000000), (.string "key", .null)], .int32List [1, 2],
    .map [], .bool true, .int (BitVec.ofInt 64 (-2 ^ 40))]

theorem returns_iff_unmarked_sampleValue :
    (Sent.errorEnvelope "code" none sampleValue).Encodable ∧
      ((Sent.errorEnvelope "code" none sampleValue).Returns (fun _ => none) [0, 0] ↔
        (Sent.errorEnvelope "code" none sampleValue).Unmarked) := by
  have code : (Utf8.encode "code").length < 2 ^ 32 := by decide
  have key : (Utf8.encode "key").length < 2 ^ 32 := by decide
  have number : isNaN infinity64 (0x3FF8000000000000 : Binary64) = false := by decide
  have map : (Value.map [(.int 5, .double 0x3FF8000000000000), (.string "key", .null)]).Encodable :=
    ⟨by decide, List.pairwise_pair.mpr rfl, trivial, number, key, trivial, trivial⟩
  have list : (2 : Nat) < 2 ^ 32 := by decide
  have encodable : (Sent.errorEnvelope "code" none sampleValue).Encodable :=
    ⟨code, trivial, ⟨by decide, map, list, ⟨by decide, List.Pairwise.nil, trivial⟩, trivial,
      trivial, trivial⟩, trivial⟩
  exact ⟨encodable, returns_iff_unmarked _ _ _ encodable⟩

/-- The text of a byte order mark and a letter comes back as the letter. -/
theorem marked_text_is_cut :
    (Sent.message (.string "\uFEFFa")).Encodable ∧
      ¬(Sent.message (.string "\uFEFFa")).Returns (fun _ => none) [] := by
  have encodable : (Value.string "\uFEFFa").Encodable := by
    change (Utf8.encode "\uFEFFa").length < 2 ^ 32
    decide
  refine ⟨⟨encodable, trivial⟩, ?_⟩
  obtain ⟨data, encodes, decodes⟩ := decodeMessage_encodeMessage (fun _ => none) [] encodable
  rw [Sent.Returns, exists_eq_ok_and_iff encodes, decodes]
  intro same
  have unmarked := (Value.received_eq_iff _ encodable).mp (Except.ok.inj same)
  exact unmarked (by decide)

end Decode

end FlutterEngine.WebServices
