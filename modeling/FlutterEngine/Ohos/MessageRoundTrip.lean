import FlutterEngine.Ohos.MessageReading

/-!
# Messages read back

Decoding an encoded message gives `readBack` of it: every value but a bigint outside
the range of the type it is written with, and every map whose keys stay distinct,
comes back as itself up to normalisation.
-/

namespace FlutterEngine.Ohos.StandardMessageCodec

open FlutterEngine.Std LittleEndian FlutterEngine.Std.Ieee754
  FlutterEngine.Std.Ieee754.Binary64 ByteBuffer WriteBuffer Value

/-! ## What comes back -/

/-- A bigint written and read: the number bounds its comparison uses let 2^63 pass as
a 64-bit integer, and a minus sign is no part of a hexadecimal literal. -/
def readBackBigInt (value : Int) : Except Thrown Value :=
  if isInt64 value then .ok (ofBigInt (BitVec.ofInt 64 value).toInt)
  else if value < 0 then .error .syntaxError
  else .ok (.bigint value)

mutual

/-- A value written and read. -/
def readBack : Value → Except Thrown Value
  | .bigint value => readBackBigInt value
  | .array value => (readBackValues value).map .array
  | .map entries => (readBackEntries entries).map fun entries => .map (setAll [] entries)
  | value => .ok value

def readBackValues : List Value → Except Thrown (List Value)
  | [] => .ok []
  | value :: rest => do
      let value ← readBack value
      let rest ← readBackValues rest
      return value :: rest

def readBackEntries : List (Value × Value) → Except Thrown (List (Value × Value))
  | [] => .ok []
  | (key, value) :: rest => do
      let key ← readBack key
      let value ← readBack value
      let rest ← readBackEntries rest
      return (key, value) :: rest

end

/-! ## Writing values only appends -/

section Append

variable (utf8 : NativeUtf8)

theorem prefix_writeNumber (stream : WriteBuffer) (value : Binary64) :
    ∃ type, (writeType stream type).buffer <+: (writeNumber stream value).buffer := by
  unfold writeNumber
  split
  · split
    · exact ⟨_, prefix_write _ _⟩
    split
    · exact ⟨_, prefix_write _ _⟩
    · exact ⟨_, prefix_writeDouble _ _⟩
  · exact ⟨_, prefix_writeDouble _ _⟩

theorem prefix_writeBigInt (stream : WriteBuffer) (value : Int) :
    ∃ type, (writeType stream type).buffer <+: (writeBigInt stream value).buffer := by
  unfold writeBigInt
  split
  · exact ⟨_, prefix_write _ _⟩
  · exact ⟨_, prefix_writeBytes _ _⟩

/-- What is written after a type is written after the stream, and is not empty. -/
theorem grows_of_type {stream later : WriteBuffer}
    (typed : ∃ type, (writeType stream type).buffer <+: later.buffer) :
    stream.buffer <+: later.buffer ∧ stream.byteOffset < later.byteOffset := by
  obtain ⟨type, after⟩ := typed
  refine ⟨(prefix_write _ _).trans after, ?_⟩
  have longer := after.length_le
  rw [length_buffer, length_buffer] at longer
  exact longer

mutual

theorem prefix_writeValue : ∀ value stream,
    ∃ type, (writeType stream type).buffer <+: (writeValue utf8 stream value).buffer
  | .null, _ => ⟨.null, List.prefix_rfl⟩
  | .boolean value, _ => ⟨if value then .true else .false, List.prefix_rfl⟩
  | .number value, stream => prefix_writeNumber stream value
  | .bigint value, stream => prefix_writeBigInt stream value
  | .string _, _ => ⟨.string, prefix_writeBytes _ _⟩
  | .uint8Array value, _ => ⟨.uint8Array, prefix_writeBytes _ value⟩
  | .int32Array value, stream => ⟨.int32Array, prefix_writeItems stream _ 4 value⟩
  | .bigInt64Array value, stream => ⟨.int64Array, prefix_writeItems stream _ 8 value⟩
  | .float32Array value, stream => ⟨.float32Array, prefix_writeItems stream _ 4 value⟩
  | .float64Array value, stream => ⟨.float64Array, prefix_writeItems stream _ 8 value⟩
  | .array value, _ => ⟨.list, (prefix_writeSize _ value.length).trans (prefix_writeValues value _)⟩
  | .map entries, _ =>
    ⟨.map, (prefix_writeSize _ entries.length).trans (prefix_writeEntries entries _)⟩

theorem prefix_writeValues : ∀ values stream,
    stream.buffer <+: (writeValues utf8 stream values).buffer
  | [], _ => List.prefix_rfl
  | value :: rest, stream =>
    (grows_of_type (prefix_writeValue value stream)).1.trans (prefix_writeValues rest _)

theorem prefix_writeEntries : ∀ entries stream,
    stream.buffer <+: (writeEntries utf8 stream entries).buffer
  | [], _ => List.prefix_rfl
  | (key, value) :: rest, stream =>
    ((grows_of_type (prefix_writeValue key stream)).1.trans
      (grows_of_type (prefix_writeValue value _)).1).trans (prefix_writeEntries rest _)

end

/-- A list or a map leaves its items less room than it has itself. -/
theorem fuel_of_type (type : MessageType) (size : Nat) {fuel : Nat} {stream later : WriteBuffer}
    (fueled : later.byteOffset ≤ fuel + 1 + stream.byteOffset) :
    later.byteOffset ≤ fuel + (writeSize (writeType stream type) size).byteOffset := by
  have grown := (grows_of_type ⟨type, prefix_writeSize (writeType stream type) size⟩).2
  omega

end Append

/-! ## The values supported -/

section Supported

variable (utf8 : NativeUtf8)

mutual

/-- Numbers other than NaN and negative zero; every length fits in 32 bits; a map has
no key twice. -/
def Supported : Value → Prop
  | .null | .boolean _ => True
  | .number value => isNaN infinity64 value = false ∧ value ≠ negativeZero
  | .bigint value => (toString16 value).length < 2 ^ 32
  | .string value => (StringUtils.stringToArrayBuffer utf8 value).length < 2 ^ 32
  | .uint8Array value => value.length < 2 ^ 32
  | .int32Array value | .float32Array value => value.length < 2 ^ 32
  | .bigInt64Array value | .float64Array value => value.length < 2 ^ 32
  | .array value => value.length < 2 ^ 32 ∧ SupportedValues value
  | .map entries => entries.length < 2 ^ 32 ∧ Distinct entries ∧ SupportedEntries entries

def SupportedValues : List Value → Prop
  | [] => True
  | value :: rest => Supported value ∧ SupportedValues rest

def SupportedEntries : List (Value × Value) → Prop
  | [] => True
  | (key, value) :: rest => Supported key ∧ Supported value ∧ SupportedEntries rest

end

end Supported

/-! ## Reading back -/

variable {utf8 : NativeUtf8} {stream : WriteBuffer} {bytes : List Byte}

theorem readValue_type {type : MessageType} (fuel : Nat)
    (within : (writeType stream type).buffer <+: bytes) :
    readValue utf8 (fuel + 1) (readerAt bytes stream) =
      readValueOfType utf8 (readValue utf8 fuel) type.toByte
        (readerAt bytes (writeType stream type)) := by
  rw [readValue, readUint8_at within]
  rfl

theorem readValue_int64 {value : Int} (fuel : Nat)
    (within : ((writeType stream .int64).writeBigInt64 value).buffer <+: bytes) :
    readValue utf8 (fuel + 1) (readerAt bytes stream) =
      .ok (ofBigInt (BitVec.ofInt 64 value).toInt,
        readerAt bytes ((writeType stream .int64).writeBigInt64 value)) := by
  have read : (readerAt bytes (writeType stream .int64)).readInt64 = _ := readNumber_at 8 within
  rw [readValue_type fuel ((prefix_write _ _).trans within)]
  simp only [readValueOfType, MessageType.ofByte?_toByte, read]
  rfl

theorem readValue_double {value : Binary64} (fuel : Nat)
    (within : (writeDouble stream value).buffer <+: bytes) :
    readValue utf8 (fuel + 1) (readerAt bytes stream) =
      .ok (.number value, readerAt bytes (writeDouble stream value)) := by
  have read : (readAlignment (readerAt bytes (writeType stream .float64)) 8).readFloat64 =
      .ok (value, readerAt bytes (writeDouble stream value)) := by
    rw [readAlignment_at]
    exact readNumber_at 8 within
  rw [readValue_type fuel ((prefix_writeDouble stream value).trans within)]
  simp only [readValueOfType, MessageType.ofByte?_toByte, read]
  rfl

/-- Each class of numbers reads back as the number. -/
theorem readValue_number {value : Binary64} (fuel : Nat) (signed : value ≠ negativeZero)
    (within : (writeNumber stream value).buffer <+: bytes) :
    readValue utf8 (fuel + 1) (readerAt bytes stream) =
      .ok (.number value, readerAt bytes (writeNumber stream value)) := by
  unfold writeNumber at within ⊢
  cases integral : toInt? value with
  | none =>
    rw [integral] at within
    exact readValue_double fuel within
  | some integer =>
    rw [integral] at within
    dsimp only at within ⊢
    by_cases narrow : -0x7fffffff - 1 ≤ integer ∧ integer ≤ 0x7fffffff
    · rw [if_pos narrow] at within ⊢
      have safe : IsSafe integer := by
        unfold IsSafe maxSafeInteger
        omega
      have same : (BitVec.ofInt 32 integer).toInt = integer := by
        rw [BitVec.toInt_ofInt]
        exact Int.bmod_eq_of_le (by omega) (by omega)
      have read : (readerAt bytes (writeType stream .int32)).readInt32 = _ := readNumber_at 4 within
      rw [readValue_type fuel ((prefix_write _ _).trans within)]
      simp only [readValueOfType, MessageType.ofByte?_toByte, read]
      change Except.ok (Value.number (ofInt (BitVec.ofInt 32 integer).toInt), _) = _
      rw [same, ofInt_of_toInt? value integral safe signed]
      rfl
    rw [if_neg narrow] at within ⊢
    by_cases safe : IsSafe integer
    · rw [if_pos safe] at within ⊢
      have same : (BitVec.ofInt 64 integer).toInt = integer := by
        unfold IsSafe maxSafeInteger at safe
        rw [BitVec.toInt_ofInt]
        exact Int.bmod_eq_of_le (by omega) (by omega)
      rw [readValue_int64 fuel within, same, ofBigInt, if_pos safe,
        ofInt_of_toInt? value integral safe signed]
    · rw [if_neg safe] at within ⊢
      exact readValue_double fuel within

theorem readValue_bigint {value : Int} (fuel : Nat) (bounded : (toString16 value).length < 2 ^ 32)
    (within : (writeBigInt stream value).buffer <+: bytes) :
    readValue utf8 (fuel + 1) (readerAt bytes stream) =
      (readBackBigInt value).map (·, readerAt bytes (writeBigInt stream value)) := by
  unfold writeBigInt at within ⊢
  unfold readBackBigInt
  by_cases narrow : isInt64 value = true
  · rw [if_pos narrow] at within ⊢
    rw [if_pos narrow]
    exact readValue_int64 fuel within
  rw [if_neg narrow] at within ⊢
  rw [if_neg narrow, readValue_type fuel ((prefix_writeBytes _ _).trans within)]
  simp only [readValueOfType, MessageType.ofByte?_toByte, readBytes_at bounded within]
  by_cases negative : value < 0
  · rw [if_pos negative]
    change (bigIntOfHex (toString16 value) >>= _) = _
    rw [bigIntOfHex_negative negative]
    rfl
  · have nonzero : value ≠ 0 := by
      rintro rfl
      exact narrow (by decide)
    rw [if_neg negative]
    change (bigIntOfHex (toString16 value) >>= _) = _
    rw [bigIntOfHex_toString16 (by omega)]
    rfl

mutual

/-- A value reads back, with fuel for as many bytes as it takes. -/
theorem readValue_at : ∀ value stream fuel, Supported utf8 value →
    (writeValue utf8 stream value).buffer <+: bytes →
    (writeValue utf8 stream value).byteOffset ≤ fuel + 1 + stream.byteOffset →
    readValue utf8 (fuel + 1) (readerAt bytes stream) =
      (readBack value).map (·, readerAt bytes (writeValue utf8 stream value))
  | .null, stream, fuel, _, within, _ => by
      rw [readValue_type fuel within]
      rfl
  | .boolean value, stream, fuel, _, within, _ => by
      rw [readValue_type fuel within]
      cases value <;> rfl
  | .number value, stream, fuel, supported, within, _ => readValue_number fuel supported.2 within
  | .bigint value, stream, fuel, supported, within, _ => readValue_bigint fuel supported within
  | .string value, stream, fuel, supported, within, _ => by
      rw [readValue_type fuel ((prefix_writeBytes _ _).trans within)]
      simp only [readValueOfType, MessageType.ofByte?_toByte, readBytes_at supported within]
      have text := StringUtils.uint8ArrayToString_stringToArrayBuffer utf8 value
      exact congrArg (fun text => Except.ok (Value.string text, _)) text
  | .uint8Array value, stream, fuel, supported, within, _ => by
      rw [readValue_type fuel ((prefix_writeBytes _ _).trans within)]
      simp only [readValueOfType, MessageType.ofByte?_toByte, readBytes_at supported within]
      rfl
  | .int32Array value, stream, fuel, supported, within, _ => by
      have read := readItems_at .int32Array 4 value supported within
      rw [readValue_type fuel ((prefix_writeItems stream _ 4 value).trans within)]
      simp only [readValueOfType, MessageType.ofByte?_toByte, read]
      rfl
  | .bigInt64Array value, stream, fuel, supported, within, _ => by
      have read := readItems_at .int64Array 8 value supported within
      rw [readValue_type fuel ((prefix_writeItems stream _ 8 value).trans within)]
      simp only [readValueOfType, MessageType.ofByte?_toByte, read]
      rfl
  | .float32Array value, stream, fuel, supported, within, _ => by
      have read := readItems_at .float32Array 4 value supported within
      rw [readValue_type fuel ((prefix_writeItems stream _ 4 value).trans within)]
      simp only [readValueOfType, MessageType.ofByte?_toByte, read]
      rfl
  | .float64Array value, stream, fuel, supported, within, _ => by
      have read := readItems_at .float64Array 8 value supported within
      rw [readValue_type fuel ((prefix_writeItems stream _ 8 value).trans within)]
      simp only [readValueOfType, MessageType.ofByte?_toByte, read]
      rfl
  | .array value, stream, fuel, supported, within, fueled => by
      have items := prefix_writeValues utf8 value (writeSize (writeType stream .list) value.length)
      have sized := items.trans within
      rw [readValue_type fuel ((prefix_writeSize _ _).trans sized)]
      simp only [readValueOfType, MessageType.ofByte?_toByte, readSize_at supported.1 sized]
      change (readValues (readValue utf8 fuel) value.length (readerAt bytes _) >>= _) = _
      rw [readValues_at value _ fuel supported.2 within (fuel_of_type _ _ fueled), readBack]
      cases readBackValues value <;> rfl
  | .map entries, stream, fuel, supported, within, fueled => by
      have items := prefix_writeEntries utf8 entries (writeSize (writeType stream .map) entries.length)
      have sized := items.trans within
      rw [readValue_type fuel ((prefix_writeSize _ _).trans sized)]
      simp only [readValueOfType, MessageType.ofByte?_toByte, readSize_at supported.1 sized]
      change (readEntries (readValue utf8 fuel) entries.length [] (readerAt bytes _) >>= _) = _
      rw [readEntries_at entries _ [] fuel supported.2.2 within (fuel_of_type _ _ fueled), readBack]
      cases readBackEntries entries <;> rfl

theorem readValues_at : ∀ values stream fuel, SupportedValues utf8 values →
    (writeValues utf8 stream values).buffer <+: bytes →
    (writeValues utf8 stream values).byteOffset ≤ fuel + stream.byteOffset →
    readValues (readValue utf8 fuel) values.length (readerAt bytes stream) =
      (readBackValues values).map (·, readerAt bytes (writeValues utf8 stream values))
  | [], _, _, _, _, _ => rfl
  | value :: rest, stream, fuel, supported, within, fueled => by
      have grows := (grows_of_type (prefix_writeValue utf8 value stream)).2
      have later := prefix_writeValues utf8 rest (writeValue utf8 stream value)
      have longer := later.length_le
      rw [length_buffer, length_buffer] at longer
      change (writeValues utf8 (writeValue utf8 stream value) rest).byteOffset ≤ _ at fueled
      obtain ⟨fuel, rfl⟩ : ∃ less, fuel = less + 1 := ⟨fuel - 1, by omega⟩
      have first := readValue_at value stream fuel supported.1 (later.trans within) (by omega)
      have others := readValues_at rest (writeValue utf8 stream value) (fuel + 1) supported.2 within
        (by omega)
      rw [List.length_cons, readValues, first, readBackValues]
      cases readBack value with
      | error thrown => rfl
      | ok read =>
        change (readValues _ _ (readerAt bytes (writeValue utf8 stream value)) >>= _) = _
        rw [others]
        cases readBackValues rest <;> rfl

theorem readEntries_at : ∀ entries stream earlier fuel, SupportedEntries utf8 entries →
    (writeEntries utf8 stream entries).buffer <+: bytes →
    (writeEntries utf8 stream entries).byteOffset ≤ fuel + stream.byteOffset →
    readEntries (readValue utf8 fuel) entries.length earlier (readerAt bytes stream) =
      (readBackEntries entries).map fun entries' =>
        (setAll earlier entries', readerAt bytes (writeEntries utf8 stream entries))
  | [], _, _, _, _, _, _ => rfl
  | (key, value) :: rest, stream, earlier, fuel, supported, within, fueled => by
      have keyGrows := (grows_of_type (prefix_writeValue utf8 key stream)).2
      have valueGrows := grows_of_type (prefix_writeValue utf8 value (writeValue utf8 stream key))
      have later := prefix_writeEntries utf8 rest
        (writeValue utf8 (writeValue utf8 stream key) value)
      have longer := later.length_le
      rw [length_buffer, length_buffer] at longer
      change (writeEntries utf8 (writeValue utf8 (writeValue utf8 stream key) value)
        rest).byteOffset ≤ _ at fueled
      obtain ⟨fuel, rfl⟩ : ∃ less, fuel = less + 1 := ⟨fuel - 1, by omega⟩
      have keyRead := readValue_at key stream fuel supported.1
        (valueGrows.1.trans (later.trans within)) (by omega)
      have valueRead := readValue_at value (writeValue utf8 stream key) fuel supported.2.1
        (later.trans within) (by omega)
      have others := fun earlier => readEntries_at rest
        (writeValue utf8 (writeValue utf8 stream key) value) earlier (fuel + 1) supported.2.2 within
        (by omega)
      rw [List.length_cons, readEntries, keyRead, readBackEntries]
      cases readBack key with
      | error thrown => rfl
      | ok keyBack =>
        change (readValue utf8 (fuel + 1) (readerAt bytes (writeValue utf8 stream key)) >>= _) = _
        rw [valueRead]
        cases readBack value with
        | error thrown => rfl
        | ok valueBack =>
          change readEntries _ _ _ (readerAt bytes _) = _
          rw [others]
          cases readBackEntries rest <;> rfl

end

end FlutterEngine.Ohos.StandardMessageCodec
