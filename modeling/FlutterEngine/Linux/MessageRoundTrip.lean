import FlutterEngine.Linux.StandardMessageCodec

/-!
# Messages of the Linux embedding read back

Each writing function of the codec only appends, and each reading function, started
where its writing counterpart was, ends where that ended: a value that can be sent
reads back as itself, whatever was written before it.
-/

namespace FlutterEngine.Linux.FlStandardMessageCodec

open FlutterEngine.Std LittleEndian

/-! ## Writing only appends -/

/-- A size that fits in 32 bits is passed whole. -/
theorem toNat_size {size : Nat} (bounded : size < 2 ^ 32) : (BitVec.ofNat 32 size).toNat = size := by
  rw [BitVec.toNat_ofNat, Nat.mod_eq_of_lt bounded]

section Append

variable (buffer : GByteArray)

theorem append_of_short {data : List Byte} (short : data.length < 2 ^ 32) :
    buffer.append data = buffer ++ data := by
  rw [GByteArray.append, toNat_size short, List.take_length]

theorem prefix_append (data : List Byte) : buffer <+: buffer.append data := List.prefix_append _ _

@[simp] theorem writeUint8_eq (value : Byte) : writeUint8 buffer value = buffer ++ [value] := rfl

theorem writeAlign_eq (align : Nat) :
    writeAlign buffer align = buffer ++ List.replicate (padding align buffer.length) 0 := by
  have zeros : ∀ count,
      Nat.repeat (writeUint8 · 0) count buffer = buffer ++ List.replicate count 0 := by
    intro count
    induction count with
    | zero => simp [Nat.repeat]
    | succ count ih => rw [Nat.repeat, ih, writeUint8_eq, List.append_assoc, List.replicate_succ']
  exact zeros _

theorem prefix_writeAlign (align : Nat) : buffer <+: writeAlign buffer align := by
  rw [writeAlign_eq]
  exact List.prefix_append _ _

theorem prefix_writeSize (size : BitVec 32) : buffer <+: writeSize buffer size := by
  unfold writeSize
  split
  · exact prefix_append _ _
  split
  · exact (prefix_append _ _).trans (prefix_append _ _)
  · exact (prefix_append _ _).trans (prefix_append _ _)

theorem prefix_writeInt (value : BitVec 64) :
    ∃ type, writeType buffer type <+: writeInt buffer value := by
  unfold writeInt
  split
  · exact ⟨.int32, prefix_append _ _⟩
  · exact ⟨.int64, prefix_append _ _⟩

theorem prefix_writeBytes (type : ValueType) (bytes : List Byte) :
    writeType buffer type <+: writeBytes buffer type bytes :=
  (prefix_writeSize _ _).trans (prefix_append _ bytes)

theorem prefix_writeItems (type : ValueType) (size : Nat) (items : List (BitVec (8 * size))) :
    writeType buffer type <+: writeItems buffer type size items :=
  ((prefix_writeSize _ _).trans (prefix_writeAlign _ size)).trans (prefix_append _ _)

/-- What is written after a type is written after the buffer, and is not empty. -/
theorem grows_of_type {buffer written : GByteArray}
    (typed : ∃ type, writeType buffer type <+: written) :
    buffer <+: written ∧ buffer.length < written.length := by
  obtain ⟨type, after⟩ := typed
  refine ⟨(prefix_append _ _).trans after, ?_⟩
  have longer := after.length_le
  rw [writeType, writeUint8_eq, List.length_append, List.length_singleton] at longer
  exact longer

/-- A list or a map leaves its items less room than it has itself. -/
theorem fuel_of_type (type : ValueType) (length : Nat) {fuel : Nat} {buffer written : GByteArray}
    (fueled : written.length ≤ fuel + 1 + buffer.length) :
    written.length ≤ fuel + (writeLength (writeType buffer type) length).length := by
  have grown := (grows_of_type ⟨type, prefix_writeSize (writeType buffer type)
    (BitVec.ofNat 32 length)⟩).2
  change buffer.length < (writeLength (writeType buffer type) length).length at grown
  omega

theorem writeValues_cons {buffer written : GByteArray} {value : FlValue} {rest : List FlValue} :
    writeValues buffer (value :: rest) = .ok written ↔
      ∃ first, writeValue buffer value = .ok first ∧ writeValues first rest = .ok written := by
  rw [writeValues]
  cases writeValue buffer value with
  | error thrown => exact iff_of_false (by rintro ⟨⟩) (by rintro ⟨_, ⟨⟩, _⟩)
  | ok first =>
    constructor
    · intro others
      exact ⟨first, rfl, others⟩
    · rintro ⟨_, ⟨⟩, others⟩
      exact others

theorem writeEntries_cons {buffer written : GByteArray} {key value : FlValue}
    {rest : List (FlValue × FlValue)} :
    writeEntries buffer ((key, value) :: rest) = .ok written ↔
      ∃ keyed first, writeValue buffer key = .ok keyed ∧ writeValue keyed value = .ok first ∧
        writeEntries first rest = .ok written := by
  rw [writeEntries]
  cases writeValue buffer key with
  | error thrown => exact iff_of_false (by rintro ⟨⟩) (by rintro ⟨_, _, ⟨⟩, _⟩)
  | ok keyed =>
    change (writeValue keyed value >>= _) = _ ↔ _
    cases second : writeValue keyed value with
    | error thrown =>
      refine iff_of_false (by rintro ⟨⟩) ?_
      rintro ⟨_, _, ⟨⟩, wrong, _⟩
      cases second.symm.trans wrong
    | ok first =>
      constructor
      · intro others
        exact ⟨keyed, first, rfl, second, others⟩
      · rintro ⟨_, _, ⟨⟩, same, others⟩
        cases second.symm.trans same
        exact others

mutual

theorem prefix_writeValue : ∀ value (buffer written : GByteArray),
    writeValue buffer value = .ok written → ∃ type, writeType buffer type <+: written
  | .null, _, _, rfl => ⟨.null, List.prefix_rfl⟩
  | .bool value, _, _, rfl => ⟨if value then .true else .false, List.prefix_rfl⟩
  | .int value, buffer, _, rfl => prefix_writeInt buffer value
  | .float _, _, _, rfl => ⟨.float64, (prefix_writeAlign _ 8).trans (prefix_append _ _)⟩
  | .string value, buffer, _, rfl => ⟨.string, prefix_writeBytes buffer _ value.bytes⟩
  | .uint8List values, buffer, _, rfl => ⟨.uint8List, prefix_writeBytes buffer _ values⟩
  | .int32List values, buffer, _, rfl => ⟨.int32List, prefix_writeItems buffer _ 4 values⟩
  | .int64List values, buffer, _, rfl => ⟨.int64List, prefix_writeItems buffer _ 8 values⟩
  | .float32List values, buffer, _, rfl => ⟨.float32List, prefix_writeItems buffer _ 4 values⟩
  | .floatList values, buffer, _, rfl => ⟨.float64List, prefix_writeItems buffer _ 8 values⟩
  | .list values, _, _, writes =>
    ⟨.list, (prefix_writeSize _ _).trans (prefix_writeValues values _ _ writes)⟩
  | .map entries, _, _, writes =>
    ⟨.map, (prefix_writeSize _ _).trans (prefix_writeEntries entries _ _ writes)⟩

theorem prefix_writeValues : ∀ values (buffer written : GByteArray),
    writeValues buffer values = .ok written → buffer <+: written
  | [], _, _, rfl => List.prefix_rfl
  | value :: rest, _, _, writes => by
      obtain ⟨first, valueWrites, restWrites⟩ := writeValues_cons.mp writes
      exact (grows_of_type (prefix_writeValue value _ _ valueWrites)).1.trans
        (prefix_writeValues rest _ _ restWrites)

theorem prefix_writeEntries : ∀ entries (buffer written : GByteArray),
    writeEntries buffer entries = .ok written → buffer <+: written
  | [], _, _, rfl => List.prefix_rfl
  | (key, value) :: rest, _, _, writes => by
      obtain ⟨keyed, first, keyWrites, valueWrites, restWrites⟩ := writeEntries_cons.mp writes
      exact ((grows_of_type (prefix_writeValue key _ _ keyWrites)).1.trans
        (grows_of_type (prefix_writeValue value _ _ valueWrites)).1).trans
          (prefix_writeEntries rest _ _ restWrites)

end

end Append

/-! ## Reading -/

section Read

variable {stream bytes : List Byte}
variable {data : List Byte} {type : ValueType}

theorem getData_at (within : stream ++ data <+: bytes) :
    getData bytes stream.length data.length = data := by
  obtain ⟨rest, rfl⟩ := within
  rw [getData, List.append_assoc, List.drop_left, List.take_left]

theorem checkSize_at (within : stream ++ data <+: bytes) :
    checkSize bytes stream.length data.length = .ok () := by
  have fits := within.length_le
  rw [List.length_append] at fits
  exact if_neg (Nat.not_lt.mpr fits)

theorem readNumber_at (size : Nat) {value : BitVec (8 * size)}
    (within : stream ++ toBytes size value.toNat <+: bytes) :
    readNumber bytes stream.length size =
      .ok (value, (stream ++ toBytes size value.toNat).length) := by
  have checked := checkSize_at within
  have data := getData_at within
  rw [length_toBytes] at checked data
  rw [readNumber, checked, data, List.length_append, length_toBytes]
  exact congrArg (fun value => Except.ok (value, _)) (ofBytes_toBytes_toNat value)

theorem readUint8_at {value : Byte} (within : writeUint8 stream value <+: bytes) :
    readUint8 bytes stream.length = .ok (value, (writeUint8 stream value).length) := by
  have single : toBytes 1 value.toNat = [value] := by simp [toBytes]
  rw [writeUint8_eq, ← single] at within ⊢
  exact readNumber_at 1 within

theorem readAlign_at {align : Nat} (within : writeAlign stream align <+: bytes) :
    readAlign bytes stream.length align = .ok (writeAlign stream align).length := by
  rw [writeAlign_eq] at within ⊢
  rw [readAlign, List.length_append, List.length_replicate]
  by_cases aligned : stream.length % align = 0
  · rw [if_pos aligned, padding, if_pos aligned, Nat.add_zero]
  · have checked := checkSize_at within
    rw [List.length_replicate, padding, if_neg aligned] at checked
    rw [if_neg aligned, padding, if_neg aligned]
    dsimp only
    rw [checked]
    rfl

/-- Only a size of at least 2^32 is not written whole. -/
theorem readSize_at {size : Nat} (bounded : size < 2 ^ 32)
    (within : writeLength stream size <+: bytes) :
    readSize bytes stream.length =
      .ok (BitVec.ofNat 32 size, (writeLength stream size).length) := by
  have whole := toNat_size bounded
  unfold writeLength writeSize at within ⊢
  rw [whole] at within ⊢
  by_cases small : size < 254
  · rw [if_pos small] at within ⊢
    have value : ((BitVec.ofNat 32 size).setWidth 8).setWidth 32 = BitVec.ofNat 32 size := by
      apply BitVec.eq_of_toNat_eq
      rw [BitVec.toNat_setWidth, BitVec.toNat_setWidth, whole]
      omega
    have untagged : ∀ tag : Byte, 254 ≤ tag.toNat → (BitVec.ofNat 32 size).setWidth 8 ≠ tag := by
      rintro _ large rfl
      rw [BitVec.toNat_setWidth, whole] at large
      omega
    rw [readSize, readUint8_at within]
    change (if _ then _ else if _ then _ else _) = _
    rw [if_neg (untagged 255 (by decide)), if_neg (untagged 254 (by decide)), value]
    rfl
  rw [if_neg small] at within ⊢
  by_cases medium : size ≤ 0xffff
  · rw [if_pos medium] at within ⊢
    have value : ((BitVec.ofNat 32 size).setWidth 16).setWidth 32 = BitVec.ofNat 32 size := by
      apply BitVec.eq_of_toNat_eq
      rw [BitVec.toNat_setWidth, BitVec.toNat_setWidth, whole]
      omega
    have read : readUint16 bytes (writeUint8 stream 254).length = _ :=
      readNumber_at 2 within
    rw [readSize, readUint8_at ((prefix_append _ _).trans within)]
    change (readUint16 bytes (writeUint8 stream 254).length >>= _) = _
    rw [read]
    exact congrArg (fun length => Except.ok (length, _)) value
  · rw [if_neg medium] at within ⊢
    rw [readSize, readUint8_at ((prefix_append _ _).trans within)]
    exact readNumber_at 4 within

theorem readBytes_at {written : List Byte} (bounded : written.length < 2 ^ 32)
    (within : writeBytes stream type written <+: bytes) :
    readBytes bytes (writeType stream type).length =
      .ok (written, (writeBytes stream type written).length) := by
  have size := readSize_at bounded ((prefix_append _ written).trans within)
  rw [writeBytes, append_of_short _ bounded] at within ⊢
  rw [readBytes, size]
  change (checkSize bytes _ (BitVec.ofNat 32 written.length).toNat >>= _) = _
  rw [toNat_size bounded, checkSize_at within, getData_at within, List.length_append]
  rfl

theorem readItems_at (size : Nat) {items : List (BitVec (8 * size))}
    (bounded : items.length < 2 ^ 32) (short : size * items.length < 2 ^ 32)
    (within : writeItems stream type size items <+: bytes) :
    readItems bytes (writeType stream type).length size =
      .ok (items, (writeItems stream type size items).length) := by
  have aligned := (prefix_append _ (ofElements items)).trans within
  have length := readSize_at bounded ((prefix_writeAlign _ size).trans aligned)
  have sized : (ofElements items).length = size * items.length := by
    rw [length_ofElements, Nat.mul_comm]
  rw [writeItems, append_of_short _ (by rw [sized]; exact short)] at within ⊢
  have checked := checkSize_at within
  have data := getData_at within
  rw [sized] at checked data
  rw [readItems, length]
  change (readAlign bytes _ size >>= _) = _
  rw [readAlign_at aligned]
  change (checkSize bytes _ (size * (BitVec.ofNat 32 items.length).toNat) >>= _) = _
  rw [toNat_size bounded, checked, data, toElements_ofElements, List.length_append, sized]
  rfl

end Read

/-! ## The values that can be sent -/

mutual

/-- Every size fits in 32 bits, also in bytes; a map has no key twice; no value is
custom. -/
def Sendable : FlValue → Prop
  | .null | .bool _ | .int _ | .float _ => True
  | .string value => value.bytes.length < 2 ^ 32
  | .uint8List values => values.length < 2 ^ 32
  | .int32List values | .float32List values => 4 * values.length < 2 ^ 32
  | .int64List values | .floatList values => 8 * values.length < 2 ^ 32
  | .list values => values.length < 2 ^ 32 ∧ SendableValues values
  | .map entries => entries.length < 2 ^ 32 ∧ FlValue.Distinct entries ∧ SendableEntries entries
  | .custom _ => False

def SendableValues : List FlValue → Prop
  | [] => True
  | value :: rest => Sendable value ∧ SendableValues rest

def SendableEntries : List (FlValue × FlValue) → Prop
  | [] => True
  | (key, value) :: rest => Sendable key ∧ Sendable value ∧ SendableEntries rest

end

/-! ## Reading back -/

variable {stream bytes : List Byte}
variable {type : ValueType} {value : BitVec 64}

theorem readValue_type (fuel : Nat) (within : writeType stream type <+: bytes) :
    readValue bytes (fuel + 1) stream.length =
      readValueOfType (readValue bytes fuel) bytes type.toByte (writeType stream type).length := by
  rw [readValue, readUint8_at within]
  rfl

/-- An integer comes back whole from the narrower type it fits in. -/
theorem readValue_int (fuel : Nat) (within : writeInt stream value <+: bytes) :
    readValue bytes (fuel + 1) stream.length =
      .ok (.int value, (writeInt stream value).length) := by
  unfold writeInt at within ⊢
  by_cases narrow : -2 ^ 31 ≤ value.toInt ∧ value.toInt ≤ 2 ^ 31 - 1
  · rw [if_pos narrow] at within ⊢
    have read := readNumber_at 4 within
    have whole : (value.setWidth 32).signExtend 64 = value := by
      apply BitVec.eq_of_toInt_eq
      rw [BitVec.toInt_signExtend, BitVec.toInt_setWidth]
      have low : (value.toNat : Int).bmod (2 ^ 32) = value.toInt := by
        rw [← Int.bmod_bmod_of_dvd, ← BitVec.toInt_eq_toNat_bmod]
        · exact Int.bmod_eq_of_le (by omega) (by omega)
        · decide
      rw [low]
      change value.toInt.bmod (2 ^ 32) = value.toInt
      exact Int.bmod_eq_of_le (by omega) (by omega)
    rw [readValue_type fuel ((prefix_append _ _).trans within)]
    simp only [readValueOfType, ValueType.ofByte?_toByte, readInt32Value]
    rw [read]
    exact congrArg (fun value => Except.ok (FlValue.int value, _)) whole
  · rw [if_neg narrow] at within ⊢
    have read := readNumber_at 8 within
    rw [readValue_type fuel ((prefix_append _ _).trans within)]
    simp only [readValueOfType, ValueType.ofByte?_toByte, readInt64Value]
    rw [read]
    rfl

theorem readValue_float (fuel : Nat)
    (within : writeFloat64 (writeAlign (writeType stream .float64) 8) value <+: bytes) :
    readValue bytes (fuel + 1) stream.length =
      .ok (.float value,
        (writeFloat64 (writeAlign (writeType stream .float64) 8) value).length) := by
  have aligned := (prefix_append _ _).trans within
  have read := readNumber_at 8 within
  rw [readValue_type fuel ((prefix_writeAlign _ 8).trans aligned)]
  simp only [readValueOfType, ValueType.ofByte?_toByte, readFloat64Value, readAlign_at aligned]
  change (readNumber bytes _ 8 >>= _) = _
  rw [read]
  rfl

/-- A list of numbers comes back, of whichever type it is. -/
theorem readValue_items {size : Nat} {items : List (BitVec (8 * size))}
    {build : List (BitVec (8 * size)) → FlValue} (fuel : Nat) (wide : 0 < size)
    (short : size * items.length < 2 ^ 32)
    (reads : ∀ offset, readValueOfType (readValue bytes fuel) bytes type.toByte offset =
      readItems bytes offset size >>= fun read => .ok (build read.1, read.2))
    (within : writeItems stream type size items <+: bytes) :
    readValue bytes (fuel + 1) stream.length =
      .ok (build items, (writeItems stream type size items).length) := by
  have bounded : items.length < 2 ^ 32 :=
    Nat.lt_of_le_of_lt (Nat.le_mul_of_pos_left items.length wide) short
  rw [readValue_type fuel ((prefix_writeItems stream type size items).trans within), reads,
    readItems_at size bounded short within]
  rfl

mutual

/-- A value that can be sent is written, and reads back with fuel for as many bytes as
it takes. -/
theorem readValue_at : ∀ value (stream written : List Byte) fuel, Sendable value →
    writeValue stream value = .ok written → written <+: bytes →
    written.length ≤ fuel + 1 + stream.length →
    readValue bytes (fuel + 1) stream.length = .ok (value, written.length)
  | .null, _, _, fuel, _, rfl, within, _ => by
      rw [readValue_type fuel within]
      rfl
  | .bool value, _, _, fuel, _, rfl, within, _ => by
      rw [readValue_type fuel within]
      cases value <;> rfl
  | .int value, _, _, fuel, _, rfl, within, _ => readValue_int fuel within
  | .float value, _, _, fuel, _, rfl, within, _ => readValue_float fuel within
  | .string value, stream, _, fuel, sendable, rfl, within, _ => by
      have read := readBytes_at sendable within
      rw [readValue_type fuel ((prefix_writeBytes stream _ value.bytes).trans within)]
      simp only [readValueOfType, ValueType.ofByte?_toByte]
      rw [read]
      exact congrArg (fun text => Except.ok (FlValue.string text, _)) (CString.ofSized_bytes value)
  | .uint8List values, stream, _, fuel, sendable, rfl, within, _ => by
      have read := readBytes_at sendable within
      rw [readValue_type fuel ((prefix_writeBytes stream _ values).trans within)]
      simp only [readValueOfType, ValueType.ofByte?_toByte]
      rw [read]
      rfl
  | .int32List _, _, _, fuel, sendable, rfl, within, _ =>
    readValue_items fuel (by decide) sendable (fun _ => rfl) within
  | .int64List _, _, _, fuel, sendable, rfl, within, _ =>
    readValue_items fuel (by decide) sendable (fun _ => rfl) within
  | .float32List _, _, _, fuel, sendable, rfl, within, _ =>
    readValue_items fuel (by decide) sendable (fun _ => rfl) within
  | .floatList _, _, _, fuel, sendable, rfl, within, _ =>
    readValue_items fuel (by decide) sendable (fun _ => rfl) within
  | .list values, stream, written, fuel, sendable, writes, within, fueled => by
      have sized := (prefix_writeValues values _ _ writes).trans within
      have others := readValues_at values _ written fuel sendable.2 writes within
        (fuel_of_type _ _ fueled)
      rw [readValue_type fuel ((prefix_writeSize _ _).trans sized)]
      simp only [readValueOfType, ValueType.ofByte?_toByte]
      rw [readSize_at sendable.1 sized]
      change (readValues _ (BitVec.ofNat 32 values.length).toNat _ >>= _) = _
      rw [toNat_size sendable.1, others]
      rfl
  | .map entries, stream, written, fuel, sendable, writes, within, fueled => by
      have sized := (prefix_writeEntries entries _ _ writes).trans within
      have others := readEntries_at entries [] _ written fuel sendable.2.2 sendable.2.1 writes
        within (fuel_of_type _ _ fueled)
      rw [readValue_type fuel ((prefix_writeSize _ _).trans sized)]
      simp only [readValueOfType, ValueType.ofByte?_toByte]
      rw [readSize_at sendable.1 sized]
      change (readEntries _ (BitVec.ofNat 32 entries.length).toNat [] _ >>= _) = _
      rw [toNat_size sendable.1, others]
      rfl
  | .custom _, _, _, _, sendable, _, _, _ => sendable.elim

theorem readValues_at : ∀ values (stream written : List Byte) fuel, SendableValues values →
    writeValues stream values = .ok written → written <+: bytes →
    written.length ≤ fuel + stream.length →
    readValues (readValue bytes fuel) values.length stream.length = .ok (values, written.length)
  | [], _, _, _, _, rfl, _, _ => rfl
  | value :: rest, stream, written, fuel, sendable, writes, within, fueled => by
      obtain ⟨first, valueWrites, restWrites⟩ := writeValues_cons.mp writes
      have grows := (grows_of_type (prefix_writeValue value _ _ valueWrites)).2
      have later := prefix_writeValues rest _ _ restWrites
      have longer := later.length_le
      obtain ⟨fuel, rfl⟩ : ∃ less, fuel = less + 1 := ⟨fuel - 1, by omega⟩
      have head := readValue_at value stream first fuel sendable.1 valueWrites (later.trans within)
        (by omega)
      have others := readValues_at rest first written (fuel + 1) sendable.2 restWrites within
        (by omega)
      rw [List.length_cons, readValues, head]
      change (readValues _ rest.length first.length >>= _) = _
      rw [others]
      rfl

theorem readEntries_at : ∀ entries earlier (stream written : List Byte) fuel,
    SendableEntries entries → FlValue.Distinct (earlier ++ entries) →
    writeEntries stream entries = .ok written → written <+: bytes →
    written.length ≤ fuel + stream.length →
    readEntries (readValue bytes fuel) entries.length earlier stream.length =
      .ok (earlier ++ entries, written.length)
  | [], earlier, _, _, _, _, _, rfl, _, _ => by
      rw [List.append_nil]
      rfl
  | (key, value) :: rest, earlier, stream, written, fuel, sendable, distinct, writes, within,
      fueled => by
      obtain ⟨keyed, first, keyWrites, valueWrites, restWrites⟩ := writeEntries_cons.mp writes
      have keyGrows := (grows_of_type (prefix_writeValue key _ _ keyWrites)).2
      have valueGrows := grows_of_type (prefix_writeValue value _ _ valueWrites)
      have later := prefix_writeEntries rest _ _ restWrites
      have longer := later.length_le
      obtain ⟨fuel, rfl⟩ : ∃ less, fuel = less + 1 := ⟨fuel - 1, by omega⟩
      have keyRead := readValue_at key stream keyed fuel sendable.1 keyWrites
        (valueGrows.1.trans (later.trans within)) (by omega)
      have valueRead := readValue_at value keyed first fuel sendable.2.1 valueWrites
        (later.trans within) (by omega)
      have new : ∀ entry ∈ earlier, FlValue.equal entry.1 key = false := fun entry listed =>
        (List.pairwise_append.mp distinct).2.2 entry listed (key, value) List.mem_cons_self
      have others := readEntries_at rest (earlier ++ [(key, value)]) first written (fuel + 1)
        sendable.2.2 (by simpa using distinct) restWrites within (by omega)
      rw [List.length_cons, readEntries, keyRead]
      change (readValue bytes (fuel + 1) keyed.length >>= _) = _
      rw [valueRead]
      change readEntries _ rest.length (FlValue.set earlier key value) first.length = _
      rw [FlValue.set_new new, others, List.append_assoc]
      rfl

end

/-! ## Whole messages -/

/-- A value that can be sent decodes from its message to itself. -/
theorem decodeMessage_of_encodeMessage {message : FlValue} {bytes : GBytes}
    (sendable : Sendable message) (encoded : encodeMessage (some message) = .ok bytes) :
    decodeMessage bytes = .ok message := by
  have filled : 0 < bytes.length := (grows_of_type (prefix_writeValue message [] bytes encoded)).2
  have reads : readValue bytes (bytes.length + 1) 0 = .ok (message, bytes.length) :=
    readValue_at message [] bytes bytes.length sendable encoded List.prefix_rfl (by simp)
  rw [decodeMessage, if_neg (Nat.ne_of_gt filled), reads]
  exact if_pos rfl

end FlutterEngine.Linux.FlStandardMessageCodec
