import FlutterEngine.Messages.Corresponding

/-!
# The three writers append the same bytes

A shared value written to the same bytes, by the serializer of the client wrapper, by
the codec of Linux and by the codec of OHOS. Empty lists of numbers are the one place
where the first does not pad; there it is taken to be aligned.
-/

namespace FlutterEngine.Messages

open FlutterEngine.Std LittleEndian FlutterEngine.Std.Ieee754.Binary64
  FlutterEngine.Linux FlutterEngine.Ohos
open FlutterEngine.ClientWrapper (EncodableValue AlignedContent AlignedValues AlignedEntries
  AlignedVector encodedTypeForValue)
open FlutterEngine.ClientWrapper.ByteBufferStreamWriter (writeByte writeAlignment)

/-! ## Lists of numbers -/

theorem ofElements_bytes (items : List (BitVec (8 * 1))) : ofElements items = items := by
  induction items with
  | nil => rfl
  | cons item rest ih =>
    have single : toBytes 1 item.toNat = [item] := by simp [toBytes]
    rw [ofElements, List.flatMap_cons, single, ← ofElements, ih]
    rfl

theorem writeVector_bytes (items : List (BitVec (8 * 1))) (stream : List Byte) :
    ClientWrapper.writeVector 1 items stream =
      ClientWrapper.writeSize items.length stream ++ items := by
  cases items with
  | nil => simp [ClientWrapper.writeVector]
  | cons item rest =>
    change ClientWrapper.writeSize _ stream ++ ofElements (item :: rest) = _
    rw [ofElements_bytes]

variable {size : Nat} {items : List (BitVec (8 * size))}

/-- An empty list pads nothing where it is aligned. -/
theorem writeVector_aligned {stream : List Byte} (wide : 1 < size)
    (aligned : AlignedVector size items stream) :
    ClientWrapper.writeVector size items stream =
      writeAlignment (ClientWrapper.writeSize items.length stream) size ++ ofElements items := by
  unfold ClientWrapper.writeVector
  cases items with
  | nil =>
    have still : padding size (ClientWrapper.writeSize 0 stream).length = 0 :=
      (padding_eq_zero_iff (by omega)).mpr (Nat.mod_eq_zero_of_dvd (aligned rfl))
    simp [writeAlignment, still, ofElements]
  | cons item rest =>
    dsimp only
    rw [if_neg (by simp), if_pos wide]
    rfl

theorem writeString_eq (text stream : List Byte) :
    ClientWrapper.writeContent (.string text) stream =
      ClientWrapper.writeSize text.length stream ++ text := by
  rw [ClientWrapper.writeContent]
  cases text with
  | nil => simp
  | cons byte rest => rfl

/-! ## Linux -/

section Linux

variable {stream : List Byte}

theorem linux_writeLength (bounded : size < 2 ^ 32) :
    FlStandardMessageCodec.writeLength stream size = ClientWrapper.writeSize size stream := by
  have whole := FlStandardMessageCodec.toNat_size bounded
  unfold FlStandardMessageCodec.writeLength FlStandardMessageCodec.writeSize
    ClientWrapper.writeSize
  rw [whole]
  by_cases small : size < 254
  · rw [if_pos small, if_pos small]
    have byte : (BitVec.ofNat 32 size).setWidth 8 = BitVec.ofNat 8 size := by
      apply BitVec.eq_of_toNat_eq
      rw [BitVec.toNat_setWidth, whole, BitVec.toNat_ofNat]
    rw [byte]
    rfl
  rw [if_neg small, if_neg small]
  by_cases medium : size ≤ 0xffff
  · rw [if_pos medium, if_pos medium]
    have word : ((BitVec.ofNat 32 size).setWidth 16).toNat = size := by
      rw [BitVec.toNat_setWidth, whole]
      omega
    rw [FlStandardMessageCodec.writeUint16, word]
    rfl
  · rw [if_neg medium, if_neg medium, FlStandardMessageCodec.writeUint32, whole]
    rfl

theorem linux_writeBytes (type : FlStandardMessageCodec.ValueType) {bytes : List Byte}
    (bounded : bytes.length < 2 ^ 32) :
    FlStandardMessageCodec.writeBytes stream type bytes =
      ClientWrapper.writeSize bytes.length (writeByte stream type.toByte) ++ bytes := by
  rw [FlStandardMessageCodec.writeBytes, linux_writeLength bounded,
    FlStandardMessageCodec.append_of_short _ bounded]
  rfl

theorem linux_writeItems (type : FlStandardMessageCodec.ValueType) (wide : 1 < size)
    (short : size * items.length < 2 ^ 32)
    (aligned : AlignedVector size items (writeByte stream type.toByte)) :
    FlStandardMessageCodec.writeItems stream type size items =
      ClientWrapper.writeVector size items (writeByte stream type.toByte) := by
  have bounded : items.length < 2 ^ 32 := Nat.lt_of_le_of_lt
    (Nat.le_mul_of_pos_left items.length (by omega)) short
  have sized : (ofElements items).length < 2 ^ 32 := by
    rw [length_ofElements, Nat.mul_comm]
    exact short
  rw [writeVector_aligned wide aligned, FlStandardMessageCodec.writeItems,
    FlStandardMessageCodec.append_of_short _ sized, linux_writeLength bounded,
    FlStandardMessageCodec.writeAlign_eq]
  rfl

/-- Linux writes an integer of 32 bits as one. -/
theorem linux_writeInt_narrow (value : BitVec 32) :
    FlStandardMessageCodec.writeInt stream (value.signExtend 64) =
      ClientWrapper.writeValue (.int32 value) stream := by
  have lower := BitVec.le_toInt value
  have upper := BitVec.toInt_lt (x := value)
  have same : (value.signExtend 64).toInt = value.toInt := BitVec.toInt_signExtend_of_le (by decide)
  have back : (value.signExtend 64).setWidth 32 = value := by
    ext place bound
    have inside : place < 64 := by omega
    rw [BitVec.getElem_setWidth, BitVec.getLsbD_signExtend, if_pos bound, decide_eq_true inside,
      Bool.true_and, BitVec.getLsbD_eq_getElem]
  rw [FlStandardMessageCodec.writeInt, if_pos (by omega), back]
  rfl

theorem linux_writeInt_wide {value : BitVec 64} (wide : Wide value) :
    FlStandardMessageCodec.writeInt stream value =
      ClientWrapper.writeValue (.int64 value) stream := by
  unfold Wide at wide
  rw [FlStandardMessageCodec.writeInt, if_neg (by omega)]
  rfl

variable {utf8 : NativeUtf8}

mutual

theorem linux_writeValue : ∀ value (stream : List Byte), Shared utf8 value →
    AlignedContent value (writeByte stream (encodedTypeForValue value).toByte) →
    FlStandardMessageCodec.writeValue stream (toFlValue value) =
      .ok (ClientWrapper.writeValue value stream)
  | .null, _, _, _ => rfl
  | .bool value, _, _, _ => by cases value <;> rfl
  | .int32 value, _, _, _ => congrArg Except.ok (linux_writeInt_narrow value)
  | .int64 _, _, shared, _ => congrArg Except.ok (linux_writeInt_wide shared)
  | .double value, stream, _, _ => by
      refine congrArg Except.ok ?_
      rw [FlStandardMessageCodec.writeFloat64, FlStandardMessageCodec.writeAlign_eq]
      rfl
  | .string value, stream, shared, _ => by
      refine congrArg Except.ok ?_
      rw [CString.bytes_ofSized shared.2.1, linux_writeBytes .string shared.1,
        ClientWrapper.writeValue, writeString_eq]
      rfl
  | .uint8List value, stream, shared, _ => by
      refine congrArg Except.ok ?_
      rw [linux_writeBytes .uint8List shared]
      exact (writeVector_bytes value _).symm
  | .int32List _, _, shared, aligned =>
    congrArg Except.ok (linux_writeItems .int32List (by decide) shared aligned)
  | .int64List _, _, shared, aligned =>
    congrArg Except.ok (linux_writeItems .int64List (by decide) shared aligned)
  | .float64List _, _, shared, aligned =>
    congrArg Except.ok (linux_writeItems .float64List (by decide) shared aligned)
  | .float32List _, _, shared, aligned =>
    congrArg Except.ok (linux_writeItems .float32List (by decide) shared aligned)
  | .list value, stream, shared, aligned => by
      have length : FlStandardMessageCodec.writeLength (writeByte stream 12) value.length = _ :=
        linux_writeLength shared.1
      change FlStandardMessageCodec.writeValues (FlStandardMessageCodec.writeLength
        (writeByte stream 12) (toFlValues value).length) (toFlValues value) = _
      rw [length_toFlValues, length]
      exact linux_writeValues value _ shared.2 aligned
  | .map value, stream, shared, aligned => by
      have length : FlStandardMessageCodec.writeLength (writeByte stream 13) value.length = _ :=
        linux_writeLength shared.1
      change FlStandardMessageCodec.writeEntries (FlStandardMessageCodec.writeLength
        (writeByte stream 13) (toFlEntries value).length) (toFlEntries value) = _
      rw [length_toFlEntries, length]
      exact linux_writeEntries value _ shared.2.2.2.2 aligned

theorem linux_writeValues : ∀ values (stream : List Byte), SharedValues utf8 values →
    AlignedValues values stream →
    FlStandardMessageCodec.writeValues stream (toFlValues values) =
      .ok (ClientWrapper.writeValues values stream)
  | [], _, _, _ => rfl
  | value :: rest, stream, shared, aligned => by
      have first := linux_writeValue value stream shared.1 aligned.1
      have others := linux_writeValues rest (ClientWrapper.writeValue value stream) shared.2
        aligned.2
      exact FlStandardMessageCodec.writeValues_cons.mpr ⟨_, first, others⟩

theorem linux_writeEntries : ∀ entries (stream : List Byte), SharedEntries utf8 entries →
    AlignedEntries entries stream →
    FlStandardMessageCodec.writeEntries stream (toFlEntries entries) =
      .ok (ClientWrapper.writeEntries entries stream)
  | [], _, _, _ => rfl
  | (key, value) :: rest, stream, shared, aligned => by
      have keyed := linux_writeValue key stream shared.1 aligned.1
      have first := linux_writeValue value (ClientWrapper.writeValue key stream) shared.2.1
        aligned.2.1
      have others := linux_writeEntries rest
        (ClientWrapper.writeValue value (ClientWrapper.writeValue key stream)) shared.2.2
        aligned.2.2
      exact FlStandardMessageCodec.writeEntries_cons.mpr ⟨_, _, keyed, first, others⟩

end

end Linux

/-! ## OHOS -/

section Ohos

open StandardMessageCodec WriteBuffer

variable (buffer : WriteBuffer)

theorem ohos_writeSize (bounded : size < 2 ^ 32) :
    (writeSize buffer size).buffer = ClientWrapper.writeSize size buffer.buffer := by
  unfold writeSize ClientWrapper.writeSize
  by_cases small : size < 254
  · rw [if_pos small, if_pos small]
    exact buffer_write _ _
  rw [if_neg small, if_neg small]
  by_cases medium : size ≤ 0xffff
  · have word : (BitVec.ofNat 16 size).toNat = size := by
      rw [BitVec.toNat_ofNat]
      omega
    rw [if_pos medium, if_pos medium, writeUint16, word, buffer_write, writeUint8, buffer_write]
    rfl
  · have word := FlStandardMessageCodec.toNat_size bounded
    rw [if_neg medium, if_neg medium, writeUint32, word, buffer_write, writeUint8, buffer_write]
    rfl

theorem ohos_writeAlignment (alignment : Nat) :
    (StandardMessageCodec.writeAlignment buffer alignment).buffer =
      ClientWrapper.ByteBufferStreamWriter.writeAlignment buffer.buffer alignment := by
  unfold StandardMessageCodec.writeAlignment ClientWrapper.ByteBufferStreamWriter.writeAlignment
    padding
  rw [length_buffer]
  by_cases aligned : buffer.byteOffset % alignment = 0
  · rw [if_pos aligned, if_neg (not_not.mpr aligned)]
    simp
  · rw [if_neg aligned, if_pos aligned, buffer_repeat]

theorem ohos_writeType (type : MessageType) :
    (writeType buffer type).buffer = writeByte buffer.buffer type.toByte := buffer_write _ _

theorem ohos_writeBytes (type : MessageType) {bytes : List Byte} (bounded : bytes.length < 2 ^ 32) :
    (writeBytes (writeType buffer type) bytes).buffer =
      ClientWrapper.writeSize bytes.length (writeByte buffer.buffer type.toByte) ++ bytes := by
  rw [writeBytes, writeUint8Array, buffer_write, ohos_writeSize _ bounded, ohos_writeType]

theorem ohos_writeNumbers (size : Nat) (items : List (BitVec (8 * size))) :
    (writeNumbers buffer size items).buffer = buffer.buffer ++ ofElements items := by
  induction items generalizing buffer with
  | nil => exact (List.append_nil _).symm
  | cons item rest ih =>
    have others := ih (buffer.write (toBytes size item.toNat))
    rw [buffer_write, List.append_assoc] at others
    exact others

theorem ohos_writeItems (type : MessageType) (wide : 1 < size)
    (short : size * items.length < 2 ^ 32)
    (aligned : AlignedVector size items (writeByte buffer.buffer type.toByte)) :
    (writeItems buffer type size items).buffer =
      ClientWrapper.writeVector size items (writeByte buffer.buffer type.toByte) := by
  have bounded : items.length < 2 ^ 32 := Nat.lt_of_le_of_lt
    (Nat.le_mul_of_pos_left items.length (by omega)) short
  have numbers := ohos_writeNumbers (StandardMessageCodec.writeAlignment
    (writeSize (writeType buffer type) items.length) size) size items
  rw [ohos_writeAlignment, ohos_writeSize _ bounded, ohos_writeType,
    ← writeVector_aligned wide aligned] at numbers
  exact numbers

theorem ohos_writeInt64 (value : BitVec 64) :
    ((writeType buffer .int64).writeBigInt64 value.toInt).buffer =
      ClientWrapper.writeValue (.int64 value) buffer.buffer := by
  rw [writeBigInt64, buffer_write, ohos_writeType, BitVec.ofInt_toInt]
  rfl

theorem ohos_writeDouble (value : BitVec 64) :
    (writeDouble buffer value).buffer = ClientWrapper.writeValue (.double value) buffer.buffer := by
  rw [writeDouble, writeFloat64, buffer_write, ohos_writeAlignment, ohos_writeType]
  rfl

/-- A number that is an integer of 32 bits is written as one. -/
theorem ohos_writeNumber_narrow (value : BitVec 32) :
    (writeNumber buffer (ofInt value.toInt)).buffer =
      ClientWrapper.writeValue (.int32 value) buffer.buffer := by
  have lower := BitVec.le_toInt value
  have upper := BitVec.toInt_lt (x := value)
  have safe : IsSafe value.toInt := by
    unfold IsSafe maxSafeInteger
    omega
  rw [writeNumber, toInt?_ofInt safe]
  dsimp only
  rw [if_pos (by omega), writeInt32, buffer_write, ohos_writeType, BitVec.ofInt_toInt]
  rfl

/-- The other integers are written with 64 bits, as numbers or as bigints. -/
theorem ohos_writeValue_wide {value : BitVec 64} (wide : Wide value) :
    (writeValue utf8 buffer (.ofBigInt value.toInt)).buffer =
      ClientWrapper.writeValue (.int64 value) buffer.buffer := by
  have lower := BitVec.le_toInt value
  have upper := BitVec.toInt_lt (x := value)
  unfold Wide at wide
  unfold Value.ofBigInt
  by_cases safe : IsSafe value.toInt
  · rw [if_pos safe, writeValue, writeNumber, toInt?_ofInt safe]
    dsimp only
    rw [if_neg (by omega), if_pos safe, ohos_writeInt64]
  · rw [if_neg safe, writeValue, writeBigInt, if_pos (isInt64_iff.mpr (by omega)), ohos_writeInt64]

theorem ohos_writeNumber_double {value : BitVec 64} (double : StaysDouble value) :
    (writeNumber buffer value).buffer = ClientWrapper.writeValue (.double value) buffer.buffer := by
  rw [← ohos_writeDouble, writeNumber]
  cases integral : toInt? value with
  | none => rfl
  | some integer =>
    have notSafe := double.2 integer integral
    have notNarrow : ¬(-0x7fffffff - 1 ≤ integer ∧ integer ≤ 0x7fffffff) := by
      intro narrow
      refine notSafe ?_
      unfold IsSafe maxSafeInteger
      omega
    dsimp only
    rw [if_neg notNarrow, if_neg notSafe]

mutual

theorem ohos_writeValue : ∀ value (buffer : WriteBuffer), Shared utf8 value →
    AlignedContent value (writeByte buffer.buffer (encodedTypeForValue value).toByte) →
    (writeValue utf8 buffer (toValue utf8 value)).buffer =
      ClientWrapper.writeValue value buffer.buffer
  | .null, buffer, _, _ => ohos_writeType buffer .null
  | .bool value, buffer, _, _ => by
      cases value with
      | false => exact ohos_writeType buffer .false
      | true => exact ohos_writeType buffer .true
  | .int32 value, buffer, _, _ => ohos_writeNumber_narrow buffer value
  | .int64 _, buffer, shared, _ => ohos_writeValue_wide buffer shared
  | .double _, buffer, shared, _ => ohos_writeNumber_double buffer shared
  | .string value, buffer, shared, _ => by
      change (writeBytes (writeType buffer .string) (StringUtils.stringToArrayBuffer utf8
        (StringUtils.uint8ArrayToString utf8 value))).buffer = _
      rw [shared.2.2, ohos_writeBytes buffer .string shared.1, ClientWrapper.writeValue,
        writeString_eq]
      rfl
  | .uint8List value, buffer, shared, _ =>
    (ohos_writeBytes buffer .uint8Array shared).trans (writeVector_bytes value _).symm
  | .int32List _, buffer, shared, aligned =>
    ohos_writeItems buffer .int32Array (by decide) shared aligned
  | .int64List _, buffer, shared, aligned =>
    ohos_writeItems buffer .int64Array (by decide) shared aligned
  | .float64List _, buffer, shared, aligned =>
    ohos_writeItems buffer .float64Array (by decide) shared aligned
  | .float32List _, buffer, shared, aligned =>
    ohos_writeItems buffer .float32Array (by decide) shared aligned
  | .list value, buffer, shared, aligned => by
      have size : (writeSize (writeType buffer .list) value.length).buffer =
          ClientWrapper.writeSize value.length (writeByte buffer.buffer 12) := by
        rw [ohos_writeSize _ shared.1, ohos_writeType]
        rfl
      have values := ohos_writeValues value (writeSize (writeType buffer .list) value.length)
        shared.2 (by rw [size]; exact aligned)
      rw [size] at values
      change (writeValues utf8 (writeSize (writeType buffer .list)
        (toValues utf8 value).length) (toValues utf8 value)).buffer = _
      rw [length_toValues]
      exact values
  | .map value, buffer, shared, aligned => by
      have size : (writeSize (writeType buffer .map) value.length).buffer =
          ClientWrapper.writeSize value.length (writeByte buffer.buffer 13) := by
        rw [ohos_writeSize _ shared.1, ohos_writeType]
        rfl
      have entries := ohos_writeEntries value (writeSize (writeType buffer .map) value.length)
        shared.2.2.2.2 (by rw [size]; exact aligned)
      rw [size] at entries
      change (writeEntries utf8 (writeSize (writeType buffer .map)
        (toEntries utf8 value).length) (toEntries utf8 value)).buffer = _
      rw [length_toEntries]
      exact entries

theorem ohos_writeValues : ∀ values (buffer : WriteBuffer), SharedValues utf8 values →
    AlignedValues values buffer.buffer →
    (writeValues utf8 buffer (toValues utf8 values)).buffer =
      ClientWrapper.writeValues values buffer.buffer
  | [], _, _, _ => rfl
  | value :: rest, buffer, shared, aligned => by
      have first := ohos_writeValue value buffer shared.1 aligned.1
      have others := ohos_writeValues rest (writeValue utf8 buffer (toValue utf8 value)) shared.2
        (by rw [first]; exact aligned.2)
      rw [first] at others
      exact others

theorem ohos_writeEntries : ∀ entries (buffer : WriteBuffer), SharedEntries utf8 entries →
    AlignedEntries entries buffer.buffer →
    (writeEntries utf8 buffer (toEntries utf8 entries)).buffer =
      ClientWrapper.writeEntries entries buffer.buffer
  | [], _, _, _ => rfl
  | (key, value) :: rest, buffer, shared, aligned => by
      have keyed := ohos_writeValue key buffer shared.1 aligned.1
      have first := ohos_writeValue value (writeValue utf8 buffer (toValue utf8 key)) shared.2.1
        (by rw [keyed]; exact aligned.2.1)
      rw [keyed] at first
      have others := ohos_writeEntries rest (writeValue utf8
        (writeValue utf8 buffer (toValue utf8 key)) (toValue utf8 value)) shared.2.2
        (by rw [first]; exact aligned.2.2)
      rw [first] at others
      exact others

end

end Ohos

end FlutterEngine.Messages
