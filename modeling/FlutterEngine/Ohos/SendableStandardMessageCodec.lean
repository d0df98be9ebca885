import FlutterEngine.Ohos.Preserved

/-!
# The sendable copy of the standard message codec

`SendableStandardMessageCodec` of `SendableStandardMessageCodec.ets`. Its type bytes, sizes,
alignment and bytes, and all that it reads with, are those of `StandardMessageCodec` to the
letter; `writeValue` is written out again. Every list of the `LIST` branch of the two, a typed
array of small integers too, is an `array` of the items that `forEach` gives.
-/

namespace FlutterEngine.Ohos

open FlutterEngine.Std Ieee754 FlutterEngine.Std.Ieee754.Binary64
open StandardMessageCodec
  (MessageType writeType writeAlignment writeSize writeBytes writeItems toString16)

namespace SendableStandardMessageCodec

/-! ## Writing -/

def writeDouble (stream : WriteBuffer) (value : Binary64) : WriteBuffer :=
  (writeAlignment (writeType stream .float64) 8).writeFloat64 value

def writeNumber (stream : WriteBuffer) (value : Binary64) : WriteBuffer :=
  match toInt? value with
  | some integer =>
    if -0x7fffffff - 1 ≤ integer ∧ integer ≤ 0x7fffffff then
      (writeType stream .int32).writeInt32 (BitVec.ofInt 32 integer)
    else if IsSafe integer then (writeType stream .int64).writeBigInt64 integer
    else writeDouble stream value
  | none => writeDouble stream value

/-- A bigint, always as a hexadecimal string. -/
def writeBigInt (stream : WriteBuffer) (value : Int) : WriteBuffer :=
  writeBytes (writeType stream .bigint) (toString16 value)

section Codec

variable (utf8 : NativeUtf8)

mutual

def writeValue (stream : WriteBuffer) : Value → WriteBuffer
  | .null => writeType stream .null
  | .boolean value => writeType stream (if value then .true else .false)
  | .number value => writeNumber stream value
  | .bigint value => writeBigInt stream value
  | .string value =>
    writeBytes (writeType stream .string) (StringUtils.stringToArrayBuffer utf8 value)
  | .uint8Array value => writeBytes (writeType stream .uint8Array) value
  | .int32Array value => writeItems stream .int32Array 4 value
  | .bigInt64Array value => writeItems stream .int64Array 8 value
  | .float32Array value => writeItems stream .float32Array 4 value
  | .float64Array value => writeItems stream .float64Array 8 value
  | .array value => writeValues (writeSize (writeType stream .list) value.length) value
  | .map entries => writeEntries (writeSize (writeType stream .map) entries.length) entries

def writeValues (stream : WriteBuffer) : List Value → WriteBuffer
  | [] => stream
  | value :: rest => writeValues (writeValue stream value) rest

def writeEntries (stream : WriteBuffer) : List (Value × Value) → WriteBuffer
  | [] => stream
  | (key, value) :: rest => writeEntries (writeValue (writeValue stream key) value) rest

end

def encodeMessage (message : Value) : List Byte :=
  (writeValue utf8 (WriteBuffer.ofLength 1024) message).buffer

/-- `decodeMessage`; `none` is a message that is null. -/
def decodeMessage (message : Option (List Byte)) : Except Thrown Value :=
  StandardMessageCodec.decodeMessage utf8 message

end Codec

/-! ## Writing only appends -/

section Append

open StandardMessageCodec (prefix_write prefix_writeSize prefix_writeBytes prefix_writeItems)

variable (utf8 : NativeUtf8)

mutual

theorem prefix_writeValue : ∀ value stream,
    stream.buffer <+: (writeValue utf8 stream value).buffer
  | .null, _ => prefix_write _ _
  | .boolean _, _ => prefix_write _ _
  | .number value, stream =>
    (StandardMessageCodec.grows_of_type (StandardMessageCodec.prefix_writeNumber stream value)).1
  | .bigint value, _ => (prefix_write _ _).trans (prefix_writeBytes _ (toString16 value))
  | .string _, _ => (prefix_write _ _).trans (prefix_writeBytes _ _)
  | .uint8Array value, _ => (prefix_write _ _).trans (prefix_writeBytes _ value)
  | .int32Array value, stream => (prefix_write _ _).trans (prefix_writeItems stream _ 4 value)
  | .bigInt64Array value, stream => (prefix_write _ _).trans (prefix_writeItems stream _ 8 value)
  | .float32Array value, stream => (prefix_write _ _).trans (prefix_writeItems stream _ 4 value)
  | .float64Array value, stream => (prefix_write _ _).trans (prefix_writeItems stream _ 8 value)
  | .array value, _ =>
    ((prefix_write _ _).trans (prefix_writeSize _ value.length)).trans (prefix_writeValues value _)
  | .map entries, _ =>
    ((prefix_write _ _).trans (prefix_writeSize _ entries.length)).trans
      (prefix_writeEntries entries _)

theorem prefix_writeValues : ∀ values stream,
    stream.buffer <+: (writeValues utf8 stream values).buffer
  | [], _ => List.prefix_rfl
  | value :: rest, stream => (prefix_writeValue value stream).trans (prefix_writeValues rest _)

theorem prefix_writeEntries : ∀ entries stream,
    stream.buffer <+: (writeEntries utf8 stream entries).buffer
  | [], _ => List.prefix_rfl
  | (key, value) :: rest, stream =>
    ((prefix_writeValue key stream).trans (prefix_writeValue value _)).trans
      (prefix_writeEntries rest _)

end

end Append

/-! ## Where the two codecs part -/

/-- The bytes of two streams are the same up to a place, and different there. -/
def Parted (stream other : WriteBuffer) : Prop :=
  ∃ (written : List Byte) (byte otherByte : Byte), byte ≠ otherByte ∧
    written ++ [byte] <+: stream.buffer ∧ written ++ [otherByte] <+: other.buffer

theorem Parted.ne {stream other : WriteBuffer} (parted : Parted stream other) :
    stream.buffer ≠ other.buffer := by
  obtain ⟨written, byte, otherByte, different, first, second⟩ := parted
  intro same
  rw [same] at first
  have bytes := (List.prefix_of_prefix_length_le first second (by simp)).eq_of_length (by simp)
  exact different (List.singleton_inj.mp (List.append_cancel_left bytes))

theorem Parted.mono {stream other later otherLater : WriteBuffer} (parted : Parted stream other)
    (grown : stream.buffer <+: later.buffer) (otherGrown : other.buffer <+: otherLater.buffer) :
    Parted later otherLater := by
  obtain ⟨written, byte, otherByte, different, first, second⟩ := parted
  exact ⟨written, byte, otherByte, different, first.trans grown, second.trans otherGrown⟩

/-- A bigint that the one codec writes as an integer of 64 bits. -/
theorem parted_writeBigInt {value : Int} (narrow : StandardMessageCodec.isInt64 value = true)
    (stream : WriteBuffer) :
    Parted (writeBigInt stream value) (StandardMessageCodec.writeBigInt stream value) := by
  have hex : (writeType stream .bigint).buffer <+: (writeBigInt stream value).buffer :=
    StandardMessageCodec.prefix_writeBytes _ _
  have integer :
      (writeType stream .int64).buffer <+: (StandardMessageCodec.writeBigInt stream value).buffer := by
    rw [StandardMessageCodec.writeBigInt, if_pos narrow]
    exact StandardMessageCodec.prefix_write _ _
  rw [writeType, WriteBuffer.writeUint8, WriteBuffer.buffer_write] at hex integer
  exact ⟨stream.buffer, _, _, by decide, hex, integer⟩

mutual

/-- There is a bigint from -2^63 to 2^63 in the value, at any depth. -/
def HasInt64 : Value → Prop
  | .bigint value => -2 ^ 63 ≤ value ∧ value ≤ 2 ^ 63
  | .array value => HasInt64Values value
  | .map entries => HasInt64Entries entries
  | .null | .boolean _ | .number _ | .string _ | .uint8Array _ | .int32Array _ | .bigInt64Array _
  | .float32Array _ | .float64Array _ => False

def HasInt64Values : List Value → Prop
  | [] => False
  | value :: rest => HasInt64 value ∨ HasInt64Values rest

def HasInt64Entries : List (Value × Value) → Prop
  | [] => False
  | (key, value) :: rest => HasInt64 key ∨ HasInt64 value ∨ HasInt64Entries rest

end

/-- What two writers of one stream come to: the same stream, or streams that parted where there
was something to part at. -/
def SameUnless (occurs : Prop) (stream other : WriteBuffer) : Prop :=
  ¬occurs ∧ stream = other ∨ occurs ∧ Parted stream other

theorem SameUnless.same {stream : WriteBuffer} {occurs : Prop} (never : ¬occurs) :
    SameUnless occurs stream stream :=
  .inl ⟨never, rfl⟩

/-- Two writers go on after two others. -/
theorem SameUnless.trans {occurs occursLater : Prop} {stream other : WriteBuffer}
    {write otherWrite : WriteBuffer → WriteBuffer} (same : SameUnless occurs stream other)
    (grows : ∀ stream, stream.buffer <+: (write stream).buffer)
    (otherGrows : ∀ stream, stream.buffer <+: (otherWrite stream).buffer)
    (goOn : ∀ stream, SameUnless occursLater (write stream) (otherWrite stream)) :
    SameUnless (occurs ∨ occursLater) (write stream) (otherWrite other) := by
  obtain ⟨never, rfl⟩ | ⟨found, parted⟩ := same
  · rw [show (occurs ∨ occursLater) = occursLater by simp [never]]
    exact goOn stream
  · exact .inr ⟨.inl found, parted.mono (grows stream) (otherGrows other)⟩

section Compare

variable (utf8 : NativeUtf8)

mutual

theorem writeValue_same : ∀ value stream,
    SameUnless (HasInt64 value) (writeValue utf8 stream value)
      (StandardMessageCodec.writeValue utf8 stream value)
  | .null, _ => .same id
  | .boolean _, _ => .same id
  | .number _, _ => .same id
  | .bigint value, stream => by
      by_cases narrow : StandardMessageCodec.isInt64 value = true
      · exact .inr ⟨StandardMessageCodec.isInt64_iff.mp narrow, parted_writeBigInt narrow stream⟩
      · refine .inl ⟨mt StandardMessageCodec.isInt64_iff.mpr narrow, ?_⟩
        rw [writeValue, StandardMessageCodec.writeValue, StandardMessageCodec.writeBigInt,
          if_neg narrow]
        rfl
  | .string _, _ => .same id
  | .uint8Array _, _ => .same id
  | .int32Array _, _ => .same id
  | .bigInt64Array _, _ => .same id
  | .float32Array _, _ => .same id
  | .float64Array _, _ => .same id
  | .array value, stream => writeValues_same value _
  | .map entries, stream => writeEntries_same entries _

theorem writeValues_same : ∀ values stream,
    SameUnless (HasInt64Values values) (writeValues utf8 stream values)
      (StandardMessageCodec.writeValues utf8 stream values)
  | [], _ => .same id
  | value :: rest, stream =>
    (writeValue_same value stream).trans (prefix_writeValues utf8 rest)
      (StandardMessageCodec.prefix_writeValues utf8 rest) (writeValues_same rest)

theorem writeEntries_same : ∀ entries stream,
    SameUnless (HasInt64Entries entries) (writeEntries utf8 stream entries)
      (StandardMessageCodec.writeEntries utf8 stream entries)
  | [], _ => .same id
  | (key, value) :: rest, stream =>
    (writeValue_same key stream).trans
      (fun later => (prefix_writeValue utf8 value later).trans (prefix_writeEntries utf8 rest _))
      (fun later =>
        (StandardMessageCodec.grows_of_type
          (StandardMessageCodec.prefix_writeValue utf8 value later)).1.trans
            (StandardMessageCodec.prefix_writeEntries utf8 rest _))
      fun later =>
        (writeValue_same value later).trans (prefix_writeEntries utf8 rest)
          (StandardMessageCodec.prefix_writeEntries utf8 rest) (writeEntries_same rest)

end

/-- The two codecs write the same bytes for a value, and read the same value from what either
of them writes. -/
def Agree (value : Value) : Prop :=
  encodeMessage utf8 value = StandardMessageCodec.encodeMessage utf8 value ∧
    ∀ message ∈ [encodeMessage utf8 value, StandardMessageCodec.encodeMessage utf8 value],
      decodeMessage utf8 (some message) =
          StandardMessageCodec.decodeMessage utf8
            (some (StandardMessageCodec.encodeMessage utf8 value)) ∧
        StandardMessageCodec.decodeMessage utf8 (some message) =
          StandardMessageCodec.decodeMessage utf8
            (some (StandardMessageCodec.encodeMessage utf8 value))

/-- They agree on exactly the values without a bigint that fits in 64 bits, or is 2^63. -/
theorem agree_iff (value : Value) : Agree utf8 value ↔ ¬HasInt64 value := by
  obtain ⟨never, same⟩ | ⟨found, parted⟩ :=
    writeValue_same utf8 value (WriteBuffer.ofLength 1024)
  · refine iff_of_true ?_ never
    have bytes : encodeMessage utf8 value = StandardMessageCodec.encodeMessage utf8 value := by
      rw [encodeMessage, same]
      rfl
    refine ⟨bytes, fun message written => ?_⟩
    obtain rfl : message = StandardMessageCodec.encodeMessage utf8 value := by
      simpa [bytes] using written
    exact ⟨rfl, rfl⟩
  · exact iff_of_false (fun agree => parted.ne agree.1) (not_not_intro found)

end Compare

/-- The bigint -5 is an integer of 64 bits in the one encoding, a hexadecimal string in the
other. -/
theorem not_agree_minus_five : ¬Agree StandardMessageCodec.standardUtf8 (.bigint (-5)) := by
  rintro ⟨bytes, -⟩
  exact (parted_writeBigInt (by decide) (WriteBuffer.ofLength 1024)).ne bytes

end SendableStandardMessageCodec

end FlutterEngine.Ohos
