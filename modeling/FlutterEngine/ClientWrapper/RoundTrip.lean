import FlutterEngine.ClientWrapper.StandardCodec

/-!
# Reading back what was written

The writer and the reader of the standard codec agree on every position but one:
`WriteVector` returns before the alignment when the vector is empty, `ReadVector`
aligns always. `Aligned` says that every empty vector of wider elements ends at an
aligned position anyway, and then every value, and every sequence of values, reads
back as written.
-/

namespace FlutterEngine.ClientWrapper

open FlutterEngine.Std LittleEndian ByteBufferStreamWriter EncodableValue

/-! ## Writing only appends -/

theorem prefix_writeSize (size : Nat) (stream : ByteBufferStreamWriter) :
    stream <+: writeSize size stream := by
  unfold writeSize
  split
  · exact List.prefix_append _ _
  split
  · exact ⟨254 :: toBytes 2 size, by simp [writeBytes, writeByte]⟩
  · exact ⟨255 :: toBytes 4 size, by simp [writeBytes, writeByte]⟩

theorem prefix_writeVector (size : Nat) (vector : List (BitVec (8 * size)))
    (stream : ByteBufferStreamWriter) : stream <+: writeVector size vector stream := by
  refine (prefix_writeSize vector.length stream).trans ?_
  unfold writeVector
  dsimp only
  split
  · exact List.prefix_rfl
  split
  · exact (List.prefix_append _ _).trans (List.prefix_append _ _)
  · exact List.prefix_append _ _

mutual

theorem prefix_writeContent : ∀ value stream, stream <+: writeContent value stream
  | .null, _ | .bool _, _ => List.prefix_rfl
  | .int32 _, _ | .int64 _, _ => List.prefix_append _ _
  | .double _, _ => (List.prefix_append _ _).trans (List.prefix_append _ _)
  | .string value, stream => by
      refine (prefix_writeSize value.length stream).trans ?_
      rw [writeContent]
      split
      · exact List.prefix_append _ _
      · exact List.prefix_rfl
  | .uint8List value, stream => prefix_writeVector 1 value stream
  | .int32List value, stream => prefix_writeVector 4 value stream
  | .int64List value, stream => prefix_writeVector 8 value stream
  | .float64List value, stream => prefix_writeVector 8 value stream
  | .float32List value, stream => prefix_writeVector 4 value stream
  | .list value, stream =>
    (prefix_writeSize value.length stream).trans (prefix_writeValues value _)
  | .map value, stream =>
    (prefix_writeSize value.length stream).trans (prefix_writeEntries value _)

theorem prefix_writeValues : ∀ values stream, stream <+: writeValues values stream
  | [], _ => List.prefix_rfl
  | value :: rest, _ =>
    (List.prefix_append _ _).trans
      ((prefix_writeContent value _).trans (prefix_writeValues rest _))

theorem prefix_writeEntries : ∀ entries stream, stream <+: writeEntries entries stream
  | [], _ => List.prefix_rfl
  | (key, value) :: rest, _ =>
    (List.prefix_append _ _).trans ((prefix_writeContent key _).trans
      ((List.prefix_append _ _).trans
        ((prefix_writeContent value _).trans (prefix_writeEntries rest _))))

end

theorem length_writeByte (stream : ByteBufferStreamWriter) (byte : Byte) :
    (writeByte stream byte).length = stream.length + 1 := List.length_append

theorem length_lt_writeValue (value : EncodableValue) (stream : ByteBufferStreamWriter) :
    stream.length < (writeValue value stream).length := by
  have content := (prefix_writeContent value
    (writeByte stream (encodedTypeForValue value).toByte)).length_le
  rwa [length_writeByte] at content

/-! ## Which values -/

mutual

/-- Every string, vector, list and map has fewer than 2^32 elements, and every map
holds its entries in the order of their keys. -/
def Encodable : EncodableValue → Prop
  | .null | .bool _ | .int32 _ | .int64 _ | .double _ => True
  | .string value => value.length < 2 ^ 32
  | .uint8List value => value.length < 2 ^ 32
  | .int32List value => value.length < 2 ^ 32
  | .int64List value => value.length < 2 ^ 32
  | .float64List value => value.length < 2 ^ 32
  | .float32List value => value.length < 2 ^ 32
  | .list value => value.length < 2 ^ 32 ∧ EncodableValues value
  | .map value => value.length < 2 ^ 32 ∧ Ordered value ∧ EncodableEntries value

def EncodableValues : List EncodableValue → Prop
  | [] => True
  | value :: rest => Encodable value ∧ EncodableValues rest

def EncodableEntries : List (EncodableValue × EncodableValue) → Prop
  | [] => True
  | (key, value) :: rest => Encodable key ∧ Encodable value ∧ EncodableEntries rest

end

/-- An empty vector written here ends at a multiple of its element size. -/
def AlignedVector (size : Nat) (vector : List (BitVec (8 * size))) (stream : ByteBufferStreamWriter) :
    Prop :=
  vector = [] → size ∣ (writeSize 0 stream).length

mutual

/-- Every empty vector in the value ends at a multiple of its element size, when
the value's content is written to this stream. -/
def AlignedContent : EncodableValue → ByteBufferStreamWriter → Prop
  | .null, _ | .bool _, _ | .int32 _, _ | .int64 _, _ | .double _, _ | .string _, _
  | .uint8List _, _ => True
  | .int32List value, stream => AlignedVector 4 value stream
  | .int64List value, stream => AlignedVector 8 value stream
  | .float64List value, stream => AlignedVector 8 value stream
  | .float32List value, stream => AlignedVector 4 value stream
  | .list value, stream => AlignedValues value (writeSize value.length stream)
  | .map value, stream => AlignedEntries value (writeSize value.length stream)

/-- The same of values written one after the other. -/
def AlignedValues : List EncodableValue → ByteBufferStreamWriter → Prop
  | [], _ => True
  | value :: rest, stream =>
    let stream := writeByte stream (encodedTypeForValue value).toByte
    AlignedContent value stream ∧ AlignedValues rest (writeContent value stream)

def AlignedEntries : List (EncodableValue × EncodableValue) → ByteBufferStreamWriter → Prop
  | [], _ => True
  | (key, value) :: rest, stream =>
    let stream := writeByte stream (encodedTypeForValue key).toByte
    AlignedContent key stream ∧
      let stream := writeByte (writeContent key stream) (encodedTypeForValue value).toByte
      AlignedContent value stream ∧ AlignedEntries rest (writeContent value stream)

end

/-! ## The reader follows the writer -/

variable {stream buffer : List Byte}

theorem readSize_at {size : Nat} (bounded : size < 2 ^ 32)
    (within : writeSize size stream <+: buffer) :
    readSize (readerAt buffer stream) = (size, readerAt buffer (writeSize size stream)) := by
  have read : ∀ (tag : Byte) (count : Nat),
      writeBytes (writeByte stream tag) (toBytes count size) <+: buffer →
      (readerAt buffer stream).readByte = (tag, readerAt buffer (writeByte stream tag)) ∧
        (readerAt buffer (writeByte stream tag)).readBytes (List.replicate count 0) count =
          (toBytes count size,
            readerAt buffer (writeBytes (writeByte stream tag) (toBytes count size))) := by
    intro tag count within
    have bytes := readBytes_at within (List.replicate count 0)
    rw [length_toBytes] at bytes
    exact ⟨readByte_at ((List.prefix_append _ _).trans within), bytes⟩
  unfold writeSize at within ⊢
  split at within
  · rename_i small
    rw [if_pos small, readSize, readByte_at within]
    have byte : (BitVec.ofNat 8 size).toNat = size := by
      rw [BitVec.toNat_ofNat, Nat.mod_eq_of_lt (by omega)]
    simp only [byte, small, if_true]
  rename_i large
  rw [if_neg large]
  split at within
  · rename_i short
    obtain ⟨tag, bytes⟩ := read 254 2 within
    rw [if_pos short, readSize, tag]
    simp only [bytes, ofBytes_toBytes, Nat.mod_eq_of_lt (show size < 256 ^ 2 by omega)]
    rfl
  · rename_i long
    obtain ⟨tag, bytes⟩ := read 255 4 within
    rw [if_neg long, readSize, tag]
    simp only [bytes, ofBytes_toBytes, Nat.mod_eq_of_lt (show size < 256 ^ 4 by omega)]
    rfl

theorem readVector_at (size : Nat) (vector : List (BitVec (8 * size)))
    (positive : 0 < size) (bounded : vector.length < 2 ^ 32) (aligned : AlignedVector size vector stream)
    (within : writeVector size vector stream <+: buffer) :
    readVector size (readerAt buffer stream) =
      (vector, readerAt buffer (writeVector size vector stream)) := by
  cases vector with
  | nil =>
    have within : writeSize 0 stream <+: buffer := within
    have still : padding size (writeSize 0 stream).length = 0 :=
      (padding_eq_zero_iff positive).mpr (Nat.mod_eq_zero_of_dvd (aligned rfl))
    have inside : ¬(writeSize 0 stream).length > buffer.length := Nat.not_lt.mpr within.length_le
    rw [readVector, readSize_at (by decide) within]
    simp [ByteBufferStreamReader.readAlignment, ByteBufferStreamReader.readBytes, still, inside,
      toElements, elements, writeVector]
  | cons item items =>
    have sized := length_ofElements (item :: items)
    have written : ∀ start, start = (if size > 1 then
        writeAlignment (writeSize (item :: items).length stream) size
      else writeSize (item :: items).length stream) →
      writeVector size (item :: items) stream = writeBytes start (ofElements (item :: items)) := by
      rintro start rfl
      rfl
    have start := written _ rfl
    rw [start] at within ⊢
    have sizeWithin : writeSize (item :: items).length stream <+: buffer := by
      refine List.IsPrefix.trans ?_ within
      split
      · exact (List.prefix_append _ _).trans (List.prefix_append _ _)
      · exact List.prefix_append _ _
    have read := readBytes_at within
      (List.replicate ((item :: items).length * size) 0)
    rw [sized] at read
    rw [readVector, readSize_at bounded sizeWithin]
    dsimp only
    split at read
    · rename_i wide
      rw [if_pos wide, if_pos wide, readAlignment_at, read]
      simp only [toElements_ofElements]
    · rename_i narrow
      rw [if_neg narrow, if_neg narrow, read]
      simp only [toElements_ofElements]

/-! ## Whole values -/

theorem readValue_succ {fuel : Nat} {value : EncodableValue}
    (within : writeValue value stream <+: buffer) :
    readValue (fuel + 1) (readerAt buffer stream) =
      readValueOfType (readValue fuel) (encodedTypeForValue value).toByte
        (readerAt buffer (writeByte stream (encodedTypeForValue value).toByte)) := by
  rw [readValue, readByte_at ((prefix_writeContent value _).trans within)]

attribute [local simp] encodedTypeForValue readValueOfType EncodedType.ofByte?_toByte writeContent

mutual

/-- A value's content reads back after its type. -/
theorem readValueOfType_at : ∀ value stream buffer fuel, Encodable value →
    AlignedContent value stream → writeContent value stream <+: buffer →
    (writeContent value stream).length ≤ fuel + stream.length →
    readValueOfType (readValue fuel) (encodedTypeForValue value).toByte (readerAt buffer stream) =
      some (value, readerAt buffer (writeContent value stream))
  | .null, _, _, _, _, _, _, _ => rfl
  | .bool value, _, _, _, _, _, _, _ => by cases value <;> rfl
  | .int32 value, stream, buffer, _, _, _, within, _ => by
      have read : (readerAt buffer stream).readInt32 =
          (value, readerAt buffer (writeInt32 stream value)) := readNumber_at 4 within
      simp [read]
  | .int64 value, stream, buffer, _, _, _, within, _ => by
      have read : (readerAt buffer stream).readInt64 =
          (value, readerAt buffer (writeInt64 stream value)) := readNumber_at 8 within
      simp [read]
  | .double value, stream, buffer, _, _, _, within, _ => by
      have read : ((readerAt buffer stream).readAlignment 8).readDouble =
          (value, readerAt buffer (writeDouble (writeAlignment stream 8) value)) := by
        rw [readAlignment_at]
        exact readNumber_at 8 within
      simp [read]
  | .string value, stream, buffer, _, bounded, _, within, _ => by
      have written : writeContent (.string value) stream =
          writeBytes (writeSize value.length stream) value := by
        cases value <;> simp [writeContent, writeBytes]
      rw [written] at within ⊢
      have size := readSize_at bounded ((List.prefix_append _ _).trans within)
      have read := readBytes_at within (List.replicate value.length 0)
      simp only [encodedTypeForValue, readValueOfType, EncodedType.ofByte?_toByte, size, read]
  | .uint8List value, stream, buffer, _, bounded, _, within, _ => by
      have read := readVector_at 1 value (by decide) bounded (fun _ => Nat.one_dvd _) within
      simp [read]
  | .int32List value, stream, buffer, _, bounded, aligned, within, _ => by
      have read := readVector_at 4 value (by decide) bounded aligned within
      simp [read]
  | .int64List value, stream, buffer, _, bounded, aligned, within, _ => by
      have read := readVector_at 8 value (by decide) bounded aligned within
      simp [read]
  | .float64List value, stream, buffer, _, bounded, aligned, within, _ => by
      have read := readVector_at 8 value (by decide) bounded aligned within
      simp [read]
  | .float32List value, stream, buffer, _, bounded, aligned, within, _ => by
      have read := readVector_at 4 value (by decide) bounded aligned within
      simp [read]
  | .list value, stream, buffer, fuel, encodable, aligned, within, fueled => by
      have size := readSize_at encodable.1 ((prefix_writeValues value _).trans within)
      have start := (prefix_writeSize value.length stream).length_le
      have values := readValues_at value _ buffer fuel encodable.2 aligned within (by
        rw [writeContent] at fueled
        omega)
      simp [size, values]
  | .map value, stream, buffer, fuel, encodable, aligned, within, fueled => by
      have size := readSize_at encodable.1 ((prefix_writeEntries value _).trans within)
      have start := (prefix_writeSize value.length stream).length_le
      have entries := readEntries_at value [] _ buffer fuel encodable.2.2 encodable.2.1 aligned
        within (by
          rw [writeContent] at fueled
          omega)
      simp [size, entries]

/-- Values written one after the other read back one after the other. -/
theorem readValues_at : ∀ values stream buffer fuel, EncodableValues values →
    AlignedValues values stream → writeValues values stream <+: buffer →
    (writeValues values stream).length ≤ fuel + stream.length →
    readValues (readValue fuel) values.length (readerAt buffer stream) =
      some (values, readerAt buffer (writeValues values stream))
  | [], _, _, _, _, _, _, _ => rfl
  | value :: rest, stream, buffer, fuel, encodable, aligned, within, fueled => by
      have grows := length_lt_writeValue value stream
      have later := (prefix_writeValues rest (writeValue value stream)).length_le
      change (writeValues rest (writeValue value stream)).length ≤ _ at fueled
      obtain ⟨fuel, rfl⟩ : ∃ less, fuel = less + 1 := ⟨fuel - 1, by omega⟩
      have valueWithin : writeValue value stream <+: buffer :=
        (prefix_writeValues rest _).trans within
      have first : readValue (fuel + 1) (readerAt buffer stream) =
          some (value, readerAt buffer (writeValue value stream)) :=
        (readValue_succ valueWithin).trans
          (readValueOfType_at value _ buffer fuel encodable.1 aligned.1 valueWithin (by
            rw [length_writeByte]
            change (writeValue value stream).length ≤ _
            omega))
      have others := readValues_at rest (writeValue value stream) buffer (fuel + 1) encodable.2
        aligned.2 within (by omega)
      rw [List.length_cons, readValues, first, Option.bind_eq_bind, Option.bind_some]
      dsimp only
      rw [others]
      rfl

/-- Entries written in the order of their keys read back into the same map. -/
theorem readEntries_at : ∀ entries earlier stream buffer fuel, EncodableEntries entries →
    Ordered (earlier ++ entries) → AlignedEntries entries stream →
    writeEntries entries stream <+: buffer →
    (writeEntries entries stream).length ≤ fuel + stream.length →
    readEntries (readValue fuel) entries.length earlier (readerAt buffer stream) =
      some (earlier ++ entries, readerAt buffer (writeEntries entries stream))
  | [], earlier, _, _, _, _, _, _, _, _ => by simp [readEntries, writeEntries]
  | (key, value) :: rest, earlier, stream, buffer, fuel, encodable, ordered, aligned, within,
      fueled => by
      have keyGrows := length_lt_writeValue key stream
      have valueGrows := length_lt_writeValue value (writeValue key stream)
      have later := (prefix_writeEntries rest (writeValue value (writeValue key stream))).length_le
      change (writeEntries rest (writeValue value (writeValue key stream))).length ≤ _ at fueled
      obtain ⟨fuel, rfl⟩ : ∃ less, fuel = less + 1 := ⟨fuel - 1, by omega⟩
      have valueWithin : writeValue value (writeValue key stream) <+: buffer :=
        (prefix_writeEntries rest _).trans within
      have keyWithin : writeValue key stream <+: buffer :=
        (List.prefix_append _ _).trans ((prefix_writeContent value _).trans valueWithin)
      have keyRead : readValue (fuel + 1) (readerAt buffer stream) =
          some (key, readerAt buffer (writeValue key stream)) :=
        (readValue_succ keyWithin).trans
          (readValueOfType_at key _ buffer fuel encodable.1 aligned.1 keyWithin (by
            rw [length_writeByte]
            change (writeValue key stream).length ≤ _
            omega))
      have valueRead : readValue (fuel + 1) (readerAt buffer (writeValue key stream)) =
          some (value, readerAt buffer (writeValue value (writeValue key stream))) :=
        (readValue_succ valueWithin).trans
          (readValueOfType_at value _ buffer fuel encodable.2.1 aligned.2.1 valueWithin (by
            rw [length_writeByte]
            change (writeValue value (writeValue key stream)).length ≤
              fuel + ((writeValue key stream).length + 1)
            omega))
      have last : ∀ entry ∈ earlier, EncodableValue.cmp entry.1 key = .lt := fun entry listed =>
        (List.pairwise_append.mp ordered).2.2 entry listed (key, value) List.mem_cons_self
      have others := readEntries_at rest (earlier ++ [(key, value)])
        (writeValue value (writeValue key stream)) buffer (fuel + 1) encodable.2.2
        (by simpa using ordered) aligned.2.2 within (by omega)
      rw [List.length_cons, readEntries, keyRead, Option.bind_eq_bind, Option.bind_some]
      dsimp only
      rw [valueRead, Option.bind_some]
      dsimp only
      rw [emplace_last last, others, List.append_assoc]
      rfl

end

/-! ## Whole streams -/

/-- Values written to an empty stream read back one after the other, and the reader
ends at the end of the buffer. Values cannot nest deeper than they are long. -/
def RoundTrips (values : List EncodableValue) : Prop :=
  ∀ fuel, (writeValues values []).length ≤ fuel →
    readValues (readValue fuel) values.length ⟨writeValues values [], 0⟩ =
      some (values, ⟨writeValues values [], (writeValues values []).length⟩)

/-- Every empty vector of wider elements, wherever it is nested, ends at a multiple
of its element size. -/
def Aligned (values : List EncodableValue) : Prop := AlignedValues values []

/-- Any sequence of values whose empty vectors are aligned reads back as written, so
does each single value. -/
theorem roundTrips_of_aligned (values : List EncodableValue) (encodable : EncodableValues values)
    (aligned : Aligned values) :
    RoundTrips values ∧
      ∀ value, values = [value] → ∀ fuel, (writeValue value []).length ≤ fuel →
        readValue fuel ⟨writeValue value [], 0⟩ =
          some (value, ⟨writeValue value [], (writeValue value []).length⟩) := by
  have sequence : RoundTrips values := fun fuel enough =>
    readValues_at values [] (writeValues values []) fuel encodable aligned List.prefix_rfl
      (by simpa using enough)
  refine ⟨sequence, ?_⟩
  rintro value rfl fuel enough
  have single := sequence fuel enough
  obtain ⟨⟨read, rest⟩, reads, others⟩ := Option.bind_eq_some_iff.mp single
  cases others
  exact reads

/-- Maps, empty and filled vectors, a string and a double, nested. -/
def sample : List EncodableValue :=
  [.list [.int32List [], .map [(.int32 1, .float64List [3]), (.string [104, 105], .list [])]],
    .bool true, .double 0x4045000000000000]

theorem roundTrips_sample :
    RoundTrips sample ∧ ∀ value, sample = [value] → ∀ fuel, (writeValue value []).length ≤ fuel →
      readValue fuel ⟨writeValue value [], 0⟩ =
        some (value, ⟨writeValue value [], (writeValue value []).length⟩) :=
  roundTrips_of_aligned sample
    ⟨⟨by decide, (by decide : 0 < 2 ^ 32), ⟨by decide, List.pairwise_pair.mpr rfl, trivial,
      (by decide : 1 < 2 ^ 32), (by decide : 2 < 2 ^ 32), ⟨by decide, trivial⟩, trivial⟩, trivial⟩,
      trivial, trivial, trivial⟩
    (by simp [sample, Aligned, AlignedValues, AlignedContent, AlignedEntries, AlignedVector]; decide)

/-- A list of null, an empty 32-bit vector and true reads back with null for true. -/
theorem not_roundTrips_misaligned :
    EncodableValues [.list [.null, .int32List [], .bool true]] ∧
      ¬RoundTrips [.list [.null, .int32List [], .bool true]] := by
  refine ⟨by simp [EncodableValues, Encodable], fun roundTrips => ?_⟩
  have misread : readValues (readValue 6) 1
      ⟨writeValues [.list [.null, .int32List [], .bool true]] [], 0⟩ =
        some ([.list [.null, .int32List [], .null]], ⟨[12, 3, 0, 9, 0, 1], 8⟩) := rfl
  have read := roundTrips 6 (by decide)
  cases misread.symm.trans read

/-! ## Method calls and envelopes -/

theorem readValues_cons_iff {read : ByteBufferStreamReader → Option (EncodableValue × _)}
    {count : Nat} {value : EncodableValue} {rest : List EncodableValue}
    {stream last : ByteBufferStreamReader} :
    readValues read (count + 1) stream = some (value :: rest, last) ↔
      ∃ next, read stream = some (value, next) ∧ readValues read count next = some (rest, last) := by
  simp [readValues, Option.bind_eq_some_iff]

theorem readByte_first (flag : Byte) (values : List EncodableValue) :
    ByteBufferStreamReader.readByte ⟨writeValues values (writeByte [] flag), 0⟩ =
      (flag, readerAt (writeValues values (writeByte [] flag)) (writeByte [] flag)) :=
  @readByte_at [] _ flag (prefix_writeValues values _)

/-- Values that read back from a buffer of their own, with fuel for its bytes. -/
structure Sent (values : List EncodableValue) (stream : ByteBufferStreamWriter) (fuel : Nat) :
    Prop where
  encodable : EncodableValues values
  aligned : AlignedValues values stream
  enough : (writeValues values stream).length ≤ fuel

theorem Sent.read {values : List EncodableValue} {fuel : Nat} (sent : Sent values stream fuel) :
    readValues (readValue fuel) values.length (readerAt (writeValues values stream) stream) =
      some (values, readerAt (writeValues values stream) (writeValues values stream)) :=
  readValues_at _ _ _ _ sent.encodable sent.aligned List.prefix_rfl
    (Nat.le_add_right_of_le sent.enough)

structure MethodCall where
  methodName : List Byte
  arguments : Option EncodableValue

/-- A call of a `MethodResult`, an envelope that is not accepted, or what `std::get` throws. -/
inductive Processed where
  | success (result : Option EncodableValue)
  | error (errorCode errorMessage : List Byte) (errorDetails : Option EncodableValue)
  | rejected
  | badVariantAccess

namespace StandardMethodCodec

/-- What is written, one value after the other. -/
def encodeMethodCall (methodCall : MethodCall) : List Byte :=
  writeValues [.string methodCall.methodName, methodCall.arguments.getD .null] []

/-- There is no call where the method name is not a string. -/
def decodeMethodCall (fuel : Nat) (message : List Byte) : Option (Option MethodCall) := do
  let (methodNameValue, stream) ← readValue fuel ⟨message, 0⟩
  match methodNameValue with
  | .string methodName =>
    let (arguments, _) ← readValue fuel stream
    return some ⟨methodName, some arguments⟩
  | _ => return none

def encodeSuccessEnvelope (result : Option EncodableValue) : List Byte :=
  writeValues [result.getD .null] (writeByte [] 0)

/-- An empty message is sent as null. -/
def messageValue (errorMessage : List Byte) : EncodableValue :=
  if errorMessage.isEmpty then .null else .string errorMessage

def encodeErrorEnvelope (errorCode errorMessage : List Byte)
    (errorDetails : Option EncodableValue) : List Byte :=
  writeValues [.string errorCode, messageValue errorMessage, errorDetails.getD .null]
    (writeByte [] 1)

def unlessNull : EncodableValue → Option EncodableValue
  | .null => none
  | value => some value

def decodeAndProcessResponseEnvelope (fuel : Nat) (response : List Byte) : Option Processed := do
  let (flag, stream) := ByteBufferStreamReader.readByte ⟨response, 0⟩
  if flag = 0 then
    let (value, _) ← readValue fuel stream
    return .success (unlessNull value)
  else if flag = 1 then
    let (code, stream) ← readValue fuel stream
    let (message, stream) ← readValue fuel stream
    let (details, _) ← readValue fuel stream
    match code, message with
    | .string code, .null => return .error code [] (unlessNull details)
    | .string code, .string message => return .error code message (unlessNull details)
    | _, _ => return .badVariantAccess
  else return .rejected

/-- A call comes back, with null for no arguments. -/
theorem methodCall_comesBack {methodName : List Byte}
    {arguments : Option EncodableValue} {fuel : Nat}
    (sent : Sent [.string methodName, arguments.getD .null] [] fuel) :
    decodeMethodCall fuel (encodeMethodCall ⟨methodName, arguments⟩) =
      some (some ⟨methodName, some (arguments.getD .null)⟩) := by
  obtain ⟨_, nameRead, _, argumentsRead, -⟩ := by
    simpa only [List.length_cons, readValues_cons_iff] using sent.read
  have first : readValue fuel ⟨encodeMethodCall ⟨methodName, arguments⟩, 0⟩ = _ := nameRead
  simp [decodeMethodCall, first, argumentsRead]

theorem methodCall_comesBack_add :
    decodeMethodCall 14 (encodeMethodCall ⟨[97, 100, 100], some (.list [.int32 1])⟩) =
      some (some ⟨[97, 100, 100], some (.list [.int32 1])⟩) :=
  methodCall_comesBack
    ⟨⟨(by decide : 3 < 2 ^ 32), ⟨(by decide : 1 < 2 ^ 32), trivial, trivial⟩, trivial⟩,
      ⟨trivial, ⟨trivial, trivial⟩, trivial⟩, by decide⟩

/-- An envelope makes the call it was encoded for, with nothing for null. -/
theorem processed_encodeEnvelope {fuel : Nat} :
    (∀ result : Option EncodableValue, Sent [result.getD .null] (writeByte [] 0) fuel →
        decodeAndProcessResponseEnvelope fuel (encodeSuccessEnvelope result) =
          some (.success (result.bind unlessNull))) ∧
      ∀ code message (details : Option EncodableValue),
        Sent [.string code, messageValue message, details.getD .null] (writeByte [] 1) fuel →
        decodeAndProcessResponseEnvelope fuel (encodeErrorEnvelope code message details) =
          some (.error code message (details.bind unlessNull)) := by
  constructor
  · intro result sent
    obtain ⟨_, valueRead, -⟩ := by
      simpa only [List.length_cons, readValues_cons_iff] using sent.read
    simp only [decodeAndProcessResponseEnvelope, encodeSuccessEnvelope, readByte_first, valueRead]
    cases result <;> rfl
  · intro code message details sent
    obtain ⟨_, codeRead, _, messageRead, _, detailsRead, -⟩ := by
      simpa only [List.length_cons, readValues_cons_iff] using sent.read
    simp only [decodeAndProcessResponseEnvelope, encodeErrorEnvelope, readByte_first, codeRead,
      Option.bind_eq_bind, Option.bind_some, messageRead, detailsRead]
    cases message <;> cases details <;> rfl

theorem processed_encodeEnvelope_true :
    decodeAndProcessResponseEnvelope 2 (encodeSuccessEnvelope (some (.bool true))) =
      some (.success (some (.bool true))) :=
  processed_encodeEnvelope.1 (some (.bool true))
    ⟨⟨trivial, trivial⟩, ⟨trivial, trivial⟩, by decide⟩

end StandardMethodCodec

end FlutterEngine.ClientWrapper
