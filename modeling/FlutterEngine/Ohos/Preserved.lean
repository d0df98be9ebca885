import FlutterEngine.Ohos.MessageRoundTrip

/-!
# The messages preserved

Exactly the messages without a bigint below -2^63 or equal to 2^63, and without a map
two of whose keys become equal, decode to themselves up to normalisation.
-/

namespace FlutterEngine.Ohos.StandardMessageCodec

open FlutterEngine.Std Ieee754 FlutterEngine.Std.Ieee754.Binary64 Value

mutual

/-- Every bigint is at least -2^63 and is not 2^63; no map has two keys that are the
same once each safe bigint is a number. -/
def Preserved : Value → Prop
  | .bigint value => -2 ^ 63 ≤ value ∧ value ≠ 2 ^ 63
  | .array value => PreservedValues value
  | .map entries => PreservedEntries entries ∧ Distinct (normalizeEntries entries)
  | .null | .boolean _ | .number _ | .string _ | .uint8Array _ | .int32Array _ | .bigInt64Array _
  | .float32Array _ | .float64Array _ => True

def PreservedValues : List Value → Prop
  | [] => True
  | value :: rest => Preserved value ∧ PreservedValues rest

def PreservedEntries : List (Value × Value) → Prop
  | [] => True
  | (key, value) :: rest => Preserved key ∧ Preserved value ∧ PreservedEntries rest

end

/-! ## Bigints -/

theorem isInt64_iff {value : Int} : isInt64 value = true ↔ -2 ^ 63 ≤ value ∧ value ≤ 2 ^ 63 := by
  have most : toInt? int64Max = some (2 ^ 63) := by decide
  have least : toInt? int64Min = some (-2 ^ 63) := by decide
  rw [isInt64, most, least]
  simp

theorem readBackBigInt_iff (value : Int) :
    readBackBigInt value = .ok (ofBigInt value) ↔ -2 ^ 63 ≤ value ∧ value ≠ 2 ^ 63 := by
  unfold readBackBigInt
  by_cases narrow : isInt64 value = true
  · obtain ⟨least, most⟩ := isInt64_iff.mp narrow
    rw [if_pos narrow]
    by_cases limit : value = 2 ^ 63
    · rw [limit]
      exact iff_of_false (by simp [ofBigInt, IsSafe, maxSafeInteger]) (by simp)
    · have same : (BitVec.ofInt 64 value).toInt = value := by
        rw [BitVec.toInt_ofInt]
        exact Int.bmod_eq_of_le (by omega) (by omega)
      rw [same]
      exact iff_of_true rfl ⟨least, limit⟩
  · have wide := mt isInt64_iff.mpr narrow
    rw [if_neg narrow]
    by_cases negative : value < 0
    · rw [if_pos negative]
      exact iff_of_false (by simp) (by omega)
    · have notSafe : ¬IsSafe value := by
        unfold IsSafe maxSafeInteger
        omega
      rw [if_neg negative, ofBigInt, if_neg notSafe]
      exact iff_of_true rfl (by omega)

/-! ## Lists and maps -/

theorem readBackValues_cons {value : Value} {rest read : List Value} :
    readBackValues (value :: rest) = .ok read ↔
      ∃ first others, readBack value = .ok first ∧ readBackValues rest = .ok others ∧
        read = first :: others := by
  rw [readBackValues]
  cases readBack value with
  | error thrown => exact iff_of_false (by rintro ⟨⟩) (by rintro ⟨_, _, ⟨⟩, _⟩)
  | ok first =>
    cases readBackValues rest with
    | error thrown => exact iff_of_false (by rintro ⟨⟩) (by rintro ⟨_, _, _, ⟨⟩, _⟩)
    | ok others =>
      constructor
      · rintro ⟨⟩
        exact ⟨first, others, rfl, rfl, rfl⟩
      · rintro ⟨_, _, ⟨⟩, ⟨⟩, rfl⟩
        rfl

theorem readBackEntries_cons {key value : Value} {rest read : List (Value × Value)} :
    readBackEntries ((key, value) :: rest) = .ok read ↔
      ∃ firstKey first others, readBack key = .ok firstKey ∧ readBack value = .ok first ∧
        readBackEntries rest = .ok others ∧ read = (firstKey, first) :: others := by
  rw [readBackEntries]
  cases readBack key with
  | error thrown => exact iff_of_false (by rintro ⟨⟩) (by rintro ⟨_, _, _, ⟨⟩, _⟩)
  | ok firstKey =>
    cases readBack value with
    | error thrown => exact iff_of_false (by rintro ⟨⟩) (by rintro ⟨_, _, _, _, ⟨⟩, _⟩)
    | ok first =>
      cases readBackEntries rest with
      | error thrown => exact iff_of_false (by rintro ⟨⟩) (by rintro ⟨_, _, _, _, _, ⟨⟩, _⟩)
      | ok others =>
        constructor
        · rintro ⟨⟩
          exact ⟨firstKey, first, others, rfl, rfl, rfl, rfl⟩
        · rintro ⟨_, _, _, ⟨⟩, ⟨⟩, ⟨⟩, rfl⟩
          rfl

variable {utf8 : NativeUtf8}

theorem ofInt_ne_negativeZero {value : Int} (safe : IsSafe value) : ofInt value ≠ negativeZero := by
  intro same
  have integer := toInt?_ofInt safe
  have zero : toInt? negativeZero = some 0 := by decide
  rw [same, zero] at integer
  cases integer
  exact absurd same (by decide)

theorem storedKey_ofBigInt (value : Int) : storedKey (ofBigInt value) = ofBigInt value := by
  unfold ofBigInt
  split
  · rename_i safe
    rw [storedKey, if_neg (ofInt_ne_negativeZero safe)]
  · rfl

/-- No key read back is negative zero. -/
theorem storedKey_readBack {key read : Value} (supported : Supported utf8 key)
    (reads : readBack key = .ok read) : storedKey read = read := by
  cases key with
  | number value =>
    cases reads
    rw [storedKey, if_neg supported.2]
  | bigint value =>
    rw [readBack, readBackBigInt] at reads
    split at reads
    · cases reads
      exact storedKey_ofBigInt _
    split at reads <;> cases reads
    rfl
  | array value =>
    rw [readBack] at reads
    cases values : readBackValues value <;> rw [values] at reads <;> cases reads
    rfl
  | map entries =>
    rw [readBack] at reads
    cases values : readBackEntries entries <;> rw [values] at reads <;> cases reads
    rfl
  | _ =>
    cases reads
    rfl

theorem storedKey_readBackEntries {entries read : List (Value × Value)}
    (supported : SupportedEntries utf8 entries) (reads : readBackEntries entries = .ok read) :
    read.length = entries.length ∧ ∀ entry ∈ read, storedKey entry.1 = entry.1 := by
  induction entries generalizing read with
  | nil =>
    cases reads
    exact ⟨rfl, fun _ listed => absurd listed List.not_mem_nil⟩
  | cons entry rest ih =>
    obtain ⟨key, value, others, keyReads, -, restReads, rfl⟩ := readBackEntries_cons.mp reads
    obtain ⟨length, stored⟩ := ih supported.2.2 restReads
    refine ⟨congrArg (· + 1) length, fun entry listed => ?_⟩
    cases listed with
    | head => exact storedKey_readBack supported.1 keyReads
    | tail _ listed => exact stored entry listed

/-! ## Whole messages -/

mutual

theorem readBack_iff : ∀ value, Supported utf8 value →
    (readBack value = .ok value.normalize ↔ Preserved value)
  | .bigint value, _ => readBackBigInt_iff value
  | .array value, supported => by
      have values := readBackValues_iff value supported.2
      rw [readBack, Value.normalize, Preserved, ← values]
      cases readBackValues value <;> simp [Except.map]
  | .map entries, supported => by
      have all := readBackEntries_iff entries supported.2.2
      rw [readBack, Value.normalize, Preserved, ← all]
      cases reads : readBackEntries entries with
      | error thrown => exact iff_of_false (by rintro ⟨⟩) (by rintro ⟨⟨⟩, _⟩)
      | ok read =>
        obtain ⟨length, stored⟩ := storedKey_readBackEntries supported.2.2 reads
        obtain ⟨distinct, kept⟩ := length_setAll_iff stored
        constructor
        · intro same
          have entriesSame : setAll [] read = normalizeEntries entries := by
            injection same with same
            injection same
          have all := distinct.mp (by rw [entriesSame, length_normalizeEntries, ← length])
          rw [kept all] at entriesSame
          exact ⟨congrArg _ entriesSame, entriesSame ▸ all⟩
        · rintro ⟨same, all⟩
          injection same with same
          subst same
          exact congrArg (fun entries => Except.ok (Value.map entries)) (kept all)
  | .null, _ | .boolean _, _ | .number _, _ | .string _, _ | .uint8Array _, _ | .int32Array _, _
  | .bigInt64Array _, _ | .float32Array _, _ | .float64Array _, _ => iff_of_true rfl trivial

theorem readBackValues_iff : ∀ values, SupportedValues utf8 values →
    (readBackValues values = .ok (normalizeValues values) ↔ PreservedValues values)
  | [], _ => iff_of_true rfl trivial
  | value :: rest, supported => by
      have first := readBack_iff value supported.1
      have others := readBackValues_iff rest supported.2
      rw [readBackValues_cons, normalizeValues, PreservedValues, ← first, ← others]
      constructor
      · rintro ⟨_, _, reads, restReads, same⟩
        injection same with head tail
        exact ⟨head ▸ reads, tail ▸ restReads⟩
      · rintro ⟨reads, restReads⟩
        exact ⟨_, _, reads, restReads, rfl⟩

theorem readBackEntries_iff : ∀ entries, SupportedEntries utf8 entries →
    (readBackEntries entries = .ok (normalizeEntries entries) ↔ PreservedEntries entries)
  | [], _ => iff_of_true rfl trivial
  | (key, value) :: rest, supported => by
      have keys := readBack_iff key supported.1
      have values := readBack_iff value supported.2.1
      have others := readBackEntries_iff rest supported.2.2
      rw [readBackEntries_cons, normalizeEntries, PreservedEntries, ← keys, ← values, ← others]
      constructor
      · rintro ⟨_, _, _, keyReads, reads, restReads, same⟩
        injection same with head tail
        injection head with key value
        exact ⟨key ▸ keyReads, value ▸ reads, tail ▸ restReads⟩
      · rintro ⟨keyReads, reads, restReads⟩
        exact ⟨_, _, _, keyReads, reads, restReads, rfl⟩

end

/-- A decoded encoding is what reads back. -/
theorem decodeMessage_encodeMessage {message : Value} (supported : Supported utf8 message) :
    decodeMessage utf8 (some (encodeMessage utf8 message)) = readBack message := by
  have fueled : (writeValue utf8 (WriteBuffer.ofLength 1024) message).byteOffset ≤
      (encodeMessage utf8 message).length + 1 + (WriteBuffer.ofLength 1024).byteOffset := by
    rw [encodeMessage, WriteBuffer.length_buffer]
    omega
  have within : (writeValue utf8 (WriteBuffer.ofLength 1024) message).buffer <+:
    encodeMessage utf8 message := List.prefix_rfl
  have reads := readValue_at message _ _ supported within fueled
  have start : readerAt (encodeMessage utf8 message) (WriteBuffer.ofLength 1024) =
    ⟨encodeMessage utf8 message, 0⟩ := rfl
  rw [start] at reads
  rw [decodeMessage, reads]
  cases readBack message <;> rfl

/-- A message decodes from its encoding up to normalisation exactly when it is
preserved. -/
theorem decodeMessage_encodeMessage_iff (utf8 : NativeUtf8) (message : Value)
    (supported : Supported utf8 message) :
    decodeMessage utf8 (some (encodeMessage utf8 message)) = .ok message.normalize ↔
      Preserved message := by
  rw [decodeMessage_encodeMessage supported]
  exact readBack_iff message supported

/-- UTF-8 itself. -/
def standardUtf8 : NativeUtf8 where
  encode text := text.toByteArray.data.toList.map UInt8.toBitVec
  decode bytes := (String.fromUTF8? ⟨(bytes.map UInt8.ofBitVec).toArray⟩).getD ""
  decode_encode text := by
    have bytes : (text.toByteArray.data.toList.map UInt8.toBitVec).map UInt8.ofBitVec =
        text.toByteArray.data.toList := by simp [Function.comp_def]
    have whole : (⟨text.toByteArray.data.toList.toArray⟩ : ByteArray) = text.toByteArray := rfl
    rw [bytes, whole, String.fromUTF8?, dif_pos text.isValidUTF8]
    rfl
  nonempty text empty := by
    have none : text.toByteArray.data = #[] := by simpa using empty
    have same : text.toByteArray = "".toByteArray := congrArg ByteArray.mk none
    exact String.toByteArray_inj.mp same

/-- Maps with a bigint and a string for keys, a double, a wide bigint and a typed
array. -/
def sampleMessage : Value :=
  .array [.map [(.bigint 5, .number 0x3FF8000000000000), (.string "key", .bigint (2 ^ 63 - 1))],
    .int32Array [1, 2], .map [], .boolean true]

theorem decodeMessage_encodeMessage_sampleMessage :
    Supported standardUtf8 sampleMessage ∧ Preserved sampleMessage ∧
      decodeMessage standardUtf8 (some (encodeMessage standardUtf8 sampleMessage)) =
        .ok sampleMessage.normalize := by
  have five : (toString16 5).length < 2 ^ 32 := by simp [toString16]
  have most : (toString16 (2 ^ 63 - 1)).length < 2 ^ 32 := by simp [toString16]
  have text : (StringUtils.stringToArrayBuffer standardUtf8 "key").length < 2 ^ 32 := by decide
  have supported : Supported standardUtf8 sampleMessage :=
    ⟨by decide, ⟨by decide, List.pairwise_pair.mpr rfl, five, ⟨by decide, by decide⟩, text, most,
      trivial⟩, (by decide : 2 < 2 ^ 32), ⟨by decide, List.Pairwise.nil, trivial⟩, trivial, trivial⟩
  have preserved : Preserved sampleMessage :=
    ⟨⟨⟨⟨by decide, by decide⟩, trivial, trivial, ⟨by decide, by decide⟩, trivial⟩,
      List.pairwise_pair.mpr rfl⟩, trivial, ⟨trivial, List.Pairwise.nil⟩, trivial, trivial⟩
  exact ⟨supported, preserved,
    (decodeMessage_encodeMessage_iff standardUtf8 sampleMessage supported).mpr preserved⟩

/-- The bigint 2^63 comes back negative. -/
theorem decodeMessage_encodeMessage_int64Max :
    Supported standardUtf8 (.bigint (2 ^ 63)) ∧
      decodeMessage standardUtf8 (some (encodeMessage standardUtf8 (.bigint (2 ^ 63)))) =
        .ok (.bigint (-2 ^ 63)) ∧
      ¬decodeMessage standardUtf8 (some (encodeMessage standardUtf8 (.bigint (2 ^ 63)))) =
        .ok (Value.bigint (2 ^ 63)).normalize := by
  have supported : Supported standardUtf8 (.bigint (2 ^ 63)) := by
    change (toString16 (2 ^ 63)).length < 2 ^ 32
    simp [toString16]
  rw [decodeMessage_encodeMessage supported]
  exact ⟨supported, rfl, mt (readBackBigInt_iff (2 ^ 63)).mp fun limits => limits.2 rfl⟩

end FlutterEngine.Ohos.StandardMessageCodec
