import Mathlib.Data.BitVec
import FlutterEngine.Messages.SameBytes

/-!
# One message for the three embeddings

Of a shared value the three writers append the same bytes, wherever they stand, and
each of the three readers makes of these bytes the value that corresponds.
-/

namespace FlutterEngine.Messages

open FlutterEngine.Std Ieee754.Binary64 FlutterEngine.Linux FlutterEngine.Ohos
open FlutterEngine.ClientWrapper (EncodableValue AlignedContent encodedTypeForValue)
open FlutterEngine.ClientWrapper.ByteBufferStreamWriter (writeByte)

/-- What the three embeddings make of a value written after these bytes. -/
structure Agree (utf8 : NativeUtf8) (value : EncodableValue) (stream : List Byte) : Prop where
  /-- Linux appends what the client wrapper appends. -/
  linux : FlStandardMessageCodec.writeValue stream (toFlValue value) =
    .ok (ClientWrapper.writeValue value stream)
  /-- So does OHOS. -/
  ohos : ∀ buffer : WriteBuffer, buffer.buffer = stream →
    (StandardMessageCodec.writeValue utf8 buffer (toValue utf8 value)).buffer =
      ClientWrapper.writeValue value stream
  /-- From any message with these bytes each reads its value, and reads them all. -/
  reads : ∀ (message : List Byte) (fuel : Nat), ClientWrapper.writeValue value stream <+: message →
    (ClientWrapper.writeValue value stream).length ≤ fuel + stream.length →
    ClientWrapper.readValue fuel ⟨message, stream.length⟩ =
        some (value, ⟨message, (ClientWrapper.writeValue value stream).length⟩) ∧
      FlStandardMessageCodec.readValue message fuel stream.length =
        .ok (toFlValue value, (ClientWrapper.writeValue value stream).length) ∧
      StandardMessageCodec.readValue utf8 fuel ⟨message, stream.length⟩ =
        .ok (toValue utf8 value, ⟨message, (ClientWrapper.writeValue value stream).length⟩)

/-! ## Reading -/

section Read

variable {utf8 : NativeUtf8} {value : EncodableValue} {stream message : List Byte} {fuel : Nat}

variable (shared : Shared utf8 value)
  (aligned : AlignedContent value (writeByte stream (encodedTypeForValue value).toByte))
  (within : ClientWrapper.writeValue value stream <+: message)
  (fueled : (ClientWrapper.writeValue value stream).length ≤ fuel + 1 + stream.length)

include shared aligned within fueled

theorem client_readValue :
    ClientWrapper.readValue (fuel + 1) ⟨message, stream.length⟩ =
      some (value, ⟨message, (ClientWrapper.writeValue value stream).length⟩) := by
  refine (ClientWrapper.readValue_succ within).trans ?_
  refine ClientWrapper.readValueOfType_at value _ message fuel (encodable_of_shared value shared)
    aligned within ?_
  rw [ClientWrapper.length_writeByte]
  change (ClientWrapper.writeValue value stream).length ≤ _
  omega

theorem linux_readValue :
    FlStandardMessageCodec.readValue message (fuel + 1) stream.length =
      .ok (toFlValue value, (ClientWrapper.writeValue value stream).length) :=
  FlStandardMessageCodec.readValue_at (toFlValue value) stream _ fuel
    (sendable_of_shared value shared) (linux_writeValue value stream shared aligned) within fueled

theorem ohos_readValue :
    StandardMessageCodec.readValue utf8 (fuel + 1) ⟨message, stream.length⟩ =
      .ok (toValue utf8 value, ⟨message, (ClientWrapper.writeValue value stream).length⟩) := by
  -- The reader was related to a writer that stands where it starts.
  let start := (WriteBuffer.ofLength 0).write stream
  have filled : start.buffer = stream := WriteBuffer.buffer_write _ _
  have written := ohos_writeValue value start shared (by rw [filled]; exact aligned)
  rw [filled] at written
  have place : start.byteOffset = stream.length := by rw [← WriteBuffer.length_buffer, filled]
  have ends : (StandardMessageCodec.writeValue utf8 start (toValue utf8 value)).byteOffset =
      (ClientWrapper.writeValue value stream).length := by
    rw [← written, WriteBuffer.length_buffer]
  obtain ⟨supported, preserved, normal⟩ := kept_of_shared value shared
  have back := (StandardMessageCodec.readBack_iff _ supported).mpr preserved
  have inside : (StandardMessageCodec.writeValue utf8 start (toValue utf8 value)).buffer <+:
      message := by
    rw [written]
    exact within
  have read := StandardMessageCodec.readValue_at (toValue utf8 value) start fuel supported inside
    (by rw [ends, place]; exact fueled)
  rw [back, normal, readerAt, readerAt, place, ends] at read
  exact read

end Read

/-! ## Agreement -/

/-- The embeddings agree on every shared value whose empty lists of numbers are
aligned where they are written. -/
theorem agree_of_shared (utf8 : NativeUtf8) (value : EncodableValue) (stream : List Byte)
    (shared : Shared utf8 value)
    (aligned : AlignedContent value (writeByte stream (encodedTypeForValue value).toByte)) :
    Agree utf8 value stream where
  linux := linux_writeValue value stream shared aligned
  ohos := by
    rintro buffer rfl
    exact ohos_writeValue value buffer shared aligned
  reads := by
    intro message fuel within fueled
    have grows := ClientWrapper.length_lt_writeValue value stream
    obtain ⟨fuel, rfl⟩ : ∃ less, fuel = less + 1 := ⟨fuel - 1, by omega⟩
    exact ⟨client_readValue shared aligned within fueled,
      linux_readValue shared aligned within fueled, ohos_readValue shared aligned within fueled⟩

/-- A map with a list of each kind of number, a text and an integer of 64 bits. -/
def sample : EncodableValue :=
  .map [(.int32 (-1), .list [.double 0x3FF8000000000000, .int64 (2 ^ 40), .int32List [7, 8]]),
    (.string [104, 105], .float64List [0])]

theorem agree_sample : Agree StandardMessageCodec.standardUtf8 sample [1] := by
  have text : StringUtils.stringToArrayBuffer StandardMessageCodec.standardUtf8 "hi" =
      [104, 105] := by decide
  have back :=
    StringUtils.uint8ArrayToString_stringToArrayBuffer StandardMessageCodec.standardUtf8 "hi"
  rw [text] at back
  have double : StaysDouble 0x3FF8000000000000 := ⟨by decide, by decide⟩
  have wide : Wide (2 ^ 40) := .inr (by decide)
  have linuxKeys :
      FlValue.equal (toFlValue (.int32 (-1))) (toFlValue (.string [104, 105])) = false := by
    simp [toFlValue, FlValue.equal]
  refine agree_of_shared StandardMessageCodec.standardUtf8 sample [1] ?_ ?_
  · exact ⟨by decide, List.pairwise_pair.mpr rfl, List.pairwise_pair.mpr linuxKeys,
      List.pairwise_pair.mpr rfl, trivial,
      ⟨(by decide : 3 < 2 ^ 32), double, wide, (by decide : 4 * 2 < 2 ^ 32), trivial⟩,
      ⟨(by decide : 2 < 2 ^ 32), by decide, by rw [back, text]⟩,
      (by decide : 8 * 1 < 2 ^ 32), trivial⟩
  · simp [sample, AlignedContent, ClientWrapper.AlignedEntries, ClientWrapper.AlignedValues,
      ClientWrapper.AlignedVector]

/-- A 64-bit integer that fits in 32 bits is written with 32 bits by Linux, and a double
that is an integer as an integer by OHOS. -/
theorem not_agree_narrow :
    FlStandardMessageCodec.writeValue [] (toFlValue (.int64 5)) = .ok [3, 5, 0, 0, 0] ∧
      ClientWrapper.writeValue (.int64 5) [] = [4, 5, 0, 0, 0, 0, 0, 0, 0] ∧
      ¬Agree StandardMessageCodec.standardUtf8 (.int64 5) [] ∧
      ¬Agree StandardMessageCodec.standardUtf8 (.double 0x3FF0000000000000) [] := by
  refine ⟨rfl, rfl, ?_, ?_⟩
  · intro agree
    cases agree.linux
  · intro agree
    have one : toInt? 0x3FF0000000000000 = some 1 := by decide
    have written : (StandardMessageCodec.writeNumber (WriteBuffer.ofLength 0)
        0x3FF0000000000000).buffer = [3, 1, 0, 0, 0] := by
      rw [StandardMessageCodec.writeNumber, one]
      dsimp only
      rw [if_pos (by decide), WriteBuffer.writeInt32, WriteBuffer.buffer_write, ohos_writeType]
      rfl
    cases written.symm.trans (agree.ohos (WriteBuffer.ofLength 0) rfl)

end FlutterEngine.Messages
