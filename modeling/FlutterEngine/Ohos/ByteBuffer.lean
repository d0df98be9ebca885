import Mathlib.Algebra.Order.Ring.Int
import FlutterEngine.Std.LittleEndian

/-!
# The byte buffer of the OHOS embedding

`ByteBuffer` of `ByteBuffer.ets`. One class is both written and read there. A
buffer being written keeps its offset inside its view, which grows before each
write; `WriteBuffer` carries this as a field. A read outside the view throws.
-/

namespace FlutterEngine.Ohos

open FlutterEngine.Std LittleEndian

/-- What decoding a message can throw. -/
inductive Thrown where
  /-- A `RangeError` of `DataView` or of a typed array. -/
  | rangeError
  /-- A `SyntaxError` of `BigInt`. -/
  | syntaxError
  /-- Message corrupted, with this type. -/
  | corrupted (type : Byte)
  /-- Not thrown by the code: the model ran out of fuel. -/
  | outOfFuel
deriving DecidableEq, Repr

/-- A view of bytes and an offset into it. -/
structure ByteBuffer where
  dataView : List Byte
  byteOffset : Nat := 0

namespace ByteBuffer

variable (buffer : ByteBuffer)

/-! ## Reading -/

/-- The bytes of the view from an offset on. -/
def getUint8Array (byteOffset byteLength : Nat) : Except Thrown (List Byte) :=
  if byteOffset + byteLength ≤ buffer.dataView.length then
    .ok ((buffer.dataView.drop byteOffset).take byteLength)
  else .error .rangeError

def readUint8Array (byteLength : Nat) : Except Thrown (List Byte × ByteBuffer) := do
  let value ← buffer.getUint8Array buffer.byteOffset byteLength
  return (value, { buffer with byteOffset := buffer.byteOffset + value.length })

/-- Read a little-endian number of `size` bytes. -/
def readNumber (size : Nat) : Except Thrown (BitVec (8 * size) × ByteBuffer) := do
  let value ← buffer.getUint8Array buffer.byteOffset size
  return (BitVec.ofNat (8 * size) (ofBytes value),
    { buffer with byteOffset := buffer.byteOffset + size })

def readUint8 : Except Thrown (BitVec 8 × ByteBuffer) := buffer.readNumber 1

def readUint16 : Except Thrown (BitVec 16 × ByteBuffer) := buffer.readNumber 2

def readUint32 : Except Thrown (BitVec 32 × ByteBuffer) := buffer.readNumber 4

def readInt32 : Except Thrown (BitVec 32 × ByteBuffer) := buffer.readNumber 4

def readInt64 : Except Thrown (BitVec 64 × ByteBuffer) := buffer.readNumber 8

def readFloat64 : Except Thrown (BitVec 64 × ByteBuffer) := buffer.readNumber 8

def skip (byteLength : Nat) : ByteBuffer :=
  { buffer with byteOffset := buffer.byteOffset + byteLength }

end ByteBuffer

/-! ## Writing -/

/-- A buffer being written. -/
structure WriteBuffer extends ByteBuffer where
  inside : byteOffset ≤ dataView.length

namespace WriteBuffer

/-- Half as long again, or long enough with 512 bytes to spare. The shift is that of
a 32-bit integer. -/
def newCapacity (byteLength slen : Nat) : Nat :=
  let newCapacity : Int := byteLength + ((BitVec.ofNat 32 byteLength).sshiftRight 1).toInt
  if newCapacity < byteLength + slen + 512 then byteLength + slen + 512 else newCapacity.toNat

theorem le_newCapacity (byteLength slen : Nat) :
    byteLength + slen + 512 ≤ newCapacity byteLength slen := by
  unfold newCapacity
  dsimp only
  split <;> omega

variable (stream : WriteBuffer)

/-- The view, grown when a write of `slen` bytes would not fit. -/
def checkWriteCapacity (slen : Nat) : List Byte :=
  if stream.byteOffset + slen > stream.dataView.length then
    stream.dataView ++ List.replicate
      (newCapacity stream.dataView.length slen - stream.dataView.length) 0
  else stream.dataView

theorem prefix_checkWriteCapacity (slen : Nat) :
    stream.dataView <+: stream.checkWriteCapacity slen := by
  unfold checkWriteCapacity
  split
  · exact List.prefix_append _ _
  · exact List.prefix_rfl

theorem le_checkWriteCapacity (slen : Nat) :
    stream.byteOffset + slen ≤ (stream.checkWriteCapacity slen).length := by
  have inside := stream.inside
  have grown := le_newCapacity stream.dataView.length slen
  unfold checkWriteCapacity
  split
  · rw [List.length_append, List.length_replicate]
    omega
  · omega

/-- Every write: check the capacity, set the bytes and advance. -/
def write (bytes : List Byte) : WriteBuffer where
  dataView := (stream.checkWriteCapacity bytes.length).take stream.byteOffset ++ bytes ++
    (stream.checkWriteCapacity bytes.length).drop (stream.byteOffset + bytes.length)
  byteOffset := stream.byteOffset + bytes.length
  inside := by
    have room := stream.le_checkWriteCapacity bytes.length
    rw [List.length_append, List.length_append, List.length_take]
    omega

/-- `ByteBuffer.from` with a new `ArrayBuffer` of this length. -/
def ofLength (length : Nat) : WriteBuffer where
  dataView := List.replicate length 0
  byteOffset := 0
  inside := Nat.zero_le _

/-- The bytes before the offset. -/
def buffer : List Byte := stream.dataView.take stream.byteOffset

def writeUint8 (value : Byte) : WriteBuffer := stream.write [value]

def writeUint16 (value : BitVec 16) : WriteBuffer := stream.write (toBytes 2 value.toNat)

def writeUint32 (value : BitVec 32) : WriteBuffer := stream.write (toBytes 4 value.toNat)

def writeInt32 (value : BitVec 32) : WriteBuffer := stream.write (toBytes 4 value.toNat)

/-- `writeInt64` and `writeBigInt64`: the integer modulo 2^64. -/
def writeBigInt64 (value : Int) : WriteBuffer :=
  stream.write (toBytes 8 (BitVec.ofInt 64 value).toNat)

def writeFloat64 (value : BitVec 64) : WriteBuffer := stream.write (toBytes 8 value.toNat)

def writeUint8Array (value : List Byte) : WriteBuffer := stream.write value

@[simp] theorem byteOffset_write (bytes : List Byte) :
    (stream.write bytes).byteOffset = stream.byteOffset + bytes.length := rfl

@[simp] theorem length_buffer : stream.buffer.length = stream.byteOffset := by
  rw [buffer, List.length_take, Nat.min_eq_left stream.inside]

/-- A write appends, also when the view grows for it. -/
@[simp] theorem buffer_write (bytes : List Byte) :
    (stream.write bytes).buffer = stream.buffer ++ bytes := by
  have kept : (stream.checkWriteCapacity bytes.length).take stream.byteOffset = stream.buffer := by
    obtain ⟨grown, view⟩ := stream.prefix_checkWriteCapacity bytes.length
    rw [← view, List.take_append_of_le_length stream.inside, buffer]
  have size : (stream.buffer ++ bytes).length = (stream.write bytes).byteOffset := by
    rw [List.length_append, length_buffer, byteOffset_write]
  have view : (stream.write bytes).dataView = stream.buffer ++ bytes ++
      (stream.checkWriteCapacity bytes.length).drop (stream.byteOffset + bytes.length) := by
    rw [← kept]
    rfl
  rw [buffer, view, List.take_left' size]

end WriteBuffer

/-! ## Reading at the place of writing -/

section At

variable {stream : WriteBuffer} {bytes : List Byte}

open ByteBuffer WriteBuffer

/-- The reader over `bytes` where the writer stands. -/
abbrev readerAt (bytes : List Byte) (stream : WriteBuffer) : ByteBuffer := ⟨bytes, stream.byteOffset⟩

theorem getUint8Array_at {written : List Byte}
    (within : (stream.write written).buffer <+: bytes) :
    (readerAt bytes stream).getUint8Array stream.byteOffset written.length = .ok written := by
  obtain ⟨rest, rfl⟩ := within
  have start : (stream.buffer ++ (written ++ rest)).drop stream.byteOffset = written ++ rest :=
    List.drop_left' stream.length_buffer
  rw [getUint8Array, if_pos, buffer_write, List.append_assoc, start, List.take_left' rfl]
  simp

theorem readUint8Array_at {written : List Byte}
    (within : (stream.write written).buffer <+: bytes) :
    (readerAt bytes stream).readUint8Array written.length =
      .ok (written, readerAt bytes (stream.write written)) := by
  rw [readUint8Array, getUint8Array_at within]
  rfl

theorem readNumber_at (size : Nat) {value : BitVec (8 * size)}
    (within : (stream.write (toBytes size value.toNat)).buffer <+: bytes) :
    (readerAt bytes stream).readNumber size =
      .ok (value, readerAt bytes (stream.write (toBytes size value.toNat))) := by
  have read := getUint8Array_at within
  rw [length_toBytes] at read
  have advanced : stream.byteOffset + size = (stream.write (toBytes size value.toNat)).byteOffset := by
    rw [byteOffset_write, length_toBytes]
  rw [readNumber, read]
  change Except.ok _ = _
  rw [ofBytes_toBytes_toNat, advanced]

end At

end FlutterEngine.Ohos
