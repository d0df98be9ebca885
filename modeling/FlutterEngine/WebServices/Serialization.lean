import FlutterEngine.Std.EntryLists
import FlutterEngine.Std.Ieee754
import FlutterEngine.Std.LittleEndian

/-!
# Serialization in the web engine

The values of a message, and `WriteBuffer` and `ReadBuffer` of `serialization.dart`. Numbers are
written as the host stores them, which is little-endian.
-/

namespace FlutterEngine.WebServices

open FlutterEngine.Std LittleEndian FlutterEngine.Std.Ieee754

/-- A value of a message. Numbers are their bits, strings are sequences of Unicode scalar values, a
map is its entries in insertion order. An object is known by its content only. -/
inductive Value where
  | null
  | bool (value : Bool)
  | int (value : BitVec 64)
  | double (value : Binary64)
  | string (value : String)
  | uint8List (value : List Byte)
  | int32List (value : List (BitVec 32))
  | int64List (value : List (BitVec 64))
  | float64List (value : List (BitVec 64))
  | list (value : List Value)
  | map (value : List (Value × Value))

/-- `==` of two keys of a map. Numbers are equal when they are so in value. Lists and maps are
compared by identity, and no two keys of a map are one object. -/
def Value.sameKey : Value → Value → Bool
  | .null, .null => true
  | .bool left, .bool right => left == right
  | .int left, .int right => left == right
  | .double left, .double right => Ieee754.equal infinity64 left right
  | .int left, .double right => Binary64.toInt? right == some left.toInt
  | .double left, .int right => Binary64.toInt? left == some right.toInt
  | .string left, .string right => left == right
  | _, _ => false

/-- What encoding and decoding can throw. -/
inductive Thrown where
  | formatException (message : String)
  /-- A `FormatException` of `utf8.decoder` or of `int.parse`. -/
  | malformed
  | rangeError
  | typeError
  | assertionError
  | platformException (code : String) (message : Option String) (details : Value)
  /-- Not thrown by the code: the model ran out of fuel. -/
  | outOfFuel

/-- A view of the bytes of a buffer. -/
structure ByteData where
  buffer : List Byte
  offsetInBytes : Nat
  lengthInBytes : Nat
  within : offsetInBytes + lengthInBytes ≤ buffer.length

/-! ## Writing -/

/-- A buffer that is written is the bytes in it. -/
abbrev WriteBuffer := List Byte

namespace WriteBuffer

variable (buffer : WriteBuffer)

def putUint8 (byte : Byte) : WriteBuffer := buffer ++ [byte]

/-- Set the low bytes of a number in `_eightBytes` and add `size` of them. -/
def putNumber (size value : Nat) : WriteBuffer := buffer ++ toBytes size value

def putUint16 (value : Nat) : WriteBuffer := putNumber buffer 2 value

def putUint32 (value : Nat) : WriteBuffer := putNumber buffer 4 value

def putInt32 (value : BitVec 64) : WriteBuffer := putNumber buffer 4 value.toNat

def putInt64 (value : BitVec 64) : WriteBuffer := putNumber buffer 8 value.toNat

def alignTo (alignment : Nat) : WriteBuffer :=
  buffer ++ List.replicate (padding alignment buffer.length) 0

def putFloat64 (value : Binary64) : WriteBuffer := putNumber (alignTo buffer 8) 8 value.toNat

def putUint8List (list : List Byte) : WriteBuffer := buffer ++ list

/-- The lists of wider elements are aligned to the size of these. -/
def putList (size : Nat) (list : List (BitVec (8 * size))) : WriteBuffer :=
  alignTo buffer size ++ ofElements list

def putInt32List (list : List (BitVec 32)) : WriteBuffer := putList buffer 4 list

def putInt64List (list : List (BitVec 64)) : WriteBuffer := putList buffer 8 list

def putFloat64List (list : List (BitVec 64)) : WriteBuffer := putList buffer 8 list

/-- The bytes written. The buffer they are in may be larger, by `spare` bytes. -/
def done (spare : List Byte) : ByteData where
  buffer := buffer ++ spare
  offsetInBytes := 0
  lengthInBytes := buffer.length
  within := by rw [Nat.zero_add, List.length_append]; exact Nat.le_add_right _ _

end WriteBuffer

/-! ## Reading -/

/-- The data and the position to read next. -/
structure ReadBuffer where
  data : ByteData
  position : Nat := 0

namespace ReadBuffer

variable (buffer : ReadBuffer)

def hasRemaining : Bool := buffer.position < buffer.data.lengthInBytes

/-- The bytes of the underlying buffer from the position on. -/
def ahead : List Byte := buffer.data.buffer.drop (buffer.data.offsetInBytes + buffer.position)

def advance (count : Nat) : ReadBuffer := { buffer with position := buffer.position + count }

/-- A number of `size` bytes of the data. -/
def getNumber (size : Nat) : Except Thrown (BitVec (8 * size) × ReadBuffer) :=
  if buffer.position + size ≤ buffer.data.lengthInBytes then
    .ok (BitVec.ofNat (8 * size) (ofBytes (buffer.ahead.take size)), buffer.advance size)
  else .error .rangeError

def getUint8 : Except Thrown (Byte × ReadBuffer) := buffer.getNumber 1

def getUint16 : Except Thrown (BitVec 16 × ReadBuffer) := buffer.getNumber 2

def getUint32 : Except Thrown (BitVec 32 × ReadBuffer) := buffer.getNumber 4

/-- An `int` with the sign of the 32 bits read. -/
def getInt32 : Except Thrown (BitVec 64 × ReadBuffer) := do
  let (value, buffer) ← buffer.getNumber 4
  return (value.signExtend 64, buffer)

def getInt64 : Except Thrown (BitVec 64 × ReadBuffer) := buffer.getNumber 8

def alignTo (alignment : Nat) : ReadBuffer := buffer.advance (padding alignment buffer.position)

def getFloat64 : Except Thrown (Binary64 × ReadBuffer) := (buffer.alignTo 8).getNumber 8

/-- A view of `count` bytes of the underlying buffer, which the end of the data does not limit. -/
def getUint8List (count : Nat) : Except Thrown (List Byte × ReadBuffer) :=
  if buffer.data.offsetInBytes + buffer.position + count ≤ buffer.data.buffer.length then
    .ok (buffer.ahead.take count, buffer.advance count)
  else .error .rangeError

/-- A view of `count` elements, which has to begin at a multiple of their size. -/
def getList (size count : Nat) : Except Thrown (List (BitVec (8 * size)) × ReadBuffer) := do
  let aligned := buffer.alignTo size
  if (aligned.data.offsetInBytes + aligned.position) % size ≠ 0 then throw .rangeError
  let (bytes, buffer) ← aligned.getUint8List (count * size)
  return (toElements size count bytes, buffer)

def getInt32List (count : Nat) : Except Thrown (List (BitVec 32) × ReadBuffer) :=
  buffer.getList 4 count

def getInt64List (count : Nat) : Except Thrown (List (BitVec 64) × ReadBuffer) :=
  buffer.getList 8 count

def getFloat64List (count : Nat) : Except Thrown (List (BitVec 64) × ReadBuffer) :=
  buffer.getList 8 count

end ReadBuffer

/-! ## Reading at the place of writing -/

/-- The data has what was written at its start. -/
structure ByteData.Holds (data : ByteData) (written : WriteBuffer) : Prop where
  start : data.offsetInBytes = 0
  begins : written <+: data.buffer
  fits : written.length ≤ data.lengthInBytes

section At

variable {data : ByteData} {written later : WriteBuffer}

open WriteBuffer ReadBuffer

theorem ByteData.Holds.of_prefix (holds : data.Holds later) (earlier : written <+: later) :
    data.Holds written :=
  ⟨holds.start, earlier.trans holds.begins, earlier.length_le.trans holds.fits⟩

theorem holds_done (spare : List Byte) : (done written spare).Holds written :=
  ⟨rfl, List.prefix_append _ _, Nat.le_refl _⟩

/-- The reader where the writer stands. -/
abbrev readerAt (data : ByteData) (written : WriteBuffer) : ReadBuffer := ⟨data, written.length⟩

theorem take_ahead_at {bytes : List Byte} (holds : data.Holds (written ++ bytes)) :
    (readerAt data written).ahead.take bytes.length = bytes := by
  obtain ⟨rest, buffer⟩ := holds.begins
  rw [ahead, holds.start, Nat.zero_add, ← buffer, List.append_assoc, List.drop_left,
    List.take_left]

theorem advance_at (data : ByteData) (written bytes : List Byte) :
    (readerAt data written).advance bytes.length = readerAt data (written ++ bytes) := by
  change ReadBuffer.mk data (written.length + bytes.length) = _
  rw [← List.length_append]

theorem getNumber_at {size value : Nat} (holds : data.Holds (putNumber written size value)) :
    (readerAt data written).getNumber size =
      .ok (BitVec.ofNat (8 * size) value, readerAt data (putNumber written size value)) := by
  have fits := holds.fits
  have read := take_ahead_at holds
  have next := advance_at data written (toBytes size value)
  rw [length_toBytes] at read next
  rw [putNumber, List.length_append, length_toBytes] at fits
  have width : 256 ^ size = 2 ^ (8 * size) := by rw [Nat.pow_mul]
  have same : BitVec.ofNat (8 * size) (value % 256 ^ size) = BitVec.ofNat (8 * size) value := by
    apply BitVec.eq_of_toNat_eq
    rw [BitVec.toNat_ofNat, BitVec.toNat_ofNat, width, Nat.mod_mod]
  rw [getNumber, if_pos fits, read, next, ofBytes_toBytes, same]
  rfl

theorem getUint8_at {byte : Byte} (holds : data.Holds (putUint8 written byte)) :
    (readerAt data written).getUint8 = .ok (byte, readerAt data (putUint8 written byte)) := by
  have byteOf : toBytes 1 byte.toNat = [byte] := by simp [toBytes]
  have number : putNumber written 1 byte.toNat = putUint8 written byte := by
    rw [putNumber, byteOf, putUint8]
  rw [← number] at holds ⊢
  rw [getUint8, getNumber_at holds]
  simp

theorem alignTo_at (alignment : Nat) :
    (readerAt data written).alignTo alignment = readerAt data (alignTo written alignment) := by
  have next := advance_at data written (List.replicate (padding alignment written.length) 0)
  rw [List.length_replicate] at next
  exact next

theorem getUint8List_at {list : List Byte} (holds : data.Holds (putUint8List written list)) :
    (readerAt data written).getUint8List list.length =
      .ok (list, readerAt data (putUint8List written list)) := by
  have fits := holds.begins.length_le
  rw [putUint8List, List.length_append] at fits
  rw [getUint8List, if_pos (by rw [holds.start, Nat.zero_add]; exact fits), take_ahead_at holds,
    advance_at]
  rfl

theorem getList_at {size : Nat} (positive : 0 < size) {list : List (BitVec (8 * size))}
    (holds : data.Holds (putList written size list)) :
    (readerAt data written).getList size list.length =
      .ok (list, readerAt data (putList written size list)) := by
  have read := getUint8List_at holds
  have aligned : (data.offsetInBytes + (alignTo written size).length) % size = 0 := by
    rw [holds.start, Nat.zero_add, WriteBuffer.alignTo, List.length_append, List.length_replicate]
    exact add_padding_mod positive
  rw [length_ofElements] at read
  rw [getList, alignTo_at]
  simp only [aligned, ne_eq, not_true_eq_false, if_false, read]
  change Except.ok _ = _
  rw [toElements_ofElements]
  rfl

end At

end FlutterEngine.WebServices
