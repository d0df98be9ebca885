import FlutterEngine.Linux.FlValue

/-!
# The standard message codec of the Linux embedding

`FlStandardMessageCodec` of `fl_standard_message_codec.cc`. A `GByteArray` is the bytes
appended so far; it never reaches 2^32 bytes, where GLib ends the program. Offsets
into a message do not overflow. The recursion of the reader has fuel; a message has
always enough of it, since every value takes a byte.
-/

namespace FlutterEngine.Linux

open FlutterEngine.Std LittleEndian

/-- The codes of the message codec's errors that this codec uses. -/
inductive FlMessageCodecError where
  | outOfData
  | additionalData
  | unsupportedType
  /-- Not an error of the code: the model ran out of fuel. -/
  | outOfFuel
deriving DecidableEq, Repr

structure GError where
  code : FlMessageCodecError
  message : String
deriving DecidableEq, Repr

abbrev GByteArray := List Byte

abbrev GBytes := List Byte

/-- `g_byte_array_append`. The size of the data is passed as a 32-bit integer. -/
def GByteArray.append (buffer : GByteArray) (data : List Byte) : GByteArray :=
  buffer ++ data.take (BitVec.ofNat 32 data.length).toNat

namespace FlStandardMessageCodec

/-- The byte before an encoded value. -/
inductive ValueType where
  | null
  | true
  | false
  | int32
  | int64
  | float64
  | string
  | uint8List
  | int32List
  | int64List
  | float64List
  | list
  | map
  | float32List
deriving DecidableEq, Repr

namespace ValueType

def toByte : ValueType → Byte
  | null => 0
  | true => 1
  | false => 2
  | int32 => 3
  | int64 => 4
  | float64 => 6
  | string => 7
  | uint8List => 8
  | int32List => 9
  | int64List => 10
  | float64List => 11
  | list => 12
  | map => 13
  | float32List => 14

def all : List ValueType :=
  [null, true, false, int32, int64, float64, string, uint8List, int32List, int64List, float64List,
    list, map, float32List]

def ofByte? (byte : Byte) : Option ValueType := all.find? fun type => type.toByte == byte

theorem ofByte?_toByte (type : ValueType) : ofByte? type.toByte = some type := by
  cases type <;> rfl

end ValueType

/-! ## Writing -/

section Write

variable (buffer : GByteArray)

def writeUint8 (value : Byte) : GByteArray := buffer.append [value]

def writeUint16 (value : BitVec 16) : GByteArray := buffer.append (toBytes 2 value.toNat)

def writeUint32 (value : BitVec 32) : GByteArray := buffer.append (toBytes 4 value.toNat)

def writeInt32 (value : BitVec 32) : GByteArray := buffer.append (toBytes 4 value.toNat)

def writeInt64 (value : BitVec 64) : GByteArray := buffer.append (toBytes 8 value.toNat)

def writeFloat64 (value : BitVec 64) : GByteArray := buffer.append (toBytes 8 value.toNat)

/-- Zero bytes as long as the length is no multiple of the alignment. -/
def writeAlign (align : Nat) : GByteArray :=
  Nat.repeat (writeUint8 · 0) (padding align buffer.length) buffer

def writeType (type : ValueType) : GByteArray := writeUint8 buffer type.toByte

def writeSize (size : BitVec 32) : GByteArray :=
  if size.toNat < 254 then writeUint8 buffer (size.setWidth 8)
  else if size.toNat ≤ 0xffff then writeUint16 (writeUint8 buffer 254) (size.setWidth 16)
  else writeUint32 (writeUint8 buffer 255) size

/-- The size of a text or a list is passed as a 32-bit integer, too. -/
def writeLength (length : Nat) : GByteArray := writeSize buffer (BitVec.ofNat 32 length)

def writeInt (value : BitVec 64) : GByteArray :=
  if -2 ^ 31 ≤ value.toInt ∧ value.toInt ≤ 2 ^ 31 - 1 then
    writeInt32 (writeType buffer .int32) (value.setWidth 32)
  else writeInt64 (writeType buffer .int64) value

def writeBytes (type : ValueType) (bytes : List Byte) : GByteArray :=
  (writeLength (writeType buffer type) bytes.length).append bytes

/-- A list of numbers of `size` bytes. -/
def writeItems (type : ValueType) (size : Nat) (items : List (BitVec (8 * size))) : GByteArray :=
  (writeAlign (writeLength (writeType buffer type) items.length) size).append (ofElements items)

end Write

mutual

def writeValue (buffer : GByteArray) : FlValue → Except GError GByteArray
  | .null => .ok (writeType buffer .null)
  | .bool value => .ok (writeType buffer (if value then .true else .false))
  | .int value => .ok (writeInt buffer value)
  | .float value => .ok (writeFloat64 (writeAlign (writeType buffer .float64) 8) value)
  | .string value => .ok (writeBytes buffer .string value.bytes)
  | .uint8List values => .ok (writeBytes buffer .uint8List values)
  | .int32List values => .ok (writeItems buffer .int32List 4 values)
  | .int64List values => .ok (writeItems buffer .int64List 8 values)
  | .float32List values => .ok (writeItems buffer .float32List 4 values)
  | .floatList values => .ok (writeItems buffer .float64List 8 values)
  | .list values => writeValues (writeLength (writeType buffer .list) values.length) values
  | .map entries => writeEntries (writeLength (writeType buffer .map) entries.length) entries
  | .custom _ => .error ⟨.unsupportedType, "Custom value not implemented"⟩

def writeValues (buffer : GByteArray) : List FlValue → Except GError GByteArray
  | [] => .ok buffer
  | value :: rest => do
      let buffer ← writeValue buffer value
      writeValues buffer rest

def writeEntries (buffer : GByteArray) : List (FlValue × FlValue) → Except GError GByteArray
  | [] => .ok buffer
  | (key, value) :: rest => do
      let buffer ← writeValue buffer key
      let buffer ← writeValue buffer value
      writeEntries buffer rest

end

/-- `encode_message`; `none` is a message that is `nullptr`. -/
def encodeMessage : Option FlValue → Except GError GBytes
  | none => .ok (writeType [] .null)
  | some message => writeValue [] message

/-! ## Reading -/

section Read

variable (buffer : GBytes) (offset : Nat)

def checkSize (required : Nat) : Except GError Unit :=
  if offset + required > buffer.length then .error ⟨.outOfData, "Unexpected end of data"⟩
  else .ok ()

def readAlign (align : Nat) : Except GError Nat :=
  if offset % align = 0 then .ok offset
  else do
    let required := align - offset % align
    checkSize buffer offset required
    return offset + required

/-- As many bytes, which the code reads in place. -/
def getData (length : Nat) : List Byte := (buffer.drop offset).take length

/-- Read a number of `size` bytes. -/
def readNumber (size : Nat) : Except GError (BitVec (8 * size) × Nat) := do
  checkSize buffer offset size
  return (BitVec.ofNat (8 * size) (ofBytes (getData buffer offset size)), offset + size)

def readUint8 : Except GError (BitVec 8 × Nat) := readNumber buffer offset 1

def readUint16 : Except GError (BitVec 16 × Nat) := readNumber buffer offset 2

def readUint32 : Except GError (BitVec 32 × Nat) := readNumber buffer offset 4

def readSize : Except GError (BitVec 32 × Nat) := do
  let (value8, offset) ← readUint8 buffer offset
  if value8 = 255 then readUint32 buffer offset
  else if value8 = 254 then
    let (value16, offset) ← readUint16 buffer offset
    return (value16.setWidth 32, offset)
  else return (value8.setWidth 32, offset)

def readInt32Value : Except GError (FlValue × Nat) := do
  let (value, offset) ← readNumber buffer offset 4
  return (.int (BitVec.signExtend 64 value), offset)

def readInt64Value : Except GError (FlValue × Nat) := do
  let (value, offset) ← readNumber buffer offset 8
  return (.int value, offset)

def readFloat64Value : Except GError (FlValue × Nat) := do
  let offset ← readAlign buffer offset 8
  let (value, offset) ← readNumber buffer offset 8
  return (.float value, offset)

/-- The bytes of a text or of a list of bytes, after their size. -/
def readBytes : Except GError (List Byte × Nat) := do
  let (length, offset) ← readSize buffer offset
  checkSize buffer offset length.toNat
  return (getData buffer offset length.toNat, offset + length.toNat)

/-- A list of numbers of `size` bytes. -/
def readItems (size : Nat) : Except GError (List (BitVec (8 * size)) × Nat) := do
  let (length, offset) ← readSize buffer offset
  let offset ← readAlign buffer offset size
  checkSize buffer offset (size * length.toNat)
  return (toElements size length.toNat (getData buffer offset (size * length.toNat)),
    offset + size * length.toNat)

end Read

section ReadValue

variable (readValue : Nat → Except GError (FlValue × Nat))

def readValues : Nat → Nat → Except GError (List FlValue × Nat)
  | 0, offset => return ([], offset)
  | count + 1, offset => do
      let (child, offset) ← readValue offset
      let (children, offset) ← readValues count offset
      return (child :: children, offset)

def readEntries : Nat → List (FlValue × FlValue) → Nat →
    Except GError (List (FlValue × FlValue) × Nat)
  | 0, map, offset => return (map, offset)
  | count + 1, map, offset => do
      let (key, offset) ← readValue offset
      let (value, offset) ← readValue offset
      readEntries count (FlValue.set map key value) offset

/-- Two hexadecimal digits. -/
def hexadecimal (byte : Byte) : String :=
  String.ofList [Nat.digitChar (byte.toNat / 16), Nat.digitChar (byte.toNat % 16)]

def readValueOfType (buffer : GBytes) (type : Byte) (offset : Nat) :
    Except GError (FlValue × Nat) :=
  match ValueType.ofByte? type with
  | some .null => return (.null, offset)
  | some .true => return (.bool true, offset)
  | some .false => return (.bool false, offset)
  | some .int32 => readInt32Value buffer offset
  | some .int64 => readInt64Value buffer offset
  | some .float64 => readFloat64Value buffer offset
  | some .string => do
      let (bytes, offset) ← readBytes buffer offset
      return (.string (CString.ofSized bytes), offset)
  | some .uint8List => do
      let (values, offset) ← readBytes buffer offset
      return (.uint8List values, offset)
  | some .int32List => do
      let (values, offset) ← readItems buffer offset 4
      return (.int32List values, offset)
  | some .int64List => do
      let (values, offset) ← readItems buffer offset 8
      return (.int64List values, offset)
  | some .float32List => do
      let (values, offset) ← readItems buffer offset 4
      return (.float32List values, offset)
  | some .float64List => do
      let (values, offset) ← readItems buffer offset 8
      return (.floatList values, offset)
  | some .list => do
      let (length, offset) ← readSize buffer offset
      let (list, offset) ← readValues readValue length.toNat offset
      return (.list list, offset)
  | some .map => do
      let (length, offset) ← readSize buffer offset
      let (map, offset) ← readEntries readValue length.toNat [] offset
      return (.map map, offset)
  | none => throw ⟨.unsupportedType, "Unexpected standard codec type " ++ hexadecimal type⟩

end ReadValue

/-- `fl_standard_message_codec_read_value`, nested at most as deep as the fuel. -/
def readValue (buffer : GBytes) : Nat → Nat → Except GError (FlValue × Nat)
  | 0, _ => throw ⟨.outOfFuel, ""⟩
  | fuel + 1, offset => do
      let (type, offset) ← readUint8 buffer offset
      readValueOfType (readValue buffer fuel) buffer type offset

def decodeMessage (message : GBytes) : Except GError FlValue :=
  if message.length = 0 then return .null
  else do
    let (value, offset) ← readValue message (message.length + 1) 0
    if offset = message.length then return value
    else throw ⟨.additionalData,
      "Unused " ++ toString (message.length - offset) ++ " bytes after standard message"⟩

end FlStandardMessageCodec

end FlutterEngine.Linux
