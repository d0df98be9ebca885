import FlutterEngine.ClientWrapper.ByteBufferStreams
import FlutterEngine.ClientWrapper.EncodableValue

/-!
# The standard codec serializer

`StandardCodecSerializer` of `standard_codec.cc`. The reader's recursion has fuel,
since a malformed buffer may nest as deep as it is long; `none` means only that
the fuel ran out.
-/

namespace FlutterEngine.ClientWrapper

open FlutterEngine.Std LittleEndian ByteBufferStreamWriter

/-- The byte before an encoded value. -/
inductive EncodedType where
  | null
  | true
  | false
  | int32
  | int64
  /-- No longer used. If encountered, treat as a string. -/
  | largeInt
  | float64
  | string
  | uint8List
  | int32List
  | int64List
  | float64List
  | list
  | map
  | float32List
deriving DecidableEq, Repr

namespace EncodedType

def toByte : EncodedType → Byte
  | null => 0
  | true => 1
  | false => 2
  | int32 => 3
  | int64 => 4
  | largeInt => 5
  | float64 => 6
  | string => 7
  | uint8List => 8
  | int32List => 9
  | int64List => 10
  | float64List => 11
  | list => 12
  | map => 13
  | float32List => 14

/-- The types by the value of their byte. -/
def all : List EncodedType :=
  [null, true, false, int32, int64, largeInt, float64, string, uint8List, int32List, int64List,
    float64List, list, map, float32List]

def ofByte? (byte : Byte) : Option EncodedType := all[byte.toNat]?

theorem ofByte?_toByte (type : EncodedType) : ofByte? type.toByte = some type := by
  cases type <;> rfl

end EncodedType

/-- The encoded type that is written when serializing the value. -/
def encodedTypeForValue : EncodableValue → EncodedType
  | .null => .null
  | .bool value => if value then .true else .false
  | .int32 _ => .int32
  | .int64 _ => .int64
  | .double _ => .float64
  | .string _ => .string
  | .uint8List _ => .uint8List
  | .int32List _ => .int32List
  | .int64List _ => .int64List
  | .float64List _ => .float64List
  | .list _ => .list
  | .map _ => .map
  | .float32List _ => .float32List

/-! ## Writing -/

def writeSize (size : Nat) (stream : ByteBufferStreamWriter) : ByteBufferStreamWriter :=
  if size < 254 then writeByte stream (BitVec.ofNat 8 size)
  else if size ≤ 0xffff then writeBytes (writeByte stream 254) (toBytes 2 size)
  else writeBytes (writeByte stream 255) (toBytes 4 size)

/-- `WriteVector` of elements of `size` bytes. -/
def writeVector (size : Nat) (vector : List (BitVec (8 * size))) (stream : ByteBufferStreamWriter) :
    ByteBufferStreamWriter :=
  let stream := writeSize vector.length stream
  if vector.isEmpty then stream
  else
    let stream := if size > 1 then writeAlignment stream size else stream
    writeBytes stream (ofElements vector)

mutual

/-- What `WriteValue` writes after the type. -/
def writeContent : EncodableValue → ByteBufferStreamWriter → ByteBufferStreamWriter
  -- Null and bool are encoded directly in the type.
  | .null, stream => stream
  | .bool _, stream => stream
  | .int32 value, stream => writeInt32 stream value
  | .int64 value, stream => writeInt64 stream value
  | .double value, stream => writeDouble (writeAlignment stream 8) value
  | .string value, stream =>
    let stream := writeSize value.length stream
    if value.length > 0 then writeBytes stream value else stream
  | .uint8List value, stream => writeVector 1 value stream
  | .int32List value, stream => writeVector 4 value stream
  | .int64List value, stream => writeVector 8 value stream
  | .float64List value, stream => writeVector 8 value stream
  | .list value, stream => writeValues value (writeSize value.length stream)
  | .map value, stream => writeEntries value (writeSize value.length stream)
  | .float32List value, stream => writeVector 4 value stream

/-- Values one after the other. -/
def writeValues : List EncodableValue → ByteBufferStreamWriter → ByteBufferStreamWriter
  | [], stream => stream
  | value :: rest, stream =>
    writeValues rest (writeContent value (writeByte stream (encodedTypeForValue value).toByte))

def writeEntries : List (EncodableValue × EncodableValue) → ByteBufferStreamWriter →
    ByteBufferStreamWriter
  | [], stream => stream
  | (key, value) :: rest, stream =>
    let stream := writeContent key (writeByte stream (encodedTypeForValue key).toByte)
    writeEntries rest (writeContent value (writeByte stream (encodedTypeForValue value).toByte))

end

def writeValue (value : EncodableValue) (stream : ByteBufferStreamWriter) : ByteBufferStreamWriter :=
  writeContent value (writeByte stream (encodedTypeForValue value).toByte)

/-! ## Reading -/

def readSize (stream : ByteBufferStreamReader) : Nat × ByteBufferStreamReader :=
  let (byte, stream) := stream.readByte
  if byte.toNat < 254 then (byte.toNat, stream)
  else if byte.toNat = 254 then
    let (bytes, stream) := stream.readBytes (List.replicate 2 0) 2
    (ofBytes bytes, stream)
  else
    let (bytes, stream) := stream.readBytes (List.replicate 4 0) 4
    (ofBytes bytes, stream)

/-- `ReadVector` of elements of `size` bytes. -/
def readVector (size : Nat) (stream : ByteBufferStreamReader) :
    List (BitVec (8 * size)) × ByteBufferStreamReader :=
  let (count, stream) := readSize stream
  let stream := if size > 1 then stream.readAlignment size else stream
  let (bytes, stream) := stream.readBytes (List.replicate (count * size) 0) (count * size)
  (toElements size count bytes, stream)

section ReadValue

variable (readValue : ByteBufferStreamReader → Option (EncodableValue × ByteBufferStreamReader))

def readValues : Nat → ByteBufferStreamReader → Option (List EncodableValue × ByteBufferStreamReader)
  | 0, stream => some ([], stream)
  | count + 1, stream => do
      let (value, stream) ← readValue stream
      let (values, stream) ← readValues count stream
      return (value :: values, stream)

def readEntries : Nat → List (EncodableValue × EncodableValue) → ByteBufferStreamReader →
    Option (List (EncodableValue × EncodableValue) × ByteBufferStreamReader)
  | 0, entries, stream => some (entries, stream)
  | count + 1, entries, stream => do
      let (key, stream) ← readValue stream
      let (value, stream) ← readValue stream
      readEntries count (EncodableValue.emplace key value entries) stream

def readValueOfType (type : Byte) (stream : ByteBufferStreamReader) :
    Option (EncodableValue × ByteBufferStreamReader) :=
  match EncodedType.ofByte? type with
  | some .null => some (.null, stream)
  | some .true => some (.bool true, stream)
  | some .false => some (.bool false, stream)
  | some .int32 =>
    let (value, stream) := stream.readInt32
    some (.int32 value, stream)
  | some .int64 =>
    let (value, stream) := stream.readInt64
    some (.int64 value, stream)
  | some .float64 =>
    let (value, stream) := (stream.readAlignment 8).readDouble
    some (.double value, stream)
  | some .largeInt | some .string =>
    let (size, stream) := readSize stream
    let (value, stream) := stream.readBytes (List.replicate size 0) size
    some (.string value, stream)
  | some .uint8List =>
    let (value, stream) := readVector 1 stream
    some (.uint8List value, stream)
  | some .int32List =>
    let (value, stream) := readVector 4 stream
    some (.int32List value, stream)
  | some .int64List =>
    let (value, stream) := readVector 8 stream
    some (.int64List value, stream)
  | some .float64List =>
    let (value, stream) := readVector 8 stream
    some (.float64List value, stream)
  | some .list => do
      let (length, stream) := readSize stream
      let (value, stream) ← readValues readValue length stream
      return (.list value, stream)
  | some .map => do
      let (length, stream) := readSize stream
      let (value, stream) ← readEntries readValue length [] stream
      return (.map value, stream)
  | some .float32List =>
    let (value, stream) := readVector 4 stream
    some (.float32List value, stream)
  -- Unknown type.
  | none => some (.null, stream)

end ReadValue

/-- `ReadValue`, nested at most as deep as the fuel. -/
def readValue : Nat → ByteBufferStreamReader → Option (EncodableValue × ByteBufferStreamReader)
  | 0, _ => none
  | fuel + 1, stream =>
    let (type, stream) := stream.readByte
    readValueOfType (readValue fuel) type stream

end FlutterEngine.ClientWrapper
