import FlutterEngine.Std.Utf8
import FlutterEngine.WebServices.Serialization

/-!
# The standard codecs of the web engine

`StandardMessageCodec` and `StandardMethodCodec` of `message_codecs.dart`. Reading has fuel, since
a malformed message may nest as deep as it is long. `parseHex` is `int.parse` with radix 16.
-/

namespace FlutterEngine.WebServices

open FlutterEngine.Std LittleEndian WriteBuffer

/-- The byte before a value. -/
inductive ValueType where
  | null
  | true
  | false
  | int32
  | int64
  | largeInt
  | float64
  | string
  | uint8List
  | int32List
  | int64List
  | float64List
  | list
  | map
deriving DecidableEq, Repr

namespace ValueType

def toByte : ValueType → Byte
  | null => 0
  | true => 1
  | false => 2
  | int32 => 3
  | int64 => 4
  | largeInt => 5
  | float64 => 6
  | string => 7
  | uint8List => 8
  | int32List => 9
  | int64List => 10
  | float64List => 11
  | list => 12
  | map => 13

def all : List ValueType :=
  [null, true, false, int32, int64, largeInt, float64, string, uint8List, int32List, int64List,
    float64List, list, map]

def ofByte? (byte : Byte) : Option ValueType := all[byte.toNat]?

theorem ofByte?_toByte (type : ValueType) : ofByte? type.toByte = some type := by
  cases type <;> rfl

end ValueType

namespace StandardMessageCodec

/-! ## Writing -/

def writeSize (buffer : WriteBuffer) (value : Nat) : Except Thrown WriteBuffer :=
  if value ≤ 0xffffffff then
    if value < 254 then .ok (putUint8 buffer (BitVec.ofNat 8 value))
    else if value ≤ 0xffff then .ok (putUint16 (putUint8 buffer 254) value)
    else .ok (putUint32 (putUint8 buffer 255) value)
  else .error .assertionError

def writeType (buffer : WriteBuffer) (type : ValueType) : WriteBuffer :=
  putUint8 buffer type.toByte

/-- A type, a size and as many elements. -/
def writeSized (buffer : WriteBuffer) (type : ValueType) (size : Nat)
    (elements : WriteBuffer → WriteBuffer) : Except Thrown WriteBuffer := do
  let buffer ← writeSize (writeType buffer type) size
  return elements buffer

mutual

def writeValue (buffer : WriteBuffer) : Value → Except Thrown WriteBuffer
  | .null => .ok (writeType buffer .null)
  | .bool value => .ok (writeType buffer (if value then .true else .false))
  | .double value => .ok (putFloat64 (writeType buffer .float64) value)
  | .int value =>
    if -0x7fffffff - 1 ≤ value.toInt ∧ value.toInt ≤ 0x7fffffff then
      .ok (putInt32 (writeType buffer .int32) value)
    else .ok (putInt64 (writeType buffer .int64) value)
  | .string value =>
    let bytes := Utf8.encode value
    writeSized buffer .string bytes.length (putUint8List · bytes)
  | .uint8List value => writeSized buffer .uint8List value.length (putUint8List · value)
  | .int32List value => writeSized buffer .int32List value.length (putInt32List · value)
  | .int64List value => writeSized buffer .int64List value.length (putInt64List · value)
  | .float64List value => writeSized buffer .float64List value.length (putFloat64List · value)
  | .list value => do
      let buffer ← writeSize (writeType buffer .list) value.length
      writeValues buffer value
  | .map value => do
      let buffer ← writeSize (writeType buffer .map) value.length
      writeEntries buffer value

/-- Values one after the other. -/
def writeValues (buffer : WriteBuffer) : List Value → Except Thrown WriteBuffer
  | [] => .ok buffer
  | value :: rest => do
      let buffer ← writeValue buffer value
      writeValues buffer rest

def writeEntries (buffer : WriteBuffer) : List (Value × Value) → Except Thrown WriteBuffer
  | [] => .ok buffer
  | (key, value) :: rest => do
      let buffer ← writeValue buffer key
      let buffer ← writeValue buffer value
      writeEntries buffer rest

end

/-- Nothing is encoded of null. `spare` is the room that is left in the buffer. -/
def encodeMessage (spare : List Byte) : Value → Except Thrown (Option ByteData)
  | .null => .ok none
  | message => do
      let buffer ← writeValue [] message
      return some (done buffer spare)

/-! ## Reading -/

def readSize (buffer : ReadBuffer) : Except Thrown (Nat × ReadBuffer) := do
  let (value, buffer) ← buffer.getUint8
  if value = 254 then
    let (value, buffer) ← buffer.getUint16
    return (value.toNat, buffer)
  else if value = 255 then
    let (value, buffer) ← buffer.getUint32
    return (value.toNat, buffer)
  else return (value.toNat, buffer)

/-- A size and a list of as many elements. -/
def readSized {α : Type} (elements : ReadBuffer → Nat → Except Thrown (α × ReadBuffer))
    (buffer : ReadBuffer) : Except Thrown (α × ReadBuffer) := do
  let (length, buffer) ← readSize buffer
  elements buffer length

/-- The text of as many bytes as the size says. -/
def readText (buffer : ReadBuffer) : Except Thrown (String × ReadBuffer) := do
  let (bytes, buffer) ← readSized ReadBuffer.getUint8List buffer
  match Utf8.decodeWithoutMark? bytes with
  | some text => return (text, buffer)
  | none => throw .malformed

section ReadValue

variable (parseHex : String → Option (BitVec 64))
  (readValue : ReadBuffer → Except Thrown (Value × ReadBuffer))

def readValues : Nat → ReadBuffer → Except Thrown (List Value × ReadBuffer)
  | 0, buffer => .ok ([], buffer)
  | count + 1, buffer => do
      let (value, buffer) ← readValue buffer
      let (values, buffer) ← readValues count buffer
      return (value :: values, buffer)

/-- Each key that is read is given the value that is read after it. -/
def readEntries : Nat → List (Value × Value) → ReadBuffer →
    Except Thrown (List (Value × Value) × ReadBuffer)
  | 0, result, buffer => .ok (result, buffer)
  | count + 1, result, buffer => do
      let (key, buffer) ← readValue buffer
      let (value, buffer) ← readValue buffer
      readEntries count (EntryLists.assign Value.sameKey key value result) buffer

def readValueOfType (type : Byte) (buffer : ReadBuffer) : Except Thrown (Value × ReadBuffer) :=
  match ValueType.ofByte? type with
  | some .null => .ok (.null, buffer)
  | some .true => .ok (.bool true, buffer)
  | some .false => .ok (.bool false, buffer)
  | some .int32 => do
      let (value, buffer) ← buffer.getInt32
      return (.int value, buffer)
  | some .int64 => do
      let (value, buffer) ← buffer.getInt64
      return (.int value, buffer)
  | some .largeInt => do
      let (hex, buffer) ← readText buffer
      match parseHex hex with
      | some value => return (.int value, buffer)
      | none => throw .malformed
  | some .float64 => do
      let (value, buffer) ← buffer.getFloat64
      return (.double value, buffer)
  | some .string => do
      let (value, buffer) ← readText buffer
      return (.string value, buffer)
  | some .uint8List => do
      let (value, buffer) ← readSized ReadBuffer.getUint8List buffer
      return (.uint8List value, buffer)
  | some .int32List => do
      let (value, buffer) ← readSized ReadBuffer.getInt32List buffer
      return (.int32List value, buffer)
  | some .int64List => do
      let (value, buffer) ← readSized ReadBuffer.getInt64List buffer
      return (.int64List value, buffer)
  | some .float64List => do
      let (value, buffer) ← readSized ReadBuffer.getFloat64List buffer
      return (.float64List value, buffer)
  | some .list => do
      let (length, buffer) ← readSize buffer
      let (value, buffer) ← readValues readValue length buffer
      return (.list value, buffer)
  | some .map => do
      let (length, buffer) ← readSize buffer
      let (value, buffer) ← readEntries readValue length [] buffer
      return (.map value, buffer)
  | none => throw (.formatException "Message corrupted")

end ReadValue

/-- `readValue`, nested at most as deep as the fuel. -/
def readValue (parseHex : String → Option (BitVec 64)) :
    Nat → ReadBuffer → Except Thrown (Value × ReadBuffer)
  | 0, _ => throw .outOfFuel
  | fuel + 1, buffer => do
      if !buffer.hasRemaining then throw (.formatException "Message corrupted")
      let (type, buffer) ← buffer.getUint8
      readValueOfType parseHex (readValue parseHex fuel) type buffer

/-- A value with fuel for all the bytes of the data. -/
def readMessage (parseHex : String → Option (BitVec 64)) (buffer : ReadBuffer) :
    Except Thrown (Value × ReadBuffer) :=
  readValue parseHex (buffer.data.lengthInBytes + 1) buffer

def decodeMessage (parseHex : String → Option (BitVec 64)) :
    Option ByteData → Except Thrown Value
  | none => .ok .null
  | some message => do
      let (result, buffer) ← readMessage parseHex { data := message }
      if buffer.hasRemaining then throw (.formatException "Message corrupted")
      return result

end StandardMessageCodec

/-! ## Method calls and envelopes -/

structure MethodCall where
  method : String
  arguments : Value

/-- A text that may be null. -/
def Value.ofText? : Option String → Value
  | none => .null
  | some text => .string text

/-- The text, where the value is one or null. -/
def Value.text? : Value → Option (Option String)
  | .null => some none
  | .string text => some (some text)
  | _ => none

namespace StandardMethodCodec

open StandardMessageCodec

def encodeMethodCall (spare : List Byte) (call : MethodCall) : Except Thrown ByteData := do
  let buffer ← writeValue [] (.string call.method)
  let buffer ← writeValue buffer call.arguments
  return done buffer spare

def encodeSuccessEnvelope (spare : List Byte) (result : Value) : Except Thrown ByteData := do
  let buffer ← writeValue (putUint8 [] 0) result
  return done buffer spare

def encodeErrorEnvelope (spare : List Byte) (code : String) (message : Option String)
    (details : Value) : Except Thrown ByteData := do
  let buffer ← writeValue (putUint8 [] 1) (.string code)
  let buffer ← writeValue buffer (.ofText? message)
  let buffer ← writeValue buffer details
  return done buffer spare

variable (parseHex : String → Option (BitVec 64))

def decodeMethodCall : Option ByteData → Except Thrown MethodCall
  | none => throw .typeError
  | some methodCall => do
      let (method, buffer) ← readMessage parseHex { data := methodCall }
      let (arguments, buffer) ← readMessage parseHex buffer
      match method with
      | .string method =>
        if !buffer.hasRemaining then return ⟨method, arguments⟩
        else throw (.formatException "Invalid method call")
      | _ => throw (.formatException "Invalid method call")

/-- What an error envelope is decoded to is thrown. -/
def decodeError (buffer : ReadBuffer) : Except Thrown Value := do
  let (code, buffer) ← readMessage parseHex buffer
  let (message, buffer) ← readMessage parseHex buffer
  let (details, buffer) ← readMessage parseHex buffer
  match code, message.text? with
  | .string code, some message =>
    if !buffer.hasRemaining then throw (.platformException code message details)
    else throw (.formatException "Invalid envelope")
  | _, _ => throw (.formatException "Invalid envelope")

def decodeEnvelope (envelope : ByteData) : Except Thrown Value := do
  if envelope.lengthInBytes = 0 then
    throw (.formatException "Expected envelope, got nothing")
  let (flag, buffer) ← ReadBuffer.getUint8 { data := envelope }
  if flag = 0 then
    let (result, _) ← readMessage parseHex buffer
    return result
  else decodeError parseHex buffer

end StandardMethodCodec

end FlutterEngine.WebServices
