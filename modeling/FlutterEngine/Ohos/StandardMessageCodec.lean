import Mathlib.Data.List.DropRight
import Mathlib.Data.Nat.Digits.Defs
import FlutterEngine.Ohos.ByteBuffer
import FlutterEngine.Ohos.Message

/-!
# The standard message codec of the OHOS embedding

`StandardMessageCodec` of `StandardMessageCodec.ets`. UTF-8 is done by functions of
`libflutter.so`, which are parameters here. The recursion of the reader has fuel; a
message has always enough of it, since every value takes a byte.
-/

namespace FlutterEngine.Ohos

open FlutterEngine.Std LittleEndian FlutterEngine.Std.Ieee754.Binary64

/-- `nativeEncodeUtf8` and `nativeDecodeUtf8`. -/
structure NativeUtf8 where
  encode : String → List Byte
  decode : List Byte → String
  decode_encode : ∀ text, decode (encode text) = text
  nonempty : ∀ text, encode text = [] → text = ""

namespace StringUtils

variable (utf8 : NativeUtf8)

def stringToArrayBuffer (text : String) : List Byte := if text = "" then [] else utf8.encode text

def uint8ArrayToString (buffer : List Byte) : String :=
  if buffer.length ≤ 0 then "" else utf8.decode buffer

theorem uint8ArrayToString_stringToArrayBuffer (text : String) :
    uint8ArrayToString utf8 (stringToArrayBuffer utf8 text) = text := by
  unfold uint8ArrayToString stringToArrayBuffer
  by_cases blank : text = ""
  · rw [if_pos blank, blank]
    rfl
  · rw [if_neg blank, if_neg, utf8.decode_encode]
    intro short
    exact blank (utf8.nonempty text (List.length_eq_zero_iff.mp (Nat.le_zero.mp short)))

end StringUtils

namespace StandardMessageCodec

/-- The byte before an encoded value. -/
inductive MessageType where
  | null
  | true
  | false
  | int32
  | int64
  | bigint
  | float64
  | string
  | uint8Array
  | int32Array
  | int64Array
  | float64Array
  | list
  | map
  | float32Array
deriving DecidableEq, Repr

namespace MessageType

def toByte : MessageType → Byte
  | null => 0
  | true => 1
  | false => 2
  | int32 => 3
  | int64 => 4
  | bigint => 5
  | float64 => 6
  | string => 7
  | uint8Array => 8
  | int32Array => 9
  | int64Array => 10
  | float64Array => 11
  | list => 12
  | map => 13
  | float32Array => 14

/-- The types by the value of their byte. -/
def all : List MessageType :=
  [null, true, false, int32, int64, bigint, float64, string, uint8Array, int32Array, int64Array,
    float64Array, list, map, float32Array]

def ofByte? (byte : Byte) : Option MessageType := all[byte.toNat]?

theorem ofByte?_toByte (type : MessageType) : ofByte? type.toByte = some type := by
  cases type <;> rfl

end MessageType

/-! ## Bigints as hexadecimal strings -/

/-- The character of a hexadecimal digit. -/
def hexDigit (digit : Nat) : Byte := BitVec.ofNat 8 (if digit < 10 then 48 + digit else 87 + digit)

/-- `value.toString(16)` as character codes. -/
def toString16 (value : Int) : List Byte :=
  (if value < 0 then [45] else []) ++
    if value = 0 then [48] else ((Nat.digits 16 value.natAbs).reverse).map hexDigit

/-- The digit a character stands for, of either case. -/
def hexValue? (char : Byte) : Option Nat :=
  if 48 ≤ char.toNat ∧ char.toNat ≤ 57 then some (char.toNat - 48)
  else if 97 ≤ char.toNat ∧ char.toNat ≤ 102 then some (char.toNat - 87)
  else if 65 ≤ char.toNat ∧ char.toNat ≤ 70 then some (char.toNat - 55)
  else none

/-- White space among the first 256 characters. -/
def isWhiteSpace (char : Byte) : Bool :=
  (9 ≤ char.toNat && char.toNat ≤ 13) || char.toNat == 32 || char.toNat == 160

def hexNumber? (chars : List Byte) : Option Nat :=
  chars.foldlM (fun value char => (hexValue? char).map (16 * value + ·)) 0

/-- `BigInt` of these characters after `0x`. White space at the end is ignored. -/
def bigIntOfHex (chars : List Byte) : Except Thrown Int :=
  let digits := chars.rdropWhile isWhiteSpace
  match if digits = [] then none else hexNumber? digits with
  | some value => .ok value
  | none => .error .syntaxError

/-! ## Writing -/

/-- The literal 9223372036854775807 as a number: it rounds to 2^63. -/
def int64Max : Ieee754.Binary64 := 0x43E0000000000000

/-- The literal -9223372036854775808 as a number. -/
def int64Min : Ieee754.Binary64 := 0xC3E0000000000000

/-- `value >= INT64_MIN && value <= INT64_MAX`, a bigint compared with two numbers. -/
def isInt64 (value : Int) : Bool :=
  (toInt? int64Min).any (· ≤ value) && (toInt? int64Max).any (value ≤ ·)

def writeType (stream : WriteBuffer) (type : MessageType) : WriteBuffer :=
  stream.writeUint8 type.toByte

def writeAlignment (stream : WriteBuffer) (alignment : Nat) : WriteBuffer :=
  let mod := stream.byteOffset % alignment
  if mod ≠ 0 then Nat.repeat (·.writeUint8 0) (alignment - mod) stream else stream

def writeSize (stream : WriteBuffer) (value : Nat) : WriteBuffer :=
  if value < 254 then stream.writeUint8 (BitVec.ofNat 8 value)
  else if value ≤ 0xffff then (stream.writeUint8 254).writeUint16 (BitVec.ofNat 16 value)
  else (stream.writeUint8 255).writeUint32 (BitVec.ofNat 32 value)

def writeBytes (stream : WriteBuffer) (bytes : List Byte) : WriteBuffer :=
  (writeSize stream bytes.length).writeUint8Array bytes

def writeDouble (stream : WriteBuffer) (value : Ieee754.Binary64) : WriteBuffer :=
  (writeAlignment (writeType stream .float64) 8).writeFloat64 value

def writeNumber (stream : WriteBuffer) (value : Ieee754.Binary64) : WriteBuffer :=
  match toInt? value with
  | some integer =>
    if -0x7fffffff - 1 ≤ integer ∧ integer ≤ 0x7fffffff then
      (writeType stream .int32).writeInt32 (BitVec.ofInt 32 integer)
    else if IsSafe integer then (writeType stream .int64).writeBigInt64 integer
    else writeDouble stream value
  | none => writeDouble stream value

def writeBigInt (stream : WriteBuffer) (value : Int) : WriteBuffer :=
  if isInt64 value then (writeType stream .int64).writeBigInt64 value
  else writeBytes (writeType stream .bigint) (toString16 value)

/-- A typed array of items of `size` bytes. -/
def writeItems (stream : WriteBuffer) (type : MessageType) (size : Nat)
    (items : List (BitVec (8 * size))) : WriteBuffer :=
  items.foldl (fun stream item => stream.write (toBytes size item.toNat))
    (writeAlignment (writeSize (writeType stream type) items.length) size)

section WriteValue

variable (utf8 : NativeUtf8)

mutual

def writeValue (stream : WriteBuffer) : Value → WriteBuffer
  | .null => writeType stream .null
  | .boolean value => writeType stream (if value then .true else .false)
  | .number value => writeNumber stream value
  | .bigint value => writeBigInt stream value
  | .string value =>
    writeBytes (writeType stream .string) (StringUtils.stringToArrayBuffer utf8 value)
  | .uint8Array value => writeBytes (writeType stream .uint8Array) value
  | .int32Array value => writeItems stream .int32Array 4 value
  | .bigInt64Array value => writeItems stream .int64Array 8 value
  | .float32Array value => writeItems stream .float32Array 4 value
  | .float64Array value => writeItems stream .float64Array 8 value
  | .array value => writeValues (writeSize (writeType stream .list) value.length) value
  | .map entries => writeEntries (writeSize (writeType stream .map) entries.length) entries

def writeValues (stream : WriteBuffer) : List Value → WriteBuffer
  | [] => stream
  | value :: rest => writeValues (writeValue stream value) rest

def writeEntries (stream : WriteBuffer) : List (Value × Value) → WriteBuffer
  | [] => stream
  | (key, value) :: rest => writeEntries (writeValue (writeValue stream key) value) rest

end

def encodeMessage (message : Value) : List Byte :=
  (writeValue utf8 (WriteBuffer.ofLength 1024) message).buffer

end WriteValue

/-! ## Reading -/

def readSize (buffer : ByteBuffer) : Except Thrown (Nat × ByteBuffer) := do
  let (value, buffer) ← buffer.readUint8
  if value.toNat < 254 then return (value.toNat, buffer)
  else if value.toNat = 254 then
    let (value, buffer) ← buffer.readUint16
    return (value.toNat, buffer)
  else
    let (value, buffer) ← buffer.readUint32
    return (value.toNat, buffer)

def readAlignment (buffer : ByteBuffer) (alignment : Nat) : ByteBuffer :=
  let mod := buffer.byteOffset % alignment
  if mod ≠ 0 then buffer.skip (alignment - mod) else buffer

def readBytes (buffer : ByteBuffer) : Except Thrown (List Byte × ByteBuffer) := do
  let (length, buffer) ← readSize buffer
  buffer.readUint8Array length

/-- `count` numbers of `size` bytes. -/
def readNumbers (size : Nat) : Nat → ByteBuffer → Except Thrown (List (BitVec (8 * size)) × ByteBuffer)
  | 0, buffer => return ([], buffer)
  | count + 1, buffer => do
      let (item, buffer) ← buffer.readNumber size
      let (items, buffer) ← readNumbers size count buffer
      return (item :: items, buffer)

/-- A typed array of items of `size` bytes. -/
def readItems (size : Nat) (buffer : ByteBuffer) :
    Except Thrown (List (BitVec (8 * size)) × ByteBuffer) := do
  let (length, buffer) ← readSize buffer
  readNumbers size length (readAlignment buffer size)

section ReadValue

variable (utf8 : NativeUtf8) (readValue : ByteBuffer → Except Thrown (Value × ByteBuffer))

def readValues : Nat → ByteBuffer → Except Thrown (List Value × ByteBuffer)
  | 0, buffer => return ([], buffer)
  | count + 1, buffer => do
      let (value, buffer) ← readValue buffer
      let (values, buffer) ← readValues count buffer
      return (value :: values, buffer)

def readEntries : Nat → List (Value × Value) → ByteBuffer →
    Except Thrown (List (Value × Value) × ByteBuffer)
  | 0, map, buffer => return (map, buffer)
  | count + 1, map, buffer => do
      let (key, buffer) ← readValue buffer
      let (value, buffer) ← readValue buffer
      readEntries count (Value.mapSet map key value) buffer

def readValueOfType (type : Byte) (buffer : ByteBuffer) : Except Thrown (Value × ByteBuffer) :=
  match MessageType.ofByte? type with
  | some .null => return (.null, buffer)
  | some .true => return (.boolean true, buffer)
  | some .false => return (.boolean false, buffer)
  | some .int32 => do
      let (result, buffer) ← buffer.readInt32
      return (.number (ofInt result.toInt), buffer)
  | some .int64 => do
      let (result, buffer) ← buffer.readInt64
      return (.ofBigInt result.toInt, buffer)
  | some .bigint => do
      let (bytes, buffer) ← readBytes buffer
      return (.bigint (← bigIntOfHex bytes), buffer)
  | some .float64 => do
      let (result, buffer) ← (readAlignment buffer 8).readFloat64
      return (.number result, buffer)
  | some .string => do
      let (bytes, buffer) ← readBytes buffer
      return (.string (StringUtils.uint8ArrayToString utf8 bytes), buffer)
  | some .uint8Array => do
      let (bytes, buffer) ← readBytes buffer
      return (.uint8Array bytes, buffer)
  | some .int32Array => do
      let (array, buffer) ← readItems 4 buffer
      return (.int32Array array, buffer)
  | some .int64Array => do
      let (array, buffer) ← readItems 8 buffer
      return (.bigInt64Array array, buffer)
  | some .float64Array => do
      let (array, buffer) ← readItems 8 buffer
      return (.float64Array array, buffer)
  | some .list => do
      let (length, buffer) ← readSize buffer
      let (array, buffer) ← readValues readValue length buffer
      return (.array array, buffer)
  | some .map => do
      let (size, buffer) ← readSize buffer
      let (map, buffer) ← readEntries readValue size [] buffer
      return (.map map, buffer)
  | some .float32Array => do
      let (array, buffer) ← readItems 4 buffer
      return (.float32Array array, buffer)
  | none => throw (.corrupted type)

end ReadValue

/-- `readValue`, nested at most as deep as the fuel. -/
def readValue (utf8 : NativeUtf8) : Nat → ByteBuffer → Except Thrown (Value × ByteBuffer)
  | 0, _ => throw .outOfFuel
  | fuel + 1, buffer => do
      let (type, buffer) ← buffer.readUint8
      readValueOfType utf8 (readValue utf8 fuel) type buffer

/-- `decodeMessage`; `none` is a message that is null. -/
def decodeMessage (utf8 : NativeUtf8) : Option (List Byte) → Except Thrown Value
  | none => return .null
  | some message => do
      let (value, _) ← readValue utf8 (message.length + 1) { dataView := message }
      return value

end StandardMessageCodec

end FlutterEngine.Ohos
