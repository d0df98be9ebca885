import Mathlib.Data.List.Infix
import FlutterEngine.Std.LittleEndian

/-!
# Byte streams over a buffer

`ByteBufferStreamReader` and `ByteBufferStreamWriter` of `byte_buffer_streams.h`. A
read past the end reports the error and yields what the caller's buffer held
before, so no read fails. Numbers are copied as the host stores them, which is
little-endian.
-/

namespace FlutterEngine.ClientWrapper

open FlutterEngine.Std LittleEndian

/-- A byte array with the current read location. -/
structure ByteBufferStreamReader where
  bytes : List Byte
  location : Nat := 0

namespace ByteBufferStreamReader

variable (stream : ByteBufferStreamReader)

def readByte : Byte × ByteBufferStreamReader :=
  match stream.bytes[stream.location]? with
  -- Invalid read.
  | none => (0, stream)
  | some byte => (byte, { stream with location := stream.location + 1 })

/-- Fill `buffer`, of this length, from the stream. -/
def readBytes (buffer : List Byte) (length : Nat) : List Byte × ByteBufferStreamReader :=
  -- Invalid read.
  if stream.location + length > stream.bytes.length then (buffer, stream)
  else ((stream.bytes.drop stream.location).take length,
    { stream with location := stream.location + length })

def readAlignment (alignment : Nat) : ByteBufferStreamReader :=
  { stream with location := stream.location + padding alignment stream.location }

/-- Read a number of `size` bytes; 0 on an invalid read. -/
def readNumber (size : Nat) : BitVec (8 * size) × ByteBufferStreamReader :=
  let (bytes, stream) := stream.readBytes (List.replicate size 0) size
  (BitVec.ofNat (8 * size) (ofBytes bytes), stream)

def readInt32 : BitVec 32 × ByteBufferStreamReader := stream.readNumber 4

def readInt64 : BitVec 64 × ByteBufferStreamReader := stream.readNumber 8

def readDouble : BitVec 64 × ByteBufferStreamReader := stream.readNumber 8

end ByteBufferStreamReader

/-- A writer is the bytes written so far. -/
abbrev ByteBufferStreamWriter := List Byte

namespace ByteBufferStreamWriter

variable (stream : ByteBufferStreamWriter)

def writeByte (byte : Byte) : ByteBufferStreamWriter := stream ++ [byte]

def writeBytes (bytes : List Byte) : ByteBufferStreamWriter := stream ++ bytes

def writeAlignment (alignment : Nat) : ByteBufferStreamWriter :=
  stream ++ List.replicate (padding alignment stream.length) 0

def writeNumber (size : Nat) (value : BitVec (8 * size)) : ByteBufferStreamWriter :=
  writeBytes stream (toBytes size value.toNat)

def writeInt32 (value : BitVec 32) : ByteBufferStreamWriter := writeNumber stream 4 value

def writeInt64 (value : BitVec 64) : ByteBufferStreamWriter := writeNumber stream 8 value

def writeDouble (value : BitVec 64) : ByteBufferStreamWriter := writeNumber stream 8 value

end ByteBufferStreamWriter

/-! ## Reading at the place of writing -/

section At

variable {written buffer : List Byte}

open ByteBufferStreamReader ByteBufferStreamWriter

/-- The reader over `buffer` at the end of what was written. -/
abbrev readerAt (buffer written : List Byte) : ByteBufferStreamReader := ⟨buffer, written.length⟩

theorem readByte_at {byte : Byte} (within : writeByte written byte <+: buffer) :
    (readerAt buffer written).readByte = (byte, readerAt buffer (writeByte written byte)) := by
  obtain ⟨rest, rfl⟩ := within
  simp [readByte, writeByte]

theorem readBytes_at {bytes : List Byte} (within : writeBytes written bytes <+: buffer)
    (initial : List Byte) :
    (readerAt buffer written).readBytes initial bytes.length =
      (bytes, readerAt buffer (writeBytes written bytes)) := by
  obtain ⟨rest, rfl⟩ := within
  have fits : ¬bytes.length + rest.length < bytes.length := by omega
  simp [readBytes, writeBytes, fits]

theorem readAlignment_at (alignment : Nat) :
    (readerAt buffer written).readAlignment alignment =
      readerAt buffer (writeAlignment written alignment) := by
  simp [readAlignment, writeAlignment]

theorem readNumber_at (size : Nat) {value : BitVec (8 * size)}
    (within : writeNumber written size value <+: buffer) :
    (readerAt buffer written).readNumber size = (value, readerAt buffer (writeNumber written size value)) := by
  have read := readBytes_at within (List.replicate size 0)
  rw [length_toBytes] at read
  rw [readNumber, read]
  exact congrArg (·, readerAt buffer (writeNumber written size value)) (ofBytes_toBytes_toNat value)

end At

end FlutterEngine.ClientWrapper
