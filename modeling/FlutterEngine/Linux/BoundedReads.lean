import FlutterEngine.Linux.MessageRoundTrip

/-!
# Reads of the Linux message codec

The reading functions again, with every access to the message checked against its size. They
never leave the message: they are the reading functions of the codec.
-/

namespace FlutterEngine.Linux.FlStandardMessageCodec

open FlutterEngine.Std LittleEndian

inductive Fault where
  | error (error : GError)
  /-- An access past the end of the message. -/
  | outOfBounds (offset length : Nat)
deriving DecidableEq, Repr

/-- A result of code that does not access the message. -/
def liftError {α : Type} : Except GError α → Except Fault α
  | .ok result => .ok result
  | .error thrown => .error (.error thrown)

@[simp] theorem liftError_ok {α : Type} (result : α) :
    liftError (.ok result : Except GError α) = .ok result := rfl

@[simp] theorem liftError_error {α : Type} (thrown : GError) :
    liftError (.error thrown : Except GError α) = .error (.error thrown) := rfl

theorem liftError_bind {α β : Type} (first : Except GError α) (next : α → Except GError β) :
    liftError (first >>= next) = liftError first >>= fun result => liftError (next result) := by
  cases first <;> rfl

namespace Bounded

section Read

variable (buffer : GBytes) (offset : Nat)

/-- The bytes at `get_data`. -/
def access (length : Nat) : Except Fault (List Byte) :=
  if offset + length ≤ buffer.length then .ok (getData buffer offset length)
  else .error (.outOfBounds offset length)

def readNumber (size : Nat) : Except Fault (BitVec (8 * size) × Nat) := do
  liftError (checkSize buffer offset size)
  let data ← access buffer offset size
  return (BitVec.ofNat (8 * size) (ofBytes data), offset + size)

def readSize : Except Fault (BitVec 32 × Nat) := do
  let (value8, offset) ← readNumber buffer offset 1
  if value8 = 255 then readNumber buffer offset 4
  else if value8 = 254 then
    let (value16, offset) ← readNumber buffer offset 2
    return (value16.setWidth 32, offset)
  else return (value8.setWidth 32, offset)

def readInt32Value : Except Fault (FlValue × Nat) := do
  let (value, offset) ← readNumber buffer offset 4
  return (.int (BitVec.signExtend 64 value), offset)

def readInt64Value : Except Fault (FlValue × Nat) := do
  let (value, offset) ← readNumber buffer offset 8
  return (.int value, offset)

def readFloat64Value : Except Fault (FlValue × Nat) := do
  let offset ← liftError (readAlign buffer offset 8)
  let (value, offset) ← readNumber buffer offset 8
  return (.float value, offset)

def readBytes : Except Fault (List Byte × Nat) := do
  let (length, offset) ← readSize buffer offset
  liftError (checkSize buffer offset length.toNat)
  let data ← access buffer offset length.toNat
  return (data, offset + length.toNat)

def readItems (size : Nat) : Except Fault (List (BitVec (8 * size)) × Nat) := do
  let (length, offset) ← readSize buffer offset
  let offset ← liftError (readAlign buffer offset size)
  liftError (checkSize buffer offset (size * length.toNat))
  let data ← access buffer offset (size * length.toNat)
  return (toElements size length.toNat data, offset + size * length.toNat)

end Read

section ReadValue

variable (readValue : Nat → Except Fault (FlValue × Nat))

def readValues : Nat → Nat → Except Fault (List FlValue × Nat)
  | 0, offset => return ([], offset)
  | count + 1, offset => do
      let (child, offset) ← readValue offset
      let (children, offset) ← readValues count offset
      return (child :: children, offset)

def readEntries : Nat → List (FlValue × FlValue) → Nat →
    Except Fault (List (FlValue × FlValue) × Nat)
  | 0, map, offset => return (map, offset)
  | count + 1, map, offset => do
      let (key, offset) ← readValue offset
      let (value, offset) ← readValue offset
      readEntries count (FlValue.set map key value) offset

def readValueOfType (buffer : GBytes) (type : Byte) (offset : Nat) :
    Except Fault (FlValue × Nat) :=
  match ValueType.ofByte? type with
  | some .null => return (.null, offset)
  | some .true => return (.bool true, offset)
  | some .false => return (.bool false, offset)
  | some .int32 => readInt32Value buffer offset
  | some .int64 => readInt64Value buffer offset
  | some .float64 => readFloat64Value buffer offset
  | some .string => do
      let (bytes, offset) ← readBytes buffer offset
      return (.string (CString.ofSized bytes), offset)
  | some .uint8List => do
      let (values, offset) ← readBytes buffer offset
      return (.uint8List values, offset)
  | some .int32List => do
      let (values, offset) ← readItems buffer offset 4
      return (.int32List values, offset)
  | some .int64List => do
      let (values, offset) ← readItems buffer offset 8
      return (.int64List values, offset)
  | some .float32List => do
      let (values, offset) ← readItems buffer offset 4
      return (.float32List values, offset)
  | some .float64List => do
      let (values, offset) ← readItems buffer offset 8
      return (.floatList values, offset)
  | some .list => do
      let (length, offset) ← readSize buffer offset
      let (list, offset) ← readValues readValue length.toNat offset
      return (.list list, offset)
  | some .map => do
      let (length, offset) ← readSize buffer offset
      let (map, offset) ← readEntries readValue length.toNat [] offset
      return (.map map, offset)
  | none => throw (.error
      ⟨.unsupportedType, "Unexpected standard codec type " ++ hexadecimal type⟩)

end ReadValue

def readValue (buffer : GBytes) : Nat → Nat → Except Fault (FlValue × Nat)
  | 0, _ => throw (.error ⟨.outOfFuel, ""⟩)
  | fuel + 1, offset => do
      let (type, offset) ← readNumber buffer offset 1
      readValueOfType (readValue buffer fuel) buffer type offset

def decodeMessage (message : GBytes) : Except Fault FlValue :=
  if message.length = 0 then return .null
  else do
    let (value, offset) ← readValue message (message.length + 1) 0
    if offset = message.length then return value
    else throw (.error ⟨.additionalData,
      "Unused " ++ toString (message.length - offset) ++ " bytes after standard message"⟩)

/-! ## No access leaves the message -/

variable (buffer : GBytes) (offset : Nat)

theorem access_of_checked {length : Nat} (checked : checkSize buffer offset length = .ok ()) :
    access buffer offset length = .ok (getData buffer offset length) := by
  unfold checkSize at checked
  split at checked
  · cases checked
  · next inside => exact if_pos (Nat.not_lt.mp inside)

theorem checked_access {α : Type} (length : Nat) (next : List Byte → Except GError α) :
    (liftError (checkSize buffer offset length) >>= fun _ =>
      access buffer offset length >>= fun data => liftError (next data)) =
      liftError (checkSize buffer offset length >>= fun _ =>
        next (getData buffer offset length)) := by
  cases checked : checkSize buffer offset length with
  | error thrown => rfl
  | ok =>
    change (access buffer offset length >>= fun data => liftError (next data)) = _
    rw [access_of_checked buffer offset checked]
    rfl

theorem readNumber_eq (size : Nat) :
    readNumber buffer offset size =
      liftError (FlStandardMessageCodec.readNumber buffer offset size) :=
  checked_access buffer offset size fun data =>
    .ok (BitVec.ofNat (8 * size) (ofBytes data), offset + size)

theorem readSize_eq :
    readSize buffer offset = liftError (FlStandardMessageCodec.readSize buffer offset) := by
  unfold readSize FlStandardMessageCodec.readSize readUint8
  rw [liftError_bind, readNumber_eq]
  refine bind_congr fun ⟨value8, offset⟩ => ?_
  dsimp only
  split
  · exact readNumber_eq buffer offset 4
  split
  · unfold readUint16
    rw [liftError_bind, readNumber_eq]
    rfl
  · rfl

theorem readInt32Value_eq :
    readInt32Value buffer offset =
      liftError (FlStandardMessageCodec.readInt32Value buffer offset) := by
  unfold readInt32Value FlStandardMessageCodec.readInt32Value
  rw [liftError_bind, readNumber_eq]
  rfl

theorem readInt64Value_eq :
    readInt64Value buffer offset =
      liftError (FlStandardMessageCodec.readInt64Value buffer offset) := by
  unfold readInt64Value FlStandardMessageCodec.readInt64Value
  rw [liftError_bind, readNumber_eq]
  rfl

theorem readFloat64Value_eq :
    readFloat64Value buffer offset =
      liftError (FlStandardMessageCodec.readFloat64Value buffer offset) := by
  unfold readFloat64Value FlStandardMessageCodec.readFloat64Value
  rw [liftError_bind]
  refine bind_congr fun aligned => ?_
  rw [liftError_bind, readNumber_eq]
  rfl

theorem readBytes_eq :
    readBytes buffer offset = liftError (FlStandardMessageCodec.readBytes buffer offset) := by
  unfold readBytes FlStandardMessageCodec.readBytes
  rw [liftError_bind, readSize_eq]
  refine bind_congr fun ⟨length, offset⟩ => ?_
  exact checked_access buffer offset length.toNat fun data => .ok (data, offset + length.toNat)

theorem readItems_eq (size : Nat) :
    readItems buffer offset size =
      liftError (FlStandardMessageCodec.readItems buffer offset size) := by
  unfold readItems FlStandardMessageCodec.readItems
  rw [liftError_bind, readSize_eq]
  refine bind_congr fun ⟨length, offset⟩ => ?_
  dsimp only
  rw [liftError_bind]
  refine bind_congr fun aligned => ?_
  exact checked_access buffer aligned (size * length.toNat) fun data =>
    .ok (toElements size length.toNat data, aligned + size * length.toNat)

section ReadValue

variable {checked : Nat → Except Fault (FlValue × Nat)}
  {reads : Nat → Except GError (FlValue × Nat)}
  (same : ∀ offset, checked offset = liftError (reads offset))

include same

theorem readValues_eq (count offset : Nat) :
    readValues checked count offset =
      liftError (FlStandardMessageCodec.readValues reads count offset) := by
  induction count generalizing offset with
  | zero => rfl
  | succ count ih =>
    rw [readValues, FlStandardMessageCodec.readValues, liftError_bind, same]
    refine bind_congr fun ⟨child, offset⟩ => ?_
    dsimp only
    rw [liftError_bind, ih]
    rfl

theorem readEntries_eq (count : Nat) (map : List (FlValue × FlValue)) (offset : Nat) :
    readEntries checked count map offset =
      liftError (FlStandardMessageCodec.readEntries reads count map offset) := by
  induction count generalizing map offset with
  | zero => rfl
  | succ count ih =>
    rw [readEntries, FlStandardMessageCodec.readEntries, liftError_bind, same]
    refine bind_congr fun ⟨key, offset⟩ => ?_
    dsimp only
    rw [liftError_bind, same]
    exact bind_congr fun ⟨value, offset⟩ => ih _ _

theorem readValueOfType_eq (type : Byte) :
    readValueOfType checked buffer type offset =
      liftError (FlStandardMessageCodec.readValueOfType reads buffer type offset) := by
  unfold readValueOfType FlStandardMessageCodec.readValueOfType
  cases ValueType.ofByte? type with
  | none => rfl
  | some known =>
    cases known with
    | null => rfl
    | true => rfl
    | false => rfl
    | int32 => exact readInt32Value_eq buffer offset
    | int64 => exact readInt64Value_eq buffer offset
    | float64 => exact readFloat64Value_eq buffer offset
    | string =>
      dsimp only
      rw [liftError_bind, readBytes_eq]
      rfl
    | uint8List =>
      dsimp only
      rw [liftError_bind, readBytes_eq]
      rfl
    | int32List | int64List | float32List | float64List =>
      dsimp only
      rw [liftError_bind, readItems_eq]
      rfl
    | list =>
      dsimp only
      rw [liftError_bind, readSize_eq]
      refine bind_congr fun ⟨length, offset⟩ => ?_
      dsimp only
      rw [liftError_bind, readValues_eq same]
      rfl
    | map =>
      dsimp only
      rw [liftError_bind, readSize_eq]
      refine bind_congr fun ⟨length, offset⟩ => ?_
      dsimp only
      rw [liftError_bind, readEntries_eq same]
      rfl

end ReadValue

theorem readValue_eq (fuel : Nat) :
    readValue buffer fuel offset =
      liftError (FlStandardMessageCodec.readValue buffer fuel offset) := by
  induction fuel generalizing offset with
  | zero => rfl
  | succ fuel ih =>
    rw [readValue, FlStandardMessageCodec.readValue, readUint8, liftError_bind, readNumber_eq]
    refine bind_congr ?_
    rintro ⟨type, offset⟩
    exact readValueOfType_eq buffer offset ih type

/-- With every access checked, a message decodes as without: no access leaves it. -/
theorem decodeMessage_eq :
    decodeMessage buffer = liftError (FlStandardMessageCodec.decodeMessage buffer) := by
  unfold decodeMessage FlStandardMessageCodec.decodeMessage
  split
  · rfl
  rw [liftError_bind, readValue_eq]
  refine bind_congr fun ⟨value, offset⟩ => ?_
  dsimp only
  split <;> rfl

end Bounded

end FlutterEngine.Linux.FlStandardMessageCodec
