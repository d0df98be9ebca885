import FlutterEngine.Ohos.StandardMessageCodec

/-!
# Decoding ends on every buffer

The fuel `decodeMessage` starts with is enough for any bytes, encoded or not: each
value takes a byte of the view or throws, so values nest no deeper than the view is
long.
-/

namespace FlutterEngine.Ohos.StandardMessageCodec

open FlutterEngine.Std ByteBuffer

universe u

/-- The result of reading at least this many bytes: the same view, this much further,
or an exception other than running out of fuel. -/
def Advances {α : Type u} (buffer : ByteBuffer) (least : Nat) :
    Except Thrown (α × ByteBuffer) → Prop
  | .ok (_, next) => next.dataView = buffer.dataView ∧ buffer.byteOffset + least ≤ next.byteOffset
  | .error thrown => thrown ≠ .outOfFuel

section Rules

variable {α β : Type} {buffer : ByteBuffer} {least : Nat}
variable {result : Except Thrown (α × ByteBuffer)}

theorem Advances.mono {fewer : Nat} (less : fewer ≤ least)
    (advances : Advances buffer least result) : Advances buffer fewer result := by
  cases result with
  | error thrown => exact advances
  | ok read => exact ⟨advances.1, Nat.le_trans (Nat.add_le_add_left less _) advances.2⟩

/-- Reading on from where the first result ends. -/
theorem Advances.bind {rest : α × ByteBuffer → Except Thrown (β × ByteBuffer)}
    (first : Advances buffer least result)
    (second : ∀ value next, next.dataView = buffer.dataView →
      buffer.byteOffset + least ≤ next.byteOffset → Advances next 0 (rest (value, next))) :
    Advances buffer least (result >>= rest) := by
  cases result with
  | error thrown => exact first
  | ok read =>
    obtain ⟨value, next⟩ := read
    have after := second value next first.1 first.2
    change Advances buffer least (rest (value, next))
    cases final : rest (value, next) with
    | error thrown =>
      rw [final] at after
      exact after
    | ok read =>
      rw [final] at after
      exact ⟨after.1.trans first.1, Nat.le_trans first.2 after.2⟩

theorem advances_pure (value : α) : Advances buffer 0 (.ok (value, buffer)) :=
  ⟨rfl, Nat.le_refl _⟩

end Rules

/-! ## Each reading function -/

variable (buffer : ByteBuffer)

theorem advances_readNumber (size : Nat) : Advances buffer size (buffer.readNumber size) := by
  unfold readNumber getUint8Array
  split
  · exact ⟨rfl, Nat.le_refl _⟩
  · exact fun same => by cases same

theorem advances_readUint8Array (length : Nat) : Advances buffer 0 (buffer.readUint8Array length) := by
  unfold readUint8Array getUint8Array
  split
  · exact ⟨rfl, Nat.le_add_right _ _⟩
  · exact fun same => by cases same

theorem advances_readSize : Advances buffer 1 (readSize buffer) := by
  apply Advances.bind (advances_readNumber buffer 1)
  intro value next _ _
  dsimp only
  split
  · exact advances_pure _
  split
  · apply Advances.bind ((advances_readNumber next 2).mono (Nat.zero_le _))
    intro value next _ _
    exact advances_pure _
  · apply Advances.bind ((advances_readNumber next 4).mono (Nat.zero_le _))
    intro value next _ _
    exact advances_pure _

theorem advances_readBytes : Advances buffer 0 (readBytes buffer) := by
  apply Advances.bind ((advances_readSize buffer).mono (Nat.zero_le _))
  intro length next _ _
  exact advances_readUint8Array next length

theorem advances_readNumbers (size count : Nat) : Advances buffer 0 (readNumbers size count buffer) := by
  induction count generalizing buffer with
  | zero => exact advances_pure _
  | succ count ih =>
    apply Advances.bind ((advances_readNumber buffer size).mono (Nat.zero_le _))
    intro item next _ _
    apply Advances.bind (ih next)
    intro items next _ _
    exact advances_pure _

theorem advances_readAlignment {α : Type} (alignment : Nat)
    {result : Except Thrown (α × ByteBuffer)}
    (after : Advances (readAlignment buffer alignment) 0 result) : Advances buffer 0 result := by
  have ahead : (readAlignment buffer alignment).dataView = buffer.dataView ∧
      buffer.byteOffset ≤ (readAlignment buffer alignment).byteOffset := by
    unfold readAlignment
    dsimp only
    split
    · exact ⟨rfl, Nat.le_add_right _ _⟩
    · exact ⟨rfl, Nat.le_refl _⟩
  cases result with
  | error thrown => exact after
  | ok read => exact ⟨after.1.trans ahead.1, Nat.le_trans ahead.2 after.2⟩

theorem advances_readItems (size : Nat) : Advances buffer 0 (readItems size buffer) := by
  apply Advances.bind ((advances_readSize buffer).mono (Nat.zero_le _))
  intro length next _ _
  exact advances_readAlignment next size (advances_readNumbers _ size length)

/-! ## Nested values -/

section Nested

variable {utf8 : NativeUtf8} {read : ByteBuffer → Except Thrown (Value × ByteBuffer)}

/-- `read` reads a value anywhere from this buffer on. -/
def ReadsFrom (buffer : ByteBuffer) (read : ByteBuffer → Except Thrown (Value × ByteBuffer)) : Prop :=
  ∀ next : ByteBuffer, next.dataView = buffer.dataView → buffer.byteOffset ≤ next.byteOffset →
    Advances next 0 (read next)

variable {buffer}

theorem ReadsFrom.later {next : ByteBuffer} (reads : ReadsFrom buffer read)
    (same : next.dataView = buffer.dataView) (ahead : buffer.byteOffset ≤ next.byteOffset) :
    ReadsFrom next read :=
  fun after sameAfter aheadAfter =>
    reads after (sameAfter.trans same) (Nat.le_trans ahead aheadAfter)

theorem advances_readValues (count : Nat) (reads : ReadsFrom buffer read) :
    Advances buffer 0 (readValues read count buffer) := by
  induction count generalizing buffer with
  | zero => exact advances_pure _
  | succ count ih =>
    apply Advances.bind (reads buffer rfl (Nat.le_refl _))
    intro value next same ahead
    apply Advances.bind (ih (reads.later same ahead))
    intro values next _ _
    exact advances_pure _

theorem advances_readEntries (count : Nat) (map : List (Value × Value))
    (reads : ReadsFrom buffer read) : Advances buffer 0 (readEntries read count map buffer) := by
  induction count generalizing buffer map with
  | zero => exact advances_pure _
  | succ count ih =>
    apply Advances.bind (reads buffer rfl (Nat.le_refl _))
    intro key next same ahead
    apply Advances.bind (reads.later same ahead next rfl (Nat.le_refl _))
    intro value last sameLast aheadLast
    exact ih _ ((reads.later same ahead).later sameLast aheadLast)

theorem advances_bigIntOfHex (bytes : List Byte) :
    Advances buffer 0 (do return (Value.bigint (← bigIntOfHex bytes), buffer)) := by
  unfold bigIntOfHex
  dsimp only
  split
  · exact advances_pure _
  · exact fun same => by cases same

theorem advances_readValueOfType (type : Byte) (reads : ReadsFrom buffer read) :
    Advances buffer 0 (readValueOfType utf8 read type buffer) := by
  unfold readValueOfType
  split
  case h_4 | h_5 =>
    apply Advances.bind ((advances_readNumber buffer _).mono (Nat.zero_le _))
    intro result next _ _
    exact advances_pure _
  case h_6 =>
    apply Advances.bind (advances_readBytes buffer)
    intro bytes next _ _
    exact advances_bigIntOfHex bytes
  case h_7 =>
    apply Advances.bind
    · exact advances_readAlignment buffer 8
        ((advances_readNumber (readAlignment buffer 8) 8).mono (Nat.zero_le _))
    intro result next _ _
    exact advances_pure _
  case h_8 | h_9 =>
    apply Advances.bind (advances_readBytes buffer)
    intro bytes next _ _
    exact advances_pure _
  case h_10 | h_11 | h_12 | h_15 =>
    apply Advances.bind (advances_readItems buffer _)
    intro array next _ _
    exact advances_pure _
  case h_13 =>
    apply Advances.bind ((advances_readSize buffer).mono (Nat.zero_le _))
    intro length next same ahead
    apply Advances.bind (advances_readValues length
      (reads.later same (Nat.le_trans (Nat.le_add_right _ _) ahead)))
    intro array next _ _
    exact advances_pure _
  case h_14 =>
    apply Advances.bind ((advances_readSize buffer).mono (Nat.zero_le _))
    intro size next same ahead
    apply Advances.bind (advances_readEntries size []
      (reads.later same (Nat.le_trans (Nat.le_add_right _ _) ahead)))
    intro map next _ _
    exact advances_pure _
  case h_16 => exact fun same => by cases same
  all_goals exact advances_pure _

end Nested

/-- A value takes a byte, so this much fuel is enough for the rest of the view. -/
theorem advances_readValue (utf8 : NativeUtf8) (fuel : Nat) (buffer : ByteBuffer)
    (fueled : buffer.dataView.length < fuel + 1 + buffer.byteOffset) :
    Advances buffer 0 (readValue utf8 (fuel + 1) buffer) := by
  induction fuel generalizing buffer with
  | zero =>
    have past : buffer.readUint8 = .error .rangeError := by
      have outside : ¬buffer.byteOffset + 1 ≤ buffer.dataView.length := by omega
      simp only [readUint8, readNumber, getUint8Array, if_neg outside]
      rfl
    rw [readValue, past]
    exact fun same => by cases same
  | succ fuel ih =>
    refine Advances.mono (Nat.zero_le 1) ?_
    apply Advances.bind (advances_readNumber buffer 1)
    intro type next same ahead
    apply advances_readValueOfType
    intro after sameAfter aheadAfter
    apply ih
    rw [sameAfter, same]
    omega

/-- Decoding ends: whatever the bytes, the fuel does not run out. -/
theorem decodeMessage_ends (utf8 : NativeUtf8) (message : Option (List Byte)) :
    decodeMessage utf8 message ≠ .error .outOfFuel := by
  cases message with
  | none => exact fun same => by cases same
  | some bytes =>
    have advances := advances_readValue utf8 bytes.length { dataView := bytes } (by simp)
    intro ended
    rw [decodeMessage] at ended
    cases read : readValue utf8 (bytes.length + 1) { dataView := bytes } with
    | error thrown =>
      rw [read] at advances ended
      injection ended with ended
      exact advances ended
    | ok value =>
      rw [read] at ended
      cases ended

end FlutterEngine.Ohos.StandardMessageCodec
