import FlutterEngine.Linux.BoundedReads

/-!
# Sizes in the messages of the Linux embedding

What is read lies in the message, so no list that is read is larger than it. The writer passes
the bytes of a list with a 32-bit size; the lists that do not fit are those that do not come
back.
-/

namespace FlutterEngine.Linux

open FlutterEngine.Std LittleEndian

namespace FlValue

mutual

/-- The value and all that is nested in it. -/
def All (holds : FlValue → Prop) : FlValue → Prop
  | .list values => holds (.list values) ∧ AllValues holds values
  | .map entries => holds (.map entries) ∧ AllEntries holds entries
  | .null => holds .null
  | .bool value => holds (.bool value)
  | .int value => holds (.int value)
  | .float value => holds (.float value)
  | .string value => holds (.string value)
  | .uint8List values => holds (.uint8List values)
  | .int32List values => holds (.int32List values)
  | .int64List values => holds (.int64List values)
  | .float32List values => holds (.float32List values)
  | .floatList values => holds (.floatList values)
  | .custom type => holds (.custom type)

def AllValues (holds : FlValue → Prop) : List FlValue → Prop
  | [] => True
  | value :: rest => All holds value ∧ AllValues holds rest

def AllEntries (holds : FlValue → Prop) : List (FlValue × FlValue) → Prop
  | [] => True
  | (key, value) :: rest => All holds key ∧ All holds value ∧ AllEntries holds rest

end

variable {holds : FlValue → Prop}
variable {entries : List (FlValue × FlValue)}

theorem allEntries_iff :
    AllEntries holds entries ↔ ∀ entry ∈ entries, All holds entry.1 ∧ All holds entry.2 := by
  induction entries with
  | nil => simp [AllEntries]
  | cons entry rest ih =>
    obtain ⟨key, value⟩ := entry
    rw [AllEntries, ih, List.forall_mem_cons, and_assoc]

theorem AllEntries.set {key value : FlValue}
    (all : AllEntries holds entries) (keyHolds : All holds key) (valueHolds : All holds value) :
    AllEntries holds (set entries key value) := by
  rw [allEntries_iff] at all ⊢
  intro entry listed
  unfold FlValue.set at listed
  split at listed
  · rcases List.mem_append.mp listed with earlier | last
    · exact all entry earlier
    · rw [List.mem_singleton.mp last]
      exact ⟨keyHolds, valueHolds⟩
  · rcases List.mem_or_eq_of_mem_set listed with earlier | replaced
    · exact all entry earlier
    · rw [replaced]
      exact ⟨keyHolds, valueHolds⟩

/-- Lengths below 2^32, no key twice, no custom value. -/
def EncodableHere : FlValue → Prop
  | .string value => value.bytes.length < 2 ^ 32
  | .uint8List values => values.length < 2 ^ 32
  | .int32List values => values.length < 2 ^ 32
  | .int64List values => values.length < 2 ^ 32
  | .float32List values => values.length < 2 ^ 32
  | .floatList values => values.length < 2 ^ 32
  | .list values => values.length < 2 ^ 32
  | .map entries => entries.length < 2 ^ 32 ∧ Distinct entries
  | .custom _ => False
  | _ => True

def Encodable : FlValue → Prop := All EncodableHere

/-- A list of numbers has fewer bytes. -/
def NumbersBelow (limit : Nat) : FlValue → Prop
  | .int32List values => 4 * values.length < limit
  | .float32List values => 4 * values.length < limit
  | .int64List values => 8 * values.length < limit
  | .floatList values => 8 * values.length < limit
  | _ => True

def NumbersFit : FlValue → Prop := All (NumbersBelow (2 ^ 32))

end FlValue

namespace FlStandardMessageCodec

open FlValue

mutual

theorem sendable_of_numbersFit : ∀ value, All EncodableHere value →
    All (NumbersBelow (2 ^ 32)) value → Sendable value
  | .null, _, _ => trivial
  | .bool _, _, _ => trivial
  | .int _, _, _ => trivial
  | .float _, _, _ => trivial
  | .string _, encodable, _ => encodable
  | .uint8List _, encodable, _ => encodable
  | .int32List _, _, fit => fit
  | .int64List _, _, fit => fit
  | .float32List _, _, fit => fit
  | .floatList _, _, fit => fit
  | .list values, encodable, fit =>
    ⟨encodable.1, sendableValues_of_numbersFit values encodable.2 fit.2⟩
  | .map entries, encodable, fit =>
    ⟨encodable.1.1, encodable.1.2, sendableEntries_of_numbersFit entries encodable.2 fit.2⟩
  | .custom _, encodable, _ => encodable.elim

theorem sendableValues_of_numbersFit : ∀ values, AllValues EncodableHere values →
    AllValues (NumbersBelow (2 ^ 32)) values → SendableValues values
  | [], _, _ => trivial
  | value :: rest, encodable, fit =>
    ⟨sendable_of_numbersFit value encodable.1 fit.1,
      sendableValues_of_numbersFit rest encodable.2 fit.2⟩

theorem sendableEntries_of_numbersFit : ∀ entries, AllEntries EncodableHere entries →
    AllEntries (NumbersBelow (2 ^ 32)) entries → SendableEntries entries
  | [], _, _ => trivial
  | (key, value) :: rest, encodable, fit =>
    ⟨sendable_of_numbersFit key encodable.1 fit.1,
      sendable_of_numbersFit value encodable.2.1 fit.2.1,
      sendableEntries_of_numbersFit rest encodable.2.2 fit.2.2⟩

end

/-! ## Writing -/

mutual

theorem writeValue_encodable : ∀ value buffer, All EncodableHere value →
    ∃ written, writeValue buffer value = .ok written
  | .null, _, _ => ⟨_, rfl⟩
  | .bool _, _, _ => ⟨_, rfl⟩
  | .int _, _, _ => ⟨_, rfl⟩
  | .float _, _, _ => ⟨_, rfl⟩
  | .string _, _, _ => ⟨_, rfl⟩
  | .uint8List _, _, _ => ⟨_, rfl⟩
  | .int32List _, _, _ => ⟨_, rfl⟩
  | .int64List _, _, _ => ⟨_, rfl⟩
  | .float32List _, _, _ => ⟨_, rfl⟩
  | .floatList _, _, _ => ⟨_, rfl⟩
  | .list values, _, encodable => writeValues_encodable values _ encodable.2
  | .map entries, _, encodable => writeEntries_encodable entries _ encodable.2
  | .custom _, _, encodable => encodable.elim

theorem writeValues_encodable : ∀ values buffer, AllValues EncodableHere values →
    ∃ written, writeValues buffer values = .ok written
  | [], buffer, _ => ⟨buffer, rfl⟩
  | value :: rest, buffer, encodable => by
      obtain ⟨first, writesFirst⟩ := writeValue_encodable value buffer encodable.1
      obtain ⟨written, writesRest⟩ := writeValues_encodable rest first encodable.2
      exact ⟨written, writeValues_cons.mpr ⟨first, writesFirst, writesRest⟩⟩

theorem writeEntries_encodable : ∀ entries buffer, AllEntries EncodableHere entries →
    ∃ written, writeEntries buffer entries = .ok written
  | [], buffer, _ => ⟨buffer, rfl⟩
  | (key, value) :: rest, buffer, encodable => by
      obtain ⟨keyed, writesKey⟩ := writeValue_encodable key buffer encodable.1
      obtain ⟨first, writesValue⟩ := writeValue_encodable value keyed encodable.2.1
      obtain ⟨written, writesRest⟩ := writeEntries_encodable rest first encodable.2.2
      exact ⟨written, writeEntries_cons.mpr ⟨keyed, first, writesKey, writesValue, writesRest⟩⟩

end

/-! ## Reading -/

/-- A read from `start` on that ends inside the message, or fails as the code does. -/
def Sound {α : Type} (bytes : GBytes) (start : Nat) (holds : α → Prop) :
    Except GError (α × Nat) → Prop
  | .ok (result, next) => start ≤ next ∧ next ≤ bytes.length ∧ holds result
  | .error thrown => thrown.code ≠ .outOfFuel

namespace Sound

variable {α β : Type} {bytes : GBytes} {start : Nat} {holds : α → Prop} {also : β → Prop}
  {read : Except GError (α × Nat)}

theorem bind (sound : Sound bytes start holds read) {rest : α × Nat → Except GError (β × Nat)}
    (continues : ∀ result next, start ≤ next → next ≤ bytes.length → holds result →
      Sound bytes start also (rest (result, next))) :
    Sound bytes start also (read >>= rest) := by
  cases read with
  | error thrown => exact sound
  | ok read =>
    obtain ⟨result, next⟩ := read
    exact continues result next sound.1 sound.2.1 sound.2.2

theorem later {earlier : Nat} (sound : Sound bytes start holds read) (before : earlier ≤ start) :
    Sound bytes earlier holds read := by
  cases read with
  | error thrown => exact sound
  | ok read => exact ⟨before.trans sound.1, sound.2⟩

end Sound

variable (bytes : GBytes) (offset : Nat) {limit : Nat}

theorem checkSize_spec (required : Nat) :
    checkSize bytes offset required = .ok () ∧ offset + required ≤ bytes.length ∨
      ∃ thrown, checkSize bytes offset required = .error thrown ∧ thrown.code ≠ .outOfFuel := by
  unfold checkSize
  split
  · exact .inr ⟨_, rfl, by decide⟩
  · next inside => exact .inl ⟨rfl, Nat.not_lt.mp inside⟩

theorem readNumber_sound (size : Nat) :
    Sound bytes (offset + size) (fun _ => True) (readNumber bytes offset size) := by
  unfold readNumber
  rcases checkSize_spec bytes offset size with ⟨checked, inside⟩ | ⟨thrown, checked, code⟩
  · rw [checked]
    exact ⟨Nat.le_refl _, inside, trivial⟩
  · rw [checked]
    exact code

theorem readSize_sound : Sound bytes (offset + 1) (fun _ => True) (readSize bytes offset) := by
  unfold readSize
  refine (readNumber_sound bytes offset 1).bind fun value8 next after inside _ => ?_
  dsimp only
  split
  · exact (readNumber_sound bytes next 4).later (by omega)
  split
  · refine ((readNumber_sound bytes next 2).later (by omega)).bind fun _ last reached within _ => ?_
    exact ⟨reached, within, trivial⟩
  · exact ⟨after, inside, trivial⟩

theorem readAlign_spec (align : Nat) :
    (∃ next, readAlign bytes offset align = .ok next ∧ offset ≤ next) ∨
      ∃ thrown, readAlign bytes offset align = .error thrown ∧ thrown.code ≠ .outOfFuel := by
  unfold readAlign
  split
  · exact .inl ⟨offset, rfl, Nat.le_refl offset⟩
  · dsimp only
    rcases checkSize_spec bytes offset (align - offset % align) with
      ⟨checked, -⟩ | ⟨thrown, checked, code⟩
    · rw [checked]
      exact .inl ⟨_, rfl, Nat.le_add_right _ _⟩
    · rw [checked]
      exact .inr ⟨thrown, rfl, code⟩

theorem readFloat64Value_sound :
    Sound bytes offset (All (NumbersBelow limit)) (readFloat64Value bytes offset) := by
  unfold readFloat64Value
  rcases readAlign_spec bytes offset 8 with ⟨next, aligned, after⟩ | ⟨thrown, aligned, code⟩
  · rw [aligned]
    refine ((readNumber_sound bytes next 8).later (after.trans (Nat.le_add_right _ _))).bind
      fun _ last reached within _ => ?_
    exact ⟨reached, within, trivial⟩
  · rw [aligned]
    exact code

theorem readBytes_sound : Sound bytes offset (fun _ => True) (readBytes bytes offset) := by
  unfold readBytes
  refine ((readSize_sound bytes offset).later (Nat.le_succ _)).bind
    fun length next after inside _ => ?_
  dsimp only
  rcases checkSize_spec bytes next length.toNat with ⟨checked, within⟩ | ⟨thrown, checked, code⟩
  · rw [checked]
    exact ⟨after.trans (Nat.le_add_right _ _), within, trivial⟩
  · rw [checked]
    exact code

/-- A list of numbers is no larger than the message. -/
theorem readItems_sound (size : Nat) :
    Sound bytes offset (fun items => size * items.length ≤ bytes.length)
      (readItems bytes offset size) := by
  unfold readItems
  refine ((readSize_sound bytes offset).later (Nat.le_succ _)).bind
    fun length next after inside _ => ?_
  dsimp only
  rcases readAlign_spec bytes next size with ⟨start, aligned, following⟩ | ⟨thrown, aligned, code⟩
  · rw [aligned]
    change Sound bytes offset _ (checkSize bytes start (size * length.toNat) >>= _)
    rcases checkSize_spec bytes start (size * length.toNat) with
      ⟨checked, within⟩ | ⟨thrown, checked, code⟩
    · rw [checked]
      refine ⟨(after.trans following).trans (Nat.le_add_right _ _), within, ?_⟩
      dsimp only
      rw [length_toElements]
      omega
    · rw [checked]
      exact code
  · rw [aligned]
    exact code

section ReadValue

variable {reads : Nat → Except GError (FlValue × Nat)}
  (sound : ∀ start, offset ≤ start → start ≤ bytes.length →
    Sound bytes (start + 1) (All (NumbersBelow limit)) (reads start))

include sound

theorem readValues_sound (count start : Nat) (after : offset ≤ start)
    (inside : start ≤ bytes.length) :
    Sound bytes start (AllValues (NumbersBelow limit)) (readValues reads count start) := by
  induction count generalizing start with
  | zero => exact ⟨Nat.le_refl start, inside, trivial⟩
  | succ count ih =>
    refine ((sound start after inside).later (Nat.le_succ start)).bind
      fun child next reached within fits => ?_
    refine ((ih next (after.trans reached) within).later reached).bind
      fun children last reachedLast withinLast others => ?_
    exact ⟨reachedLast, withinLast, fits, others⟩

theorem readEntries_sound (count : Nat) (map : List (FlValue × FlValue)) (start : Nat)
    (after : offset ≤ start) (inside : start ≤ bytes.length)
    (earlier : AllEntries (NumbersBelow limit) map) :
    Sound bytes start (AllEntries (NumbersBelow limit)) (readEntries reads count map start) := by
  induction count generalizing map start with
  | zero => exact ⟨Nat.le_refl start, inside, earlier⟩
  | succ count ih =>
    refine ((sound start after inside).later (Nat.le_succ start)).bind
      fun key next reached between keyFits => ?_
    refine ((sound next (after.trans reached) between).later
      (reached.trans (Nat.le_succ next))).bind fun value last reachedLast within valueFits => ?_
    exact (ih _ last (after.trans reachedLast) within
      (earlier.set keyFits valueFits)).later reachedLast

/-- Each type of value ends inside the message, with lists that are no larger than it. -/
theorem readValueOfType_sound (short : bytes.length < limit) (inside : offset ≤ bytes.length)
    (type : Byte) :
    Sound bytes offset (All (NumbersBelow limit)) (readValueOfType reads bytes type offset) := by
  unfold readValueOfType
  cases ValueType.ofByte? type with
  | none => exact (by decide : FlMessageCodecError.unsupportedType ≠ .outOfFuel)
  | some known =>
    cases known with
    | null | true | false => exact ⟨Nat.le_refl offset, inside, trivial⟩
    | int32 =>
      exact ((readNumber_sound bytes offset 4).later (Nat.le_add_right _ _)).bind
        fun _ _ reached within _ => ⟨reached, within, trivial⟩
    | int64 =>
      exact ((readNumber_sound bytes offset 8).later (Nat.le_add_right _ _)).bind
        fun _ _ reached within _ => ⟨reached, within, trivial⟩
    | float64 => exact readFloat64Value_sound bytes offset
    | string | uint8List =>
      exact (readBytes_sound bytes offset).bind
        fun _ _ reached within _ => ⟨reached, within, trivial⟩
    | int32List | float32List =>
      exact (readItems_sound bytes offset 4).bind
        fun _ _ reached within fits => ⟨reached, within, Nat.lt_of_le_of_lt fits short⟩
    | int64List | float64List =>
      exact (readItems_sound bytes offset 8).bind
        fun _ _ reached within fits => ⟨reached, within, Nat.lt_of_le_of_lt fits short⟩
    | list =>
      refine ((readSize_sound bytes offset).later (Nat.le_succ _)).bind
        fun length next reached within _ => ?_
      refine ((readValues_sound bytes offset sound length.toNat next reached within).later
        reached).bind fun _ _ reachedLast withinLast fits => ?_
      exact ⟨reachedLast, withinLast, trivial, fits⟩
    | map =>
      refine ((readSize_sound bytes offset).later (Nat.le_succ _)).bind
        fun length next reached within _ => ?_
      refine ((readEntries_sound bytes offset sound length.toNat [] next reached within
        trivial).later reached).bind fun _ _ reachedLast withinLast fits => ?_
      exact ⟨reachedLast, withinLast, trivial, fits⟩

end ReadValue

/-- A value takes a byte at least, so fuel for the bytes that are left is enough. -/
theorem readValue_sound (short : bytes.length < limit) (fuel : Nat)
    (fueled : bytes.length < fuel + offset) (inside : offset ≤ bytes.length) :
    Sound bytes (offset + 1) (All (NumbersBelow limit)) (readValue bytes fuel offset) := by
  induction fuel generalizing offset with
  | zero => omega
  | succ fuel ih =>
    rw [readValue]
    refine (readNumber_sound bytes offset 1).bind fun type next reached within _ => ?_
    refine (readValueOfType_sound bytes next (fun start after remains => ?_) short within
      type).later reached
    exact ih start (by omega) remains

/-! ## Whole messages -/

/-- A message decodes with its last byte read, or fails as the code does, and no access leaves
it. -/
theorem decodeMessage_sound (message : GBytes) :
    (∃ value, Bounded.decodeMessage message = .ok value ∧
      (message = [] ∨ Bounded.readValue message (message.length + 1) 0 =
        .ok (value, message.length))) ∨
    ∃ thrown, Bounded.decodeMessage message = .error (.error thrown) ∧
      thrown.code ≠ .outOfFuel := by
  have sound := readValue_sound message 0 (Nat.lt_succ_self message.length) (message.length + 1)
    (by omega) (Nat.zero_le _)
  rw [Bounded.decodeMessage_eq, Bounded.readValue_eq]
  unfold decodeMessage
  split
  · next empty => exact .inl ⟨.null, rfl, .inl (List.length_eq_zero_iff.mp empty)⟩
  · cases read : readValue message (message.length + 1) 0 with
    | error thrown =>
      rw [read] at sound
      exact .inr ⟨thrown, rfl, sound⟩
    | ok result =>
      obtain ⟨value, next⟩ := result
      change (∃ other, liftError (if next = message.length then _ else _) = _ ∧ _) ∨
        ∃ thrown, liftError (if next = message.length then _ else _) = _ ∧ _
      split
      · next consumed => exact .inl ⟨value, rfl, .inr (by rw [consumed]; rfl)⟩
      · exact .inr ⟨_, rfl, FlMessageCodecError.noConfusion⟩

theorem numbersFit_of_decodeMessage {message : GBytes} {value : FlValue}
    (short : message.length < 2 ^ 32) (decoded : decodeMessage message = .ok value) :
    NumbersFit value := by
  have sound := readValue_sound message 0 short (message.length + 1) (by omega)
    (Nat.zero_le _)
  unfold decodeMessage at decoded
  split at decoded
  · cases decoded
    exact trivial
  · cases read : readValue message (message.length + 1) 0 with
    | error thrown =>
      rw [read] at decoded
      cases decoded
    | ok result =>
      obtain ⟨other, next⟩ := result
      rw [read] at decoded sound
      change (if next = message.length then _ else _) = _ at decoded
      split at decoded
      · cases decoded
        exact sound.2.2
      · cases decoded

theorem liftError_eq_ok {α : Type} {result : Except GError α} {value : α} :
    liftError result = .ok value ↔ result = .ok value := by
  cases result <;> simp

end FlStandardMessageCodec

end FlutterEngine.Linux
