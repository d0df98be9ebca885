import FlutterEngine.Ohos.StandardMessageCodec

/-!
# Reading messages where they were written

Each writing function of the codec only appends, and each reading function, started
where its writing counterpart was, ends where that ended. Of a bigint the reader does
not always return the value written: `readBack` says what it returns.
-/

namespace FlutterEngine.Ohos.StandardMessageCodec

open FlutterEngine.Std LittleEndian FlutterEngine.Std.Ieee754.Binary64 ByteBuffer
  WriteBuffer

/-! ## Hexadecimal strings -/

variable {digit : Nat} {value : Int}

theorem hexValue?_hexDigit (bound : digit < 16) :
    hexValue? (hexDigit digit) = some digit := by
  revert digit
  decide

theorem isWhiteSpace_hexDigit (bound : digit < 16) :
    isWhiteSpace (hexDigit digit) = false := by
  revert digit
  decide

/-- Digits given from the lowest up, written from the highest down. -/
theorem hexNumber?_hexDigits (digits : List Nat) (bounds : ∀ digit ∈ digits, digit < 16) :
    hexNumber? (digits.reverse.map hexDigit) = some (Nat.ofDigits 16 digits) := by
  induction digits with
  | nil => rfl
  | cons digit rest ih =>
    have higher := ih fun digit listed => bounds digit (.tail _ listed)
    rw [hexNumber?] at higher
    have lowest := hexValue?_hexDigit (bounds digit List.mem_cons_self)
    rw [hexNumber?, List.reverse_cons, List.map_append, List.foldlM_append, higher]
    simp [lowest, Nat.ofDigits_cons, Nat.add_comm]

theorem rdropWhile_hexDigits (sign : List Byte) (digits : List Nat)
    (bounds : ∀ digit ∈ digits, digit < 16) (nonempty : digits ≠ []) :
    (sign ++ digits.reverse.map hexDigit).rdropWhile isWhiteSpace =
      sign ++ digits.reverse.map hexDigit := by
  obtain ⟨digit, rest, rfl⟩ := List.exists_cons_of_ne_nil nonempty
  have last := isWhiteSpace_hexDigit (bounds digit List.mem_cons_self)
  rw [List.reverse_cons, List.map_append, List.map_singleton, ← List.append_assoc,
    List.rdropWhile_concat_neg _ _ _ (by simp [last])]

theorem hexDigits_spec (nonzero : value ≠ 0) :
    (∀ digit ∈ Nat.digits 16 value.natAbs, digit < 16) ∧ Nat.digits 16 value.natAbs ≠ [] :=
  ⟨fun _ listed => Nat.digits_lt_base (by decide) listed,
    Nat.digits_ne_nil_iff_ne_zero.mpr (Int.natAbs_ne_zero.mpr nonzero)⟩

theorem bigIntOfHex_toString16 (positive : 0 < value) :
    bigIntOfHex (toString16 value) = .ok value := by
  obtain ⟨bounds, nonempty⟩ := hexDigits_spec (by omega : value ≠ 0)
  have chars : toString16 value = (Nat.digits 16 value.natAbs).reverse.map hexDigit := by
    rw [toString16, if_neg (by omega), if_neg (by omega), List.nil_append]
  have trimmed := rdropWhile_hexDigits [] _ bounds nonempty
  rw [List.nil_append] at trimmed
  have filled : (Nat.digits 16 value.natAbs).reverse.map hexDigit ≠ [] := by simpa using nonempty
  simp only [bigIntOfHex, chars, trimmed, if_neg filled, hexNumber?_hexDigits _ bounds,
    Nat.ofDigits_digits]
  congr 1
  omega

/-- A minus sign is no hexadecimal digit. -/
theorem bigIntOfHex_negative (negative : value < 0) :
    bigIntOfHex (toString16 value) = .error .syntaxError := by
  obtain ⟨bounds, nonempty⟩ := hexDigits_spec (by omega : value ≠ 0)
  have chars : toString16 value = [45] ++ (Nat.digits 16 value.natAbs).reverse.map hexDigit := by
    rw [toString16, if_pos negative, if_neg (by omega)]
  have minus : hexNumber? ([45] ++ (Nat.digits 16 value.natAbs).reverse.map hexDigit) = none := rfl
  have filled : [45] ++ (Nat.digits 16 value.natAbs).reverse.map hexDigit ≠ [] :=
    List.cons_ne_nil _ _
  simp only [bigIntOfHex, chars, rdropWhile_hexDigits [45] _ bounds nonempty, if_neg filled, minus]

/-! ## Writing only appends -/

section Append

variable (stream : WriteBuffer)

theorem prefix_write (bytes : List Byte) : stream.buffer <+: (stream.write bytes).buffer := by
  rw [buffer_write]
  exact List.prefix_append _ _

theorem buffer_repeat (count : Nat) :
    (Nat.repeat (·.writeUint8 0) count stream).buffer = stream.buffer ++ List.replicate count 0 := by
  induction count with
  | zero => simp [Nat.repeat]
  | succ count ih => rw [Nat.repeat, writeUint8, buffer_write, ih, List.replicate_succ', List.append_assoc]

/-- Writer and reader agree on the padding at any place. -/
theorem byteOffset_writeAlignment (alignment : Nat) :
    (writeAlignment stream alignment).byteOffset = stream.byteOffset + padding alignment stream.byteOffset := by
  unfold writeAlignment padding
  by_cases aligned : stream.byteOffset % alignment = 0
  · rw [if_neg (not_not.mpr aligned), if_pos aligned, Nat.add_zero]
  · rw [if_pos aligned, if_neg aligned, ← length_buffer, buffer_repeat, List.length_append,
      length_buffer, List.length_replicate]

theorem prefix_writeAlignment (alignment : Nat) :
    stream.buffer <+: (writeAlignment stream alignment).buffer := by
  unfold writeAlignment
  dsimp only
  split
  · rw [buffer_repeat]
    exact List.prefix_append _ _
  · exact List.prefix_rfl

theorem prefix_writeSize (value : Nat) : stream.buffer <+: (writeSize stream value).buffer := by
  unfold writeSize
  split
  · exact prefix_write _ _
  split
  · exact (prefix_write _ _).trans (prefix_write _ _)
  · exact (prefix_write _ _).trans (prefix_write _ _)

theorem prefix_writeBytes (bytes : List Byte) : stream.buffer <+: (writeBytes stream bytes).buffer :=
  (prefix_writeSize stream bytes.length).trans (prefix_write _ bytes)

/-- The items of a typed array, after its length and the alignment. -/
def writeNumbers (size : Nat) (items : List (BitVec (8 * size))) : WriteBuffer :=
  items.foldl (fun stream item => stream.write (toBytes size item.toNat)) stream

theorem prefix_writeNumbers (size : Nat) (items : List (BitVec (8 * size))) :
    stream.buffer <+: (writeNumbers stream size items).buffer := by
  induction items generalizing stream with
  | nil => exact List.prefix_rfl
  | cons item rest ih => exact (prefix_write stream _).trans (ih _)

theorem prefix_writeItems (type : MessageType) (size : Nat) (items : List (BitVec (8 * size))) :
    (writeType stream type).buffer <+: (writeItems stream type size items).buffer :=
  ((prefix_writeSize _ items.length).trans (prefix_writeAlignment _ size)).trans
    (prefix_writeNumbers _ size items)

theorem prefix_writeDouble (value : Ieee754.Binary64) :
    (writeType stream .float64).buffer <+: (writeDouble stream value).buffer :=
  (prefix_writeAlignment _ 8).trans (prefix_write _ _)

end Append

/-! ## Reading -/

section Read

variable {stream : WriteBuffer} {bytes : List Byte}

theorem readUint8_at {value : Byte} (within : (stream.writeUint8 value).buffer <+: bytes) :
    (readerAt bytes stream).readUint8 = .ok (value, readerAt bytes (stream.writeUint8 value)) := by
  have single : toBytes 1 value.toNat = [value] := by simp [toBytes]
  have same : stream.writeUint8 value = stream.write (toBytes 1 value.toNat) := by
    rw [single]
    rfl
  rw [same] at within ⊢
  exact readNumber_at 1 within

theorem readAlignment_at (alignment : Nat) :
    readAlignment (readerAt bytes stream) alignment =
      readerAt bytes (writeAlignment stream alignment) := by
  rw [readAlignment, readerAt, readerAt, byteOffset_writeAlignment, padding]
  by_cases aligned : stream.byteOffset % alignment = 0
  · rw [if_pos aligned, if_neg (not_not.mpr aligned), Nat.add_zero]
  · rw [if_neg aligned, if_pos aligned, skip]

/-- Only a length of at least 2^32 is not written whole. -/
theorem readSize_at {size : Nat} (bounded : size < 2 ^ 32)
    (within : (writeSize stream size).buffer <+: bytes) :
    readSize (readerAt bytes stream) = .ok (size, readerAt bytes (writeSize stream size)) := by
  unfold writeSize at within ⊢
  by_cases small : size < 254
  · rw [if_pos small] at within ⊢
    have byte : (BitVec.ofNat 8 size).toNat = size := by
      rw [BitVec.toNat_ofNat]
      omega
    rw [readSize, readUint8_at within]
    change (if _ then _ else _) = _
    rw [byte, if_pos small]
    rfl
  rw [if_neg small] at within ⊢
  by_cases medium : size ≤ 0xffff
  · rw [if_pos medium] at within ⊢
    have word : (BitVec.ofNat 16 size).toNat = size := by
      rw [BitVec.toNat_ofNat]
      omega
    have read := readNumber_at 2 within
    rw [readSize, readUint8_at ((prefix_write _ _).trans within)]
    change ((readerAt bytes (stream.writeUint8 254)).readNumber 2 >>= _) = _
    rw [read]
    exact congrArg (fun length => Except.ok (length, _)) word
  · rw [if_neg medium] at within ⊢
    have word : (BitVec.ofNat 32 size).toNat = size := by
      rw [BitVec.toNat_ofNat]
      omega
    have read := readNumber_at 4 within
    rw [readSize, readUint8_at ((prefix_write _ _).trans within)]
    change ((readerAt bytes (stream.writeUint8 255)).readNumber 4 >>= _) = _
    rw [read]
    exact congrArg (fun length => Except.ok (length, _)) word

theorem readBytes_at {written : List Byte} (bounded : written.length < 2 ^ 32)
    (within : (writeBytes stream written).buffer <+: bytes) :
    readBytes (readerAt bytes stream) =
      .ok (written, readerAt bytes (writeBytes stream written)) := by
  rw [readBytes, readSize_at bounded ((prefix_write _ written).trans within)]
  exact readUint8Array_at within

theorem readNumbers_at {size : Nat} {items : List (BitVec (8 * size))}
    (within : (writeNumbers stream size items).buffer <+: bytes) :
    readNumbers size items.length (readerAt bytes stream) =
      .ok (items, readerAt bytes (writeNumbers stream size items)) := by
  induction items generalizing stream with
  | nil => rfl
  | cons item rest ih =>
    have first := readNumber_at size ((prefix_writeNumbers _ size rest).trans within)
    have others := ih within
    rw [List.length_cons, readNumbers, first]
    change (readNumbers size rest.length (readerAt bytes (stream.write _)) >>= _) = _
    rw [others]
    rfl

theorem readItems_at (type : MessageType) (size : Nat) (items : List (BitVec (8 * size)))
    (bounded : items.length < 2 ^ 32) (within : (writeItems stream type size items).buffer <+: bytes) :
    readItems size (readerAt bytes (writeType stream type)) =
      .ok (items, readerAt bytes (writeItems stream type size items)) := by
  have aligned := (prefix_writeNumbers _ size items).trans within
  rw [readItems, readSize_at bounded ((prefix_writeAlignment _ size).trans aligned)]
  change readNumbers size items.length (readAlignment (readerAt bytes _) size) = _
  rw [readAlignment_at]
  exact readNumbers_at within

end Read

end FlutterEngine.Ohos.StandardMessageCodec
