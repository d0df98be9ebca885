import FlutterEngine.Fml.BitConverter

/-!
# Base32

`Base32Encode` and `Base32Decode` of `base32.cc`: both move bits through a converter, and what
they write is the row of bits they read, cut at another width.
-/

namespace FlutterEngine.Fml

open FlutterEngine.Std BitString

abbrev Base32DecodeConverter := BitConverter 5 8 16

abbrev Base32EncodeConverter := BitConverter 8 5 16

/-- `std::numeric_limits<size_t>::max()`. -/
def sizeMax : Nat := 2 ^ 64 - 1

namespace Base32

def kEncoding : List Char := "ABCDEFGHIJKLMNOPQRSTUVWXYZ234567".toList

/-- `kEncoding[code]`. -/
def encoding (code : Nat) : UInt8 := .ofNat (kEncoding.getD code ' ').toNat

/-- Starting from `2`. -/
def kDecodeMap : List Int :=
  [26, 27, 28, 29, 30, 31, -1, -1, -1, -1, -1, -1, -1, -1,
    -1, 0, 1, 2, 3, 4, 5, 6, 7, 8, 9, 10, 11, 12,
    13, 14, 15, 16, 17, 18, 19, 20, 21, 22, 23, 24, 25]

theorem kDecodeMap_lt : ∀ entry ∈ kDecodeMap, entry.toNat < 2 ^ 5 := by decide

abbrev Code := { code : Nat // code < 2 ^ 5 }

/-- What the map says of a character, where it says anything. -/
def decodeMap (c : UInt8) : Option Code :=
  let mapIndex : Int := c.toNat - '2'.toNat
  if mapIndex < 0 then none
  else
    match entry : kDecodeMap[mapIndex.toNat]? with
    | none => none
    | some code =>
      if code = -1 then none
      else some ⟨code.toNat, kDecodeMap_lt code (List.mem_of_getElem? entry)⟩

/-- The loop of `Base32Encode` and what it ends with. -/
def encodeLoop (converter : Base32EncodeConverter) (input output : List UInt8) : List UInt8 :=
  if can : converter.CanExtract then
    let output := output ++ [encoding (converter.extract can).1]
    match input with
    | next :: rest =>
      if room : (converter.extract can).2.CanAppend then
        encodeLoop ((converter.extract can).2.append next.toNat next.toNat_lt room) rest output
      else encodeLoop (converter.extract can).2 (next :: rest) output
    | [] => encodeLoop (converter.extract can).2 [] output
  else if 0 < converter.bitsAvailable then output ++ [encoding converter.peek]
  else output
termination_by 8 * input.length + converter.bitsAvailable
decreasing_by
  all_goals have less := converter.bitsAvailable_extract can
  · have more := (converter.extract can).2.bitsAvailable_append next.toNat_lt room
    simp only [List.length_cons]
    omega
  · omega
  · omega

/-- `Base32Encode`. -/
def base32Encode : List UInt8 → Bool × List UInt8
  | [] => (true, [])
  | first :: rest =>
    if sizeMax / 8 < (first :: rest).length then (false, [])
    else
      let converter : Base32EncodeConverter :=
        BitConverter.init.append first.toNat first.toNat_lt
          (BitConverter.canAppend_init (by decide))
      (true, encodeLoop converter rest [])

variable {converter : Base32DecodeConverter}

theorem canAppend_of_few (few : converter.bitsAvailable < 8) : converter.CanAppend := by
  have free := converter.free
  unfold BitConverter.bitsAvailable at few
  unfold BitConverter.CanAppend
  omega

/-- The loop of `Base32Decode`, which holds on to fewer bits than a byte has. -/
def decodeLoop (result : List UInt8) (converter : Base32DecodeConverter)
    (few : converter.bitsAvailable < 8) : List UInt8 → Bool × List UInt8
  | [] => (decide (converter.peek = 0), result)
  | c :: input =>
    match decodeMap c with
    | none => (false, result)
    | some code =>
      let appended := converter.append code.1 code.2 (canAppend_of_few few)
      if can : appended.CanExtract then
        decodeLoop (result ++ [.ofNat (appended.extract can).1]) (appended.extract can).2
          (by
            have more : appended.bitsAvailable = converter.bitsAvailable + 5 :=
              converter.bitsAvailable_append code.2 (canAppend_of_few few)
            have less := appended.bitsAvailable_extract can
            omega)
          input
      else decodeLoop result appended (Nat.not_le.mp can) input

/-- `Base32Decode`. -/
def base32Decode (input : List UInt8) : Bool × List UInt8 :=
  decodeLoop [] BitConverter.init (by decide) input

/-! ## The alphabet -/

theorem decodeMap_encoding (code : Code) : decodeMap (encoding code.1) = some code := by
  have table : ∀ code < 2 ^ 5, (decodeMap (encoding code)).map (·.1) = some code := by
    decide +kernel
  obtain ⟨found, decodes, same⟩ := Option.map_eq_some_iff.mp (table code.1 code.2)
  rw [decodes, Subtype.ext same]

theorem encoding_decodeMap {c : UInt8} {code : Code}
    (decodes : decodeMap c = some code) : c = encoding code.1 := by
  have table : ∀ char < 256,
      (decodeMap (.ofNat char)).all (fun code => UInt8.ofNat char == encoding code.1) := by
    decide +kernel
  have entry := table c.toNat c.toNat_lt
  rw [UInt8.ofNat_toNat, decodes, Option.all_some] at entry
  exact eq_of_beq entry

/-! ## The rows -/

def bytesOf (bytes : List UInt8) : List Bool := rowOf 8 (bytes.map UInt8.toNat)

def codesOf (codes : List Code) : List Bool := rowOf 5 (codes.map (·.1))

variable {after otherAfter : List Bool} {s : List UInt8}

theorem bytesOf_append_inj {bytes others : List UInt8} (count : bytes.length = others.length)
    (same : bytesOf bytes ++ after = bytesOf others ++ otherAfter) :
    bytes = others ∧ after = otherAfter := by
  have small : ∀ bytes : List UInt8, ∀ number ∈ bytes.map UInt8.toNat, number < 2 ^ 8 := by
    intro bytes number found
    obtain ⟨byte, -, rfl⟩ := List.mem_map.mp found
    exact byte.toNat_lt
  obtain ⟨numbers, ends⟩ := eq_of_rowOf (small bytes) (small others)
    (by rw [List.length_map, List.length_map, count]) same
  exact ⟨(List.map_inj_right fun _ _ => UInt8.toNat_inj.mp).mp numbers, ends⟩

theorem codesOf_append_inj {codes others : List Code} (count : codes.length = others.length)
    (same : codesOf codes ++ after = codesOf others ++ otherAfter) :
    codes = others ∧ after = otherAfter := by
  have small : ∀ codes : List Code, ∀ number ∈ codes.map (·.1), number < 2 ^ 5 := by
    intro codes number found
    obtain ⟨code, -, rfl⟩ := List.mem_map.mp found
    exact code.2
  obtain ⟨numbers, ends⟩ := eq_of_rowOf (small codes) (small others)
    (by rw [List.length_map, List.length_map, count]) same
  exact ⟨(List.map_inj_right fun _ _ => Subtype.ext).mp numbers, ends⟩

theorem bytesOf_cons (byte : UInt8) (bytes : List UInt8) :
    bytesOf (byte :: bytes) = bitsOf 8 byte.toNat ++ bytesOf bytes := rfl

theorem codesOf_cons (code : Code) (codes : List Code) :
    codesOf (code :: codes) = bitsOf 5 code.1 ++ codesOf codes := rfl

theorem codesOf_append (codes others : List Code) :
    codesOf (codes ++ others) = codesOf codes ++ codesOf others := by
  rw [codesOf, List.map_append, rowOf_append]
  rfl

theorem length_bytesOf (bytes : List UInt8) : (bytesOf bytes).length = 8 * bytes.length := by
  rw [bytesOf, length_rowOf, List.length_map]

theorem length_codesOf (codes : List Code) : (codesOf codes).length = 5 * codes.length := by
  rw [codesOf, length_rowOf, List.length_map]

/-- What the loop of the encoder adds to its output. -/
theorem encodeLoop_spec (converter : Base32EncodeConverter) (input output : List UInt8)
    (ready : input ≠ [] → converter.CanExtract) :
    ∃ (codes : List Code) (zeros : Nat), zeros < 5 ∧
      encodeLoop converter input output = output ++ codes.map (fun code => encoding code.1) ∧
      codesOf codes = converter.held ++ bytesOf input ++ List.replicate zeros false := by
  fun_induction encodeLoop converter input output with
  | case1 converter output can output' next rest room ih =>
    have more := (converter.extract can).2.bitsAvailable_append next.toNat_lt room
    obtain ⟨codes, zeros, few, written, row⟩ := ih fun _ => by
      unfold BitConverter.CanExtract
      omega
    refine ⟨⟨converter.peek, converter.peek_lt (by decide)⟩ :: codes, zeros, few, ?_, ?_⟩
    · rw [written, List.append_assoc]
      rfl
    · rw [codesOf_cons, row, BitConverter.held_append, converter.held_extract can, bytesOf_cons]
      simp only [List.append_assoc]
  | case2 converter output can output' next rest room ih =>
    obtain ⟨codes, zeros, few, written, row⟩ := ih fun _ => by
      have free := (converter.extract can).2.free
      unfold BitConverter.CanAppend at room
      unfold BitConverter.CanExtract BitConverter.bitsAvailable
      omega
    refine ⟨⟨converter.peek, converter.peek_lt (by decide)⟩ :: codes, zeros, few, ?_, ?_⟩
    · rw [written, List.append_assoc]
      rfl
    · rw [codesOf_cons, row, converter.held_extract can]
      simp only [List.append_assoc]
  | case3 converter output can output' ih =>
    obtain ⟨codes, zeros, few, written, row⟩ := ih (absurd rfl)
    refine ⟨⟨converter.peek, converter.peek_lt (by decide)⟩ :: codes, zeros, few, ?_, ?_⟩
    · rw [written, List.append_assoc]
      rfl
    · rw [codesOf_cons, row, converter.held_extract can]
      simp only [List.append_assoc]
  | case4 converter input output can some =>
    obtain rfl : input = [] := Classical.byContradiction fun more => can (ready more)
    refine ⟨[⟨converter.peek, converter.peek_lt (by decide)⟩], 5 - converter.bitsAvailable,
      by omega, rfl, ?_⟩
    rw [codesOf_cons, converter.bitsOf_peek (by decide) (Nat.le_of_lt (Nat.not_le.mp can))]
    simp [codesOf, bytesOf]
  | case5 converter input output can none =>
    obtain rfl : input = [] := Classical.byContradiction fun more => can (ready more)
    refine ⟨[], 0, by decide, (List.append_nil _).symm, ?_⟩
    have empty : converter.held = [] := by
      rw [← List.length_eq_zero_iff, converter.length_held]
      omega
    rw [empty]
    rfl

theorem base32Encode_long (long : sizeMax / 8 < s.length) :
    base32Encode s = (false, []) := by
  obtain _ | ⟨first, rest⟩ := s
  · exact absurd long (Nat.not_lt_zero _)
  · rw [base32Encode, if_pos long]

/-- What an encoding is: the row of its bytes, and the zeros that fill up its last code. -/
theorem base32Encode_spec (short : s.length ≤ sizeMax / 8) :
    ∃ (codes : List Code) (zeros : Nat), zeros < 5 ∧
      base32Encode s = (true, codes.map fun code => encoding code.1) ∧
      codesOf codes = bytesOf s ++ List.replicate zeros false := by
  obtain _ | ⟨first, rest⟩ := s
  · exact ⟨[], 0, by decide, rfl, rfl⟩
  · have room : (BitConverter.init : Base32EncodeConverter).CanAppend :=
      BitConverter.canAppend_init (by decide)
    obtain ⟨codes, zeros, few, written, row⟩ := encodeLoop_spec
      (BitConverter.init.append first.toNat first.toNat_lt room) rest []
      fun _ => by
        unfold BitConverter.CanExtract
        rw [BitConverter.bitsAvailable_append]
        exact Nat.le_trans (by decide) (Nat.le_add_left 8 _)
    refine ⟨codes, zeros, few, ?_, ?_⟩
    · simp only [base32Encode, if_neg (Nat.not_lt.mpr short), written, List.nil_append]
    · rw [row, BitConverter.held_append, BitConverter.held_init, List.nil_append, bytesOf_cons]

/-- One character of the alphabet: its code is appended, and a byte is taken where there
is one. -/
theorem decodeLoop_character (result : List UInt8) (few : converter.bitsAvailable < 8) (code : Code)
    (input : List UInt8) :
    ∃ appended : Base32DecodeConverter,
      appended.held = converter.held ++ bitsOf 5 code.1 ∧
      appended.bitsAvailable = converter.bitsAvailable + 5 ∧
      (∀ can : appended.CanExtract, ∃ less,
        decodeLoop result converter few (encoding code.1 :: input) =
          decodeLoop (result ++ [.ofNat (appended.extract can).1]) (appended.extract can).2 less
            input) ∧
      (¬appended.CanExtract → ∃ less,
        decodeLoop result converter few (encoding code.1 :: input) =
          decodeLoop result appended less input) := by
  have more := converter.bitsAvailable_append code.2 (canAppend_of_few few)
  refine ⟨converter.append code.1 code.2 (canAppend_of_few few),
    converter.held_append code.2 (canAppend_of_few few), more, fun can => ?_, fun cannot => ?_⟩
  · have extra := BitConverter.bitsAvailable_extract _ can
    refine ⟨by omega, ?_⟩
    rw [decodeLoop]
    simp only [decodeMap_encoding, dif_pos can]
  · refine ⟨Nat.not_le.mp cannot, ?_⟩
    rw [decodeLoop]
    simp only [decodeMap_encoding, dif_neg cannot]

/-- What the decoder makes of codes: bytes, and fewer bits than another would take. -/
theorem decodeLoop_codes (codes : List Code) (result : List UInt8)
    (converter : Base32DecodeConverter) (few : converter.bitsAvailable < 8) :
    ∃ (bytes : List UInt8) (left : List Bool), left.length < 8 ∧
      decodeLoop result converter few (codes.map fun code => encoding code.1) =
        (decide (left = List.replicate left.length false), result ++ bytes) ∧
      converter.held ++ codesOf codes = bytesOf bytes ++ left := by
  induction codes generalizing result converter with
  | nil =>
    refine ⟨[], converter.held, by rwa [converter.length_held], ?_, ?_⟩
    · have zero := converter.peek_eq_zero_iff (by decide) (Nat.le_of_lt few)
      rw [List.map_nil, decodeLoop, List.append_nil, converter.length_held]
      simp only [zero]
    · rw [codesOf, List.map_nil, rowOf_nil, List.append_nil]
      rfl
  | cons code codes ih =>
    obtain ⟨appended, held, more, full, notFull⟩ := decodeLoop_character result few code
      (codes.map fun code => encoding code.1)
    rw [List.map_cons]
    by_cases can : appended.CanExtract
    · obtain ⟨less, extracts⟩ := full can
      obtain ⟨bytes, left, short, decodes, row⟩ :=
        ih (result ++ [.ofNat (appended.extract can).1]) (appended.extract can).2 less
      have byte : (UInt8.ofNat (appended.extract can).1).toNat = appended.peek :=
        UInt8.toNat_ofNat_of_lt' (appended.peek_lt (by decide))
      refine ⟨.ofNat (appended.extract can).1 :: bytes, left, short, ?_, ?_⟩
      · rw [extracts, decodes, List.append_assoc]
        rfl
      · rw [codesOf_cons, ← List.append_assoc, ← held, appended.held_extract can,
          List.append_assoc, row, bytesOf_cons, byte, List.append_assoc]
    · obtain ⟨less, holds⟩ := notFull can
      obtain ⟨bytes, left, short, decodes, row⟩ := ih result appended less
      refine ⟨bytes, left, short, by rw [holds, decodes], ?_⟩
      rw [← row, held, codesOf_cons, List.append_assoc]

/-- What is decoded with success is of codes. -/
theorem decodeLoop_true {input result : List UInt8} {few : converter.bitsAvailable < 8}
    (decodes : decodeLoop result converter few input = (true, s)) :
    ∃ codes : List Code, input = codes.map fun code => encoding code.1 := by
  fun_induction decodeLoop result converter few input with
  | case1 => exact ⟨[], rfl⟩
  | case2 => simp at decodes
  | case3 result converter few c input code found appended can ih =>
    obtain ⟨codes, rest⟩ := ih decodes
    exact ⟨code :: codes, by rw [rest, encoding_decodeMap found, List.map_cons]⟩
  | case4 result converter few c input code found appended can ih =>
    obtain ⟨codes, rest⟩ := ih decodes
    exact ⟨code :: codes, by rw [rest, encoding_decodeMap found, List.map_cons]⟩

/-- What decodes to bytes: codes whose row is that of the bytes, with zeros after it that do
not make another byte. -/
theorem base32Decode_true_iff {t : List UInt8} :
    base32Decode t = (true, s) ↔
      ∃ (codes : List Code) (zeros : Nat), zeros < 8 ∧
        t = codes.map (fun code => encoding code.1) ∧
        codesOf codes = bytesOf s ++ List.replicate zeros false := by
  constructor
  · intro decodes
    obtain ⟨codes, rfl⟩ := decodeLoop_true decodes
    obtain ⟨bytes, left, few, decoded, row⟩ :=
      decodeLoop_codes codes [] BitConverter.init (by decide)
    rw [base32Decode, decoded, Prod.mk.injEq, decide_eq_true_iff] at decodes
    obtain ⟨zeros, rfl⟩ := decodes
    refine ⟨codes, left.length, few, rfl, ?_⟩
    rw [← zeros]
    rwa [BitConverter.held_init] at row
  · rintro ⟨codes, zeros, few, rfl, row⟩
    obtain ⟨bytes, left, less, decoded, same⟩ :=
      decodeLoop_codes codes [] BitConverter.init (by decide)
    rw [BitConverter.held_init, List.nil_append, row] at same
    have lengths := congrArg List.length same
    rw [List.length_append, List.length_append, length_bytesOf, length_bytesOf,
      List.length_replicate] at lengths
    obtain ⟨rfl, rfl⟩ := bytesOf_append_inj (by omega) same
    rw [base32Decode, decoded, List.length_replicate, decide_eq_true rfl]
    rfl

/-- Two lists of codes of the same row, but for how many zeros end it. -/
theorem codes_of_zeros {codes others : List Code} {row : List Bool} {zeros otherZeros : Nat}
    (few : zeros < 5) (less : otherZeros < 8) (codesRow : codesOf codes = row ++ List.replicate zeros false)
    (othersRow : codesOf others = row ++ List.replicate otherZeros false) :
    others = codes ∨ zeros < 3 ∧ others = codes ++ [⟨0, by decide⟩] := by
  have count := congrArg List.length codesRow
  have otherCount := congrArg List.length othersRow
  rw [length_codesOf, List.length_append, List.length_replicate] at count otherCount
  obtain same | more : otherZeros = zeros ∨ otherZeros = zeros + 5 := by omega
  · left
    have rows : codesOf others ++ [] = codesOf codes ++ [] := by rw [othersRow, codesRow, same]
    exact (codesOf_append_inj (by omega) rows).1
  · right
    have zero : codesOf [⟨0, by decide⟩] = List.replicate 5 false := rfl
    have rows :
        codesOf others ++ [] = codesOf (codes ++ [⟨0, by decide⟩]) ++ [] := by
      rw [List.append_nil, List.append_nil, codesOf_append, zero, codesRow, othersRow, more,
        List.append_assoc, List.replicate_append_replicate]
    refine ⟨by omega, (codesOf_append_inj ?_ rows).1⟩
    rw [List.length_append]
    change others.length = codes.length + 1
    omega

/-- Bytes that are few enough come back from their encoding, and from nothing else but their
encoding with one more `A`, where its codes end with fewer than three bits that are not used. -/
theorem base32Decode_base32Encode (s : List UInt8) :
    if s.length ≤ sizeMax / 8 then
      (base32Encode s).1 = true ∧ base32Decode (base32Encode s).2 = (true, s) ∧
        ∀ t, base32Decode t = (true, s) ↔
          t = (base32Encode s).2 ∨
            s.length % 5 ∈ [0, 1, 3] ∧ t = (base32Encode s).2 ++ [0x41]
    else base32Encode s = (false, []) := by
  split
  case isTrue short =>
    obtain ⟨codes, zeros, few, encodes, row⟩ := base32Encode_spec short
    have count := congrArg List.length row
    rw [length_codesOf, List.length_append, length_bytesOf, List.length_replicate] at count
    have a : encoding 0 = 0x41 := rfl
    have decodes : base32Decode (base32Encode s).2 = (true, s) := by
      rw [base32Decode_true_iff, encodes]
      exact ⟨codes, zeros, by omega, rfl, row⟩
    refine ⟨by rw [encodes], decodes, fun t => ⟨fun decodesTo => ?_, ?_⟩⟩
    · obtain ⟨others, otherZeros, less, rfl, otherRow⟩ := base32Decode_true_iff.mp decodesTo
      rw [encodes]
      obtain rfl | ⟨small, rfl⟩ := codes_of_zeros few less row otherRow
      · exact .inl rfl
      · right
        rw [List.map_append, List.map_singleton, a]
        have classes : s.length % 5 = 0 ∨ s.length % 5 = 1 ∨ s.length % 5 = 3 := by omega
        exact ⟨by simpa using classes, rfl⟩
    · rintro (rfl | ⟨classes, rfl⟩)
      · exact decodes
      · rw [base32Decode_true_iff, encodes]
        have small : zeros + 5 < 8 := by
          simp only [List.mem_cons, List.not_mem_nil, or_false] at classes
          omega
        refine ⟨codes ++ [⟨0, by decide⟩], zeros + 5, small, ?_, ?_⟩
        · rw [List.map_append, List.map_singleton, a]
        · rw [codesOf_append, row, List.append_assoc, ← List.replicate_append_replicate]
          rfl
  case isFalse long => exact base32Encode_long (Nat.not_le.mp long)

/-- The one character `A` decodes to nothing, which encodes to nothing; and of more bytes than
a size counts bits of there is no encoding. -/
theorem base32Decode_not_exact :
    (¬∀ t s, base32Decode t = (true, s) → t = (base32Encode s).2) ∧
      ¬∀ s, base32Decode (base32Encode s).2 = (true, s) := by
  constructor
  · intro exactness
    have decodes : base32Decode [0x41] = (true, []) := rfl
    exact absurd (exactness _ _ decodes) (by decide)
  · intro roundTrip
    have decodes := roundTrip (List.replicate (2 ^ 61) 0)
    rw [base32Encode_long (by rw [List.length_replicate]; decide)] at decodes
    have count := congrArg (·.2.length) decodes
    rw [List.length_replicate] at count
    contradiction

end Base32

end FlutterEngine.Fml
