import FlutterEngine.Std.Bits

/-!
# Base64

`Base64` of `base64.cc`. Memory is the bytes from a pointer on; what is read beyond them, and
a count that leaves `int`, have no result.
-/

namespace FlutterEngine.Shell

open FlutterEngine.Std

namespace Base64

/-- `Base64::Error`. -/
inductive Error where
  | kNone
  | kBadPadding
  | kBadChar
deriving DecidableEq

def decodePad : Int := -2

def encodePad : Nat := 64

def kDefaultEncode : List Char :=
  "ABCDEFGHIJKLMNOPQRSTUVWXYZabcdefghijklmnopqrstuvwxyz0123456789+/=".toList

/-- The codes of the characters from `+` to `z`. -/
def kDecodeData : List Int :=
  [62, -1, -1, -1, 63, 52, 53, 54, 55, 56, 57, 58, 59, 60, 61, -1,
    -1, -1, decodePad, -1, -1, -1, 0, 1, 2, 3, 4, 5, 6, 7, 8, 9,
    10, 11, 12, 13, 14, 15, 16, 17, 18, 19, 20, 21, 22, 23, 24, 25,
    -1, -1, -1, -1, -1, -1, 26, 27, 28, 29, 30, 31, 32, 33, 34, 35,
    36, 37, 38, 39, 40, 41, 42, 43, 44, 45, 46, 47, 48, 49, 50, 51]

/-! ## Encoding -/

def encodedSize (srcDataLength : Nat) : Nat := ((srcDataLength + 2) / 3) * 4

/-- `encode[code]`. -/
def character (code : Nat) : UInt8 := .ofNat (kDefaultEncode.getD code ' ').toNat

/-- Three bytes as four characters. -/
def encodeGroup (first second third : UInt8) : List UInt8 :=
  let a := first.toNat
  let b := second.toNat
  let c := third.toNat
  let d := c &&& 0x3F
  let c := (c >>> 6 ||| b <<< 2) &&& 0x3F
  let b := (b >>> 4 ||| a <<< 4) &&& 0x3F
  let a := a >>> 2
  [character a, character b, character c, character d]

/-- The one or two bytes that remain. -/
def encodeRemainder (first : UInt8) (second : Option UInt8) : List UInt8 :=
  let a := first.toNat
  let (k1, k2) :=
    match second with
    | none => (0, encodePad)
    | some second => (second.toNat >>> 4, (second.toNat <<< 2) &&& 0x3F)
  [character (a >>> 2), character ((k1 ||| a <<< 4) &&& 0x3F), character k2, character encodePad]

/-- What `Encode` writes. -/
def encoded : List UInt8 → List UInt8
  | first :: second :: third :: rest => encodeGroup first second third ++ encoded rest
  | [first, second] => encodeRemainder first (some second)
  | [first] => encodeRemainder first none
  | [] => []

/-- `Encode`: its result and what it writes. -/
def encode (src : List UInt8) : Nat × List UInt8 := (encodedSize src.length, encoded src)

/-! ## Decoding -/

/-- How the inner loop of `Decode` ends. -/
inductive Group where
  /-- With a read beyond the memory. -/
  | undefined
  /-- With a return. -/
  | returns (error : Error)
  | decoded (bytes : List UInt8) (padTwo padThree : Bool) (src : List UInt8)

/-- Padding, at which the inner loop breaks. -/
def padded (bytes : List UInt8) (byte : Nat) (src : List UInt8) : Group :=
  if byte < 2 then .returns .kBadPadding else .decoded bytes (byte == 2) true src

/-- The inner loop of `Decode`, from its first character or where `byte` are decoded. -/
def decodeGroup (bytes : List UInt8) (byte : Nat) : List UInt8 → Group
  | [] => .undefined
  | srcByte :: src =>
    if srcByte = 0 then .returns .kNone
    else if srcByte ≤ 0x20 then decodeGroup bytes byte src
    else if srcByte < 0x2B ∨ 0x7A < srcByte then .returns .kBadChar
    else
      let decoded := kDecodeData.getD (srcByte.toNat - 0x2B) 0
      let bytes := bytes.set byte (.ofNat (decoded % 256).toNat)
      if decoded = decodePad then padded bytes byte src
      else if decoded < 0 then .returns .kBadChar
      else
        let byte := byte + 1
        match src with
        | [] => .undefined
        | next :: _ =>
          if next ≠ 0 then
            if byte < 4 then decodeGroup bytes byte src else .decoded bytes false false src
          else if byte = 0 then .returns .kNone
          else if byte = 4 then .decoded bytes false false src
          else padded bytes byte src

/-- `Decode`: its result, the length where it is assigned, and what is written. -/
structure Decoded where
  error : Error
  dstLength : Option Nat
  dst : List UInt8
deriving DecidableEq

def intMax : Nat := 2 ^ 31 - 1

/-- `dst[i] = byte; i++`, where `i` counts what is written. -/
def put (dst : List UInt8) (byte : Nat) : Option (List UInt8) :=
  if dst.length < intMax then some (dst ++ [.ofNat byte]) else none

theorem padded_rest {bytes decoded src rest : List UInt8} {byte : Nat} {padTwo padThree : Bool}
    (group : padded bytes byte src = .decoded decoded padTwo padThree rest) : rest = src := by
  unfold padded at group
  split at group
  · contradiction
  · cases group
    rfl

theorem length_decodeGroup {bytes decoded src rest : List UInt8} {byte : Nat}
    {padTwo padThree : Bool}
    (group : decodeGroup bytes byte src = .decoded decoded padTwo padThree rest) :
    rest.length < src.length := by
  fun_induction decodeGroup bytes byte src with
  | case3 _ _ _ _ _ _ ih => exact Nat.lt_succ_of_lt (ih group)
  | case5 =>
    rw [padded_rest group]
    exact Nat.lt_succ_self _
  | case8 _ _ _ _ _ _ _ _ _ _ _ _ _ _ _ ih => exact Nat.lt_succ_of_lt (ih group)
  | case9 | case11 =>
    injection group with _ _ _ consumed
    rw [← consumed]
    exact Nat.lt_succ_self _
  | case12 =>
    rw [padded_rest group]
    exact Nat.lt_succ_self _
  | _ => contradiction

/-- The outer loop of `Decode`, where `following` bytes of the memory are beyond the end. -/
def decodeLoop (following : Nat) (dst : List UInt8) (src : List UInt8) : Option Decoded :=
  if src.length ≤ following then some ⟨.kNone, some dst.length, dst⟩
  else
    match group : decodeGroup [0, 0, 0, 0] 0 src with
    | .undefined => none
    | .returns .kNone => some ⟨.kNone, some dst.length, dst⟩
    | .returns error => some ⟨error, none, dst⟩
    | .decoded bytes padTwo padThree rest =>
      let one := bytes.getD 0 0 |>.toNat
      let two := bytes.getD 1 0 |>.toNat
      let three := bytes.getD 2 0 |>.toNat
      let four := bytes.getD 3 0 |>.toNat
      (put dst (((one <<< 2) &&& 0xFF) ||| two >>> 4)).bind fun dst =>
        if padTwo then some ⟨.kNone, some dst.length, dst⟩
        else (put dst (((two <<< 4) &&& 0xFF) ||| three >>> 2)).bind fun dst =>
          if padThree then some ⟨.kNone, some dst.length, dst⟩
          else (put dst (((three <<< 6) &&& 0xFF) ||| four)).bind fun dst =>
            decodeLoop following dst rest
termination_by src.length
decreasing_by exact length_decodeGroup group

/-- `Decode` of the first bytes of the memory, to a buffer. -/
def decode (memory : List UInt8) (srcLength : Nat) : Option Decoded :=
  decodeLoop (memory.length - srcLength) [] memory

/-! ## One character -/

/-- What the table says of the characters that encode. -/
theorem character_decodes : ∀ code < 64, character code ≠ 0 ∧ ¬character code ≤ 0x20 ∧
    ¬(character code < 0x2B ∨ 0x7A < character code) ∧
      kDecodeData.getD ((character code).toNat - 0x2B) 0 = code := by
  decide +kernel

theorem character_pad : character encodePad = 0x3D := rfl

theorem character_ne_zero {code : Nat} (small : code ≤ 64) : character code ≠ 0 := by
  obtain less | rfl := Nat.lt_or_eq_of_le small
  · exact (character_decodes code less).1
  · rw [show (64 : Nat) = encodePad from rfl, character_pad]
    decide

theorem pad_ne_zero : character encodePad ≠ 0 := character_ne_zero (Nat.le_refl _)

section Characters

variable {bytes src : List UInt8} {byte code : Nat} {next : UInt8}

/-- A character that others of its group follow. -/
theorem decodeGroup_character (small : code < 64) (open4 : byte + 1 < 4) (more : next ≠ 0) :
    decodeGroup bytes byte (character code :: next :: src) =
      decodeGroup (bytes.set byte (.ofNat code)) (byte + 1) (next :: src) := by
  obtain ⟨nonzero, visible, inside, decodes⟩ := character_decodes code small
  rw [decodeGroup, if_neg nonzero, if_neg visible, if_neg inside]
  have plain : (code : Int) ≠ decodePad := by
    unfold decodePad
    omega
  have byteOf : ((code : Int) % 256).toNat = code := by omega
  simp only [decodes, if_neg plain, if_neg (Int.not_lt.mpr (Int.natCast_nonneg code)), if_pos more,
    if_pos open4, byteOf]

/-- The last character of a group, whatever follows. -/
theorem decodeGroup_last (small : code < 64) :
    decodeGroup bytes 3 (character code :: next :: src) =
      .decoded (bytes.set 3 (.ofNat code)) false false (next :: src) := by
  obtain ⟨nonzero, visible, inside, decodes⟩ := character_decodes code small
  rw [decodeGroup, if_neg nonzero, if_neg visible, if_neg inside]
  have plain : (code : Int) ≠ decodePad := by
    unfold decodePad
    omega
  have byteOf : ((code : Int) % 256).toNat = code := by omega
  simp only [decodes, if_neg plain, if_neg (Int.not_lt.mpr (Int.natCast_nonneg code)), byteOf]
  simp

/-- Padding, which ends the group at once. -/
theorem decodeGroup_pad (enough : 2 ≤ byte) :
    decodeGroup bytes byte (character encodePad :: src) =
      .decoded (bytes.set byte 254) (byte == 2) true src := by
  rw [character_pad, decodeGroup, if_neg (by decide), if_neg (by decide), if_neg (by decide)]
  simp only [show kDecodeData.getD ((0x3D : UInt8).toNat - 0x2B) 0 = decodePad from by decide,
    if_true, padded, if_neg (Nat.not_lt.mpr enough)]
  rfl

end Characters

/-! ## One group -/

/-- The four codes of three bytes. -/
def codes (first second third : UInt8) : List Nat :=
  [first.toNat / 4, first.toNat % 4 * 16 + second.toNat / 16,
    second.toNat % 16 * 4 + third.toNat / 64, third.toNat % 64]

theorem sextet (number : Nat) : number &&& 0x3F = number % 64 := Bits.mask number 6

theorem octet {lower shift width : Nat} (upper : Nat) (fits : lower < 2 ^ shift)
    (whole : shift + width = 8) :
    (upper <<< shift &&& 0xFF) ||| lower = upper % 2 ^ width * 2 ^ shift + lower := by
  rw [← Bits.shiftLeft_mask_or upper width fits, whole]
  rfl

theorem second_code (first : Nat) {lower : Nat} (fits : lower < 16) :
    (lower ||| first <<< 4) &&& 0x3F = first % 4 * 16 + lower := by
  rw [sextet, Bits.or_shiftLeft first (show lower < 2 ^ 4 from fits)]
  omega

theorem third_code (second : Nat) {lower : Nat} (fits : lower < 4) :
    (lower ||| second <<< 2) &&& 0x3F = second % 16 * 4 + lower := by
  rw [sextet, Bits.or_shiftLeft second (show lower < 2 ^ 2 from fits)]
  omega

theorem encodeGroup_eq (first second third : UInt8) :
    encodeGroup first second third = (codes first second third).map character := by
  have secondBelow := second.toNat_lt
  have thirdBelow := third.toNat_lt
  simp only [encodeGroup, codes, List.map_cons, List.map_nil, Nat.shiftRight_eq_div_pow]
  rw [second_code _ (by omega), third_code _ (by omega), sextet]

/-- Two bytes that remain take the codes of a third that is zero, but for the last. -/
theorem encodeRemainder_some (first second : UInt8) :
    encodeRemainder first (some second) =
      ((codes first second 0).take 3).map character ++ [character encodePad] := by
  have secondBelow := second.toNat_lt
  have third : (second.toNat <<< 2) &&& 0x3F = second.toNat % 16 * 4 := by
    rw [sextet, Nat.shiftLeft_eq]
    omega
  simp only [encodeRemainder, codes, Nat.shiftRight_eq_div_pow, third]
  rw [second_code _ (by omega)]
  rfl

theorem encodeRemainder_none (first : UInt8) :
    encodeRemainder first none =
      ((codes first 0 0).take 2).map character ++ [character encodePad, character encodePad] := by
  simp only [encodeRemainder, codes, Nat.shiftRight_eq_div_pow]
  rw [second_code _ (by omega)]
  rfl

section Groups

variable (first second third : UInt8) (src : List UInt8) (next : UInt8)

omit first second third src next in
theorem code_toNat {code : Nat} (small : code < 64) : (UInt8.ofNat code).toNat = code :=
  UInt8.toNat_ofNat_of_lt' (Nat.lt_trans small (by decide))

theorem first_byte :
    ((first.toNat / 4) <<< 2 &&& 0xFF) ||| (first.toNat % 4 * 16 + second.toNat / 16) >>> 4 =
      first.toNat := by
  have firstBelow := first.toNat_lt
  have secondBelow := second.toNat_lt
  rw [Nat.shiftRight_eq_div_pow, octet _ (by omega) (show 2 + 6 = 8 from rfl)]
  omega

theorem second_byte :
    ((first.toNat % 4 * 16 + second.toNat / 16) <<< 4 &&& 0xFF) |||
        (second.toNat % 16 * 4 + third.toNat / 64) >>> 2 =
      second.toNat := by
  have secondBelow := second.toNat_lt
  have thirdBelow := third.toNat_lt
  rw [Nat.shiftRight_eq_div_pow, octet _ (by omega) (show 4 + 4 = 8 from rfl)]
  omega

theorem third_byte :
    ((second.toNat % 16 * 4 + third.toNat / 64) <<< 6 &&& 0xFF) ||| third.toNat % 64 =
      third.toNat := by
  have thirdBelow := third.toNat_lt
  rw [octet _ (by omega) (show 6 + 2 = 8 from rfl)]
  omega

theorem codes_small :
    first.toNat / 4 < 64 ∧ first.toNat % 4 * 16 + second.toNat / 16 < 64 ∧
      second.toNat % 16 * 4 + third.toNat / 64 < 64 ∧ third.toNat % 64 < 64 := by
  have firstBelow := first.toNat_lt
  have secondBelow := second.toNat_lt
  have thirdBelow := third.toNat_lt
  omega

theorem decodeGroup_encodeGroup :
    decodeGroup [0, 0, 0, 0] 0 (encodeGroup first second third ++ next :: src) =
      .decoded ((codes first second third).map .ofNat) false false (next :: src) := by
  obtain ⟨one, two, three, four⟩ := codes_small first second third
  rw [encodeGroup_eq]
  simp only [codes, List.map_cons, List.map_nil, List.cons_append, List.nil_append]
  rw [decodeGroup_character one (by decide) (character_ne_zero (Nat.le_of_lt two)),
    decodeGroup_character two (by decide) (character_ne_zero (Nat.le_of_lt three)),
    decodeGroup_character three (by decide) (character_ne_zero (Nat.le_of_lt four)),
    decodeGroup_last four]
  rfl

theorem decodeGroup_encodeRemainder_some :
    decodeGroup [0, 0, 0, 0] 0 (encodeRemainder first (some second) ++ src) =
      .decoded (((codes first second 0).take 3).map .ofNat ++ [254]) false true src := by
  obtain ⟨one, two, three, -⟩ := codes_small first second 0
  rw [encodeRemainder_some]
  simp only [codes, List.take_succ_cons, List.take_zero, List.map_cons, List.map_nil,
    List.cons_append, List.nil_append]
  rw [decodeGroup_character one (by decide) (character_ne_zero (Nat.le_of_lt two)),
    decodeGroup_character two (by decide) (character_ne_zero (Nat.le_of_lt three)),
    decodeGroup_character three (by decide) pad_ne_zero, decodeGroup_pad (by decide)]
  rfl

theorem decodeGroup_encodeRemainder_none :
    decodeGroup [0, 0, 0, 0] 0 (encodeRemainder first none ++ src) =
      .decoded (((codes first 0 0).take 2).map .ofNat ++ [254, 0]) true true
        (character encodePad :: src) := by
  obtain ⟨one, two, -, -⟩ := codes_small first 0 0
  rw [encodeRemainder_none]
  simp only [codes, List.take_succ_cons, List.take_zero, List.map_cons, List.map_nil,
    List.cons_append, List.nil_append]
  rw [decodeGroup_character one (by decide) (character_ne_zero (Nat.le_of_lt two)),
    decodeGroup_character two (by decide) pad_ne_zero, decodeGroup_pad (by decide)]
  rfl

end Groups

/-! ## The round trip -/

/-- What is put after what is put already, where all of it fits. -/
theorem foldlM_put (x dst : List UInt8) (fits : dst.length ≤ intMax) :
    x.foldlM (fun dst byte => put dst byte.toNat) dst =
      if dst.length + x.length ≤ intMax then some (dst ++ x) else none := by
  induction x generalizing dst with
  | nil => simp [fits]
  | cons byte x ih =>
    rw [List.foldlM_cons, put]
    by_cases room : dst.length < intMax
    · have grown : (dst ++ [byte]).length ≤ intMax := by
        rw [List.length_append]
        exact room
      have total : (dst ++ [byte]).length + x.length = dst.length + (byte :: x).length := by
        simp only [List.length_append, List.length_cons, List.length_nil]
        omega
      rw [if_pos room, UInt8.ofNat_toNat]
      simp only [Option.bind_eq_bind, Option.bind_some]
      rw [ih _ grown, total, List.append_assoc]
      rfl
    · rw [if_neg room, if_neg (by simp only [List.length_cons]; omega)]
      rfl

theorem decodeLoop_group {following : Nat} {dst bytes src rest : List UInt8}
    {padTwo padThree : Bool} (more : following < src.length)
    (group : decodeGroup [0, 0, 0, 0] 0 src = .decoded bytes padTwo padThree rest) :
    decodeLoop following dst src =
      (put dst ((((bytes.getD 0 0).toNat <<< 2) &&& 0xFF) ||| (bytes.getD 1 0).toNat >>> 4)).bind
        fun dst =>
          if padTwo then some ⟨.kNone, some dst.length, dst⟩
          else (put dst
            ((((bytes.getD 1 0).toNat <<< 4) &&& 0xFF) ||| (bytes.getD 2 0).toNat >>> 2)).bind
              fun dst =>
                if padThree then some ⟨.kNone, some dst.length, dst⟩
                else (put dst
                  ((((bytes.getD 2 0).toNat <<< 6) &&& 0xFF) ||| (bytes.getD 3 0).toNat)).bind
                    fun dst => decodeLoop following dst rest := by
  rw [decodeLoop, if_neg (Nat.not_le.mpr more)]
  split
  all_goals rename_i found
  all_goals rw [group] at found
  all_goals cases found
  rfl

/-- What the loop does with an encoding, whatever is decoded before and lies beyond. -/
theorem decodeLoop_encoded (x dst : List UInt8) (next : UInt8) (rest : List UInt8) :
    decodeLoop (next :: rest).length dst (encoded x ++ next :: rest) =
      (x.foldlM (fun dst byte => put dst byte.toNat) dst).map
        fun dst => ⟨.kNone, some dst.length, dst⟩ := by
  fun_induction encoded x generalizing dst with
  | case1 first second third x ih =>
    obtain ⟨head, tail, more⟩ : ∃ head tail, encoded x ++ next :: rest = head :: tail :=
      List.exists_cons_of_ne_nil (List.append_ne_nil_of_right_ne_nil _ (List.cons_ne_nil _ _))
    have group := decodeGroup_encodeGroup first second third tail head
    rw [← more] at group
    have longer :
        (next :: rest).length <
          (encodeGroup first second third ++ (encoded x ++ next :: rest)).length := by
      simp only [List.length_append, List.length_cons, encodeGroup]
      omega
    obtain ⟨one, two, three, four⟩ := codes_small first second third
    rw [List.append_assoc, decodeLoop_group longer group]
    simp only [codes, List.map_cons, List.map_nil, List.getD_cons_zero, List.getD_cons_succ,
      code_toNat one, code_toNat two, code_toNat three, code_toNat four, first_byte, second_byte,
      third_byte, List.foldlM_cons, ih]
    simp only [Bool.false_eq_true, if_false, Option.bind_eq_bind, Option.map_bind,
      Function.comp_def]
  | case2 first second =>
    have group := decodeGroup_encodeRemainder_some first second (next :: rest)
    have longer :
        (next :: rest).length <
          (encodeRemainder first (some second) ++ next :: rest).length := by
      rw [encodeRemainder_some]
      simp only [List.length_append, List.length_cons]
      omega
    obtain ⟨one, two, three, -⟩ := codes_small first second 0
    rw [decodeLoop_group longer group]
    simp only [codes, List.take_succ_cons, List.take_zero, List.map_cons, List.map_nil,
      List.cons_append, List.nil_append, List.getD_cons_zero, List.getD_cons_succ,
      code_toNat one, code_toNat two, code_toNat three, first_byte, second_byte,
      List.foldlM_cons]
    simp only [Bool.false_eq_true, if_false, if_true, Option.bind_eq_bind, Option.map_bind,
      Function.comp_def, List.foldlM_nil, Option.pure_def, Option.map_some]
  | case3 first =>
    have group := decodeGroup_encodeRemainder_none first (next :: rest)
    have longer :
        (next :: rest).length < (encodeRemainder first none ++ next :: rest).length := by
      rw [encodeRemainder_none]
      simp only [List.length_append, List.length_cons]
      omega
    obtain ⟨one, two, -, -⟩ := codes_small first 0 0
    rw [decodeLoop_group longer group]
    simp only [codes, List.take_succ_cons, List.take_zero, List.map_cons, List.map_nil,
      List.cons_append, List.nil_append, List.getD_cons_zero, List.getD_cons_succ,
      code_toNat one, code_toNat two, first_byte, List.foldlM_cons]
    simp only [if_true, Option.bind_eq_bind, Option.map_bind,
      Function.comp_def, List.foldlM_nil, Option.pure_def, Option.map_some]
  | case4 =>
    rw [List.nil_append, decodeLoop, if_pos (Nat.le_refl _)]
    rfl

theorem length_encoded (x : List UInt8) : (encoded x).length = encodedSize x.length := by
  fun_induction encoded x with
  | case1 first second third x ih =>
    simp only [List.length_append, ih, encodeGroup, List.length_cons, List.length_nil, encodedSize]
    omega
  | case2 first second =>
    rw [encodeRemainder_some]
    simp [codes, encodedSize]
  | case3 first =>
    rw [encodeRemainder_none]
    simp [codes, encodedSize]
  | case4 => rfl

theorem decode_encoded (x : List UInt8) (next : UInt8) (rest : List UInt8) :
    decode (encoded x ++ next :: rest) (encoded x).length =
      if x.length ≤ intMax then some ⟨.kNone, some x.length, x⟩ else none := by
  have following :
      (encoded x ++ next :: rest).length - (encoded x).length = (next :: rest).length := by
    rw [List.length_append, Nat.add_sub_cancel_left]
  rw [decode, following, decodeLoop_encoded, foldlM_put x [] (Nat.zero_le _)]
  simp only [List.length_nil, Nat.zero_add, List.nil_append]
  split <;> rfl

/-- The bytes are encoded in the size that is told, and come back whatever lies in memory
after their encoding. -/
def RoundTrips (x : List UInt8) : Prop :=
  (encode x).1 = encodedSize x.length ∧ (encode x).2.length = encodedSize x.length ∧
    ∀ next rest, decode ((encode x).2 ++ next :: rest) (encode x).2.length =
      some ⟨.kNone, some x.length, x⟩

/-- The count of what is decoded is an `int`: as many bytes as it counts come back, no more. -/
theorem roundTrips_iff (x : List UInt8) : RoundTrips x ↔ x.length ≤ intMax := by
  constructor
  · rintro ⟨-, -, decodes⟩
    by_contra long
    have decoded := decodes 0 []
    rw [encode, decode_encoded, if_neg long] at decoded
    contradiction
  · intro short
    refine ⟨rfl, length_encoded x, fun next rest => ?_⟩
    rw [encode, decode_encoded, if_pos short]

/-- One byte more than `int` counts. -/
theorem not_roundTrips_long : ¬RoundTrips (List.replicate (2 ^ 31) 0) := by
  rintro ⟨-, -, decodes⟩
  have decoded := decodes 0 []
  rw [encode, decode_encoded, List.length_replicate, if_neg (by decide)] at decoded
  contradiction

example : decode (encoded [102, 111, 111, 98] ++ [255]) 8 =
    some ⟨.kNone, some 4, [102, 111, 111, 98]⟩ :=
  decode_encoded [102, 111, 111, 98] 255 []

end Base64

end FlutterEngine.Shell
