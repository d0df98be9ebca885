import FlutterEngine.Shell.Base64

/-!
# What `Decode` reads

The end of the source is looked at between groups only. Within a group the inner loop goes on to the
next character, over blanks, and looks one character ahead, so it is a byte that ends decoding that
keeps it from reading on: a null byte, padding, or a byte that is no character of the alphabet.
-/

namespace FlutterEngine.Shell.Base64

/-! ## The call without a buffer -/

/-- `i++`. -/
def count (i : Nat) : Option Nat := if i < intMax then some (i + 1) else none

/-- The outer loop of `Decode` where `dst` is null, with the result and the length where it is
assigned. -/
def sizeLoop (following : Nat) (i : Nat) (src : List UInt8) : Option (Error × Option Nat) :=
  if src.length ≤ following then some (.kNone, some i)
  else
    match _ : decodeGroup [0, 0, 0, 0] 0 src with
    | .undefined => none
    | .returns .kNone => some (.kNone, some i)
    | .returns error => some (error, none)
    | .decoded _ padTwo padThree rest =>
      (count i).bind fun i =>
        if padTwo then some (.kNone, some i)
        else (count i).bind fun i =>
          if padThree then some (.kNone, some i)
          else (count i).bind fun i => sizeLoop following i rest
termination_by src.length
decreasing_by exact length_decodeGroup ‹_›

/-- `Decode` of the first bytes of the memory, to a null pointer. -/
def decodeSize (memory : List UInt8) (srcLength : Nat) : Option (Error × Option Nat) :=
  sizeLoop (memory.length - srcLength) 0 memory

/-- One round of `sizeLoop`. -/
theorem sizeLoop_eq (following i : Nat) (src : List UInt8) :
    sizeLoop following i src =
      if src.length ≤ following then some (.kNone, some i)
      else
        match decodeGroup [0, 0, 0, 0] 0 src with
        | .undefined => none
        | .returns .kNone => some (.kNone, some i)
        | .returns error => some (error, none)
        | .decoded _ padTwo padThree rest =>
          (count i).bind fun i =>
            if padTwo then some (.kNone, some i)
            else (count i).bind fun i =>
              if padThree then some (.kNone, some i)
              else (count i).bind fun i => sizeLoop following i rest := by
  rw [sizeLoop]
  split
  · rfl
  · split <;> simp_all

theorem count_eq_map_put (dst : List UInt8) (byte : Nat) :
    count dst.length = (put dst byte).map List.length := by
  unfold put count
  split
  · rw [Option.map_some, List.length_append]
    rfl
  · rfl

/-- The call without a buffer counts what the other one writes, and nothing else is different. -/
theorem sizeLoop_eq_decodeLoop (following : Nat) (dst src : List UInt8) :
    sizeLoop following dst.length src =
      (decodeLoop following dst src).map fun decoded => (decoded.error, decoded.dstLength) := by
  fun_induction decodeLoop following dst src with
  | case1 dst src short => rw [sizeLoop_eq, if_pos short, Option.map_some]
  | case2 dst src long group => rw [sizeLoop_eq, if_neg long, group, Option.map_none]
  | case3 dst src long group => rw [sizeLoop_eq, if_neg long, group, Option.map_some]
  | case4 dst src long error failed group =>
    rw [sizeLoop_eq, if_neg long, group, Option.map_some]
    cases error with
    | kNone => exact absurd rfl failed
    | kBadPadding | kBadChar => rfl
  | case5 dst src long bytes padTwo padThree rest group one two three four ih =>
    rw [sizeLoop_eq, if_neg long, group]
    dsimp only
    rw [count_eq_map_put dst, Option.bind_map, Option.map_bind]
    congr 1
    funext first
    dsimp only [Function.comp]
    split
    · rfl
    · rw [count_eq_map_put first, Option.bind_map, Option.map_bind]
      congr 1
      funext second
      dsimp only [Function.comp]
      split
      · rfl
      · rw [count_eq_map_put second, Option.bind_map, Option.map_bind]
        congr 1
        funext third
        exact ih third

/-- What is assigned to `dstLength` is the length of what is written. -/
theorem decodeLoop_exact {following length : Nat} {dst src : List UInt8} {decoded : Decoded}
    (decodes : decodeLoop following dst src = some decoded)
    (assigned : decoded.dstLength = some length) : decoded.dst.length = length := by
  fun_induction decodeLoop following dst src with
  | case1 | case3 =>
    cases decodes
    exact Option.some.inj assigned
  | case2 => cases decodes
  | case4 =>
    cases decodes
    cases assigned
  | case5 dst src long bytes padTwo padThree rest group one two three four ih =>
    obtain ⟨first, -, decodes⟩ := Option.bind_eq_some_iff.mp decodes
    split at decodes
    · cases decodes
      exact Option.some.inj assigned
    · obtain ⟨second, -, decodes⟩ := Option.bind_eq_some_iff.mp decodes
      split at decodes
      · cases decodes
        exact Option.some.inj assigned
      · obtain ⟨third, -, decodes⟩ := Option.bind_eq_some_iff.mp decodes
        exact ih third decodes

/-! ## Characters, blanks and what stops decoding -/

/-- The inner loop ends at this byte: it is null, padding, or no character of the alphabet. -/
def stops (srcByte : UInt8) : Bool :=
  decide (srcByte = 0) || decide (0x20 < srcByte) &&
    (decide (srcByte < 0x2B ∨ 0x7A < srcByte) ||
      decide (kDecodeData.getD (srcByte.toNat - 0x2B) 0 < 0))

/-- The byte is not a blank. -/
def visible (srcByte : UInt8) : Bool := decide (0x20 < srcByte)

/-- A character of the alphabet. -/
structure IsSymbol (srcByte : UInt8) : Prop where
  nonzero : srcByte ≠ 0
  visible : ¬srcByte ≤ 0x20
  inside : ¬(srcByte < 0x2B ∨ 0x7A < srcByte)
  plain : kDecodeData.getD (srcByte.toNat - 0x2B) 0 ≠ decodePad
  decodes : ¬kDecodeData.getD (srcByte.toNat - 0x2B) 0 < 0

section Characters

variable {bytes src : List UInt8} {byte : Nat} {srcByte next : UInt8}

theorem ne_zero_of_goesOn (goesOn : stops srcByte = false) : srcByte ≠ 0 := by
  rintro rfl
  cases goesOn

theorem isSymbol_of_goesOn (goesOn : stops srcByte = false) (seen : visible srcByte = true) :
    IsSymbol srcByte := by
  simp only [stops, visible, Bool.or_eq_false_iff, Bool.and_eq_false_iff, decide_eq_false_iff_not,
    decide_eq_true_eq] at goesOn seen
  obtain ⟨nonzero, blank | ⟨inside, decodes⟩⟩ := goesOn
  · exact absurd seen blank
  · refine ⟨nonzero, UInt8.not_le.mpr seen, inside, fun pad => decodes ?_, decodes⟩
    rw [pad]
    decide

/-- A blank is passed over. -/
theorem decodeGroup_blank (goesOn : stops srcByte = false) (blank : visible srcByte = false) :
    decodeGroup bytes byte (srcByte :: src) = decodeGroup bytes byte src := by
  rw [decodeGroup, if_neg (ne_zero_of_goesOn goesOn),
    if_pos (UInt8.not_lt.mp (of_decide_eq_false blank))]

/-- Behind the last byte of the memory there is nothing to look at. -/
theorem decodeGroup_symbol_nil (symbol : IsSymbol srcByte) :
    decodeGroup bytes byte [srcByte] = .undefined := by
  rw [decodeGroup, if_neg symbol.nonzero, if_neg symbol.visible, if_neg symbol.inside]
  simp only [if_neg symbol.plain, if_neg symbol.decodes]

/-- A character, with the byte behind it. -/
theorem decodeGroup_symbol (symbol : IsSymbol srcByte) (room : byte < 4) :
    ∃ decoded, decodeGroup bytes byte (srcByte :: next :: src) =
      if byte + 1 = 4 then .decoded decoded false false (next :: src)
      else if next = 0 then padded decoded (byte + 1) (next :: src)
      else decodeGroup decoded (byte + 1) (next :: src) := by
  refine ⟨bytes.set byte
    (.ofNat (kDecodeData.getD (srcByte.toNat - 0x2B) 0 % 256).toNat), ?_⟩
  rw [decodeGroup, if_neg symbol.nonzero, if_neg symbol.visible, if_neg symbol.inside]
  simp only [if_neg symbol.plain, if_neg symbol.decodes]
  by_cases zero : next = 0
  · subst zero
    simp
  · by_cases last : byte + 1 = 4
    · simp [zero, last]
    · have more : byte + 1 < 4 := by omega
      simp [zero, last, more]

/-- Padding is the only byte with its code. -/
theorem eq_pad_iff (inside : ¬(srcByte < 0x2B ∨ 0x7A < srcByte)) :
    kDecodeData.getD (srcByte.toNat - 0x2B) 0 = decodePad ↔ srcByte = 0x3D := by
  have table : ∀ index < 80, kDecodeData.getD index 0 = decodePad → index = 18 := by decide
  constructor
  · intro pad
    simp only [UInt8.lt_iff_toNat_lt, not_or, not_lt] at inside
    obtain ⟨low, high⟩ := inside
    have lowest : 43 ≤ srcByte.toNat := low
    have highest : srcByte.toNat ≤ 122 := high
    have index := table _ (by omega) pad
    exact UInt8.toNat_inj.mp (show srcByte.toNat = 61 by omega)
  · rintro rfl
    decide

/-- How the inner loop ends at a byte that stops it. -/
theorem decodeGroup_stop (stop : stops srcByte = true) :
    ∃ decoded, decodeGroup bytes byte (srcByte :: src) =
      if srcByte = 0x3D then padded decoded byte src
      else .returns (if srcByte = 0 then .kNone else .kBadChar) := by
  refine ⟨bytes.set byte
    (.ofNat (kDecodeData.getD (srcByte.toNat - 0x2B) 0 % 256).toNat), ?_⟩
  rw [decodeGroup]
  by_cases zero : srcByte = 0
  · rw [if_pos zero, if_neg (zero ▸ by decide), if_pos zero]
  · simp only [stops, Bool.or_eq_true, Bool.and_eq_true, decide_eq_true_eq, zero, false_or] at stop
    obtain ⟨seen, ends⟩ := stop
    rw [if_neg zero, if_neg (UInt8.not_le.mpr seen), if_neg zero]
    by_cases inside : srcByte < 0x2B ∨ 0x7A < srcByte
    · have notPad : srcByte ≠ 0x3D := by
        rintro rfl
        exact absurd inside (by decide)
      rw [if_pos inside, if_neg notPad]
    · rw [if_neg inside]
      have negative := ends.resolve_left inside
      by_cases pad : srcByte = 0x3D
      · simp only [if_pos ((eq_pad_iff inside).mpr pad), if_pos pad]
      · simp only [if_neg (mt (eq_pad_iff inside).mp pad), if_neg pad, if_pos negative]

end Characters

/-! ## One group -/

/-- The characters among these bytes that are no blanks. -/
def symbols (before : List UInt8) : Nat := before.countP visible

/-- The byte that stops decoding ends a group that is not full: it is padding, or it is null and
right behind a character. -/
def Closes (before : List UInt8) (stop : UInt8) : Prop :=
  stop = 0x3D ∨ stop = 0 ∧ before.getLast?.any visible = true

instance (before : List UInt8) (stop : UInt8) : Decidable (Closes before stop) :=
  inferInstanceAs (Decidable (_ ∨ _))

theorem symbols_cons_of_visible {srcByte : UInt8} (seen : visible srcByte = true)
    (before : List UInt8) : symbols (srcByte :: before) = symbols before + 1 :=
  List.countP_cons_of_pos seen

theorem symbols_cons_of_blank {srcByte : UInt8} (blank : visible srcByte = false)
    (before : List UInt8) : symbols (srcByte :: before) = symbols before :=
  List.countP_cons_of_neg (Bool.eq_false_iff.mp blank)

theorem closes_cons_of_blank {srcByte stop : UInt8} (blank : visible srcByte = false)
    (before : List UInt8) : Closes (srcByte :: before) stop ↔ Closes before stop := by
  cases before with
  | nil => simp [Closes, blank]
  | cons next before => simp [Closes]

theorem closes_cons_cons (srcByte next stop : UInt8) (before : List UInt8) :
    Closes (srcByte :: next :: before) stop ↔ Closes (next :: before) stop := by
  simp [Closes]

section Groups

variable {before : List UInt8} (goesOn : ∀ srcByte ∈ before, stops srcByte = false)
  (stop : UInt8) (after bytes : List UInt8) {byte : Nat} (room : byte < 4)
include goesOn room

/-- Four characters are a group, when something is behind them. -/
theorem decodeGroup_full (enough : 4 ≤ byte + symbols before) :
    ∃ decoded rest, decodeGroup bytes byte (before ++ stop :: after) =
        .decoded decoded false false (rest ++ stop :: after) ∧
      rest <:+ before ∧ symbols rest + 4 = byte + symbols before := by
  induction before generalizing byte bytes with
  | nil => exact absurd enough (by simpa [symbols] using room)
  | cons srcByte before ih =>
    obtain ⟨own, others⟩ := List.forall_mem_cons.mp goesOn
    cases seen : visible srcByte with
    | false =>
      rw [symbols_cons_of_blank seen] at enough ⊢
      obtain ⟨decoded, rest, group, suffix, counts⟩ := ih others bytes room enough
      refine ⟨decoded, rest, ?_, suffix.trans (List.suffix_cons _ _), counts⟩
      rw [List.cons_append, decodeGroup_blank own seen, group]
    | true =>
      rw [symbols_cons_of_visible seen] at enough ⊢
      have symbol := isSymbol_of_goesOn own seen
      cases before with
      | nil =>
        have last : byte + 1 = 4 := by
          change 4 ≤ byte + 1 at enough
          omega
        obtain ⟨decoded, group⟩ := decodeGroup_symbol symbol room
        exact ⟨decoded, [], group.trans (if_pos last), List.nil_suffix, by
          change 0 + 4 = byte + (0 + 1)
          omega⟩
      | cons next before =>
        obtain ⟨decoded, group⟩ := decodeGroup_symbol symbol room
        have nonzero := ne_zero_of_goesOn (List.forall_mem_cons.mp others).1
        by_cases last : byte + 1 = 4
        · exact ⟨decoded, next :: before, group.trans (if_pos last), List.suffix_cons _ _,
            by omega⟩
        · obtain ⟨final, rest, follows, suffix, counts⟩ :=
            ih others decoded (by omega : byte + 1 < 4) (by omega)
          refine ⟨final, rest, ?_, suffix.trans (List.suffix_cons _ _), by omega⟩
          exact (group.trans (if_neg last)).trans ((if_neg nonzero).trans follows)

/-- Fewer characters are padded where the byte that stops decoding closes their group. -/
theorem decodeGroup_incomplete (ends : stops stop = true) (few : byte + symbols before < 4) :
    ∃ decoded rest, decodeGroup bytes byte (before ++ stop :: after) =
      if Closes before stop then padded decoded (byte + symbols before) rest
      else .returns (if stop = 0 then .kNone else .kBadChar) := by
  induction before generalizing byte bytes with
  | nil =>
    obtain ⟨decoded, group⟩ := decodeGroup_stop ends
    have closes : Closes [] stop ↔ stop = 0x3D := by simp [Closes]
    refine ⟨decoded, after, group.trans ?_⟩
    simp only [closes]
    rfl
  | cons srcByte before ih =>
    obtain ⟨own, others⟩ := List.forall_mem_cons.mp goesOn
    cases seen : visible srcByte with
    | false =>
      rw [symbols_cons_of_blank seen] at few ⊢
      simp only [closes_cons_of_blank seen]
      rw [List.cons_append, decodeGroup_blank own seen]
      exact ih others bytes room few
    | true =>
      have symbol := isSymbol_of_goesOn own seen
      rw [symbols_cons_of_visible seen] at few ⊢
      cases before with
      | nil =>
        obtain ⟨decoded, group⟩ := decodeGroup_symbol symbol room
        have open4 : byte + 1 ≠ 4 := by
          change byte + 1 < 4 at few
          omega
        rw [if_neg open4] at group
        by_cases zero : stop = 0
        · have closes : Closes [srcByte] stop := .inr ⟨zero, seen⟩
          exact ⟨decoded, stop :: after, (group.trans (if_pos zero)).trans
            (if_pos closes).symm⟩
        · obtain ⟨final, follows⟩ := decodeGroup_stop ends
          have closes : Closes [srcByte] stop ↔ stop = 0x3D := by simp [Closes, zero]
          refine ⟨final, after, (group.trans (if_neg zero)).trans (follows.trans ?_)⟩
          simp only [closes]
          rfl
      | cons next before =>
        obtain ⟨decoded, group⟩ := decodeGroup_symbol symbol room
        have nonzero := ne_zero_of_goesOn (List.forall_mem_cons.mp others).1
        obtain ⟨final, rest, follows⟩ :=
          ih others decoded (by omega : byte + 1 < 4) (by omega)
        refine ⟨final, rest, ?_⟩
        simp only [closes_cons_cons]
        have counted : byte + (symbols (next :: before) + 1) =
            byte + 1 + symbols (next :: before) := by omega
        rw [counted]
        exact (group.trans (if_neg (by omega))).trans ((if_neg nonzero).trans follows)

/-- Without a byte that stops decoding, it goes on to the end of the memory and beyond. -/
theorem decodeGroup_open : decodeGroup bytes byte before = .undefined ∨
    ∃ decoded rest, decodeGroup bytes byte before = .decoded decoded false false rest ∧
      rest <:+ before ∧ rest ≠ [] := by
  induction before generalizing byte bytes with
  | nil => exact .inl rfl
  | cons srcByte before ih =>
    obtain ⟨own, others⟩ := List.forall_mem_cons.mp goesOn
    cases seen : visible srcByte with
    | false =>
      rw [decodeGroup_blank own seen]
      rcases ih others bytes room with beyond | ⟨decoded, rest, group, suffix, more⟩
      · exact .inl beyond
      · exact .inr ⟨decoded, rest, group, suffix.trans (List.suffix_cons _ _), more⟩
    | true =>
      have symbol := isSymbol_of_goesOn own seen
      cases before with
      | nil => exact .inl (decodeGroup_symbol_nil symbol)
      | cons next before =>
        obtain ⟨decoded, group⟩ := decodeGroup_symbol symbol room
        have nonzero := ne_zero_of_goesOn (List.forall_mem_cons.mp others).1
        by_cases last : byte + 1 = 4
        · exact .inr ⟨decoded, next :: before, group.trans (if_pos last),
            List.suffix_cons _ _, List.cons_ne_nil _ _⟩
        · rw [group, if_neg last, if_neg nonzero]
          rcases ih others decoded (by omega : byte + 1 < 4) with
            beyond | ⟨final, rest, follows, suffix, more⟩
          · exact .inl beyond
          · exact .inr ⟨final, rest, follows, suffix.trans (List.suffix_cons _ _), more⟩

end Groups

/-! ## The whole source -/

/-- The bytes that are decoded up to the byte that stops it. -/
def decodedLength (before : List UInt8) (stop : UInt8) : Nat :=
  symbols before / 4 * 3 + if Closes before stop then symbols before % 4 - 1 else 0

/-- What is left behind a full group. -/
theorem decodedLength_of_suffix {rest before : List UInt8} {stop : UInt8} (suffix : rest <:+ before)
    (counts : symbols rest + 4 = symbols before) :
    decodedLength before stop = decodedLength rest stop + 3 := by
  have remainder : symbols before % 4 = symbols rest % 4 := by omega
  have groups : symbols before / 4 = symbols rest / 4 + 1 := by omega
  have closing : symbols rest % 4 ≠ 0 → (Closes before stop ↔ Closes rest stop) := by
    intro some
    obtain ⟨front, rfl⟩ := suffix
    have nonempty : rest ≠ [] := by
      rintro rfl
      exact some rfl
    obtain ⟨init, last, rfl⟩ := (List.eq_nil_or_concat rest).resolve_left nonempty
    simp [Closes, List.concat_eq_append, ← List.append_assoc]
  unfold decodedLength
  rw [remainder, groups]
  by_cases none : symbols rest % 4 = 0
  · simp only [none]
    split <;> split <;> omega
  · simp only [closing none]
    omega

/-- A return within a group. -/
theorem decodeLoop_returns {following : Nat} {dst src : List UInt8} {error : Error}
    (more : following < src.length)
    (group : decodeGroup [0, 0, 0, 0] 0 src = .returns error) :
    (decodeLoop following dst src).isSome = true := by
  rw [decodeLoop, if_neg (Nat.not_le.mpr more)]
  split
  all_goals rename_i found
  all_goals rw [group] at found
  all_goals cases found
  all_goals rfl

theorem decodeLoop_undefined {following : Nat} {dst src : List UInt8}
    (more : following < src.length) (group : decodeGroup [0, 0, 0, 0] 0 src = .undefined) :
    decodeLoop following dst src = none := by
  rw [decodeLoop, if_neg (Nat.not_le.mpr more)]
  split
  all_goals rename_i found
  all_goals rw [group] at found
  all_goals cases found

/-- A byte is put where `int` counts it. -/
theorem isSome_put_bind {dst : List UInt8} {byte bound : Nat} {rest : List UInt8 → Option Decoded}
    (goesOn : ∀ next, next.length = dst.length + 1 → next.length ≤ intMax →
      ((rest next).isSome = true ↔ next.length + bound ≤ intMax)) :
    ((put dst byte).bind rest).isSome = true ↔ dst.length + (bound + 1) ≤ intMax := by
  unfold put
  by_cases room : dst.length < intMax
  · have grown : (dst ++ [UInt8.ofNat byte]).length = dst.length + 1 := List.length_append
    rw [if_pos room, Option.bind_some, goesOn _ grown (grown ▸ room), grown]
    omega
  · rw [if_neg room]
    refine iff_of_false Bool.false_ne_true ?_
    omega

section Loop

variable {before : List UInt8} (goesOn : ∀ srcByte ∈ before, stops srcByte = false)

include goesOn in
/-- Where a byte stops decoding, there is a result if `int` counts what is decoded. -/
theorem decodeLoop_isSome_iff {stop : UInt8} (ends : stops stop = true) (after : List UInt8)
    {dst : List UInt8} (fits : dst.length ≤ intMax) :
    (decodeLoop 0 dst (before ++ stop :: after)).isSome = true ↔
      dst.length + decodedLength before stop ≤ intMax := by
  induction size : before.length using Nat.strong_induction_on generalizing before dst with
  | _ size' ih =>
    have more : 0 < (before ++ stop :: after).length := by
      rw [List.length_append, List.length_cons]
      omega
    obtain few | enough := Nat.lt_or_ge (symbols before) 4
    · have groups : symbols before / 4 * 3 = 0 := by omega
      obtain ⟨decoded, rest, group⟩ :=
        @decodeGroup_incomplete _ goesOn stop after [0, 0, 0, 0] 0 (by decide) ends (by omega)
      rw [Nat.zero_add] at group
      unfold decodedLength
      rw [groups, Nat.zero_add]
      by_cases closes : Closes before stop
      · rw [if_pos closes] at group ⊢
        unfold padded at group
        by_cases short : symbols before < 2
        · rw [if_pos short] at group
          refine iff_of_true (decodeLoop_returns more group) ?_
          omega
        · rw [if_neg short] at group
          rw [decodeLoop_group more group]
          have rests : symbols before % 4 - 1 = symbols before - 2 + 1 := by omega
          rw [rests]
          refine isSome_put_bind fun first firstGrown firstFits => ?_
          by_cases two : symbols before = 2
          · simp only [two]
            exact iff_of_true rfl firstFits
          · have three : symbols before - 2 = 0 + 1 := by omega
            have unlike : (symbols before == 2) = false := beq_false_of_ne two
            rw [unlike, if_neg Bool.false_ne_true, three]
            exact isSome_put_bind fun second secondGrown secondFits => iff_of_true rfl secondFits
      · rw [if_neg closes] at group ⊢
        exact iff_of_true (decodeLoop_returns more group) fits
    · obtain ⟨decoded, rest, group, suffix, counts⟩ :=
        @decodeGroup_full _ goesOn stop after [0, 0, 0, 0] 0 (by decide) (by omega)
      rw [Nat.zero_add] at counts
      rw [decodeLoop_group more group, decodedLength_of_suffix suffix counts]
      have shorter : rest.length < size' := by
        have fewer : symbols rest < symbols before := by omega
        have length := suffix.length_le
        obtain less | same := Nat.lt_or_eq_of_le length
        · omega
        · rw [suffix.eq_of_length same] at fewer
          exact absurd fewer (Nat.lt_irrefl _)
      have rests : ∀ srcByte ∈ rest, stops srcByte = false :=
        fun srcByte member => goesOn srcByte (suffix.subset member)
      refine isSome_put_bind fun first _ _ => ?_
      rw [if_neg Bool.false_ne_true]
      refine isSome_put_bind fun second _ _ => ?_
      rw [if_neg Bool.false_ne_true]
      exact isSome_put_bind fun third _ thirdFits => ih _ shorter rests thirdFits rfl

include goesOn in
/-- Where none does, the memory is read to its end and beyond. -/
theorem decodeLoop_open (some : before ≠ []) (dst : List UInt8) :
    decodeLoop 0 dst before = none := by
  induction size : before.length using Nat.strong_induction_on generalizing before dst with
  | _ size' ih =>
    have more : 0 < before.length := List.length_pos_iff.mpr some
    rcases @decodeGroup_open _ goesOn [0, 0, 0, 0] 0 (by decide) with
      beyond | ⟨decoded, rest, group, suffix, left⟩
    · exact decodeLoop_undefined more beyond
    · have shorter := length_decodeGroup group
      have rests : ∀ srcByte ∈ rest, stops srcByte = false :=
        fun srcByte member => goesOn srcByte (suffix.subset member)
      rw [decodeLoop_group more group]
      refine Option.eq_none_iff_forall_ne_some.mpr fun result decodes => ?_
      obtain ⟨first, -, decodes⟩ := Option.bind_eq_some_iff.mp decodes
      obtain ⟨second, -, decodes⟩ := Option.bind_eq_some_iff.mp decodes
      obtain ⟨third, -, decodes⟩ := Option.bind_eq_some_iff.mp decodes
      rw [ih _ (size ▸ shorter) rests left third rfl] at decodes
      cases decodes

end Loop

/-- `Decode` reads the bytes of the source only, the call without a buffer returns what the other
one does, and as many bytes are written as it says. -/
def Behaves (src : List UInt8) : Prop :=
  ∃ decoded, decode src src.length = some decoded ∧
    decodeSize src src.length = some (decoded.error, decoded.dstLength) ∧
      ∀ length, decoded.dstLength = some length → decoded.dst.length = length

theorem behaves_iff_isSome (src : List UInt8) :
    Behaves src ↔ (decodeLoop 0 [] src).isSome = true := by
  have all : src.length - src.length = 0 := Nat.sub_self _
  constructor
  · rintro ⟨decoded, decodes, -⟩
    rw [decode, all] at decodes
    rw [decodes]
    rfl
  · intro some
    obtain ⟨decoded, decodes⟩ := Option.isSome_iff_exists.mp some
    refine ⟨decoded, by rw [decode, all, decodes], ?_, fun _ => decodeLoop_exact decodes⟩
    have size := sizeLoop_eq_decodeLoop 0 [] src
    rw [decodes] at size
    rw [decodeSize, all]
    exact size

/-- `Decode` behaves exactly where nothing is to be decoded, or a byte of the source stops it and
`int` counts what is decoded before. -/
theorem behaves_iff (src : List UInt8) :
    Behaves src ↔ src = [] ∨ ∃ before stop after, src = before ++ stop :: after ∧
      (∀ srcByte ∈ before, stops srcByte = false) ∧ stops stop = true ∧
        decodedLength before stop ≤ intMax := by
  rw [behaves_iff_isSome]
  constructor
  · intro decodes
    by_cases empty : src = []
    · exact .inl empty
    · cases found : src.find? stops with
      | none =>
        rw [decodeLoop_open (by simpa using found) empty] at decodes
        cases decodes
      | some stop =>
        obtain ⟨ends, before, after, rfl, goesOn⟩ := List.find?_eq_some_iff_append.mp found
        have passes : ∀ srcByte ∈ before, stops srcByte = false := by simpa using goesOn
        refine .inr ⟨before, stop, after, rfl, passes, ends, ?_⟩
        have counts := (decodeLoop_isSome_iff passes ends after (Nat.zero_le _)).mp decodes
        rwa [List.length_nil, Nat.zero_add] at counts
  · rintro (rfl | ⟨before, stop, after, rfl, goesOn, ends, counts⟩)
    · have short : ([] : List UInt8).length ≤ 0 := Nat.le_refl _
      rw [decodeLoop, if_pos short]
      rfl
    · refine (decodeLoop_isSome_iff goesOn ends after (Nat.zero_le _)).mpr ?_
      rwa [List.length_nil, Nat.zero_add]

/-- Four characters that are the whole source: the byte behind them is looked at. -/
theorem not_behaves_quartet : ¬Behaves [0x51, 0x55, 0x4A, 0x44] := by
  have goesOn : ∀ srcByte ∈ ([0x51, 0x55, 0x4A, 0x44] : List UInt8), stops srcByte = false := by
    simp only [List.forall_mem_cons]
    exact ⟨rfl, rfl, rfl, rfl, List.forall_mem_nil _⟩
  rw [behaves_iff_isSome, decodeLoop_open goesOn (List.cons_ne_nil _ _)]
  exact Bool.false_ne_true


end FlutterEngine.Shell.Base64
