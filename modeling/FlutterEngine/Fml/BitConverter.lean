import FlutterEngine.Std.BitString

/-!
# `BitConverter`

`fml::BitConverter` of `base32.h`. Its debug checks are what `append` and `extract` ask for; the
bits it holds are the upper ones of its buffer.
-/

namespace FlutterEngine.Fml

open FlutterEngine.Std

/-- `BitConverter<from_length, to_length, buffer_length>`. The free bits below those it holds
are zero. -/
structure BitConverter (fromLength toLength bufferLength : Nat) where
  buffer : Nat
  lowerFreeBits : Nat
  fits : buffer < 2 ^ bufferLength
  free : lowerFreeBits ≤ bufferLength
  clear : 2 ^ lowerFreeBits ∣ buffer

namespace BitConverter

variable {fromLength toLength bufferLength : Nat}

/-- A converter as it is constructed. -/
def init : BitConverter fromLength toLength bufferLength where
  buffer := 0
  lowerFreeBits := bufferLength
  fits := Nat.two_pow_pos _
  free := Nat.le_refl _
  clear := Nat.dvd_zero _

section Operations

variable (converter : BitConverter fromLength toLength bufferLength)

def bitsAvailable : Nat := bufferLength - converter.lowerFreeBits

def CanAppend : Prop := fromLength ≤ converter.lowerFreeBits

def CanExtract : Prop := toLength ≤ converter.bitsAvailable

instance : Decidable converter.CanAppend := Nat.decLe _ _

instance : Decidable converter.CanExtract := Nat.decLe _ _

def peek : Nat := converter.buffer >>> (bufferLength - toLength)

def kMask (bufferLength : Nat) : Nat := 1 <<< bufferLength - 1

def append (bits : Nat) (small : bits < 2 ^ fromLength) (can : converter.CanAppend) :
    BitConverter fromLength toLength bufferLength where
  buffer := converter.buffer ||| bits <<< (converter.lowerFreeBits - fromLength)
  lowerFreeBits := converter.lowerFreeBits - fromLength
  fits := by
    refine Nat.or_lt_two_pow converter.fits ?_
    rw [Nat.shiftLeft_eq]
    calc bits * 2 ^ (converter.lowerFreeBits - fromLength)
        < 2 ^ fromLength * 2 ^ (converter.lowerFreeBits - fromLength) :=
          Nat.mul_lt_mul_of_pos_right small (Nat.two_pow_pos _)
      _ = 2 ^ converter.lowerFreeBits := by rw [← Nat.pow_add, Nat.add_sub_cancel' can]
      _ ≤ 2 ^ bufferLength := Nat.pow_le_pow_right (by decide) converter.free
  free := Nat.le_trans (Nat.sub_le _ _) converter.free
  clear := by
    obtain ⟨held, buffer⟩ := Nat.dvd_trans
      (Nat.pow_dvd_pow 2 (Nat.sub_le converter.lowerFreeBits fromLength)) converter.clear
    rw [buffer, Nat.mul_comm, ← Nat.shiftLeft_eq, ← Nat.shiftLeft_or_distrib, Nat.shiftLeft_eq]
    exact Nat.dvd_mul_left _ _

/-- `Extract`: what it returns and the converter after it. -/
def extract (can : converter.CanExtract) : Nat × BitConverter fromLength toLength bufferLength :=
  ( converter.peek
  , { buffer := (converter.buffer <<< toLength) &&& kMask bufferLength
      lowerFreeBits := converter.lowerFreeBits + toLength
      fits := by
        rw [kMask, Nat.one_shiftLeft, Bits.mask]
        exact Nat.mod_lt _ (Nat.two_pow_pos _)
      free := by
        unfold CanExtract bitsAvailable at can
        have free := converter.free
        omega
      clear := by
        have free : converter.lowerFreeBits + toLength ≤ bufferLength := by
          unfold CanExtract bitsAvailable at can
          have free := converter.free
          omega
        rw [kMask, Nat.one_shiftLeft, Bits.mask, Nat.dvd_mod_iff (Nat.pow_dvd_pow 2 free),
          Nat.shiftLeft_eq, Nat.pow_add]
        exact Nat.mul_dvd_mul_right converter.clear _ } )

omit converter in
theorem canAppend_init (enough : fromLength ≤ bufferLength) :
    (init : BitConverter fromLength toLength bufferLength).CanAppend := enough

/-! ## The bits it holds -/

/-- The bits that are held, the first one first. -/
def held : List Bool :=
  BitString.bitsOf converter.bitsAvailable (converter.buffer >>> converter.lowerFreeBits)

@[simp]
theorem length_held : converter.held.length = converter.bitsAvailable :=
  BitString.length_bitsOf _ _

@[simp]
theorem held_init : (init : BitConverter fromLength toLength bufferLength).held = [] := by
  rw [← List.length_eq_zero_iff, length_held, bitsAvailable, init, Nat.sub_self]

theorem bitsAvailable_append {bits : Nat} (small : bits < 2 ^ fromLength)
    (can : converter.CanAppend) :
    (converter.append bits small can).bitsAvailable = converter.bitsAvailable + fromLength := by
  unfold CanAppend at can
  have free := converter.free
  simp only [bitsAvailable, append]
  omega

theorem bitsAvailable_extract (can : converter.CanExtract) :
    (converter.extract can).2.bitsAvailable + toLength = converter.bitsAvailable := by
  unfold CanExtract bitsAvailable at can
  have free := converter.free
  simp only [bitsAvailable, extract]
  omega

/-- What is appended comes after what is held. -/
theorem held_append {bits : Nat} (small : bits < 2 ^ fromLength) (can : converter.CanAppend) :
    (converter.append bits small can).held =
      converter.held ++ BitString.bitsOf fromLength bits := by
  obtain ⟨number, buffer⟩ := converter.clear
  have split : converter.lowerFreeBits = fromLength + (converter.lowerFreeBits - fromLength) :=
    (Nat.add_sub_cancel' can).symm
  have before : converter.buffer >>> converter.lowerFreeBits = number := by
    rw [buffer, Nat.shiftRight_eq_div_pow, Nat.mul_div_cancel_left _ (Nat.two_pow_pos _)]
  have after :
      (converter.buffer ||| bits <<< (converter.lowerFreeBits - fromLength)) >>>
        (converter.lowerFreeBits - fromLength) = number * 2 ^ fromLength + bits := by
    have moved :
        converter.buffer =
          (number <<< fromLength) <<< (converter.lowerFreeBits - fromLength) := by
      rw [buffer, ← Nat.shiftLeft_add, ← split, Nat.shiftLeft_eq, Nat.mul_comm]
    rw [moved, ← Nat.shiftLeft_or_distrib, Nat.shiftLeft_shiftRight,
      Bits.shiftLeft_or number small]
  rw [held, held, bitsAvailable_append, before]
  simp only [append, after]
  exact BitString.bitsOf_append _ _ small

/-- What is extracted comes before what is held on to. -/
theorem held_extract (can : converter.CanExtract) :
    converter.held =
      BitString.bitsOf toLength converter.peek ++ (converter.extract can).2.held := by
  have count := converter.bitsAvailable_extract can
  have top :
      converter.lowerFreeBits + (converter.extract can).2.bitsAvailable =
        bufferLength - toLength := by
    have free := converter.free
    unfold bitsAvailable at count ⊢
    omega
  rw [held, ← count, Nat.add_comm, BitString.bitsOf_add, ← Nat.shiftRight_add, top]
  congr 1
  refine BitString.bitsOf_eq_iff.mpr fun index below => ?_
  have inside : converter.lowerFreeBits + toLength + index < bufferLength := by
    unfold bitsAvailable at below
    simp only [extract] at below
    omega
  have moved :
      converter.lowerFreeBits + toLength + index - toLength = converter.lowerFreeBits + index := by
    omega
  simp only [extract, kMask, Nat.one_shiftLeft, Bits.mask, Nat.testBit_shiftRight,
    Nat.testBit_mod_two_pow, Nat.testBit_shiftLeft, inside, moved, decide_true, Bool.true_and]
  rw [decide_eq_true (by omega), Bool.true_and]

theorem peek_lt (enough : toLength ≤ bufferLength) : converter.peek < 2 ^ toLength := by
  rw [peek, Nat.shiftRight_eq_div_pow, Nat.div_lt_iff_lt_mul (Nat.two_pow_pos _), ← Nat.pow_add,
    Nat.add_sub_cancel' enough]
  exact converter.fits

/-- Where fewer bits are held than are looked at, zeros follow them. -/
theorem bitsOf_peek (enough : toLength ≤ bufferLength)
    (few : converter.bitsAvailable ≤ toLength) :
    BitString.bitsOf toLength converter.peek =
      converter.held ++ List.replicate (toLength - converter.bitsAvailable) false := by
  obtain ⟨number, buffer⟩ := converter.clear
  have below :
      bufferLength - toLength + (toLength - converter.bitsAvailable) =
        converter.lowerFreeBits := by
    have free := converter.free
    unfold bitsAvailable at few ⊢
    omega
  have zeros : converter.peek = number * 2 ^ (toLength - converter.bitsAvailable) := by
    rw [peek, buffer, ← below, Nat.pow_add, Nat.shiftRight_eq_div_pow, Nat.mul_assoc,
      Nat.mul_div_cancel_left _ (Nat.two_pow_pos _), Nat.mul_comm]
  have padding :
      BitString.bitsOf (toLength - converter.bitsAvailable) converter.peek =
        List.replicate (toLength - converter.bitsAvailable) false := by
    rw [zeros, ← BitString.bitsOf_mod, Nat.mul_mod_left, BitString.bitsOf_zero]
  calc BitString.bitsOf toLength converter.peek
      = BitString.bitsOf (converter.bitsAvailable + (toLength - converter.bitsAvailable))
          converter.peek := by rw [Nat.add_sub_cancel' few]
    _ = _ := by rw [BitString.bitsOf_add, padding, peek, ← Nat.shiftRight_add, below, held]

theorem peek_eq_zero_iff (enough : toLength ≤ bufferLength)
    (few : converter.bitsAvailable ≤ toLength) :
    converter.peek = 0 ↔ converter.held = List.replicate converter.bitsAvailable false := by
  have bits := converter.bitsOf_peek enough few
  have whole :
      List.replicate toLength false =
        List.replicate converter.bitsAvailable false ++
          List.replicate (toLength - converter.bitsAvailable) false := by
    rw [List.replicate_append_replicate, Nat.add_sub_cancel' few]
  constructor
  · intro zero
    rw [zero, BitString.bitsOf_zero, whole] at bits
    exact (List.append_cancel_right bits).symm
  · intro zeros
    rw [zeros, ← whole, ← BitString.bitsOf_zero] at bits
    exact BitString.eq_of_bitsOf (converter.peek_lt enough) (Nat.two_pow_pos _) bits

end Operations

end BitConverter

end FlutterEngine.Fml
