import FlutterEngine.Std.Bits

/-!
# Bits of numbers in a row

A number of a width as its bits, the most significant first, and a list of such numbers as
one row of bits.
-/

namespace FlutterEngine.Std

namespace BitString

/-- The lower bits of a number. -/
def bitsOf : Nat → Nat → List Bool
  | 0, _ => []
  | width + 1, number => number.testBit width :: bitsOf width number

theorem bitsOf_succ (width number : Nat) :
    bitsOf (width + 1) number = number.testBit width :: bitsOf width number := rfl

/-- The bits of numbers of one width, in order. -/
def rowOf (width : Nat) (numbers : List Nat) : List Bool := numbers.flatMap (bitsOf width)

@[simp]
theorem length_bitsOf (width number : Nat) : (bitsOf width number).length = width := by
  induction width with
  | zero => rfl
  | succ width ih => rw [bitsOf_succ, List.length_cons, ih]

/-- The upper bits before the lower. -/
theorem bitsOf_add (upper lower number : Nat) :
    bitsOf (upper + lower) number = bitsOf upper (number >>> lower) ++ bitsOf lower number := by
  induction upper with
  | zero =>
    rw [Nat.zero_add]
    rfl
  | succ upper ih =>
    rw [Nat.succ_add, bitsOf_succ, bitsOf_succ, ih, Nat.testBit_shiftRight, Nat.add_comm lower,
      List.cons_append]

variable {width number other : Nat}

/-- Only the lower bits count. -/
theorem bitsOf_eq_iff :
    bitsOf width number = bitsOf width other ↔
      ∀ index < width, number.testBit index = other.testBit index := by
  induction width with
  | zero => exact iff_of_true rfl (fun _ below => absurd below (Nat.not_lt_zero _))
  | succ width ih =>
    rw [bitsOf_succ, bitsOf_succ, List.cons.injEq, ih]
    constructor
    · rintro ⟨top, lower⟩ index below
      obtain less | rfl := Nat.lt_or_eq_of_le (Nat.le_of_lt_succ below)
      · exact lower index less
      · exact top
    · intro bits
      exact ⟨bits width (Nat.lt_succ_self _),
        fun index below => bits index (Nat.lt_succ_of_lt below)⟩

theorem bitsOf_mod (width number : Nat) :
    bitsOf width (number % 2 ^ width) = bitsOf width number := by
  refine bitsOf_eq_iff.mpr fun index below => ?_
  rw [Nat.testBit_mod_two_pow, decide_eq_true below, Bool.true_and]

/-- A number above another of a width. -/
theorem bitsOf_append {lower : Nat} (above upper : Nat) (fits : lower < 2 ^ width) :
    bitsOf (above + width) (upper * 2 ^ width + lower) =
      bitsOf above upper ++ bitsOf width lower := by
  have high : (upper * 2 ^ width + lower) >>> width = upper := by
    rw [Nat.shiftRight_eq_div_pow, Nat.mul_comm, Nat.mul_add_div (Nat.two_pow_pos width),
      Nat.div_eq_of_lt fits, Nat.add_zero]
  have low : (upper * 2 ^ width + lower) % 2 ^ width = lower := by
    rw [Nat.mul_comm, Nat.mul_add_mod, Nat.mod_eq_of_lt fits]
  rw [bitsOf_add, high, ← bitsOf_mod width (upper * 2 ^ width + lower), low]

@[simp]
theorem bitsOf_zero (width : Nat) : bitsOf width 0 = List.replicate width false := by
  induction width with
  | zero => rfl
  | succ width ih => rw [bitsOf_succ, ih, Nat.zero_testBit, List.replicate_succ]

/-- A number is known by as many bits as it needs. -/
theorem eq_of_bitsOf (fits : number < 2 ^ width)
    (otherFits : other < 2 ^ width) (same : bitsOf width number = bitsOf width other) :
    number = other := by
  refine Nat.eq_of_testBit_eq fun index => ?_
  obtain below | above := Nat.lt_or_ge index width
  · exact bitsOf_eq_iff.mp same index below
  · have beyond := Nat.pow_le_pow_right (show 0 < 2 by decide) above
    rw [Nat.testBit_lt_two_pow (Nat.lt_of_lt_of_le fits beyond),
      Nat.testBit_lt_two_pow (Nat.lt_of_lt_of_le otherFits beyond)]

/-! ## Rows -/

@[simp]
theorem rowOf_nil (width : Nat) : rowOf width [] = [] := rfl

@[simp]
theorem rowOf_cons (width number : Nat) (numbers : List Nat) :
    rowOf width (number :: numbers) = bitsOf width number ++ rowOf width numbers := rfl

@[simp]
theorem rowOf_append (width : Nat) (numbers others : List Nat) :
    rowOf width (numbers ++ others) = rowOf width numbers ++ rowOf width others :=
  List.flatMap_append

@[simp]
theorem length_rowOf (width : Nat) (numbers : List Nat) :
    (rowOf width numbers).length = width * numbers.length := by
  induction numbers with
  | nil => rfl
  | cons number numbers ih =>
    rw [rowOf_cons, List.length_append, length_bitsOf, ih, List.length_cons, Nat.mul_succ,
      Nat.add_comm]

/-- Numbers are known by their row, whatever follows it. -/
theorem eq_of_rowOf {numbers others : List Nat} {after otherAfter : List Bool}
    (fits : ∀ number ∈ numbers, number < 2 ^ width) (otherFits : ∀ number ∈ others, number < 2 ^ width)
    (count : numbers.length = others.length)
    (same : rowOf width numbers ++ after = rowOf width others ++ otherAfter) :
    numbers = others ∧ after = otherAfter := by
  induction numbers generalizing others with
  | nil =>
    rw [List.length_nil, eq_comm, List.length_eq_zero_iff] at count
    subst count
    exact ⟨rfl, same⟩
  | cons number numbers ih =>
    obtain _ | ⟨other, others⟩ := others
    · contradiction
    rw [rowOf_cons, rowOf_cons, List.append_assoc, List.append_assoc] at same
    obtain ⟨head, rest⟩ := List.append_inj same (by rw [length_bitsOf, length_bitsOf])
    have first : number = other :=
      eq_of_bitsOf (fits _ List.mem_cons_self) (otherFits _ List.mem_cons_self) head
    obtain ⟨tail, ends⟩ :=
      ih (fun number found => fits number (List.mem_cons_of_mem _ found))
        (fun number found => otherFits number (List.mem_cons_of_mem _ found))
        (Nat.succ.inj count) rest
    exact ⟨by rw [first, tail], ends⟩

end BitString

end FlutterEngine.Std
