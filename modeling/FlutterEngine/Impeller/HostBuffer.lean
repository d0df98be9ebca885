import Mathlib.Data.Fintype.Pi
import Mathlib.Data.UInt
import FlutterEngine.Std.Machine

/-!
# Host buffers

`HostBuffer` of `host_buffer.cc`, with an allocator that always succeeds. What is written to a
device buffer is left out; a view says where. Access to a buffer past the end of a vector is
undefined, and `none`.
-/

namespace FlutterEngine.Impeller

open FlutterEngine.Std

/-- A device buffer, named by how many were created before it. -/
structure DeviceBuffer where
  name : Nat
  size : UInt64
deriving DecidableEq, Repr

structure Range where
  offset : UInt64
  length : UInt64
deriving DecidableEq, Repr

structure BufferView where
  buffer : DeviceBuffer
  range : Range
deriving DecidableEq, Repr

structure Allocator where
  created : Nat
deriving DecidableEq, Repr

def Allocator.createBuffer (allocator : Allocator) (size : UInt64) : DeviceBuffer × Allocator :=
  (⟨allocator.created, size⟩, ⟨allocator.created + 1⟩)

def kAllocatorBlockSize : UInt64 := 1024000

abbrev kHostBufferArenaSize : Nat := 3

structure HostBuffer where
  allocator : Allocator
  deviceBuffers : Fin kHostBufferArenaSize → List DeviceBuffer
  currentBuffer : Nat := 0
  offset : UInt64 := 0
  frameIndex : Fin kHostBufferArenaSize := 0
deriving DecidableEq

namespace HostBuffer

variable (host : HostBuffer)

/-- The constructor. -/
def create (allocator : Allocator) : HostBuffer where
  allocator := ⟨allocator.created + kHostBufferArenaSize⟩
  deviceBuffers slot := [⟨allocator.created + slot, kAllocatorBlockSize⟩]

def getCurrentBuffer : Option DeviceBuffer :=
  (host.deviceBuffers host.frameIndex)[host.currentBuffer]?

def maybeCreateNewBuffer : HostBuffer :=
  let currentBuffer := host.currentBuffer + 1
  if currentBuffer ≥ (host.deviceBuffers host.frameIndex).length then
    let (deviceBuffer, allocator) := host.allocator.createBuffer kAllocatorBlockSize
    { host with
      allocator := allocator
      deviceBuffers := Function.update host.deviceBuffers host.frameIndex
        (host.deviceBuffers host.frameIndex ++ [deviceBuffer])
      currentBuffer := currentBuffer
      offset := 0 }
  else { host with currentBuffer := currentBuffer, offset := 0 }

/-- The end of every `EmplaceInternal` that stays in the blocks. -/
def takeRange (length : UInt64) : Option (Option BufferView × HostBuffer) := do
  let currentBuffer ← host.getCurrentBuffer
  return (some ⟨currentBuffer, ⟨host.offset, length⟩⟩, { host with offset := host.offset + length })

/-- A device buffer of its own, for what is longer than a block. -/
def takeOneOff (length : UInt64) : BufferView × HostBuffer :=
  let (deviceBuffer, allocator) := host.allocator.createBuffer length
  (⟨deviceBuffer, ⟨0, length⟩⟩, { host with allocator := allocator })

/-- `EmplaceInternal` of a callback, which may be null. -/
def emplaceProc (length align : UInt64) (cb : Bool) : Option (Option BufferView × HostBuffer) :=
  if ¬cb then some (none, host)
  else if length > kAllocatorBlockSize then
    let (view, next) := host.takeOneOff length
    some (some view, next)
  else
    let padding :=
      if align > 0 ∧ host.offset % align ≠ 0 then align - host.offset % align else 0
    let placed :=
      if host.offset + padding + length > kAllocatorBlockSize then host.maybeCreateNewBuffer
      else { host with offset := host.offset + padding }
    placed.takeRange length

/-- `EmplaceInternal` of a pointer, which may be null; whether a copy to a buffer of its own
succeeds is up to the backend. -/
def emplace (buffer : Bool) (length : UInt64) (copies : Bool) :
    Option (Option BufferView × HostBuffer) :=
  if length > kAllocatorBlockSize then
    let (view, next) := host.takeOneOff length
    if buffer ∧ ¬copies then some (none, next) else some (some view, next)
  else
    let placed :=
      if host.offset + length > kAllocatorBlockSize then host.maybeCreateNewBuffer else host
    placed.takeRange length

/-- `EmplaceInternal` of a pointer and an alignment. -/
def emplaceAligned (buffer : Bool) (length align : UInt64) (copies : Bool) :
    Option (Option BufferView × HostBuffer) :=
  if align = 0 ∨ host.offset % align = 0 then host.emplace buffer length copies
  else
    let padding := align - host.offset % align
    let placed :=
      if host.offset + padding < kAllocatorBlockSize then
        { host with offset := host.offset + padding }
      else host.maybeCreateNewBuffer
    placed.emplace buffer length copies

def reset : HostBuffer where
  allocator := host.allocator
  -- Unused buffers are popped off the back.
  deviceBuffers := Function.update host.deviceBuffers host.frameIndex
    ((host.deviceBuffers host.frameIndex).take (host.currentBuffer + 1))
  frameIndex := host.frameIndex + 1

end HostBuffer

/-! ## Runs -/

/-- The view of an emplacement, with the alignment that was asked for (0 for none), and the number
of resets before it. -/
structure Emplaced where
  view : BufferView
  align : UInt64
  frame : Nat
deriving DecidableEq, Repr

/-- A host buffer, the number of its resets, and the views it returned, the last one first. -/
structure HostBufferRun where
  host : HostBuffer
  frame : Nat := 0
  emplaced : List Emplaced := []
deriving DecidableEq

inductive HostBufferCall where
  | emplace (buffer : Bool) (length : UInt64) (copies : Bool)
  | emplaceAligned (buffer : Bool) (length align : UInt64) (copies : Bool)
  | emplaceProc (length align : UInt64) (cb : Bool)
  /-- `EmplaceUniform`, of a type of this size and alignment. -/
  | emplaceUniform (sizeOf alignOf : UInt64) (copies : Bool)
  | reset
deriving DecidableEq, Repr

namespace HostBufferRun

variable (defaultUniformAlignment : UInt64) (run : HostBufferRun)

/-- The run after an emplacement. -/
def emplaced? (align : UInt64) : Option (Option BufferView × HostBuffer) → Option HostBufferRun
  | none => none
  | some (none, next) => some { run with host := next }
  | some (some view, next) =>
    some { run with host := next, emplaced := ⟨view, align, run.frame⟩ :: run.emplaced }

def call : HostBufferCall → Option HostBufferRun
  | .emplace buffer length copies => run.emplaced? 0 (run.host.emplace buffer length copies)
  | .emplaceAligned buffer length align copies =>
    run.emplaced? align (run.host.emplaceAligned buffer length align copies)
  | .emplaceProc length align cb => run.emplaced? align (run.host.emplaceProc length align cb)
  | .emplaceUniform sizeOf alignOf copies =>
    let alignment := max alignOf defaultUniformAlignment
    run.emplaced? alignment (run.host.emplaceAligned true sizeOf alignment copies)
  | .reset => some { run with host := run.host.reset, frame := run.frame + 1 }

def machine : Machine HostBufferRun HostBufferCall where
  Initial run := ∃ allocator, run = { host := .create allocator }
  step := call defaultUniformAlignment

end HostBufferRun

/-! ## Placement -/

namespace HostBuffer

/-- Room that is skipped before an emplacement: up to an offset in the block, or to the next
block. -/
inductive Skips : HostBuffer → HostBuffer → Prop where
  | pad {host : HostBuffer} {offset : UInt64} (later : host.offset ≤ offset)
      (inside : offset ≤ kAllocatorBlockSize) : Skips host { host with offset := offset }
  | next {host : HostBuffer} : Skips host host.maybeCreateNewBuffer

/-- What an emplacement does, whichever form it has. -/
inductive Places (host : HostBuffer) (length align : UInt64) :
    Option (Option BufferView × HostBuffer) → Prop where
  | refuses : Places host length align (some (none, host))
  | fails {skipped : HostBuffer} (skips : Relation.ReflTransGen Skips host skipped) :
      Places host length align (some (none, (skipped.takeOneOff length).2))
  | oneOff {skipped : HostBuffer} (skips : Relation.ReflTransGen Skips host skipped) :
      Places host length align
        (some (some (skipped.takeOneOff length).1, (skipped.takeOneOff length).2))
  | takes {skipped : HostBuffer} (skips : Relation.ReflTransGen Skips host skipped)
      (aligned : align = 0 ∨ skipped.offset % align = 0)
      (fits : skipped.offset.toNat + length.toNat ≤ kAllocatorBlockSize.toNat) :
      Places host length align (skipped.takeRange length)

variable {host : HostBuffer} {length align : UInt64}

theorem maybeCreateNewBuffer_offset : host.maybeCreateNewBuffer.offset = 0 := by
  unfold maybeCreateNewBuffer
  dsimp only
  split <;> rfl

/-- Rounding up to a multiple of the alignment. -/
theorem dvd_rounded {offset align : Nat} (pos : 0 < align) :
    align ∣ offset + (align - offset % align) := by
  have below := Nat.mod_lt offset pos
  have whole := Nat.div_add_mod offset align
  refine ⟨offset / align + 1, ?_⟩
  rw [Nat.mul_succ]
  omega

theorem zero_mod (align : UInt64) : 0 % align = 0 := by
  apply UInt64.toNat_inj.mp
  simp

theorem zero_le_block : 0 ≤ kAllocatorBlockSize := by decide

theorem toNat_block : kAllocatorBlockSize.toNat = 1024000 := rfl

/-- Rounding an offset of a block up stays in 64 bits: to the alignment itself when the offset is
below that. -/
theorem toNat_rounded {offset align : UInt64} (inside : offset ≤ kAllocatorBlockSize)
    (pos : align ≠ 0) :
    (offset + (align - offset % align)).toNat =
        offset.toNat + (align.toNat - offset.toNat % align.toNat) ∧
      offset.toNat + (align.toNat - offset.toNat % align.toNat) ≤ max align.toNat 2048000 := by
  rw [UInt64.le_iff_toNat_le, toNat_block] at inside
  have pos : 0 < align.toNat := Nat.pos_of_ne_zero fun zero => pos (UInt64.toNat_inj.mp zero)
  have small : offset.toNat + (align.toNat - offset.toNat % align.toNat) ≤
      max align.toNat 2048000 := by
    obtain below | above := lt_or_ge offset.toNat align.toNat
    · rw [Nat.mod_eq_of_lt below]
      omega
    · omega
  have wide := align.toNat_lt
  refine ⟨?_, small⟩
  have sub : (align - offset % align).toNat = align.toNat - offset.toNat % align.toNat := by
    rw [UInt64.toNat_sub_of_le, UInt64.toNat_mod]
    rw [UInt64.le_iff_toNat_le, UInt64.toNat_mod]
    exact (Nat.mod_lt _ pos).le
  rw [UInt64.toNat_add, sub, Nat.mod_eq_of_lt]
  omega

theorem mod_rounded {offset align : UInt64} (inside : offset ≤ kAllocatorBlockSize)
    (pos : align ≠ 0) : (offset + (align - offset % align)) % align = 0 := by
  apply UInt64.toNat_inj.mp
  rw [UInt64.toNat_mod, (toNat_rounded inside pos).1]
  exact Nat.mod_eq_zero_of_dvd (dvd_rounded
    (Nat.pos_of_ne_zero fun zero => pos (UInt64.toNat_inj.mp zero)))

/-- What has a length that may be placed goes to an offset of the block, or to the next block. -/
theorem takes_at {start : HostBuffer} (skips : Relation.ReflTransGen Skips start host)
    {offset : UInt64} (later : host.offset ≤ offset) (aligned : align = 0 ∨ offset % align = 0)
    (short : length ≤ kAllocatorBlockSize)
    (sum : (offset + length).toNat = offset.toNat + length.toNat) :
    Places start length align
      ((if offset + length > kAllocatorBlockSize then host.maybeCreateNewBuffer
        else { host with offset := offset }).takeRange length) := by
  split
  · refine .takes (skips.tail .next) ?_ ?_
    · rw [maybeCreateNewBuffer_offset]
      exact .inr (zero_mod align)
    · rw [maybeCreateNewBuffer_offset, UInt64.toNat_zero, Nat.zero_add]
      exact UInt64.le_iff_toNat_le.mp short
  · rename_i fits
    rw [UInt64.not_lt, UInt64.le_iff_toNat_le, sum] at fits
    have inside : offset ≤ kAllocatorBlockSize := by
      rw [UInt64.le_iff_toNat_le]
      omega
    exact .takes (skips.tail (.pad later inside)) aligned fits

theorem emplace_places {start : HostBuffer} (skips : Relation.ReflTransGen Skips start host)
    (inside : host.offset ≤ kAllocatorBlockSize) (aligned : align = 0 ∨ host.offset % align = 0)
    (buffer copies : Bool) : Places start length align (host.emplace buffer length copies) := by
  unfold emplace
  split
  · dsimp only
    split
    · exact .fails skips
    · exact .oneOff skips
  · rename_i short
    rw [UInt64.not_lt] at short
    refine takes_at skips (UInt64.le_refl _) aligned short ?_
    rw [UInt64.le_iff_toNat_le, toNat_block] at inside short
    rw [UInt64.toNat_add, Nat.mod_eq_of_lt]
    omega

theorem emplaceAligned_places (inside : host.offset ≤ kAllocatorBlockSize)
    (buffer copies : Bool) :
    Places host length align (host.emplaceAligned buffer length align copies) := by
  unfold emplaceAligned
  split
  · rename_i aligned
    exact emplace_places .refl inside aligned buffer copies
  · rename_i unaligned
    rw [not_or] at unaligned
    dsimp only
    split
    · rename_i fits
      have later : host.offset ≤ host.offset + (align - host.offset % align) := by
        rw [UInt64.le_iff_toNat_le, (toNat_rounded inside unaligned.1).1]
        exact Nat.le_add_right _ _
      exact emplace_places (.single (.pad later (UInt64.le_of_lt fits))) (UInt64.le_of_lt fits)
        (.inr (mod_rounded inside unaligned.1)) buffer copies
    · refine emplace_places (.single .next) ?_ ?_ buffer copies
      · rw [maybeCreateNewBuffer_offset]
        decide
      · rw [maybeCreateNewBuffer_offset]
        exact .inr (zero_mod align)

/-- What is asked of a callback fits in 64 bits: neither a length that may be placed nor an
alignment that is not met already is so large that the sum of both wraps around. -/
def SumFits (host : HostBuffer) (length align : UInt64) : Prop :=
  length ≤ kAllocatorBlockSize → align ≠ 0 → host.offset % align ≠ 0 →
    align.toNat + length.toNat < 2 ^ 64

theorem emplaceProc_places (inside : host.offset ≤ kAllocatorBlockSize) {cb : Bool}
    (fits : cb = true → host.SumFits length align) :
    Places host length align (host.emplaceProc length align cb) := by
  unfold emplaceProc
  split
  · exact .refuses
  · rename_i called
    split
    · exact .oneOff .refl
    · rename_i short
      rw [UInt64.not_lt] at short
      have fits := fits (not_not.mp called) short
      have shortNat := UInt64.le_iff_toNat_le.mp short
      rw [toNat_block] at shortNat
      by_cases unaligned : align > 0 ∧ host.offset % align ≠ 0
      · dsimp only
        rw [if_pos unaligned]
        have pos : align ≠ 0 := UInt64.pos_iff_ne_zero.mp unaligned.1
        obtain ⟨rounded, small⟩ := toNat_rounded inside pos
        have fits := fits pos unaligned.2
        refine takes_at .refl ?_ (.inr (mod_rounded inside pos)) short ?_
        · rw [UInt64.le_iff_toNat_le, rounded]
          exact Nat.le_add_right _ _
        · rw [UInt64.toNat_add, rounded, Nat.mod_eq_of_lt]
          omega
      · dsimp only
        rw [if_neg unaligned, UInt64.add_zero]
        refine takes_at .refl (UInt64.le_refl _) ?_ short ?_
        · obtain zero | pos := eq_or_ne align 0
          · exact .inl zero
          · exact .inr (by_contra fun unmet => unaligned ⟨UInt64.pos_iff_ne_zero.mpr pos, unmet⟩)
        · rw [UInt64.le_iff_toNat_le, toNat_block] at inside
          rw [UInt64.toNat_add, Nat.mod_eq_of_lt]
          omega

end HostBuffer

/-! ## What the views share -/

namespace Range

/-- The first byte after a range. -/
def finish (range : Range) : Nat := range.offset.toNat + range.length.toNat

/-- Two ranges share no byte. -/
def Disjoint (range other : Range) : Prop :=
  range.finish ≤ other.offset.toNat ∨ other.finish ≤ range.offset.toNat

instance (range other : Range) : Decidable (range.Disjoint other) :=
  inferInstanceAs (Decidable (_ ∨ _))

end Range

/-- A view lies inside its device buffer, at a multiple of the alignment that was asked for. -/
def Emplaced.Sound (emplaced : Emplaced) : Prop :=
  emplaced.view.range.finish ≤ emplaced.view.buffer.size.toNat ∧
    (emplaced.align = 0 ∨ emplaced.view.range.offset % emplaced.align = 0)

/-- A device buffer that has two views has them in one frame, without an overlap, or so many resets
apart that its slot was reset. -/
def Emplaced.Apart (later earlier : Emplaced) : Prop :=
  later.view.buffer = earlier.view.buffer →
    earlier.frame + kHostBufferArenaSize ≤ later.frame ∨
      later.frame = earlier.frame ∧ later.view.range.Disjoint earlier.view.range

/-- The block of a slot at an index. -/
def HostBuffer.BlockAt (host : HostBuffer) (slot : Fin kHostBufferArenaSize) (index : Nat)
    (buffer : DeviceBuffer) : Prop :=
  (host.deviceBuffers slot)[index]? = some buffer

/-- The device buffers of the slots and what is emplaced in them. -/
structure Kept (host : HostBuffer) (frame : Nat) (emplaced : List Emplaced) : Prop where
  nonempty : ∀ slot, host.deviceBuffers slot ≠ []
  current : host.currentBuffer < (host.deviceBuffers host.frameIndex).length
  slot : (host.frameIndex : Nat) = frame % kHostBufferArenaSize
  blocks : ∀ {slot index buffer}, host.BlockAt slot index buffer →
    buffer.size = kAllocatorBlockSize ∧ buffer.name < host.allocator.created
  distinct : ∀ {slot index other at' buffer}, host.BlockAt slot index buffer →
    host.BlockAt other at' buffer → slot = other ∧ index = at'
  inside : host.offset ≤ kAllocatorBlockSize
  known : ∀ view ∈ emplaced,
    view.Sound ∧ view.view.buffer.name < host.allocator.created ∧ view.frame ≤ frame
  /-- The views of a block are of frames of its slot; those of this frame come before the offset. -/
  before : ∀ {slot index buffer}, host.BlockAt slot index buffer → ∀ view ∈ emplaced,
    view.view.buffer = buffer → view.frame % kHostBufferArenaSize = slot ∧
      (view.frame = frame → index < host.currentBuffer ∨
        index = host.currentBuffer ∧ view.view.range.finish ≤ host.offset.toNat)
  apart : emplaced.Pairwise Emplaced.Apart

namespace Kept

open HostBuffer

variable {host skipped : HostBuffer} {frame : Nat} {emplaced : List Emplaced}

/-- A block that is appended to the current slot. -/
theorem blockAt_append {slot : Fin kHostBufferArenaSize} {index : Nat}
    {buffer appended : DeviceBuffer} {changed : HostBuffer}
    (changes : changed.deviceBuffers = Function.update host.deviceBuffers host.frameIndex
      (host.deviceBuffers host.frameIndex ++ [appended]))
    (there : changed.BlockAt slot index buffer) :
    host.BlockAt slot index buffer ∨ slot = host.frameIndex ∧
      index = (host.deviceBuffers host.frameIndex).length ∧ buffer = appended := by
  unfold BlockAt at there
  rw [changes] at there
  obtain rfl | other := eq_or_ne slot host.frameIndex
  · rw [Function.update_self, List.getElem?_append] at there
    split at there
    · exact .inl there
    · rename_i past
      rw [not_lt] at past
      rw [List.getElem?_singleton] at there
      split at there
      · cases there
        exact .inr ⟨rfl, by omega, rfl⟩
      · cases there
  · rw [Function.update_of_ne other] at there
    exact .inl there

/-- Skipping room keeps every view before the offset. -/
theorem skip (kept : Kept host frame emplaced) (skips : Skips host skipped) :
    Kept skipped frame emplaced := by
  cases skips with
  | pad later inside =>
    refine ⟨kept.nonempty, kept.current, kept.slot, kept.blocks, kept.distinct, inside,
      kept.known, ?_, kept.apart⟩
    intro slot index buffer there view listed same
    obtain ⟨frames, before⟩ := kept.before there view listed same
    refine ⟨frames, fun now => (before now).imp_right fun ⟨here, below⟩ => ⟨here, ?_⟩⟩
    exact below.trans (UInt64.le_iff_toNat_le.mp later)
  | next =>
    have current := kept.current
    unfold maybeCreateNewBuffer
    dsimp only
    split
    · rename_i last
      have one : host.currentBuffer + 1 = (host.deviceBuffers host.frameIndex).length := by
        omega
      simp only [Allocator.createBuffer]
      refine ⟨?_, ?_, kept.slot, ?_, ?_, zero_le_block, ?_, ?_, kept.apart⟩
      · intro slot
        obtain rfl | other := eq_or_ne slot host.frameIndex
        · simp
        · simpa [Function.update_of_ne other] using kept.nonempty slot
      · simp [one]
      · intro slot index buffer there
        obtain there | ⟨rfl, rfl, rfl⟩ := blockAt_append rfl there
        · exact (kept.blocks there).imp_right Nat.lt_succ_of_lt
        · exact ⟨rfl, Nat.lt_succ_self _⟩
      · intro slot index other at' buffer there also
        obtain there | ⟨rfl, rfl, rfl⟩ := blockAt_append rfl there
        · obtain also | ⟨rfl, rfl, rfl⟩ := blockAt_append rfl also
          · exact kept.distinct there also
          · exact absurd (kept.blocks there).2 (lt_irrefl _)
        · obtain also | ⟨rfl, rfl, -⟩ := blockAt_append rfl also
          · exact absurd (kept.blocks also).2 (lt_irrefl _)
          · exact ⟨rfl, rfl⟩
      · intro view listed
        obtain ⟨sound, name, frames⟩ := kept.known view listed
        exact ⟨sound, Nat.lt_succ_of_lt name, frames⟩
      · intro slot index buffer there view listed same
        obtain there | ⟨rfl, rfl, rfl⟩ := blockAt_append rfl there
        · obtain ⟨frames, before⟩ := kept.before there view listed same
          refine ⟨frames, fun now => .inl ?_⟩
          dsimp only
          obtain earlier | ⟨here, -⟩ := before now
          · omega
          · omega
        · have name := (kept.known view listed).2.1
          rw [same] at name
          exact absurd name (lt_irrefl _)
    · rename_i more
      rw [not_le] at more
      refine ⟨kept.nonempty, more, kept.slot, kept.blocks, kept.distinct, zero_le_block,
        kept.known, ?_, kept.apart⟩
      intro slot index buffer there view listed same
      obtain ⟨frames, before⟩ := kept.before there view listed same
      refine ⟨frames, fun now => .inl ?_⟩
      dsimp only
      obtain earlier | ⟨here, -⟩ := before now
      · omega
      · omega

theorem skips (kept : Kept host frame emplaced) (skips : Relation.ReflTransGen Skips host skipped) :
    Kept skipped frame emplaced := by
  induction skips with
  | refl => exact kept
  | tail _ last ih => exact ih.skip last

/-- A range of the current block that begins at the offset comes after all views of this frame. -/
theorem take {length align : UInt64} (kept : Kept host frame emplaced)
    (aligned : align = 0 ∨ host.offset % align = 0)
    (fits : host.offset.toNat + length.toNat ≤ kAllocatorBlockSize.toNat) :
    ∃ view next, host.takeRange length = some (some view, next) ∧
      Kept next frame (⟨view, align, frame⟩ :: emplaced) := by
  obtain ⟨current, there⟩ : ∃ current, host.BlockAt host.frameIndex host.currentBuffer current :=
    ⟨_, List.getElem?_eq_getElem kept.current⟩
  have sum : (host.offset + length).toNat = host.offset.toNat + length.toNat := by
    rw [toNat_block] at fits
    rw [UInt64.toNat_add, Nat.mod_eq_of_lt]
    omega
  obtain ⟨size, name⟩ := kept.blocks there
  refine ⟨⟨current, ⟨host.offset, length⟩⟩, _, Option.bind_eq_some_iff.mpr ⟨current, there, rfl⟩,
    kept.nonempty, kept.current, kept.slot, kept.blocks, kept.distinct, ?_, ?_, ?_, ?_⟩
  · rw [UInt64.le_iff_toNat_le, sum]
    exact fits
  · intro view listed
    obtain rfl | listed := List.mem_cons.mp listed
    · refine ⟨⟨?_, aligned⟩, name, le_rfl⟩
      dsimp only [Range.finish]
      rw [size]
      exact fits
    · exact kept.known view listed
  · intro slot index buffer found view listed same
    obtain rfl | listed := List.mem_cons.mp listed
    · obtain rfl : current = buffer := same
      obtain ⟨rfl, rfl⟩ := kept.distinct found there
      exact ⟨kept.slot.symm, fun _ => .inr ⟨rfl, sum.ge⟩⟩
    · obtain ⟨frames, before⟩ := kept.before found view listed same
      refine ⟨frames, fun now => (before now).imp_right fun ⟨here, below⟩ => ⟨here, ?_⟩⟩
      dsimp only
      rw [sum]
      exact below.trans (Nat.le_add_right _ _)
  · refine List.pairwise_cons.mpr ⟨fun view listed same => ?_, kept.apart⟩
    obtain ⟨frames, before⟩ := kept.before there view listed same.symm
    have past := (kept.known view listed).2.2
    obtain now | earlier := past.eq_or_lt
    · refine .inr ⟨now.symm, .inr ?_⟩
      obtain wrong | ⟨-, below⟩ := before now
      · exact absurd wrong (lt_irrefl _)
      · exact below
    · rw [kept.slot] at frames
      refine .inl ?_
      dsimp only [kHostBufferArenaSize] at frames ⊢
      omega

/-- A buffer of its own has no view yet. -/
theorem oneOff {length : UInt64} (kept : Kept host frame emplaced) (align : UInt64) :
    Kept (host.takeOneOff length).2 frame
      (⟨(host.takeOneOff length).1, align, frame⟩ :: emplaced) := by
  refine ⟨kept.nonempty, kept.current, kept.slot, ?_, kept.distinct, kept.inside, ?_, ?_, ?_⟩
  · exact fun there => (kept.blocks there).imp_right Nat.lt_succ_of_lt
  · intro view listed
    obtain rfl | listed := List.mem_cons.mp listed
    · refine ⟨⟨?_, .inr (zero_mod align)⟩, Nat.lt_succ_self _, le_rfl⟩
      simp [takeOneOff, Allocator.createBuffer, Range.finish]
    · obtain ⟨sound, name, frames⟩ := kept.known view listed
      exact ⟨sound, Nat.lt_succ_of_lt name, frames⟩
  · intro slot index buffer there view listed same
    obtain rfl | listed := List.mem_cons.mp listed
    · have name := (kept.blocks there).2
      rw [← same] at name
      exact absurd name (lt_irrefl _)
    · exact kept.before there view listed same
  · refine List.pairwise_cons.mpr ⟨fun view listed same => ?_, kept.apart⟩
    have name := (kept.known view listed).2.1
    rw [← same] at name
    exact absurd name (lt_irrefl _)

/-- Without its view, the buffer is forgotten. -/
theorem forget {view : Emplaced} (kept : Kept host frame (view :: emplaced)) :
    Kept host frame emplaced :=
  ⟨kept.nonempty, kept.current, kept.slot, kept.blocks, kept.distinct, kept.inside,
    fun other listed => kept.known other (.tail _ listed),
    fun there other listed => kept.before there other (.tail _ listed),
    (List.pairwise_cons.mp kept.apart).2⟩

theorem reset (kept : Kept host frame emplaced) : Kept host.reset (frame + 1) emplaced := by
  have remains : ∀ {slot index buffer}, host.reset.BlockAt slot index buffer →
      host.BlockAt slot index buffer := by
    intro slot index buffer there
    unfold BlockAt HostBuffer.reset at there
    dsimp only at there
    obtain rfl | other := eq_or_ne slot host.frameIndex
    · rw [Function.update_self, List.getElem?_take] at there
      split at there
      · exact there
      · cases there
    · rwa [Function.update_of_ne other] at there
  have nonempty : ∀ slot, host.reset.deviceBuffers slot ≠ [] := by
    intro slot
    unfold HostBuffer.reset
    obtain rfl | other := eq_or_ne slot host.frameIndex
    · simpa using kept.nonempty _
    · simpa [Function.update_of_ne other] using kept.nonempty slot
  refine ⟨nonempty, List.length_pos_of_ne_nil (nonempty _), ?_,
    fun there => kept.blocks (remains there),
    fun there also => kept.distinct (remains there) (remains also), zero_le_block, ?_, ?_,
    kept.apart⟩
  · have one : ((1 : Fin kHostBufferArenaSize) : Nat) = 1 := rfl
    simp only [HostBuffer.reset, Fin.val_add, kept.slot, one, Nat.mod_add_mod]
  · intro view listed
    obtain ⟨sound, name, frames⟩ := kept.known view listed
    exact ⟨sound, name, Nat.le_succ_of_le frames⟩
  · intro slot index buffer there view listed same
    refine ⟨(kept.before (remains there) view listed same).1, fun now => ?_⟩
    have past := (kept.known view listed).2.2
    omega

/-- Whatever form an emplacement has, its view joins those before. -/
theorem place {length align : UInt64} {placed : Option (Option BufferView × HostBuffer)}
    (kept : Kept host frame emplaced) (places : Places host length align placed) :
    ∃ view next, placed = some (view, next) ∧
      Kept next frame (view.toList.map (⟨·, align, frame⟩) ++ emplaced) := by
  cases places with
  | refuses => exact ⟨none, host, rfl, kept⟩
  | fails skips => exact ⟨none, _, rfl, ((kept.skips skips).oneOff align).forget⟩
  | oneOff skips => exact ⟨some _, _, rfl, (kept.skips skips).oneOff align⟩
  | takes skips aligned fits =>
    obtain ⟨view, next, takes, kept⟩ := (kept.skips skips).take aligned fits
    exact ⟨some view, next, takes, kept⟩

end Kept

namespace HostBufferRun

open HostBuffer

variable {defaultUniformAlignment : UInt64}

/-- What a call asks for fits in 64 bits. -/
def Fits (run : HostBufferRun) : HostBufferCall → Prop
  | .emplaceProc length align cb => cb = true → run.host.SumFits length align
  | _ => True

/-- Every view is sound and apart from those before it, every slot has a buffer, and the current
one is there. -/
structure Arranged (run : HostBufferRun) : Prop where
  sound : ∀ view ∈ run.emplaced, view.Sound
  apart : run.emplaced.Pairwise Emplaced.Apart
  nonempty : ∀ slot, run.host.deviceBuffers slot ≠ []
  current : run.host.currentBuffer < (run.host.deviceBuffers run.host.frameIndex).length

theorem kept_of_emplaced {run next : HostBufferRun} {length align : UInt64}
    {placed : Option (Option BufferView × HostBuffer)}
    (kept : Kept run.host run.frame run.emplaced) (places : Places run.host length align placed)
    (emplaces : run.emplaced? align placed = some next) :
    Kept next.host next.frame next.emplaced := by
  obtain ⟨view, host, rfl, kept⟩ := kept.place places
  cases view with
  | none =>
    cases emplaces
    exact kept
  | some view =>
    cases emplaces
    exact kept

/-- A call that fits keeps the device buffers and their views. -/
theorem kept_of_call {run next : HostBufferRun} {call : HostBufferCall}
    (kept : Kept run.host run.frame run.emplaced) (fits : run.Fits call)
    (calls : run.call defaultUniformAlignment call = some next) :
    Kept next.host next.frame next.emplaced := by
  cases call with
  | emplace buffer length copies =>
    exact kept_of_emplaced kept (emplace_places .refl kept.inside (.inl rfl) buffer copies) calls
  | emplaceAligned buffer length align copies =>
    exact kept_of_emplaced kept (emplaceAligned_places kept.inside buffer copies) calls
  | emplaceProc length align cb =>
    exact kept_of_emplaced kept (emplaceProc_places kept.inside fits) calls
  | emplaceUniform sizeOf alignOf copies =>
    exact kept_of_emplaced kept (emplaceAligned_places kept.inside true copies) calls
  | reset =>
    cases calls
    exact kept.reset

theorem kept_create (allocator : Allocator) : Kept (create allocator) 0 [] := by
  have blocks : ∀ {slot index buffer}, (create allocator).BlockAt slot index buffer →
      index = 0 ∧ buffer = ⟨allocator.created + slot, kAllocatorBlockSize⟩ := by
    intro slot index buffer there
    unfold BlockAt create at there
    rw [List.getElem?_singleton] at there
    split at there
    · rename_i first
      cases there
      exact ⟨first, rfl⟩
    · cases there
  refine ⟨by simp [create], Nat.zero_lt_one, rfl, ?_, ?_, zero_le_block, by simp, by simp, .nil⟩
  · intro slot index buffer there
    obtain ⟨-, rfl⟩ := blocks there
    exact ⟨rfl, Nat.add_lt_add_left slot.isLt _⟩
  · intro slot index other at' buffer there also
    obtain ⟨rfl, rfl⟩ := blocks there
    obtain ⟨rfl, same⟩ := blocks also
    have same := congrArg DeviceBuffer.name same
    exact ⟨Fin.ext (Nat.add_left_cancel same), rfl⟩

/-- In every state reached by calls that fit in 64 bits, the views are arranged. -/
theorem reachable_arranged {run : HostBufferRun}
    (reached : (machine defaultUniformAlignment).Reachable Fits run) : run.Arranged := by
  have kept : Kept run.host run.frame run.emplaced := by
    refine reached.invariant (fun run => Kept run.host run.frame run.emplaced) ?_ kept_of_call
    rintro _ ⟨allocator, rfl⟩
    exact kept_create allocator
  exact ⟨fun view listed => (kept.known view listed).1, kept.apart, kept.nonempty, kept.current⟩

section Samples

instance (run : HostBufferRun) (call : HostBufferCall) : Decidable (run.Fits call) :=
  match call with
  | .emplaceProc .. => inferInstanceAs (Decidable (_ → _ → _ → _ → _))
  | .emplace .. | .emplaceAligned .. | .emplaceUniform .. | .reset =>
    inferInstanceAs (Decidable True)

instance (emplaced : Emplaced) : Decidable emplaced.Sound :=
  inferInstanceAs (Decidable (_ ∧ (_ ∨ _)))

def opened : HostBufferRun := { host := .create ⟨0⟩ }

/-- A block is used again three resets later. -/
theorem reachable_arranged_reused :
    ∃ run : HostBufferRun, (machine 16).Reachable Fits run ∧
      run.emplaced.map (·.view.range) = [⟨0, 4⟩, ⟨32, 64⟩, ⟨0, 21⟩] ∧ run.Arranged := by
  have start : (machine 16).Reachable Fits opened := .initial ⟨⟨0⟩, rfl⟩
  obtain ⟨run, reached, ranges⟩ := start.exists_of_run
    [.emplace true 21 true, .emplaceProc 64 16 true, .reset, .reset, .reset,
      .emplaceUniform 4 4 true]
    (fun run => run.emplaced.map (·.view.range) = [⟨0, 4⟩, ⟨32, 64⟩, ⟨0, 21⟩])
    (by decide +kernel) (by decide +kernel)
  exact ⟨run, reached, by simpa using ranges, reachable_arranged reached⟩

/-- A callback whose alignment is nearly as large as 64 bits allow is called far outside of its
block. -/
theorem not_arranged_of_wrapped :
    ∃ run : HostBufferRun, (machine 16).Reachable (fun _ _ => True) run ∧
      run.emplaced.head?.map (·.view.range) = some ⟨2 ^ 64 - 1, 2⟩ ∧ ¬run.Arranged := by
  have start : (machine 16).Reachable (fun _ _ => True) opened := .initial ⟨⟨0⟩, rfl⟩
  obtain ⟨run, reached, checked⟩ := start.exists_of_run
    [.emplace true 1 true, .emplaceProc 2 (2 ^ 64 - 1) true]
    (fun run => run.emplaced.head?.map (·.view.range) = some ⟨2 ^ 64 - 1, 2⟩ ∧
      ∃ view ∈ run.emplaced, ¬view.Sound)
    (by decide +kernel) (by decide +kernel)
  obtain ⟨range, view, listed, unsound⟩ := of_decide_eq_true checked
  exact ⟨run, reached, range, fun arranged => unsound (arranged.sound view listed)⟩

end Samples

end HostBufferRun

end FlutterEngine.Impeller
