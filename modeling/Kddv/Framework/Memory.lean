import Mathlib

/-!
# Byte ranges

Ranges of a byte string, overwriting one range, and reads through a pointer that may leave
the buffer it points into. Such a read finds the bytes that happen to surround the buffer.
-/

namespace Kddv.Framework

/-- The bytes at positions `offset`, ..., `offset + size - 1`. -/
def slice (bytes : List UInt8) (offset size : Nat) : List UInt8 :=
  (bytes.drop offset).take size

theorem slice_length (bytes : List UInt8) (offset size : Nat)
    (h : offset + size ≤ bytes.length) : (slice bytes offset size).length = size := by
  rw [slice, List.length_take, List.length_drop]
  omega

theorem slice_getElem? (bytes : List UInt8) (offset size i : Nat) (h : i < size) :
    (slice bytes offset size)[i]? = bytes[offset + i]? := by
  rw [slice, List.getElem?_take_of_lt h, List.getElem?_drop]

/-- Replace the bytes from `offset` on by `new`. -/
def overwrite (bytes : List UInt8) (offset : Nat) (new : List UInt8) : List UInt8 :=
  bytes.take offset ++ new ++ bytes.drop (offset + new.length)

theorem overwrite_length (bytes : List UInt8) (offset : Nat) (new : List UInt8)
    (h : offset + new.length ≤ bytes.length) :
    (overwrite bytes offset new).length = bytes.length := by
  simp only [overwrite, List.length_append, List.length_take, List.length_drop]
  omega

theorem slice_overwrite_self (bytes : List UInt8) (offset : Nat) (new : List UInt8)
    (h : offset + new.length ≤ bytes.length) :
    slice (overwrite bytes offset new) offset new.length = new := by
  have htake : (bytes.take offset).length = offset := by
    rw [List.length_take]
    omega
  rw [slice, overwrite, List.append_assoc, List.drop_left' htake, List.take_left' rfl]

theorem overwrite_getElem?_outside (bytes : List UInt8) (offset i : Nat) (new : List UInt8)
    (h : offset + new.length ≤ bytes.length) (hi : i < offset ∨ offset + new.length ≤ i) :
    (overwrite bytes offset new)[i]? = bytes[i]? := by
  have htake : (bytes.take offset).length = offset := by
    rw [List.length_take]
    omega
  rw [overwrite, List.append_assoc]
  rcases hi with hi | hi
  · rw [List.getElem?_append_left (by omega), List.getElem?_take_of_lt hi]
  · rw [List.getElem?_append_right (by omega), List.getElem?_append_right (by omega),
      List.getElem?_drop, htake]
    congr 1
    omega

theorem slice_overwrite_outside (bytes : List UInt8) (offset start size : Nat) (new : List UInt8)
    (h : offset + new.length ≤ bytes.length)
    (hd : start + size ≤ offset ∨ offset + new.length ≤ start) :
    slice (overwrite bytes offset new) start size = slice bytes start size := by
  apply List.ext_getElem?
  intro i
  by_cases hi : i < size
  · rw [slice_getElem? _ _ _ _ hi, slice_getElem? _ _ _ _ hi,
      overwrite_getElem?_outside _ _ _ _ h (by omega)]
  · simp only [slice, List.getElem?_take, if_neg hi]

/-- A block of bytes with the position it is written to. -/
abbrev Block := Nat × List UInt8

def Block.Disjoint (left right : Block) : Prop :=
  left.1 + left.2.length ≤ right.1 ∨ right.1 + right.2.length ≤ left.1

/-- Write one block after the other. -/
def writeAll (bytes : List UInt8) (blocks : List Block) : List UInt8 :=
  blocks.foldl (fun bytes block => overwrite bytes block.1 block.2) bytes

theorem writeAll_length (bytes : List UInt8) (blocks : List Block)
    (h : ∀ block ∈ blocks, block.1 + block.2.length ≤ bytes.length) :
    (writeAll bytes blocks).length = bytes.length := by
  induction blocks generalizing bytes with
  | nil => rfl
  | cons block blocks ih =>
    have hlen := overwrite_length bytes block.1 block.2 (h block (by simp))
    change (writeAll (overwrite bytes block.1 block.2) blocks).length = _
    rw [ih _ (fun b hb => by rw [hlen]; exact h b (by simp [hb])), hlen]

theorem slice_writeAll_outside (bytes : List UInt8) (blocks : List Block) (start size : Nat)
    (h : ∀ block ∈ blocks, block.1 + block.2.length ≤ bytes.length)
    (hd : ∀ block ∈ blocks, start + size ≤ block.1 ∨ block.1 + block.2.length ≤ start) :
    slice (writeAll bytes blocks) start size = slice bytes start size := by
  induction blocks generalizing bytes with
  | nil => rfl
  | cons block blocks ih =>
    have hlen := overwrite_length bytes block.1 block.2 (h block (by simp))
    change slice (writeAll (overwrite bytes block.1 block.2) blocks) start size = _
    rw [ih _ (fun b hb => by rw [hlen]; exact h b (by simp [hb])) (fun b hb => hd b (by simp [hb])),
      slice_overwrite_outside _ _ _ _ _ (h block (by simp)) (hd block (by simp))]

/-- Disjoint blocks can all be read back. -/
theorem slice_writeAll (bytes : List UInt8) (blocks : List Block)
    (h : ∀ block ∈ blocks, block.1 + block.2.length ≤ bytes.length)
    (hd : blocks.Pairwise Block.Disjoint) (block : Block) (hb : block ∈ blocks) :
    slice (writeAll bytes blocks) block.1 block.2.length = block.2 := by
  induction blocks generalizing bytes with
  | nil => simp at hb
  | cons first blocks ih =>
    have hlen := overwrite_length bytes first.1 first.2 (h first (by simp))
    have hrest : ∀ b ∈ blocks, b.1 + b.2.length ≤ (overwrite bytes first.1 first.2).length := by
      intro b hm
      rw [hlen]
      exact h b (by simp [hm])
    obtain ⟨hfirst, hpair⟩ := List.pairwise_cons.mp hd
    change slice (writeAll (overwrite bytes first.1 first.2) blocks) block.1 block.2.length = _
    rcases List.mem_cons.mp hb with rfl | hmem
    · rw [slice_writeAll_outside _ _ _ _ hrest hfirst,
        slice_overwrite_self _ _ _ (h block (by simp))]
    · exact ih _ hrest hpair hmem

/-- A contiguous range of positions. -/
structure Span where
  start : Int
  size : Nat
deriving DecidableEq

namespace Span

/-- Every position of the span is a position of a buffer of `length` bytes. -/
def Inside (span : Span) (length : Nat) : Prop :=
  ∀ i, i < span.size → 0 ≤ span.start + i ∧ span.start + i < length

theorem inside_iff (span : Span) (length : Nat) (h : 0 < span.size) :
    span.Inside length ↔ 0 ≤ span.start ∧ span.start + span.size ≤ length := by
  constructor
  · intro hin
    have hfirst := hin 0 h
    have hlast := hin (span.size - 1) (by omega)
    omega
  · intro hb i hi
    omega

/-- No position belongs to both spans. -/
def Disjoint (left right : Span) : Prop :=
  left.start + left.size ≤ right.start ∨ right.start + right.size ≤ left.start

instance (left right : Span) : Decidable (left.Disjoint right) := by
  unfold Disjoint
  infer_instance

end Span

/-- Memory as seen from the first byte of a buffer. -/
structure Memory where
  buffer : List UInt8
  around : Int → UInt8

namespace Memory

def byte (memory : Memory) (index : Int) : UInt8 :=
  if 0 ≤ index then memory.buffer.getD index.toNat (memory.around index) else memory.around index

/-- The bytes read by copying `size` bytes from the given index. -/
def read (memory : Memory) (start : Int) (size : Nat) : List UInt8 :=
  (List.range size).map fun (i : Nat) => memory.byte (start + i)

@[simp] theorem read_length (memory : Memory) (start : Int) (size : Nat) :
    (memory.read start size).length = size := by
  simp [read]

theorem read_getElem? (memory : Memory) (start : Int) (size i : Nat) (h : i < size) :
    (memory.read start size)[i]? = some (memory.byte (start + i)) := by
  simp [read, h]

theorem byte_inside (memory : Memory) (index : Nat) (h : index < memory.buffer.length) :
    some (memory.byte index) = memory.buffer[index]? := by
  simp [byte, List.getD, List.getElem?_eq_getElem h]

/-- A read that stays in the buffer returns that part of the buffer. -/
theorem read_inside (memory : Memory) (start size : Nat)
    (h : start + size ≤ memory.buffer.length) :
    memory.read start size = slice memory.buffer start size := by
  apply List.ext_getElem?
  intro i
  by_cases hi : i < size
  · have hbyte := memory.byte_inside (start + i) (by omega)
    rw [read_getElem? _ _ _ _ hi, slice_getElem? _ _ _ _ hi, ← hbyte, Nat.cast_add]
  · rw [List.getElem?_eq_none (by rw [read_length]; omega),
      List.getElem?_eq_none (by rw [slice_length _ _ _ h]; omega)]

end Memory

end Kddv.Framework
