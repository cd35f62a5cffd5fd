import Kddv.Framework.LittleEndian

/-!
# Packed structures

A layout identifies a type with the byte strings of one fixed size. Packed structures are
built from words by concatenation and by a change of representation, so both directions of
the identification are inherited from the words and never proved for a structure by hand.
-/

namespace Kddv.Framework

/-- A type whose values are exactly the byte strings of length `size`. -/
structure Layout (α : Type) where
  size : Nat
  encode : α → List UInt8
  decode : List UInt8 → α
  encode_length : ∀ value, (encode value).length = size
  decode_encode : ∀ value, decode (encode value) = value
  encode_decode : ∀ bytes, bytes.length = size → encode (decode bytes) = bytes

namespace Layout

variable {α β : Type}

theorem encode_injective (layout : Layout α) {a b : α}
    (h : layout.encode a = layout.encode b) : a = b := by
  rw [← layout.decode_encode a, ← layout.decode_encode b, h]

/-- Equality of values is equality of their bytes. -/
@[reducible] def decidableEq (layout : Layout α) : DecidableEq α := fun a b =>
  decidable_of_iff (layout.encode a = layout.encode b)
    ⟨layout.encode_injective, fun h => h ▸ rfl⟩

/-- A machine word of `width` bytes, given by its conversions to and from the naturals. -/
def word (width : Nat) (toNat : α → Nat) (ofNat : Nat → α)
    (toNat_lt : ∀ value, toNat value < 256 ^ width)
    (ofNat_toNat : ∀ value, ofNat (toNat value) = value)
    (toNat_ofNat : ∀ n, n < 256 ^ width → toNat (ofNat n) = n) : Layout α where
  size := width
  encode value := leBytes width (toNat value)
  decode bytes := ofNat (leValue bytes)
  encode_length _ := leBytes_length _ _
  decode_encode value := by rw [leValue_leBytes _ _ (toNat_lt value), ofNat_toNat]
  encode_decode bytes h := by
    have hlt := leValue_lt bytes
    rw [h] at hlt
    rw [toNat_ofNat _ hlt, ← h, leBytes_leValue]

def uint8 : Layout UInt8 :=
  word 1 UInt8.toNat UInt8.ofNat UInt8.toNat_lt (fun _ => UInt8.ofNat_toNat)
    (fun n h => by rw [UInt8.toNat_ofNat', Nat.mod_eq_of_lt (by simpa using h)])

def uint16 : Layout UInt16 :=
  word 2 UInt16.toNat UInt16.ofNat UInt16.toNat_lt (fun _ => UInt16.ofNat_toNat)
    (fun n h => by rw [UInt16.toNat_ofNat', Nat.mod_eq_of_lt (by simpa using h)])

def uint32 : Layout UInt32 :=
  word 4 UInt32.toNat UInt32.ofNat UInt32.toNat_lt (fun _ => UInt32.ofNat_toNat)
    (fun n h => by rw [UInt32.toNat_ofNat', Nat.mod_eq_of_lt (by simpa using h)])

def uint64 : Layout UInt64 :=
  word 8 UInt64.toNat UInt64.ofNat UInt64.toNat_lt (fun _ => UInt64.ofNat_toNat)
    (fun n h => by rw [UInt64.toNat_ofNat', Nat.mod_eq_of_lt (by simpa using h)])

/-- A field directly followed by the rest of the structure, with no padding. -/
def pair (first : Layout α) (rest : Layout β) : Layout (α × β) where
  size := first.size + rest.size
  encode value := first.encode value.1 ++ rest.encode value.2
  decode bytes := (first.decode (bytes.take first.size), rest.decode (bytes.drop first.size))
  encode_length value := by simp [first.encode_length, rest.encode_length]
  decode_encode value := by
    have hlen := first.encode_length value.1
    rw [List.take_left' hlen, List.drop_left' hlen, first.decode_encode, rest.decode_encode]
  encode_decode bytes h := by
    rw [first.encode_decode _ (by rw [List.length_take]; omega),
      rest.encode_decode _ (by rw [List.length_drop]; omega), List.take_append_drop]

/-- The same bytes read as a structure with named fields. -/
def ofEquiv (layout : Layout α) (e : β ≃ α) : Layout β where
  size := layout.size
  encode value := layout.encode (e value)
  decode bytes := e.symm (layout.decode bytes)
  encode_length value := layout.encode_length _
  decode_encode value := by rw [layout.decode_encode, Equiv.symm_apply_apply]
  encode_decode bytes h := by rw [Equiv.apply_symm_apply, layout.encode_decode bytes h]

end Layout

/-- Types with a fixed layout in memory. -/
class Packed (α : Type) where
  layout : Layout α

namespace Packed

instance : Packed UInt8 := ⟨.uint8⟩

instance : Packed UInt16 := ⟨.uint16⟩

instance : Packed UInt32 := ⟨.uint32⟩

instance : Packed UInt64 := ⟨.uint64⟩

instance {α β : Type} [Packed α] [Packed β] : Packed (α × β) := ⟨layout.pair layout⟩

/-- A structure is packed as the tuple of its fields in declaration order. -/
@[reducible] def ofFields {α β : Type} [Packed α] (fields : β ≃ α) : Packed β :=
  ⟨layout.ofEquiv fields⟩

/-- `sizeof` of a packed type. -/
def size (α : Type) [Packed α] : Nat := (layout (α := α)).size

end Packed

end Kddv.Framework
