import Mathlib

/-!
# Little-endian words

A machine word of `width` bytes is a natural below `256 ^ width`, stored with its least
significant byte first. The two maps below are mutually inverse on words of a fixed width.
-/

namespace Kddv.Framework

/-- The `width` bytes of a value, least significant byte first. -/
def leBytes : Nat → Nat → List UInt8
  | 0, _ => []
  | width + 1, value => UInt8.ofNat value :: leBytes width (value / 256)

/-- The natural stored in a little-endian byte string. -/
def leValue : List UInt8 → Nat
  | [] => 0
  | byte :: bytes => byte.toNat + 256 * leValue bytes

@[simp] theorem leBytes_length (width value : Nat) : (leBytes width value).length = width := by
  induction width generalizing value with
  | zero => rfl
  | succ width ih => simp [leBytes, ih]

theorem leValue_lt (bytes : List UInt8) : leValue bytes < 256 ^ bytes.length := by
  induction bytes with
  | nil => simp [leValue]
  | cons byte bytes ih =>
    have hbyte := UInt8.toNat_lt byte
    simp only [leValue, List.length_cons, pow_succ]
    omega

theorem leValue_leBytes (width value : Nat) (h : value < 256 ^ width) :
    leValue (leBytes width value) = value := by
  induction width generalizing value with
  | zero =>
    have hzero : value = 0 := by simpa using h
    simp [leBytes, leValue, hzero]
  | succ width ih =>
    have hdiv : value / 256 < 256 ^ width := by
      rw [pow_succ] at h
      omega
    rw [leBytes, leValue, ih _ hdiv, UInt8.toNat_ofNat']
    omega

theorem leBytes_leValue (bytes : List UInt8) :
    leBytes bytes.length (leValue bytes) = bytes := by
  induction bytes with
  | nil => rfl
  | cons byte bytes ih =>
    have hbyte := UInt8.toNat_lt byte
    have hhead : UInt8.ofNat (byte.toNat + 256 * leValue bytes) = byte := by
      apply UInt8.toNat_inj.mp
      rw [UInt8.toNat_ofNat']
      omega
    have htail : (byte.toNat + 256 * leValue bytes) / 256 = leValue bytes := by omega
    rw [List.length_cons, leValue, leBytes, hhead, htail, ih]

end Kddv.Framework
