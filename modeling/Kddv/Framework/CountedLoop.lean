import Mathlib

/-!
# Counted loops

`for (i = first; i <= last; i++)` with an unsigned counter of `w` bits. The counter wraps, so that
no value of it exceeds the greatest bound. Fuel limits how often the condition is evaluated.
-/

namespace Kddv.Framework

variable {w : Nat} {S : Type} {first last : BitVec w} {body : Nat → BitVec w → S → Option S}
  {I : Nat → S → Prop}

/-- The body gets the number of iterations before it and the counter. It gives nothing if it does
not end within its own fuel. -/
def countLoop (last : BitVec w) (body : Nat → BitVec w → S → Option S) :
    Nat → Nat → BitVec w → S → Option S
  | 0, _, _, _ => none
  | fuel + 1, k, i, s =>
    if i ≤ last then (body k i s).bind (countLoop last body fuel (k + 1) (i + 1)) else some s

/-- With the greatest bound, the loop does not end. -/
theorem countLoop_allOnes (fuel k : Nat) (i : BitVec w) (s : S) :
    countLoop (BitVec.allOnes w) body fuel k i s = none := by
  induction fuel generalizing k i s with
  | zero => rfl
  | succ fuel ih =>
    have hin : i ≤ BitVec.allOnes w := by
      rw [BitVec.le_def, BitVec.toNat_allOnes]
      have hlt := i.isLt
      omega
    rw [countLoop, if_pos hin]
    cases body k i s with
    | none => rfl
    | some s' => exact ih (k + 1) (i + 1) s'

/-! ## Rules for loops with a smaller bound

Such a loop has `n` iterations, where the bound is `first + n - 1`. -/

/-- The counter after an iteration that is not at the greatest value. -/
private theorem toNat_succ {i : BitVec w} (h : i.toNat + 1 < 2 ^ w) :
    (i + 1).toNat = i.toNat + 1 := by
  have hone : (1 : BitVec w).toNat = 1 % 2 ^ w := BitVec.toNat_ofNat 1 w
  rw [BitVec.toNat_add, hone, Nat.add_mod_mod, Nat.mod_eq_of_lt h]

/-- Whatever the fuel, a loop that ends keeps what each iteration keeps. -/
theorem countLoop_invariant {n fuel : Nat} (hlast : last.toNat + 1 < 2 ^ w)
    (hn : first.toNat + n = last.toNat + 1)
    (hbody : ∀ k i s s', k < n → i.toNat = first.toNat + k → I k s → body k i s = some s' →
      I (k + 1) s') {s s' : S} (hstart : I 0 s)
    (h : countLoop last body fuel 0 first s = some s') : I n s' := by
  have hrest : ∀ fuel k i s, k ≤ n → i.toNat = first.toNat + k → I k s →
      countLoop last body fuel k i s = some s' → I n s' := by
    intro fuel
    induction fuel with
    | zero => exact fun _ _ _ _ _ _ hnone => nomatch hnone
    | succ fuel ih =>
      intro k i s hk hi hinv hloop
      rw [countLoop] at hloop
      split at hloop
      · rename_i hin
        rw [BitVec.le_def] at hin
        obtain ⟨mid, hmid, hloop⟩ := Option.bind_eq_some_iff.mp hloop
        have hnext := toNat_succ (i := i) (by omega)
        have hinv' := hbody k i s mid (by omega) hi hinv hmid
        exact ih (k + 1) (i + 1) mid (by omega) (by omega) hinv' hloop
      · rename_i hout
        rw [BitVec.le_def] at hout
        obtain rfl : k = n := by omega
        rwa [← Option.some.inj hloop]
  exact hrest fuel 0 first s (Nat.zero_le n) rfl hstart h

/-- With fuel for its iterations, a loop ends if each iteration does. -/
theorem countLoop_ends {n fuel : Nat} (hlast : last.toNat + 1 < 2 ^ w)
    (hn : first.toNat + n = last.toNat + 1) (hfuel : n < fuel)
    (hbody : ∀ k i s, k < n → i.toNat = first.toNat + k → I k s →
      ∃ s', body k i s = some s' ∧ I (k + 1) s') {s : S} (hstart : I 0 s) :
    ∃ s', countLoop last body fuel 0 first s = some s' ∧ I n s' := by
  have hrest : ∀ fuel k i s, k ≤ n → n < k + fuel → i.toNat = first.toNat + k → I k s →
      ∃ s', countLoop last body fuel k i s = some s' ∧ I n s' := by
    intro fuel
    induction fuel with
    | zero => omega
    | succ fuel ih =>
      intro k i s hk hfuel hi hinv
      rw [countLoop]
      split
      · rename_i hin
        rw [BitVec.le_def] at hin
        have hnext := toNat_succ (i := i) (by omega)
        obtain ⟨mid, hmid, hinv'⟩ := hbody k i s (by omega) hi hinv
        rw [hmid, Option.bind_some]
        exact ih (k + 1) (i + 1) mid (by omega) (by omega) (by omega) hinv'
      · rename_i hout
        rw [BitVec.le_def] at hout
        obtain rfl : k = n := by omega
        exact ⟨s, rfl, hinv⟩
  exact hrest fuel 0 first s (Nat.zero_le n) (by omega) rfl hstart

end Kddv.Framework
