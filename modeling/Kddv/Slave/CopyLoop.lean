import Kddv.Slave.EthercatSlave

/-!
# Copying slave by slave

Both data sources update their slaves one after the other, so that other threads may see a list
of which only a first part has been updated.
-/

namespace Kddv

open EthercatSlave

/-- The loop has finished with the slaves below `i`, each of which `copy` has updated. -/
structure CopiedUpTo (copy : EthercatSlave → EthercatSlave) (first slaves : List EthercatSlave)
    (i : Nat) : Prop where
  sameSlaves : SameSlaves slaves first
  copied : ∀ j < i, slaves[j]? = (first.map copy)[j]?

variable {copy : EthercatSlave → EthercatSlave} {first slaves : List EthercatSlave} {i : Nat}

/-- If the result depends on the object only, the loop gives each slave what it would have given
at first. -/
theorem EthercatSlave.SameSlaves.copy_getElem? (h : SameSlaves slaves first)
    (hcopy : ∀ {left right : EthercatSlave}, left.SameSlave right → copy left = copy right)
    {slave : EthercatSlave} (hi : slaves[i]? = some slave) :
    (first.map copy)[i]? = some (copy slave) := by
  obtain ⟨hlt, rfl⟩ := List.getElem?_eq_some_iff.mp hi
  have hlt' : i < first.length := by
    rw [← h.length_eq]
    exact hlt
  have hsame := (List.forall₂_iff_get.mp h).2 i hlt hlt'
  rw [List.getElem?_map, List.getElem?_eq_getElem hlt', Option.map_some]
  exact congrArg some (hcopy hsame).symm

namespace CopiedUpTo

theorem zero (h : SameSlaves slaves first) : CopiedUpTo copy first slaves 0 :=
  ⟨h, fun j hj => absurd hj (Nat.not_lt_zero j)⟩

theorem next (h : CopiedUpTo copy first slaves i) (hi : slaves[i]? = (first.map copy)[i]?) :
    CopiedUpTo copy first slaves (i + 1) := by
  refine ⟨h.sameSlaves, fun j hj => ?_⟩
  rcases Nat.lt_succ_iff_lt_or_eq.mp hj with hlt | rfl
  · exact h.copied j hlt
  · exact hi

/-- Writing to the records of the slave at `i`. -/
theorem set (h : CopiedUpTo copy first slaves i) {slave new : EthercatSlave}
    (hi : slaves[i]? = some slave) (hnew : new.SameSlave slave) :
    CopiedUpTo copy first (slaves.set i new) i := by
  refine ⟨?_, fun j hj => ?_⟩
  · obtain ⟨hlt, rfl⟩ := List.getElem?_eq_some_iff.mp hi
    refine List.forall₂_iff_get.mpr ⟨by rw [List.length_set, h.sameSlaves.length_eq], ?_⟩
    intro j hj hj'
    have hsame := (List.forall₂_iff_get.mp h.sameSlaves).2 j (by simpa using hj) hj'
    simp only [List.get_eq_getElem, List.getElem_set] at hsame ⊢
    split
    · rename_i heq
      subst heq
      exact ⟨hnew.1.trans hsame.1, hnew.2.trans hsame.2⟩
    · exact hsame
  · rw [List.getElem?_set_ne (by omega), h.copied j hj]

/-- At the end of the loop all slaves have been updated. -/
theorem complete (h : CopiedUpTo copy first slaves i) (hi : slaves[i]? = none) :
    slaves = first.map copy := by
  have hlength := h.sameSlaves.length_eq
  rw [List.getElem?_eq_none_iff] at hi
  apply List.ext_getElem?
  intro j
  by_cases hj : j < i
  · exact h.copied j hj
  · rw [List.getElem?_eq_none (by omega), List.getElem?_eq_none (by rw [List.length_map]; omega)]

end CopiedUpTo

end Kddv
