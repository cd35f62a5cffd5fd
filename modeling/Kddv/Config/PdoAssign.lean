import Kddv.Framework.CountedLoop

/-!
# Reading the PDO assignment

`si_PDOassign` of `generate_config_file` asks a slave which objects are mapped into its process
data. The answers of the slave are arbitrary inputs. The type `int` is taken to wrap.
-/

namespace Kddv

open Framework

/-- The working counter that `ec_SDOread` returns, and the value of the variable after the call. -/
structure SdoReply (α : Type) where
  wkc : Int
  value : α

/-- The answers for one assigned PDO, with the entries in the order in which they are read. -/
structure PdoReplies where
  index : SdoReply UInt16
  subcnt : SdoReply UInt8
  entry : Nat → SdoReply UInt32

/-- The answers to one call, with the PDOs in the order in which they are read. -/
structure AssignReplies where
  count : SdoReply UInt16
  pdo : Nat → PdoReplies

/-- The variables that the loops change. An offset that has not been assigned has no value. -/
structure PdoLoop where
  bsize : Int32
  bitoffset : Int32
  startingOffset : Option Int32

/-- `LO_BYTE(rdat2)` -/
def bitlen (rdat2 : UInt32) : UInt8 := rdat2.toUInt8

/-- The inner loop's body. The dictionary entry that it also reads was meant to be printed. -/
def mapEntry (mapoffset : Int32) (idxloop subidxloop : BitVec 16) (rdat2 : UInt32) (v : PdoLoop) :
    PdoLoop where
  bsize := v.bsize + Int32.ofNat (bitlen rdat2).toNat
  bitoffset := v.bitoffset + Int32.ofNat (bitlen rdat2).toNat
  startingOffset :=
    if idxloop = 1 ∧ subidxloop = 1 then some (mapoffset + v.bitoffset / 8) else v.startingOffset

/-- The inner loop, over the entries of a PDO. -/
def entryLoop (mapoffset : Int32) (idxloop : BitVec 16) (replies : PdoReplies) (fuel : Nat)
    (v : PdoLoop) : Option PdoLoop :=
  countLoop replies.subcnt.value.toUInt16.toBitVec
    (fun j subidxloop v => some (mapEntry mapoffset idxloop subidxloop (replies.entry j).value v))
    fuel 0 1 v

/-- The outer loop's body. -/
def readPdo (mapoffset : Int32) (fuel : Nat) (idxloop : BitVec 16) (replies : PdoReplies)
    (v : PdoLoop) : Option PdoLoop :=
  if replies.index.value > 0 then entryLoop mapoffset idxloop replies fuel v else some v

/-- The outer loop, over the assigned PDOs. -/
def pdoLoop (mapoffset : Int32) (replies : AssignReplies) (fuel : Nat) (v : PdoLoop) :
    Option PdoLoop :=
  countLoop replies.count.value.toBitVec
    (fun k idxloop v => readPdo mapoffset fuel idxloop (replies.pdo k) v) fuel 0 1 v

/-- The total bit length and `starting_offset` after the call. -/
def siPDOassign (fuel : Nat) (mapoffset bitoffset : Int32) (startingOffset : Option Int32)
    (replies : AssignReplies) : Option (Int32 × Option Int32) :=
  if replies.count.wkc > 0 ∧ replies.count.value > 0 then
    (pdoLoop mapoffset replies fuel ⟨0, bitoffset, startingOffset⟩).map fun v =>
      (v.bsize, v.startingOffset)
  else some (0, startingOffset)

/-! ## What the answers describe -/

/-- The entries of a PDO that are read. -/
def PdoReplies.entries (replies : PdoReplies) : List UInt32 :=
  if replies.index.value > 0 then
    (List.range replies.subcnt.value.toNat).map fun j => (replies.entry j).value
  else []

def PdoReplies.bitLength (replies : PdoReplies) : Nat :=
  (replies.entries.map fun entry => (bitlen entry).toNat).sum

/-- The PDOs that are read. -/
def AssignReplies.pdos (replies : AssignReplies) : List PdoReplies :=
  if replies.count.wkc > 0 then (List.range replies.count.value.toNat).map replies.pdo else []

def AssignReplies.bitLength (replies : AssignReplies) : Nat :=
  (replies.pdos.map PdoReplies.bitLength).sum

/-- The first assigned PDO has an entry. -/
def AssignReplies.FirstMapped (replies : AssignReplies) : Prop :=
  ∃ pdo ∈ replies.pdos.head?, pdo.entries ≠ []

instance (replies : AssignReplies) : Decidable replies.FirstMapped :=
  inferInstanceAs (Decidable (∃ pdo ∈ replies.pdos.head?, pdo.entries ≠ []))

/-- A slave that answers the greatest count to a read that succeeds. -/
def AssignReplies.CountsForever (replies : AssignReplies) : Prop :=
  replies.count.wkc > 0 ∧ replies.count.value = 65535

instance (replies : AssignReplies) : Decidable replies.CountsForever :=
  inferInstanceAs (Decidable (_ ∧ _))

namespace PdoLoop

/-- The variables after a number of bits have been mapped. -/
def advance (v : PdoLoop) (bits : Nat) (startingOffset : Option Int32) : PdoLoop :=
  ⟨v.bsize + Int32.ofNat bits, v.bitoffset + Int32.ofNat bits, startingOffset⟩

theorem advance_zero (v : PdoLoop) : v.advance 0 v.startingOffset = v := by
  obtain ⟨bsize, bitoffset, startingOffset⟩ := v
  simp [advance]

theorem advance_advance (v : PdoLoop) (bits bits' : Nat) (first last : Option Int32) :
    (v.advance bits first).advance bits' last = v.advance (bits + bits') last := by
  simp only [advance, Int32.ofNat_add, Int32.add_assoc]

end PdoLoop

private theorem counter_eq_one_iff {i : BitVec 16} {k : Nat}
    (hi : i.toNat = (1 : BitVec 16).toNat + k) : i = 1 ↔ k = 0 := by
  rw [← BitVec.toNat_inj, hi]
  omega

/-! ## The inner loop -/

/-- The variables after the first entries of a PDO. -/
private def afterEntries (mapoffset : Int32) (idxloop : BitVec 16) (replies : PdoReplies)
    (v : PdoLoop) (k : Nat) : PdoLoop :=
  v.advance (((List.range k).map fun j => (replies.entry j).value).map fun entry =>
      (bitlen entry).toNat).sum
    (if idxloop = 1 ∧ k ≠ 0 then some (mapoffset + v.bitoffset / 8) else v.startingOffset)

private theorem afterEntries_zero (mapoffset : Int32) (idxloop : BitVec 16)
    (replies : PdoReplies) (v : PdoLoop) : afterEntries mapoffset idxloop replies v 0 = v := by
  simp [afterEntries, PdoLoop.advance_zero]

/-- The offset is taken from the first entry. -/
private theorem mapEntry_afterEntries (mapoffset : Int32) (idxloop : BitVec 16)
    (replies : PdoReplies) (v : PdoLoop) {k : Nat} {subidxloop : BitVec 16}
    (hi : subidxloop.toNat = (1 : BitVec 16).toNat + k) :
    mapEntry mapoffset idxloop subidxloop (replies.entry k).value
        (afterEntries mapoffset idxloop replies v k) =
      afterEntries mapoffset idxloop replies v (k + 1) := by
  change PdoLoop.advance _ (bitlen (replies.entry k).value).toNat _ = _
  simp only [afterEntries, PdoLoop.advance_advance, counter_eq_one_iff hi, List.range_succ,
    List.map_append, List.sum_append]
  cases k with
  | zero => simp [PdoLoop.advance]
  | succ k => simp [PdoLoop.advance]

/-- The variables after a PDO. -/
def mapPdo (mapoffset : Int32) (idxloop : BitVec 16) (replies : PdoReplies) (v : PdoLoop) :
    PdoLoop :=
  v.advance replies.bitLength
    (if idxloop = 1 ∧ replies.entries ≠ [] then some (mapoffset + v.bitoffset / 8)
      else v.startingOffset)

private theorem afterEntries_subcnt (mapoffset : Int32) (idxloop : BitVec 16)
    {replies : PdoReplies} (hindex : replies.index.value > 0) (v : PdoLoop) :
    afterEntries mapoffset idxloop replies v replies.subcnt.value.toNat =
      mapPdo mapoffset idxloop replies v := by
  rw [afterEntries, mapPdo, PdoReplies.bitLength, PdoReplies.entries, if_pos hindex]
  simp

private theorem mapPdo_of_index_zero (mapoffset : Int32) (idxloop : BitVec 16)
    {replies : PdoReplies} (hindex : ¬ replies.index.value > 0) (v : PdoLoop) :
    mapPdo mapoffset idxloop replies v = v := by
  simp [mapPdo, PdoReplies.bitLength, PdoReplies.entries, hindex, PdoLoop.advance_zero]

private theorem subcnt_bound (subcnt : UInt8) :
    subcnt.toUInt16.toBitVec.toNat + 1 < 2 ^ 16 ∧
      (1 : BitVec 16).toNat + subcnt.toNat = subcnt.toUInt16.toBitVec.toNat + 1 := by
  have hlt := subcnt.toNat_lt
  have hone : (1 : BitVec 16).toNat = 1 := rfl
  have hcast : subcnt.toUInt16.toBitVec.toNat = subcnt.toNat := by simp
  omega

/-- The loop over the entries ends for every number of them. -/
theorem readPdo_eq_some (mapoffset : Int32) {fuel : Nat} (hfuel : 255 < fuel)
    (idxloop : BitVec 16) (replies : PdoReplies) (v : PdoLoop) :
    readPdo mapoffset fuel idxloop replies v = some (mapPdo mapoffset idxloop replies v) := by
  unfold readPdo
  split
  · rename_i hindex
    have hlt := replies.subcnt.value.toNat_lt
    obtain ⟨hlast, hn⟩ := subcnt_bound replies.subcnt.value
    have hloop : ∃ v', entryLoop mapoffset idxloop replies fuel v = some v' ∧
        v' = afterEntries mapoffset idxloop replies v replies.subcnt.value.toNat := by
      refine countLoop_ends (I := fun k v' => v' = afterEntries mapoffset idxloop replies v k)
        hlast hn (by omega) ?_ (afterEntries_zero mapoffset idxloop replies v).symm
      intro k subidxloop v' _ hi hv
      refine ⟨_, rfl, ?_⟩
      rw [hv, mapEntry_afterEntries _ _ _ _ hi]
    obtain ⟨v', hloop, rfl⟩ := hloop
    rw [hloop, afterEntries_subcnt mapoffset idxloop hindex v]
  · rename_i hindex
    rw [mapPdo_of_index_zero mapoffset idxloop hindex v]

theorem readPdo_sound {mapoffset : Int32} {fuel : Nat} {idxloop : BitVec 16}
    {replies : PdoReplies} {v v' : PdoLoop}
    (h : readPdo mapoffset fuel idxloop replies v = some v') :
    v' = mapPdo mapoffset idxloop replies v := by
  unfold readPdo at h
  split at h
  · rename_i hindex
    obtain ⟨hlast, hn⟩ := subcnt_bound replies.subcnt.value
    rw [← afterEntries_subcnt mapoffset idxloop hindex v]
    refine countLoop_invariant (I := fun k v' => v' = afterEntries mapoffset idxloop replies v k)
      hlast hn ?_ (afterEntries_zero mapoffset idxloop replies v).symm h
    intro k subidxloop v₁ v₂ _ hi hv hbody
    rw [← Option.some.inj hbody, hv, mapEntry_afterEntries _ _ _ _ hi]
  · rename_i hindex
    rw [mapPdo_of_index_zero mapoffset idxloop hindex v]
    exact (Option.some.inj h).symm

/-! ## The outer loop -/

/-- The variables after the first PDOs. -/
private def afterPdos (mapoffset : Int32) (replies : AssignReplies) (v : PdoLoop) (k : Nat) :
    PdoLoop :=
  v.advance (((List.range k).map replies.pdo).map PdoReplies.bitLength).sum
    (if ∃ first ∈ ((List.range k).map replies.pdo).head?, first.entries ≠ [] then
      some (mapoffset + v.bitoffset / 8)
    else v.startingOffset)

private theorem afterPdos_zero (mapoffset : Int32) (replies : AssignReplies) (v : PdoLoop) :
    afterPdos mapoffset replies v 0 = v :=
  PdoLoop.advance_zero v

private theorem mapPdo_afterPdos (mapoffset : Int32) (replies : AssignReplies) (v : PdoLoop)
    {k : Nat} {idxloop : BitVec 16} (hi : idxloop.toNat = (1 : BitVec 16).toNat + k) :
    mapPdo mapoffset idxloop (replies.pdo k) (afterPdos mapoffset replies v k) =
      afterPdos mapoffset replies v (k + 1) := by
  simp only [mapPdo, afterPdos, PdoLoop.advance_advance, counter_eq_one_iff hi, List.range_succ,
    List.map_append, List.sum_append]
  cases k with
  | zero => simp [PdoLoop.advance]
  | succ k => simp [PdoLoop.advance, List.range_succ_eq_map]

/-- The result of a call that ends. -/
def AssignReplies.result (replies : AssignReplies) (mapoffset bitoffset : Int32)
    (startingOffset : Option Int32) : Int32 × Option Int32 :=
  (Int32.ofNat replies.bitLength,
    if replies.FirstMapped then some (mapoffset + bitoffset / 8) else startingOffset)

private theorem afterPdos_count (mapoffset bitoffset : Int32) (startingOffset : Option Int32)
    {replies : AssignReplies} (hwkc : replies.count.wkc > 0) :
    ((afterPdos mapoffset replies ⟨0, bitoffset, startingOffset⟩ replies.count.value.toNat).bsize,
      (afterPdos mapoffset replies ⟨0, bitoffset, startingOffset⟩
        replies.count.value.toNat).startingOffset) =
      replies.result mapoffset bitoffset startingOffset := by
  have hpdos : (List.range replies.count.value.toNat).map replies.pdo = replies.pdos :=
    (if_pos hwkc).symm
  rw [afterPdos, hpdos]
  exact Prod.ext (Int32.zero_add _) rfl

private theorem result_of_count_zero (mapoffset bitoffset : Int32)
    (startingOffset : Option Int32) {replies : AssignReplies}
    (h : ¬ (replies.count.wkc > 0 ∧ replies.count.value > 0)) :
    replies.result mapoffset bitoffset startingOffset = (0, startingOffset) := by
  have hpdos : replies.pdos = [] := by
    unfold AssignReplies.pdos
    split
    · rename_i hwkc
      have hzero : replies.count.value = 0 := by
        have hnot : ¬ replies.count.value > 0 := fun hpos => h ⟨hwkc, hpos⟩
        grind
      rw [hzero]
      rfl
    · rfl
  simp [AssignReplies.result, AssignReplies.bitLength, AssignReplies.FirstMapped, hpdos]

private theorem count_bound {count : UInt16} (h : count ≠ 65535) :
    count.toBitVec.toNat + 1 < 2 ^ 16 ∧
      (1 : BitVec 16).toNat + count.toNat = count.toBitVec.toNat + 1 := by
  have hlt := count.toNat_lt
  have hone : (1 : BitVec 16).toNat = 1 := rfl
  have hne : count.toNat ≠ 65535 := fun heq => h (UInt16.toNat_inj.mp heq)
  rw [UInt16.toNat_toBitVec]
  omega

/-- A call ends if the counter of the outer loop can exceed the number of PDOs. -/
theorem siPDOassign_eq_some (mapoffset bitoffset : Int32) (startingOffset : Option Int32)
    {replies : AssignReplies} (h : ¬ replies.CountsForever) {fuel : Nat} (hfuel : 65535 < fuel) :
    siPDOassign fuel mapoffset bitoffset startingOffset replies =
      some (replies.result mapoffset bitoffset startingOffset) := by
  unfold siPDOassign
  split
  · rename_i hread
    obtain ⟨hwkc, -⟩ := hread
    obtain ⟨hlast, hn⟩ := count_bound fun heq => h ⟨hwkc, heq⟩
    have hlt := replies.count.value.toNat_lt
    have hloop : ∃ v, pdoLoop mapoffset replies fuel ⟨0, bitoffset, startingOffset⟩ = some v ∧
        v = afterPdos mapoffset replies ⟨0, bitoffset, startingOffset⟩
          replies.count.value.toNat := by
      refine countLoop_ends
        (I := fun k v => v = afterPdos mapoffset replies ⟨0, bitoffset, startingOffset⟩ k)
        hlast hn (by omega) ?_ (afterPdos_zero mapoffset replies _).symm
      intro k idxloop v _ hi hv
      refine ⟨_, readPdo_eq_some mapoffset (by omega) idxloop _ v, ?_⟩
      rw [hv, mapPdo_afterPdos _ _ _ hi]
    obtain ⟨v, hloop, rfl⟩ := hloop
    rw [hloop, Option.map_some, afterPdos_count _ _ _ hwkc]
  · rename_i hread
    rw [result_of_count_zero mapoffset bitoffset startingOffset hread]

/-- A call that ends has this result, whatever the fuel. -/
theorem siPDOassign_sound {mapoffset bitoffset : Int32} {startingOffset : Option Int32}
    {replies : AssignReplies} {fuel : Nat} {result : Int32 × Option Int32}
    (h : siPDOassign fuel mapoffset bitoffset startingOffset replies = some result) :
    ¬ replies.CountsForever ∧ result = replies.result mapoffset bitoffset startingOffset := by
  unfold siPDOassign at h
  split at h
  · rename_i hread
    obtain ⟨hwkc, -⟩ := hread
    obtain ⟨v, hloop, rfl⟩ := Option.map_eq_some_iff.mp h
    have hne : replies.count.value ≠ 65535 := by
      intro heq
      have hnone : pdoLoop mapoffset replies fuel ⟨0, bitoffset, startingOffset⟩ = none := by
        rw [pdoLoop, heq]
        exact countLoop_allOnes fuel 0 1 _
      rw [hnone] at hloop
      cases hloop
    obtain ⟨hlast, hn⟩ := count_bound hne
    have hv : v = afterPdos mapoffset replies ⟨0, bitoffset, startingOffset⟩
        replies.count.value.toNat := by
      refine countLoop_invariant
        (I := fun k v => v = afterPdos mapoffset replies ⟨0, bitoffset, startingOffset⟩ k)
        hlast hn ?_ (afterPdos_zero mapoffset replies _).symm hloop
      intro k idxloop v₁ v₂ _ hi hv hbody
      rw [readPdo_sound hbody, hv, mapPdo_afterPdos _ _ _ hi]
    refine ⟨fun hforever => hne hforever.2, ?_⟩
    rw [hv, afterPdos_count _ _ _ hwkc]
  · rename_i hread
    refine ⟨fun hforever => hread ⟨hforever.1, ?_⟩, ?_⟩
    · rw [hforever.2]
      decide
    · rw [result_of_count_zero mapoffset bitoffset startingOffset hread]
      exact (Option.some.inj h).symm

/-- The call ends if and only if the slave does not answer the greatest number of PDOs. -/
theorem siPDOassign_ends_iff (mapoffset bitoffset : Int32) (startingOffset : Option Int32)
    (replies : AssignReplies) :
    (∃ fuel result, siPDOassign fuel mapoffset bitoffset startingOffset replies = some result) ↔
      ¬ (replies.count.wkc > 0 ∧ replies.count.value = 65535) := by
  constructor
  · rintro ⟨fuel, result, h⟩
    exact (siPDOassign_sound h).1
  · intro h
    exact ⟨65536, _, siPDOassign_eq_some mapoffset bitoffset startingOffset h (by decide)⟩

/-- A slave that answers 65535 keeps the outer loop going. -/
theorem siPDOassign_runs_on :
    ¬ ∀ (mapoffset bitoffset : Int32) (startingOffset : Option Int32) (replies : AssignReplies),
      ∃ fuel result,
        siPDOassign fuel mapoffset bitoffset startingOffset replies = some result := by
  intro h
  obtain ⟨fuel, result, hsome⟩ :=
    h 0 0 none ⟨⟨1, 65535⟩, fun _ => ⟨⟨1, 0⟩, ⟨1, 0⟩, fun _ => ⟨1, 0⟩⟩⟩
  exact (siPDOassign_sound hsome).1 ⟨by decide, rfl⟩

end Kddv
