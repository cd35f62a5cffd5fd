import Kddv.Config.GetInfo
import Kddv.Config.PdoAssign

/-!
# Generated offsets

`si_map_sdo` goes through the sync managers of a slave and takes an offset for the outputs and one
for the inputs from the PDOs assigned to them. `get_info` writes both into the config file.
-/

namespace Kddv

open Framework

/-- The answers for one sync manager. Its PDO assignment is read if it has process data. -/
structure SyncManagerReplies where
  type : SdoReply UInt8
  assign : AssignReplies

/-- The answers to one call, with the sync managers in the order in which they are read. -/
structure MapReplies where
  count : SdoReply UInt8
  syncManager : Nat → SyncManagerReplies

/-- The variables that the loop changes. -/
structure MapSdo where
  smtBugAdd : UInt8
  outputsBo : Int32
  inputsBo : Int32
  rxOffset : Option Int32
  txOffset : Option Int32

/-- `EC_MAXSM` -/
def ecMaxSm : UInt8 := 8

/-- `nSM` after the adjustments that precede the loop. -/
def syncManagerCount (nSM : UInt8) : UInt8 := if nSM - 1 > ecMaxSm then ecMaxSm else nSM - 1

/-- The loop's body for the sync manager with index `iSM`. -/
def mapSyncManager (fuel : Nat) (outputs inputs : Int32) (iSM : BitVec 8)
    (replies : SyncManagerReplies) (v : MapSdo) : Option MapSdo :=
  if replies.type.wkc > 0 then
    -- type 2 is mailbox out, which the slave should not report for the third sync manager
    let v := if iSM = 2 ∧ replies.type.value = 2 then { v with smtBugAdd := 1 } else v
    let tSM := if replies.type.value ≠ 0 then replies.type.value + v.smtBugAdd
      else replies.type.value
    if tSM = 3 then
      (siPDOassign fuel outputs v.outputsBo v.rxOffset replies.assign).map fun r =>
        { v with outputsBo := v.outputsBo + r.1, rxOffset := r.2 }
    else if tSM = 4 then
      (siPDOassign fuel inputs v.inputsBo v.txOffset replies.assign).map fun r =>
        { v with inputsBo := v.inputsBo + r.1, txOffset := r.2 }
    else some v
  else some v

/-- The call with references to two variables that may not have been assigned. -/
def siMapSdo (fuel : Nat) (outputs inputs : Int32) (rxOffset txOffset : Option Int32)
    (replies : MapReplies) : Option MapSdo :=
  if replies.count.wkc > 0 ∧ replies.count.value > 2 then
    countLoop (syncManagerCount replies.count.value).toBitVec
      (fun k iSM v => mapSyncManager fuel outputs inputs iSM (replies.syncManager k) v)
      fuel 0 2 ⟨0, 0, 0, rxOffset, txOffset⟩
  else some ⟨0, 0, 0, rxOffset, txOffset⟩

/-- What the call returns. -/
def MapSdo.retVal (v : MapSdo) : Int := if v.outputsBo > 0 ∨ v.inputsBo > 0 then 1 else 0

/-! ## What the answers describe -/

/-- The sync managers whose types are read. -/
def MapReplies.syncManagers (replies : MapReplies) : List SyncManagerReplies :=
  if replies.count.wkc > 0 ∧ replies.count.value > 2 then
    (List.range ((syncManagerCount replies.count.value).toNat - 1)).map replies.syncManager
  else []

/-- Whether the first of them has the type of a mailbox, so that all types are one too small. -/
def typeCorrection (syncManagers : List SyncManagerReplies) : UInt8 :=
  match syncManagers with
  | [] => 0
  | first :: _ => if first.type.wkc > 0 ∧ first.type.value = 2 then 1 else 0

/-- The type of a sync manager after the correction. -/
def SyncManagerReplies.correctedType (replies : SyncManagerReplies) (correction : UInt8) : UInt8 :=
  if replies.type.wkc > 0 ∧ replies.type.value ≠ 0 then replies.type.value + correction else 0

/-- The PDO assignments of the sync managers of one type. -/
def assignedTo (type : UInt8) (syncManagers : List SyncManagerReplies) : List AssignReplies :=
  (syncManagers.filter fun sm =>
    decide (sm.correctedType (typeCorrection syncManagers) = type)).map SyncManagerReplies.assign

/-- The assignments that are read for the outputs. -/
def MapReplies.outputs (replies : MapReplies) : List AssignReplies :=
  assignedTo 3 replies.syncManagers

/-- The assignments that are read for the inputs. -/
def MapReplies.inputs (replies : MapReplies) : List AssignReplies :=
  assignedTo 4 replies.syncManagers

/-- The number of bits that are mapped by some assignments. -/
def mappedBits (assigned : List AssignReplies) : Nat := (assigned.map AssignReplies.bitLength).sum

/-- Of the assignments that set the offset, the last one begins at the given bit. -/
def StartsAt (assigned : List AssignReplies) (bit : Nat) : Prop :=
  ∃ before last after, assigned = before ++ last :: after ∧ last.FirstMapped ∧
    (∀ later ∈ after, ¬ later.FirstMapped) ∧ bit = mappedBits before

theorem not_startsAt_nil (bit : Nat) : ¬ StartsAt [] bit := by
  rintro ⟨before, last, after, hnil, -⟩
  simp at hnil

theorem mappedBits_concat (assigned : List AssignReplies) (last : AssignReplies) :
    mappedBits (assigned ++ [last]) = mappedBits assigned + last.bitLength := by
  simp [mappedBits]

/-- One more assignment sets the offset, or leaves it as it was. -/
theorem startsAt_concat_iff (assigned : List AssignReplies) (last : AssignReplies) (bit : Nat) :
    StartsAt (assigned ++ [last]) bit ↔
      if last.FirstMapped then bit = mappedBits assigned else StartsAt assigned bit := by
  constructor
  · rintro ⟨before, setter, after, heq, hsetter, hafter, rfl⟩
    rcases List.eq_nil_or_concat after with rfl | ⟨after, final, rfl⟩
    · obtain ⟨rfl, rfl⟩ := List.append_singleton_inj.mp heq
      rw [if_pos hsetter]
    · have hconcat : assigned ++ [last] = (before ++ setter :: after) ++ [final] := by
        simpa using heq
      obtain ⟨rfl, rfl⟩ := List.append_singleton_inj.mp hconcat
      rw [if_neg (hafter last (by simp))]
      exact ⟨before, setter, after, rfl, hsetter, fun later hm => hafter later (by simp [hm]), rfl⟩
  · split
    · rename_i hlast
      rintro rfl
      exact ⟨assigned, last, [], rfl, hlast, nofun, rfl⟩
    · rename_i hlast
      rintro ⟨before, setter, after, rfl, hsetter, hafter, rfl⟩
      refine ⟨before, setter, after ++ [last], by simp, hsetter, fun later hm => ?_, rfl⟩
      rcases List.mem_append.mp hm with hm | hm
      · exact hafter later hm
      · rwa [List.mem_singleton.mp hm]

/-! ## The loop -/

private theorem typeCorrection_append {read : List SyncManagerReplies} (h : read ≠ [])
    (rest : List SyncManagerReplies) : typeCorrection (read ++ rest) = typeCorrection read := by
  cases read with
  | nil => exact absurd rfl h
  | cons first read => rfl

theorem assignedTo_concat (type : UInt8) (read : List SyncManagerReplies)
    (sm : SyncManagerReplies) :
    assignedTo type (read ++ [sm]) = assignedTo type read ++
      if sm.correctedType (typeCorrection (read ++ [sm])) = type then [sm.assign] else [] := by
  have hread : read.filter (fun other =>
        decide (other.correctedType (typeCorrection (read ++ [sm])) = type)) =
      read.filter fun other => decide (other.correctedType (typeCorrection read) = type) := by
    cases read with
    | nil => rfl
    | cons first read => rw [typeCorrection_append (List.cons_ne_nil first read)]
  rw [assignedTo, List.filter_append, hread, List.map_append, ← assignedTo]
  by_cases htype : sm.correctedType (typeCorrection (read ++ [sm])) = type
  · simp [htype]
  · simp [htype]

private theorem mem_assignedTo_append {type : UInt8} {read : List SyncManagerReplies}
    (hread : read ≠ []) (rest : List SyncManagerReplies) {assigned : AssignReplies}
    (h : assigned ∈ assignedTo type read) : assigned ∈ assignedTo type (read ++ rest) := by
  rw [assignedTo, typeCorrection_append hread, List.filter_append, List.map_append]
  exact List.mem_append_left _ h

/-- The body, with the type as it is after the correction. -/
private theorem mapSyncManager_eq (fuel : Nat) (outputs inputs : Int32) {iSM : BitVec 8}
    {read : List SyncManagerReplies} (hiSM : iSM.toNat = (2 : BitVec 8).toNat + read.length)
    (sm : SyncManagerReplies) {v : MapSdo} (hv : v.smtBugAdd = typeCorrection read) :
    mapSyncManager fuel outputs inputs iSM sm v =
      if sm.correctedType (typeCorrection (read ++ [sm])) = 3 then
        (siPDOassign fuel outputs v.outputsBo v.rxOffset sm.assign).map fun r =>
          { v with
            smtBugAdd := typeCorrection (read ++ [sm])
            outputsBo := v.outputsBo + r.1
            rxOffset := r.2 }
      else if sm.correctedType (typeCorrection (read ++ [sm])) = 4 then
        (siPDOassign fuel inputs v.inputsBo v.txOffset sm.assign).map fun r =>
          { v with
            smtBugAdd := typeCorrection (read ++ [sm])
            inputsBo := v.inputsBo + r.1
            txOffset := r.2 }
      else some { v with smtBugAdd := typeCorrection (read ++ [sm]) } := by
  have hfirst : iSM = 2 ↔ read = [] := by
    rw [← BitVec.toNat_inj, hiSM, ← List.length_eq_zero_iff]
    omega
  obtain ⟨smtBugAdd, outputsBo, inputsBo, rxOffset, txOffset⟩ := v
  obtain rfl : smtBugAdd = typeCorrection read := hv
  unfold mapSyncManager
  by_cases hwkc : sm.type.wkc > 0
  · have hcorrection : typeCorrection (read ++ [sm]) =
        if iSM = 2 ∧ sm.type.value = 2 then 1 else typeCorrection read := by
      cases read with
      | nil => simp [typeCorrection, hwkc, hfirst.mpr]
      | cons first read =>
        have hlater : iSM ≠ 2 := fun htwo => List.cons_ne_nil first read (hfirst.mp htwo)
        rw [typeCorrection_append (List.cons_ne_nil first read), if_neg (hlater ·.1)]
    have hvars : (if iSM = 2 ∧ sm.type.value = 2 then
          (⟨1, outputsBo, inputsBo, rxOffset, txOffset⟩ : MapSdo)
        else ⟨typeCorrection read, outputsBo, inputsBo, rxOffset, txOffset⟩) =
        ⟨typeCorrection (read ++ [sm]), outputsBo, inputsBo, rxOffset, txOffset⟩ := by
      rw [hcorrection]
      split <;> rfl
    have htype : ∀ correction, (if sm.type.value ≠ 0 then sm.type.value + correction
        else sm.type.value) = sm.correctedType correction := by
      intro correction
      by_cases hvalue : sm.type.value = 0
      · simp [SyncManagerReplies.correctedType, hvalue]
      · simp [SyncManagerReplies.correctedType, hvalue, hwkc]
    rw [if_pos hwkc]
    dsimp only
    rw [hvars]
    dsimp only
    rw [htype]
  · have hcorrection : typeCorrection (read ++ [sm]) = typeCorrection read := by
      cases read with
      | nil => simp [typeCorrection, hwkc]
      | cons first read => rfl
    have htype : sm.correctedType (typeCorrection (read ++ [sm])) = 0 := if_neg (hwkc ·.1)
    rw [if_neg hwkc, htype, hcorrection, if_neg (by decide), if_neg (by decide)]

/-! ## What the loop computes -/

/-- The variables of one direction after some assignments have been read. -/
structure DirectionRead (mapoffset : Int32) (assigned : List AssignReplies) (bitoffset : Int32)
    (offset : Option Int32) : Prop where
  bitoffset_eq : bitoffset = Int32.ofNat (mappedBits assigned)
  offset_iff : ∀ x, offset = some x ↔
    ∃ bit, StartsAt assigned bit ∧ x = mapoffset + Int32.ofNat bit / 8

theorem DirectionRead.nil (mapoffset : Int32) : DirectionRead mapoffset [] 0 none := by
  refine ⟨rfl, fun x => ⟨nofun, ?_⟩⟩
  rintro ⟨bit, hstarts, -⟩
  exact absurd hstarts (not_startsAt_nil bit)

theorem DirectionRead.concat {mapoffset bitoffset : Int32} {assigned : List AssignReplies}
    {offset : Option Int32} (h : DirectionRead mapoffset assigned bitoffset offset)
    (last : AssignReplies) :
    DirectionRead mapoffset (assigned ++ [last])
      (bitoffset + (last.result mapoffset bitoffset offset).1)
      (last.result mapoffset bitoffset offset).2 := by
  obtain ⟨hbits, hoffset⟩ := h
  refine ⟨?_, fun x => ?_⟩
  · rw [mappedBits_concat, Int32.ofNat_add, hbits]
    rfl
  · simp only [AssignReplies.result, startsAt_concat_iff]
    by_cases hlast : last.FirstMapped
    · simp only [hlast, if_true, exists_eq_left, Option.some.injEq, hbits]
      exact eq_comm
    · simp only [hlast, if_false]
      exact hoffset x

/-- The variables after some sync managers have been read. -/
structure SyncManagersRead (outputs inputs : Int32) (read : List SyncManagerReplies)
    (v : MapSdo) : Prop where
  correction : v.smtBugAdd = typeCorrection read
  rx : DirectionRead outputs (assignedTo 3 read) v.outputsBo v.rxOffset
  tx : DirectionRead inputs (assignedTo 4 read) v.inputsBo v.txOffset

theorem SyncManagersRead.concat {fuel : Nat} {outputs inputs : Int32} {iSM : BitVec 8}
    {read : List SyncManagerReplies} {sm : SyncManagerReplies} {v v' : MapSdo}
    (h : SyncManagersRead outputs inputs read v)
    (hiSM : iSM.toNat = (2 : BitVec 8).toNat + read.length)
    (hbody : mapSyncManager fuel outputs inputs iSM sm v = some v') :
    SyncManagersRead outputs inputs (read ++ [sm]) v' := by
  obtain ⟨hcorrection, hrx, htx⟩ := h
  rw [mapSyncManager_eq fuel outputs inputs hiSM sm hcorrection] at hbody
  split at hbody
  · rename_i htype
    obtain ⟨result, hassign, rfl⟩ := Option.map_eq_some_iff.mp hbody
    obtain ⟨-, rfl⟩ := siPDOassign_sound hassign
    refine ⟨rfl, ?_, ?_⟩
    · rw [assignedTo_concat, if_pos htype]
      exact hrx.concat sm.assign
    · rw [assignedTo_concat, htype, if_neg (by decide), List.append_nil]
      exact htx
  · rename_i hnot
    split at hbody
    · rename_i htype
      obtain ⟨result, hassign, rfl⟩ := Option.map_eq_some_iff.mp hbody
      obtain ⟨-, rfl⟩ := siPDOassign_sound hassign
      refine ⟨rfl, ?_, ?_⟩
      · rw [assignedTo_concat, if_neg hnot, List.append_nil]
        exact hrx
      · rw [assignedTo_concat, if_pos htype]
        exact htx.concat sm.assign
    · rename_i hnot'
      obtain rfl := Option.some.inj hbody
      refine ⟨rfl, ?_, ?_⟩
      · rw [assignedTo_concat, if_neg hnot, List.append_nil]
        exact hrx
      · rw [assignedTo_concat, if_neg hnot', List.append_nil]
        exact htx

private theorem syncManagerCount_bound {nSM : UInt8} (h : nSM > 2) :
    (syncManagerCount nSM).toBitVec.toNat + 1 < 2 ^ 8 ∧
      (2 : BitVec 8).toNat + ((syncManagerCount nSM).toNat - 1) =
        (syncManagerCount nSM).toBitVec.toNat + 1 := by
  have hgt : 2 < nSM.toNat := h
  have hlt := nSM.toNat_lt
  have hpred : (nSM - 1).toNat = nSM.toNat - 1 :=
    UInt8.toNat_sub_of_le _ _ (UInt8.le_iff_toNat_le.mpr (show 1 ≤ nSM.toNat by omega))
  have hcount : 2 ≤ (syncManagerCount nSM).toNat ∧ (syncManagerCount nSM).toNat ≤ 8 := by
    unfold syncManagerCount
    split
    · decide
    · rename_i hle
      have hle' : ¬ 8 < (nSM - 1).toNat := hle
      omega
  have htwo : (2 : BitVec 8).toNat = 2 := rfl
  rw [UInt8.toNat_toBitVec]
  omega

/-- The variables after a call that returns. -/
theorem siMapSdo_sound {fuel : Nat} {outputs inputs : Int32} {replies : MapReplies} {v : MapSdo}
    (h : siMapSdo fuel outputs inputs none none replies = some v) :
    SyncManagersRead outputs inputs replies.syncManagers v := by
  have hstart : SyncManagersRead outputs inputs [] ⟨0, 0, 0, none, none⟩ :=
    ⟨rfl, .nil outputs, .nil inputs⟩
  unfold siMapSdo at h
  split at h
  · rename_i hread
    obtain ⟨hlast, hn⟩ := syncManagerCount_bound hread.2
    rw [MapReplies.syncManagers, if_pos hread]
    refine countLoop_invariant (I := fun k v =>
      SyncManagersRead outputs inputs ((List.range k).map replies.syncManager) v)
      hlast hn ?_ hstart h
    intro k iSM v₁ v₂ _ hi hv hbody
    rw [List.range_succ, List.map_append]
    exact hv.concat (by simpa using hi) hbody
  · rename_i hread
    rw [MapReplies.syncManagers, if_neg hread, ← Option.some.inj h]
    exact hstart

/-- The assignments that are read for one of the directions. -/
def MapReplies.assignments (replies : MapReplies) : List AssignReplies :=
  replies.outputs ++ replies.inputs

/-- The body ends if the assignment that it reads, if any, is finite. -/
private theorem mapSyncManager_ends {fuel : Nat} (hfuel : 65535 < fuel) (outputs inputs : Int32)
    {iSM : BitVec 8} {read : List SyncManagerReplies}
    (hiSM : iSM.toNat = (2 : BitVec 8).toNat + read.length) {sm : SyncManagerReplies}
    {v : MapSdo} (hv : v.smtBugAdd = typeCorrection read)
    (hrx : ∀ assigned ∈ assignedTo 3 (read ++ [sm]), ¬ assigned.CountsForever)
    (htx : ∀ assigned ∈ assignedTo 4 (read ++ [sm]), ¬ assigned.CountsForever) :
    ∃ v', mapSyncManager fuel outputs inputs iSM sm v = some v' := by
  rw [mapSyncManager_eq fuel outputs inputs hiSM sm hv]
  rw [assignedTo_concat] at hrx htx
  split
  · rename_i htype
    rw [if_pos htype] at hrx
    rw [siPDOassign_eq_some _ _ _ (hrx sm.assign (by simp)) hfuel]
    exact ⟨_, rfl⟩
  · split
    · rename_i htype
      rw [if_pos htype] at htx
      rw [siPDOassign_eq_some _ _ _ (htx sm.assign (by simp)) hfuel]
      exact ⟨_, rfl⟩
    · exact ⟨_, rfl⟩

/-- A call returns if none of its calls of `si_PDOassign` reads the greatest count. -/
theorem siMapSdo_ends (outputs inputs : Int32) {replies : MapReplies}
    (h : ∀ assigned ∈ replies.assignments, ¬ assigned.CountsForever) {fuel : Nat}
    (hfuel : 65535 < fuel) : ∃ v, siMapSdo fuel outputs inputs none none replies = some v := by
  have hstart : SyncManagersRead outputs inputs [] ⟨0, 0, 0, none, none⟩ :=
    ⟨rfl, .nil outputs, .nil inputs⟩
  unfold siMapSdo
  split
  · rename_i hread
    obtain ⟨hlast, hn⟩ := syncManagerCount_bound hread.2
    have hlt := (syncManagerCount replies.count.value).toNat_lt
    have hassigned : ∀ k < (syncManagerCount replies.count.value).toNat - 1, ∀ type,
        ∀ assigned ∈ assignedTo type ((List.range k).map replies.syncManager ++
          [replies.syncManager k]), assigned ∈ assignedTo type replies.syncManagers := by
      intro k hk type assigned hm
      obtain ⟨rest, hrest⟩ : ∃ rest, (List.range k).map replies.syncManager ++
          [replies.syncManager k] ++ rest = replies.syncManagers := by
        have htake : (List.range ((syncManagerCount replies.count.value).toNat - 1)).take (k + 1) =
            List.range k ++ [k] := by
          rw [List.take_range, Nat.min_eq_left hk, List.range_succ]
        have hsplit := List.take_append_drop (k + 1)
          (List.range ((syncManagerCount replies.count.value).toNat - 1))
        rw [htake] at hsplit
        rw [MapReplies.syncManagers, if_pos hread, ← hsplit, List.map_append, List.map_append]
        exact ⟨_, rfl⟩
      rw [← hrest]
      exact mem_assignedTo_append (by simp) rest hm
    have hloop : ∃ v, countLoop (syncManagerCount replies.count.value).toBitVec
        (fun k iSM v => mapSyncManager fuel outputs inputs iSM (replies.syncManager k) v)
        fuel 0 2 ⟨0, 0, 0, none, none⟩ = some v ∧
        SyncManagersRead outputs inputs ((List.range
          ((syncManagerCount replies.count.value).toNat - 1)).map replies.syncManager) v := by
      refine countLoop_ends (I := fun k v =>
        SyncManagersRead outputs inputs ((List.range k).map replies.syncManager) v)
        hlast hn (by omega) ?_ hstart
      intro k iSM v hk hi hv
      have hiSM : iSM.toNat = (2 : BitVec 8).toNat +
          ((List.range k).map replies.syncManager).length := by simpa using hi
      obtain ⟨v', hbody⟩ := mapSyncManager_ends hfuel outputs inputs hiSM hv.correction
        (fun assigned hm => h assigned (List.mem_append_left _ (hassigned k hk 3 assigned hm)))
        (fun assigned hm => h assigned (List.mem_append_right _ (hassigned k hk 4 assigned hm)))
      refine ⟨v', hbody, ?_⟩
      rw [List.range_succ, List.map_append]
      exact hv.concat hiSM hbody
    obtain ⟨v, hloop, -⟩ := hloop
    exact ⟨v, hloop⟩
  · exact ⟨_, rfl⟩

/-- A body that ends has read a finite assignment, if any. -/
private theorem mapSyncManager_finite {fuel : Nat} {outputs inputs : Int32} {iSM : BitVec 8}
    {read : List SyncManagerReplies} {sm : SyncManagerReplies} {v v' : MapSdo}
    (hiSM : iSM.toNat = (2 : BitVec 8).toNat + read.length)
    (hv : v.smtBugAdd = typeCorrection read)
    (hbody : mapSyncManager fuel outputs inputs iSM sm v = some v')
    (hassigned : sm.correctedType (typeCorrection (read ++ [sm])) = 3 ∨
      sm.correctedType (typeCorrection (read ++ [sm])) = 4) : ¬ sm.assign.CountsForever := by
  rw [mapSyncManager_eq fuel outputs inputs hiSM sm hv] at hbody
  rcases hassigned with htype | htype
  · rw [if_pos htype] at hbody
    obtain ⟨result, hassign, -⟩ := Option.map_eq_some_iff.mp hbody
    exact (siPDOassign_sound hassign).1
  · rw [htype, if_neg (by decide), if_pos rfl] at hbody
    obtain ⟨result, hassign, -⟩ := Option.map_eq_some_iff.mp hbody
    exact (siPDOassign_sound hassign).1

/-- A call that returns has read no assignment with the greatest count. -/
theorem siMapSdo_finite {fuel : Nat} {outputs inputs : Int32} {replies : MapReplies} {v : MapSdo}
    (h : siMapSdo fuel outputs inputs none none replies = some v) :
    ∀ assigned ∈ replies.assignments, ¬ assigned.CountsForever := by
  suffices hfinite : ∀ type, type = 3 ∨ type = 4 →
      ∀ assigned ∈ assignedTo type replies.syncManagers, ¬ assigned.CountsForever by
    intro assigned hm
    rcases List.mem_append.mp hm with hm | hm
    · exact hfinite 3 (.inl rfl) assigned hm
    · exact hfinite 4 (.inr rfl) assigned hm
  have hstart : SyncManagersRead outputs inputs [] ⟨0, 0, 0, none, none⟩ :=
    ⟨rfl, .nil outputs, .nil inputs⟩
  unfold siMapSdo at h
  split at h
  · rename_i hread
    obtain ⟨hlast, hn⟩ := syncManagerCount_bound hread.2
    rw [MapReplies.syncManagers, if_pos hread]
    refine (countLoop_invariant (I := fun k v =>
      SyncManagersRead outputs inputs ((List.range k).map replies.syncManager) v ∧
        ∀ type, type = 3 ∨ type = 4 →
          ∀ assigned ∈ assignedTo type ((List.range k).map replies.syncManager),
            ¬ assigned.CountsForever) hlast hn ?_ ⟨hstart, fun _ _ _ hm => nomatch hm⟩ h).2
    intro k iSM v₁ v₂ _ hi hv hbody
    have hiSM : iSM.toNat = (2 : BitVec 8).toNat +
        ((List.range k).map replies.syncManager).length := by simpa using hi
    rw [List.range_succ, List.map_append]
    refine ⟨hv.1.concat hiSM hbody, ?_⟩
    intro type htype assigned hm
    change assigned ∈ assignedTo type
      ((List.range k).map replies.syncManager ++ [replies.syncManager k]) at hm
    rw [assignedTo_concat] at hm
    rcases List.mem_append.mp hm with hm | hm
    · exact hv.2 type htype assigned hm
    · split at hm
      · rename_i heq
        obtain rfl := List.mem_singleton.mp hm
        apply mapSyncManager_finite hiSM hv.1.correction hbody
        rwa [heq]
      · cases hm
  · rename_i hread
    rw [MapReplies.syncManagers, if_neg hread]
    exact fun _ _ _ hm => nomatch hm

/-! ## The offsets of one direction -/

/-- The offset is assigned at all. -/
def OffsetAssigned (assigned : List AssignReplies) : Prop := ∃ bit, StartsAt assigned bit

/-- If bits are found, then an offset is assigned, and the bits that precede it fill no byte. -/
def OffsetAtStart (assigned : List AssignReplies) : Prop :=
  0 < Int32.ofNat (mappedBits assigned) → ∃ bit, StartsAt assigned bit ∧ Int32.ofNat bit / 8 = 0

theorem startsAt_unique {assigned : List AssignReplies} {bit bit' : Nat}
    (h : StartsAt assigned bit) (h' : StartsAt assigned bit') : bit = bit' := by
  induction assigned using List.reverseRecOn with
  | nil => exact absurd h (not_startsAt_nil bit)
  | append_singleton assigned last ih =>
    rw [startsAt_concat_iff] at h h'
    split at h
    · rename_i hlast
      rw [if_pos hlast] at h'
      rw [h, h']
    · rename_i hlast
      rw [if_neg hlast] at h'
      exact ih h h'

/-- Some assignment sets the offset. -/
theorem offsetAssigned_iff (assigned : List AssignReplies) :
    OffsetAssigned assigned ↔ ∃ setter ∈ assigned, setter.FirstMapped := by
  induction assigned using List.reverseRecOn with
  | nil => simp [OffsetAssigned, not_startsAt_nil]
  | append_singleton assigned last ih =>
    simp only [OffsetAssigned, startsAt_concat_iff, List.mem_append, List.mem_singleton]
    by_cases hlast : last.FirstMapped
    · simp only [hlast, if_true, exists_eq, true_iff]
      exact ⟨last, .inr rfl, hlast⟩
    · simp only [hlast, if_false]
      refine ih.trans ⟨fun ⟨setter, hm, hsetter⟩ => ⟨setter, .inl hm, hsetter⟩, ?_⟩
      rintro ⟨setter, hm | rfl, hsetter⟩
      · exact ⟨setter, hm, hsetter⟩
      · exact absurd hsetter hlast

theorem StartsAt.le {assigned : List AssignReplies} {bit : Nat} (h : StartsAt assigned bit) :
    bit ≤ mappedBits assigned := by
  obtain ⟨before, last, after, rfl, -, -, rfl⟩ := h
  simp [mappedBits]

private theorem ofNat_div_eight_eq_zero_iff {bit : Nat} (h : bit < 2 ^ 31) :
    Int32.ofNat bit / 8 = 0 ↔ bit < 8 := by
  have hbit : (Int32.ofNat bit).toInt = bit := Int32.toInt_ofNat_of_lt h
  have height : (8 : Int32).toInt = 8 := rfl
  rw [← Int32.toInt_inj, Int32.toInt_div, hbit, height, Int.tdiv_eq_ediv_of_nonneg (by omega),
    Int.bmod_eq_of_le (by omega) (by omega)]
  change (bit : Int) / 8 = 0 ↔ bit < 8
  omega

/-- As long as the bits of the direction can be counted with an `int`. -/
theorem offsetAtStart_iff_of_lt {assigned : List AssignReplies}
    (h : mappedBits assigned < 2 ^ 31) :
    OffsetAtStart assigned ↔ (0 < mappedBits assigned → ∃ bit < 8, StartsAt assigned bit) := by
  have hpos : 0 < Int32.ofNat (mappedBits assigned) ↔ 0 < mappedBits assigned := by
    rw [Int32.lt_iff_toInt_lt, Int32.toInt_ofNat_of_lt h]
    exact Int.natCast_pos
  rw [OffsetAtStart, hpos]
  refine imp_congr Iff.rfl (exists_congr fun bit => ?_)
  constructor
  · rintro ⟨hstarts, hzero⟩
    have hle := hstarts.le
    exact ⟨(ofNat_div_eight_eq_zero_iff (by omega)).mp hzero, hstarts⟩
  · rintro ⟨hlt, hstarts⟩
    exact ⟨hstarts, (ofNat_div_eight_eq_zero_iff (by omega)).mpr hlt⟩

namespace DirectionRead

variable {mapoffset bitoffset : Int32} {assigned : List AssignReplies} {offset : Option Int32}

theorem isSome_iff (h : DirectionRead mapoffset assigned bitoffset offset) :
    offset.isSome = true ↔ OffsetAssigned assigned := by
  rw [Option.isSome_iff_exists]
  constructor
  · rintro ⟨x, hx⟩
    obtain ⟨bit, hstarts, -⟩ := (h.offset_iff x).mp hx
    exact ⟨bit, hstarts⟩
  · rintro ⟨bit, hstarts⟩
    exact ⟨_, (h.offset_iff _).mpr ⟨bit, hstarts, rfl⟩⟩

/-- The offset is right whenever bits are found. -/
theorem atStart_iff (h : DirectionRead mapoffset assigned bitoffset offset) :
    (bitoffset > 0 → offset = some mapoffset) ↔ OffsetAtStart assigned := by
  rw [OffsetAtStart, h.bitoffset_eq, h.offset_iff]
  apply imp_congr Iff.rfl
  apply exists_congr
  intro bit
  apply and_congr Iff.rfl
  exact Int32.left_eq_add

end DirectionRead

/-! ## The generator -/

/-- The call for a slave of the table, with variables that have not been assigned. -/
def mapSlave (fuel : Nat) (replies : Nat → MapReplies) (entry : EcSlave × Nat) : Option MapSdo :=
  siMapSdo fuel (Int32.ofNat entry.1.outputs) (Int32.ofNat entry.1.inputs) none none
    (replies entry.2)

/-- Why there is no document: the fuel is used up, or a variable without value is written. -/
inductive GenerateFault
  | running
  | uninitialised
deriving DecidableEq

/-- The value that is written for an offset. -/
def writtenOffset : Option Int32 → Except GenerateFault CInt
  | none => .error .uninitialised
  | some offset => .ok ⟨offset.toInt, offset.le_toInt, offset.toInt_lt⟩

/-- The body of the loop of `get_info`, for a slave that is supported. -/
def generatedInfo (fuel : Nat) (replies : Nat → MapReplies) (entry : EcSlave × Nat) :
    Except GenerateFault Json :=
  match mapSlave fuel replies entry with
  | none => .error .running
  | some v => do
    let rxOffset ← writtenOffset v.rxOffset
    let txOffset ← writtenOffset v.txOffset
    return slaveInfoJson (fun _ => (rxOffset, txOffset)) entry

/-- `get_info` with the calls of `si_map_sdo`. -/
def generateInfo (fuel : Nat) (replies : Nat → MapReplies) (bus : BusInit) :
    Except GenerateFault Json :=
  let root := Json.null.setMember "Slaves" (.array [])
  if bus.initOk then
    if bus.configCount > 0 then do
      let slaves ← (configuredEntries bus.table).mapM (generatedInfo fuel replies)
      return root.setMember "Slaves" (.array slaves)
    else return root
  else return root

/-- Where bits are found, the offset of a direction is the slave's place in `IOmap`. -/
def MapSdo.PointsAtStart (v : MapSdo) (slave : EcSlave) : Prop :=
  (v.outputsBo > 0 → v.rxOffset = some (Int32.ofNat slave.outputs)) ∧
    (v.inputsBo > 0 → v.txOffset = some (Int32.ofNat slave.inputs))

theorem pointsAtStart_iff {fuel : Nat} {replies : Nat → MapReplies} {entry : EcSlave × Nat}
    {v : MapSdo} (h : mapSlave fuel replies entry = some v) :
    v.PointsAtStart entry.1 ↔
      OffsetAtStart (replies entry.2).outputs ∧ OffsetAtStart (replies entry.2).inputs := by
  have hread := siMapSdo_sound h
  exact and_congr hread.rx.atStart_iff hread.tx.atStart_iff

/-- For a call that returns, the entry is written if both offsets have been assigned. -/
theorem generatedInfo_ok_or {fuel : Nat} {replies : Nat → MapReplies} {entry : EcSlave × Nat}
    (hends : (mapSlave fuel replies entry).isSome = true) :
    OffsetAssigned (replies entry.2).outputs ∧ OffsetAssigned (replies entry.2).inputs ∧
        (∃ json, generatedInfo fuel replies entry = .ok json) ∨
      ¬ (OffsetAssigned (replies entry.2).outputs ∧ OffsetAssigned (replies entry.2).inputs) ∧
        generatedInfo fuel replies entry = .error .uninitialised := by
  obtain ⟨v, hv⟩ := Option.isSome_iff_exists.mp hends
  have hread := siMapSdo_sound hv
  have hrx := hread.rx.isSome_iff
  have htx := hread.tx.isSome_iff
  change _ ↔ OffsetAssigned (replies entry.2).outputs at hrx
  change _ ↔ OffsetAssigned (replies entry.2).inputs at htx
  rw [← hrx, ← htx, generatedInfo, hv]
  cases hrxOffset : v.rxOffset with
  | none => exact .inr ⟨nofun, by simp [hrxOffset, writtenOffset]; rfl⟩
  | some rxOffset =>
    cases htxOffset : v.txOffset with
    | none => exact .inr ⟨nofun, by simp [hrxOffset, htxOffset, writtenOffset]; rfl⟩
    | some txOffset => exact .inl ⟨rfl, rfl, _, by simp [hrxOffset, htxOffset, writtenOffset]; rfl⟩

/-- Nothing without value is written, given that the calls return. -/
theorem generateInfo_assigned_iff {fuel : Nat} {replies : Nat → MapReplies} {bus : BusInit}
    (hends : ∀ entry ∈ configuredEntries bus.table, (mapSlave fuel replies entry).isSome = true) :
    generateInfo fuel replies bus ≠ .error .uninitialised ↔
      (bus.initOk = true → bus.configCount > 0 → ∀ entry ∈ configuredEntries bus.table,
        OffsetAssigned (replies entry.2).outputs ∧ OffsetAssigned (replies entry.2).inputs) := by
  by_cases hwrites : bus.initOk = true ∧ bus.configCount > 0
  · obtain ⟨hinit, hcount⟩ := hwrites
    simp only [generateInfo, hinit, hcount, if_true, forall_const]
    by_cases hall : ∀ entry ∈ configuredEntries bus.table,
        OffsetAssigned (replies entry.2).outputs ∧ OffsetAssigned (replies entry.2).inputs
    · have hjson : ∀ entry ∈ configuredEntries bus.table,
          ∃ json, generatedInfo fuel replies entry = .ok json := by
        intro entry hm
        rcases generatedInfo_ok_or (hends entry hm) with ⟨-, -, hok⟩ | ⟨hnot, -⟩
        · exact hok
        · exact absurd (hall entry hm) hnot
      obtain ⟨slaves, hslaves⟩ := exists_forall₂ hjson
      rw [(mapM_eq_ok_iff _ _ _).mpr hslaves]
      exact ⟨fun _ => hall, fun _ => nofun⟩
    · have hfault : (configuredEntries bus.table).mapM (generatedInfo fuel replies) =
          .error .uninitialised := by
        apply mapM_eq_error
        · intro entry hm
          rcases generatedInfo_ok_or (hends entry hm) with ⟨-, -, hok⟩ | ⟨-, hfault⟩
          · exact .inl hok
          · exact .inr hfault
        · obtain ⟨entry, hm, hnot⟩ : ∃ entry ∈ configuredEntries bus.table,
              ¬ (OffsetAssigned (replies entry.2).outputs ∧
                OffsetAssigned (replies entry.2).inputs) := by
            simpa only [not_forall, exists_prop] using hall
          rcases generatedInfo_ok_or (hends entry hm) with ⟨hrx, htx, -⟩ | ⟨-, hfault⟩
          · exact absurd ⟨hrx, htx⟩ hnot
          · exact ⟨entry, hm, hfault⟩
      rw [hfault]
      exact ⟨fun hne => absurd rfl hne, fun h => absurd h hall⟩
  · constructor
    · intro _ hinit hcount
      exact absurd ⟨hinit, hcount⟩ hwrites
    · intro _
      unfold generateInfo
      split
      · rename_i hinit
        rw [if_neg fun hcount => hwrites ⟨hinit, hcount⟩]
        exact nofun
      · exact nofun

/-- For calls that return, the offsets point at the slaves' data and none is written that was not
assigned, if and only if the answers of all slaves let the offsets be taken from the first bits. -/
theorem generated_offsets_iff (fuel : Nat) (replies : Nat → MapReplies) (bus : BusInit)
    (hends : ∀ entry ∈ bus.table.entries, (mapSlave fuel replies entry).isSome = true) :
    ((∀ entry ∈ bus.table.entries, ∀ v ∈ mapSlave fuel replies entry, v.PointsAtStart entry.1) ∧
        generateInfo fuel replies bus ≠ .error .uninitialised) ↔
      (∀ entry ∈ bus.table.entries,
        OffsetAtStart (replies entry.2).outputs ∧ OffsetAtStart (replies entry.2).inputs) ∧
      (bus.initOk = true → bus.configCount > 0 → ∀ entry ∈ configuredEntries bus.table,
        OffsetAssigned (replies entry.2).outputs ∧ OffsetAssigned (replies entry.2).inputs) := by
  have hconfigured : ∀ entry ∈ configuredEntries bus.table,
      (mapSlave fuel replies entry).isSome = true :=
    fun entry hm => hends entry (List.mem_of_mem_filter hm)
  refine and_congr ?_ (generateInfo_assigned_iff hconfigured)
  apply forall_congr'
  intro entry
  apply forall_congr'
  intro hm
  obtain ⟨v, hv⟩ := Option.isSome_iff_exists.mp (hends entry hm)
  rw [← pointsAtStart_iff hv]
  constructor
  · exact fun h => h v hv
  · intro h v' hv'
    rwa [Option.mem_unique hv' hv]

/-- The offsets that are written for the slave at an index. -/
def generatedOffsets (fuel : Nat) (replies : Nat → MapReplies) (table : SlaveTable) (cnt : Nat) :
    CInt × CInt :=
  match (table.slaves[cnt - 1]?).bind fun slave => mapSlave fuel replies (slave, cnt) with
  | some ⟨_, _, _, some rx, some tx⟩ =>
    (⟨rx.toInt, rx.le_toInt, rx.toInt_lt⟩, ⟨tx.toInt, tx.le_toInt, tx.toInt_lt⟩)
  | _ => (⟨0, intRange_zero⟩, ⟨0, intRange_zero⟩)

theorem generatedInfo_eq {fuel : Nat} {replies : Nat → MapReplies} {table : SlaveTable}
    {entry : EcSlave × Nat} (hentry : entry ∈ table.entries) {json : Json}
    (h : generatedInfo fuel replies entry = .ok json) :
    json = slaveInfoJson (generatedOffsets fuel replies table) entry := by
  obtain ⟨slave, cnt⟩ := entry
  have hslave : table.slaves[cnt - 1]? = some slave :=
    (List.mk_mem_zipIdx_iff_le_and_getElem?_sub.mp hentry).2
  unfold generatedInfo at h
  cases hv : mapSlave fuel replies (slave, cnt) with
  | none =>
    rw [hv] at h
    cases h
  | some v =>
    obtain ⟨smtBugAdd, outputsBo, inputsBo, rxOffset, txOffset⟩ := v
    rw [hv] at h
    cases rxOffset with
    | none => cases h
    | some rx =>
      cases txOffset with
      | none => cases h
      | some tx =>
        obtain rfl := Except.ok.inj h
        simp [slaveInfoJson, generatedOffsets, hslave, hv]

/-- The document is the one that `getInfo` gives for these offsets. -/
theorem generateInfo_eq_getInfo {fuel : Nat} {replies : Nat → MapReplies} {bus : BusInit}
    {json : Json} (h : generateInfo fuel replies bus = .ok json) :
    json = getInfo (generatedOffsets fuel replies bus.table) bus := by
  unfold generateInfo at h
  dsimp only at h
  split at h
  · rename_i hinit
    split at h
    · rename_i hcount
      obtain ⟨slaves, hslaves, hjson⟩ := except_bind_ok h
      have hmap : (configuredEntries bus.table).map
          (slaveInfoJson (generatedOffsets fuel replies bus.table)) = slaves := by
        have hall := (List.forall₂_and_left _ _).mpr
          ⟨fun _ hm => List.mem_of_mem_filter hm, (mapM_eq_ok_iff _ _ _).mp hslaves⟩
        rw [← List.forall₂_eq_eq_eq, List.forall₂_map_left_iff]
        exact hall.imp fun entry json ⟨hentry, hjson⟩ => (generatedInfo_eq hentry hjson).symm
      rw [getInfo, if_pos hinit, if_pos hcount, hmap]
      exact (Except.ok.inj hjson).symm
    · rename_i hcount
      rw [getInfo, if_pos hinit, if_neg hcount]
      exact (Except.ok.inj h).symm
  · rename_i hinit
    rw [getInfo, if_neg hinit]
    exact (Except.ok.inj h).symm

/-! ## A slave of each kind -/

/-- A slave with an assignment for the outputs and one for the inputs. -/
private def twoDirections (outputs inputs : AssignReplies) : MapReplies where
  count := ⟨1, 4⟩
  syncManager k := if k = 0 then ⟨⟨1, 3⟩, outputs⟩ else ⟨⟨1, 4⟩, inputs⟩

/-- Two PDOs, of which the first has the given number of entries and the second has one. -/
private def twoPdos (subcnt : UInt8) : AssignReplies where
  count := ⟨1, 2⟩
  pdo k := ⟨⟨1, 0x1600⟩, ⟨1, if k = 0 then subcnt else 1⟩, fun _ => ⟨1, 0x70000108⟩⟩

private def oneDrive : BusInit where
  initOk := true
  configCount := 1
  state := ecStateSafeOp
  table := .single ⟨"KELOD105", 1280, 33558529, 1020, 4097, 0, 2, 2, 2⟩

theorem generated_offsets_drive :
    (∀ entry ∈ oneDrive.table.entries,
      ∀ v ∈ mapSlave 10 (fun _ => twoDirections (twoPdos 1) (twoPdos 1)) entry,
        v.PointsAtStart entry.1) ∧
      generateInfo 10 (fun _ => twoDirections (twoPdos 1) (twoPdos 1)) oneDrive ≠
        .error .uninitialised := by
  have hmapped : (twoPdos 1).FirstMapped := by decide
  have hstarts : StartsAt [twoPdos 1] 0 := ⟨[], twoPdos 1, [], rfl, hmapped, nofun, rfl⟩
  apply (generated_offsets_iff 10 (fun _ => twoDirections (twoPdos 1) (twoPdos 1)) oneDrive
    (by decide)).mpr
  exact ⟨fun _ _ => ⟨fun _ => ⟨0, hstarts, rfl⟩, fun _ => ⟨0, hstarts, rfl⟩⟩,
    fun _ _ _ _ => ⟨⟨0, hstarts⟩, 0, hstarts⟩⟩

/-- The second output PDO has an entry and the first has none. -/
theorem generated_offsets_empty_pdo :
    ¬ ∀ (fuel : Nat) (replies : Nat → MapReplies) (bus : BusInit),
      (∀ entry ∈ bus.table.entries, (mapSlave fuel replies entry).isSome = true) →
      (∀ entry ∈ bus.table.entries, ∀ v ∈ mapSlave fuel replies entry, v.PointsAtStart entry.1) ∧
        generateInfo fuel replies bus ≠ .error .uninitialised := by
  intro h
  obtain ⟨-, hassigned⟩ :=
    h 10 (fun _ => twoDirections (twoPdos 0) (twoPdos 1)) oneDrive (by decide)
  exact hassigned rfl

end Kddv
