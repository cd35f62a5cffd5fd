import Kddv.Config.RoundTrip
import Kddv.Master.GetSlaves

/-!
# The two data sources on one bus

The list that the master builds from the slave table against the list that the sniffer reads
from the config file generated for the same table.
-/

namespace Kddv

open Framework

/-- Both slaves describe the same device. The offsets are used in sniffer mode only. -/
structure SameDevice (left right : EthercatSlave) : Prop where
  cls : left.cls = right.cls
  slaveType : left.slaveInfo.slaveType = right.slaveInfo.slaveType
  name : left.slaveInfo.name = right.slaveInfo.name
  slaveNumber : left.slaveInfo.slaveNumber = right.slaveInfo.slaveNumber
  eepMan : left.slaveInfo.eepMan = right.slaveInfo.eepMan
  eepId : left.slaveInfo.eepId = right.slaveInfo.eepId
  eepRev : left.slaveInfo.eepRev = right.slaveInfo.eepRev
  address : left.slaveInfo.address = right.slaveInfo.address

/-- Except for the BMS, master and sniffer construct the same class. -/
theorem classOf_master_eq (name : String) (h : name ≠ "KeloEcPd") :
    EthercatMaster.classOf (getSlaveType name) = PacketSniffer.classOf (getSlaveType name) := by
  by_cases h1 : name = "KELO_ROBILE"
  · subst h1
    rfl
  by_cases h2 : name = "SWMC" ∨ name = "KELOD105"
  · rw [getSlaveType, if_neg h1, if_pos h2]
    rfl
  · rw [getSlaveType, if_neg h1, if_neg h2, if_neg h]
    rfl

theorem masterEntries_eq (table : SlaveTable)
    (h : ∀ entry ∈ table.entries, entry.1.name ≠ "KeloEcPd") :
    EthercatMaster.masterEntries table = configuredEntries table := by
  apply List.filter_congr
  intro entry hm
  rw [classOf_master_eq _ (h entry hm), Bool.eq_iff_iff, isConfigured_iff, Option.isSome_iff_exists]

private theorem sameDevice_stored (memory memory' : FreshMemory) (siMapSdo : Nat → CInt × CInt)
    (entry : EcSlave × Nat) (heep : EepInRange entry.1) {cls cls' : SlaveClass}
    (hcls : cls = cls') :
    SameDevice (memory.makeSlave cls (EthercatMaster.slaveInfo memory entry))
      (memory'.makeSlave cls' (storedInfo siMapSdo entry)) := by
  obtain ⟨hman, hid, hrev⟩ := heep
  constructor <;>
    simp only [FreshMemory.makeSlave, EthercatMaster.slaveInfo, storedInfo, hcls,
      intOfUInt32_of_lt _ hman, intOfUInt32_of_lt _ hid, intOfUInt32_of_lt _ hrev]

/-- One slave of the master's list against the slave stored for the same entry. -/
theorem sameDevice_constructed (memory : FreshMemory) (siMapSdo : Nat → CInt × CInt)
    (entry : EcSlave × Nat) (slave : EthercatSlave) (heep : EepInRange entry.1)
    (hname : entry.1.name ≠ "KeloEcPd") (h : EthercatMaster.ConstructedFor entry slave) :
    SameDevice slave
      (memory.makeSlave (configuredClass entry.1.name) (storedInfo siMapSdo entry)) := by
  obtain ⟨fresh, cls, hcls, rfl⟩ := h
  apply sameDevice_stored fresh memory siMapSdo entry heep
  rw [classOf_master_eq _ hname] at hcls
  rw [configuredClass, hcls]
  rfl

private theorem sameDevice_list (heap : Nat → FreshMemory) (siMapSdo : Nat → CInt × CInt)
    {entries : List (EcSlave × Nat)} {slaves : List EthercatSlave} (start : Nat)
    (heep : ∀ entry ∈ entries, EepInRange entry.1)
    (hname : ∀ entry ∈ entries, entry.1.name ≠ "KeloEcPd")
    (h : List.Forall₂ EthercatMaster.ConstructedFor entries slaves) :
    List.Forall₂ SameDevice slaves ((entries.zipIdx start).map fun entry =>
      (heap entry.2).makeSlave (configuredClass entry.1.1.name) (storedInfo siMapSdo entry.1)) := by
  induction h generalizing start with
  | nil => exact .nil
  | cons hslave _ ih =>
    refine .cons ?_ (ih (start + 1) (fun e hm => heep e (by simp [hm]))
      fun e hm => hname e (by simp [hm]))
    exact sameDevice_constructed _ siMapSdo _ _ (heep _ (by simp)) (hname _ (by simp)) hslave

/-- A BMS in the table is in the sniffer's list. -/
private theorem storedSlaves_bms (heap : Nat → FreshMemory) (siMapSdo : Nat → CInt × CInt)
    (table : SlaveTable) (entry : EcSlave × Nat) (hm : entry ∈ table.entries)
    (hname : entry.1.name = "KeloEcPd") :
    ∃ slave ∈ storedSlaves heap siMapSdo table, slave.cls = .keloBMSSlave := by
  have hconfigured : entry ∈ configuredEntries table :=
    List.mem_filter.mpr ⟨hm, by rw [hname]; rfl⟩
  obtain ⟨i, hi, hget⟩ := List.mem_iff_getElem.mp hconfigured
  have hzip : (entry, i) ∈ (configuredEntries table).zipIdx := by
    rw [List.mk_mem_zipIdx_iff_getElem?, List.getElem?_eq_getElem hi, hget]
  refine ⟨_, List.mem_map_of_mem hzip, ?_⟩
  change configuredClass entry.1.name = .keloBMSSlave
  rw [hname]
  rfl

/-- No slave of the master's list is a BMS. -/
private theorem slavesOfTable_not_bms (heap : Nat → FreshMemory) (table : SlaveTable)
    (slave : EthercatSlave) (hm : slave ∈ EthercatMaster.slavesOfTable heap table) :
    slave.cls ≠ .keloBMSSlave := by
  obtain ⟨i, hi, rfl⟩ := List.mem_iff_getElem.mp hm
  have hlist := EthercatMaster.slavesOfTable_constructed heap table
  obtain ⟨memory, cls, hcls, heq⟩ :=
    (List.forall₂_iff_get.mp hlist).2 i (by rw [hlist.length_eq]; exact hi) hi
  rw [List.get_eq_getElem] at heq
  rw [heq]
  rintro rfl
  exact EthercatMaster.classOf_ne_keloBMSSlave _ hcls

/-- On a bus in SAFE_OP whose identification numbers fit, the master and the sniffer with the
generated config have the same slaves exactly when no slave of the bus is a BMS. -/
theorem getSlaves_agree_iff (heap heap' : Nat → FreshMemory) (siMapSdo : Nat → CInt × CInt)
    (bus : BusInit) (hinit : bus.initOk = true) (hcount : bus.configCount > 0)
    (hstate : bus.state = ecStateSafeOp)
    (heep : ∀ entry ∈ bus.table.entries, EepInRange entry.1) :
    (∃ slaves, PacketSniffer.getSlaves heap' (getInfo siMapSdo bus) = .ok (slaves, "") ∧
        (EthercatMaster.getSlaves heap bus).2 = "" ∧
        List.Forall₂ SameDevice (EthercatMaster.getSlaves heap bus).1 slaves) ↔
      ∀ entry ∈ bus.table.entries, entry.1.name ≠ "KeloEcPd" := by
  have hconfigured : ∀ entry ∈ configuredEntries bus.table, EepInRange entry.1 :=
    fun entry hm => heep entry (List.mem_filter.mp hm).1
  have hok := getSlaves_getInfo_ok_iff heap' siMapSdo bus hinit hcount
  rw [EthercatMaster.getSlaves_ok heap bus hinit hcount hstate]
  constructor
  · rintro ⟨slaves, hslaves, -, hsame⟩ entry hm hname
    obtain ⟨-, rfl, -⟩ := (hok slaves "").mp hslaves
    obtain ⟨slave, hmem, hbms⟩ := storedSlaves_bms heap' siMapSdo bus.table entry hm hname
    obtain ⟨i, hi, rfl⟩ := List.mem_iff_getElem.mp hmem
    have hlt : i < (EthercatMaster.slavesOfTable heap bus.table).length := by
      rw [hsame.length_eq]
      exact hi
    have hcls := ((List.forall₂_iff_get.mp hsame).2 i hlt hi).cls
    simp only [List.get_eq_getElem] at hcls
    exact slavesOfTable_not_bms heap bus.table _ (List.getElem_mem hlt) (hcls.trans hbms)
  · intro hname
    refine ⟨storedSlaves heap' siMapSdo bus.table, (hok _ _).mpr ⟨hconfigured, rfl, rfl⟩, rfl, ?_⟩
    have hlist := EthercatMaster.slavesOfTable_constructed heap bus.table
    rw [masterEntries_eq bus.table hname] at hlist
    exact sameDevice_list heap' siMapSdo 0 hconfigured
      (fun entry hm => hname entry (List.mem_filter.mp hm).1) hlist

/-- A drive followed by the named slave. -/
private def driveAnd (name : String) : BusInit where
  initOk := true
  configCount := 2
  state := ecStateSafeOp
  table := ⟨[⟨"KELOD105", 1280, 33558529, 1020, 4097, 0, 36, 36, 172⟩,
    ⟨name, 1280, 1001, 1, 4098, 208, 20, 228, 112⟩], by
    rw [List.length_cons, List.length_singleton]
    decide⟩

private def noOffsets : Nat → CInt × CInt := fun _ => (⟨0, intRange_zero⟩, ⟨0, intRange_zero⟩)

theorem getSlaves_agree_battery :
    ∃ slaves, PacketSniffer.getSlaves (fun _ => default)
        (getInfo noOffsets (driveAnd "KELO_ROBILE")) =
        .ok (slaves, "") ∧
      (EthercatMaster.getSlaves (fun _ => default) (driveAnd "KELO_ROBILE")).2 = "" ∧
      List.Forall₂ SameDevice
        (EthercatMaster.getSlaves (fun _ => default) (driveAnd "KELO_ROBILE")).1 slaves :=
  (getSlaves_agree_iff _ _ noOffsets (driveAnd "KELO_ROBILE") rfl (by decide) rfl
    (by decide)).mpr (by decide)

/-- A bus with a drive and a BMS: the sniffer has two slaves, the master one. -/
theorem getSlaves_disagree_bms :
    ¬ ∃ slaves, PacketSniffer.getSlaves (fun _ => default)
        (getInfo noOffsets (driveAnd "KeloEcPd")) =
        .ok (slaves, "") ∧
      (EthercatMaster.getSlaves (fun _ => default) (driveAnd "KeloEcPd")).2 = "" ∧
      List.Forall₂ SameDevice
        (EthercatMaster.getSlaves (fun _ => default) (driveAnd "KeloEcPd")).1 slaves := by
  rintro ⟨slaves, hread, -, hsame⟩
  rw [getSlaves_getInfo_ok_iff _ _ _ rfl (by decide)] at hread
  have hlength := hsame.length_eq
  rw [hread.2.1, EthercatMaster.getSlaves_ok _ _ rfl (by decide) rfl] at hlength
  exact absurd hlength (by decide)

end Kddv
