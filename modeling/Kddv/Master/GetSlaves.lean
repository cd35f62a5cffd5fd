import Kddv.Bus.SlaveTable

/-!
# Slaves from the bus

`EthercatMaster::getSlaves`: the slave list built from the table of an initialised bus.
-/

namespace Kddv

open Framework

/-- Conversion of a `uint32` to the type `int`. -/
def intOfUInt32 (value : UInt32) : Int := Int.bmod value.toNat (2 ^ 32)

theorem intOfUInt32_of_lt (value : UInt32) (h : value.toNat < 2 ^ 31) :
    intOfUInt32 value = value.toNat := by
  have hlow : -((2 ^ 32 : Nat) / 2 : Int) ≤ value.toNat := by omega
  have hhigh : (value.toNat : Int) < ((2 ^ 32 : Nat) + 1) / 2 := by omega
  exact Int.bmod_eq_of_le hlow hhigh

namespace EthercatMaster

/-- The class constructed for a slave type, or `none` if the entry is passed over. The last
branch of the inner chain is behind a condition that excludes it. -/
def classOf (slaveType : UInt8) : Option SlaveClass :=
  if slaveType = keloDriveSlaveType ∨ slaveType = robileBatterySlaveType then
    if slaveType = robileBatterySlaveType then some .robileBatterySlave
    else if slaveType = keloDriveSlaveType then some .keloDriveSlave
    else if slaveType = keloBMSSlaveType then some .keloBMSSlave
    else none
  else none

/-- `slave_info` of the slave at index `cnt`. The offsets are not assigned. -/
def slaveInfo (memory : FreshMemory) (entry : EcSlave × Nat) : SlaveInfo where
  name := entry.1.name
  slaveType := getSlaveType entry.1.name
  slaveNumber := entry.2
  eepMan := intOfUInt32 entry.1.eepMan
  eepRev := intOfUInt32 entry.1.eepRev
  eepId := intOfUInt32 entry.1.eepId
  address := entry.1.configadr.toNat
  rxStartOffset := memory.rxStartOffset
  txStartOffset := memory.txStartOffset

/-- Body of the loop over the table. -/
def pushSlave (heap : Nat → FreshMemory) (slaves : List EthercatSlave) (entry : EcSlave × Nat) :
    List EthercatSlave :=
  match classOf (getSlaveType entry.1.name) with
  | none => slaves
  | some cls =>
    let memory := heap slaves.length
    slaves ++ [memory.makeSlave cls (slaveInfo memory entry)]

def slavesOfTable (heap : Nat → FreshMemory) (table : SlaveTable) : List EthercatSlave :=
  table.entries.foldl (pushSlave heap) []

/-- Returns the slaves and the error message, which is left empty on success. -/
def getSlaves (heap : Nat → FreshMemory) (bus : BusInit) : List EthercatSlave × String :=
  if bus.initOk then
    if bus.configCount > 0 then
      if bus.state ≠ ecStateSafeOp then ([], "Not in SAFE_OP state")
      else (slavesOfTable heap bus.table, "")
    else ([], "No slaves found")
  else ([], "No socket connection. (try running with sudo)")

/-- The entries of the table for which the master constructs a slave. -/
def masterEntries (table : SlaveTable) : List (EcSlave × Nat) :=
  table.entries.filter fun entry => (classOf (getSlaveType entry.1.name)).isSome

/-- The master never constructs a slave of the class `KeloBMSSlave`. -/
theorem classOf_ne_keloBMSSlave (slaveType : UInt8) :
    classOf slaveType ≠ some .keloBMSSlave := by
  rw [classOf]
  split
  · rename_i h
    rcases h with rfl | rfl <;> decide
  · simp

private theorem forall₂_append_singleton {α β : Type} {R : α → β → Prop} {xs : List α}
    {ys : List β} {x : α} {y : β} (h : List.Forall₂ R xs ys) (hxy : R x y) :
    List.Forall₂ R (xs ++ [x]) (ys ++ [y]) :=
  List.rel_append h (.cons hxy .nil)

/-- The slave was constructed for a table entry. -/
def ConstructedFor (entry : EcSlave × Nat) (slave : EthercatSlave) : Prop :=
  ∃ (memory : FreshMemory) (cls : SlaveClass), classOf (getSlaveType entry.1.name) = some cls ∧
    slave = memory.makeSlave cls (slaveInfo memory entry)

private theorem foldl_pushSlave (heap : Nat → FreshMemory) (entries done : List (EcSlave × Nat))
    (slaves : List EthercatSlave) (h : List.Forall₂ ConstructedFor done slaves) :
    List.Forall₂ ConstructedFor
      (done ++ entries.filter fun entry => (classOf (getSlaveType entry.1.name)).isSome)
      (entries.foldl (pushSlave heap) slaves) := by
  induction entries generalizing done slaves with
  | nil => simpa using h
  | cons entry entries ih =>
    rw [List.foldl_cons]
    cases hcls : classOf (getSlaveType entry.1.name) with
    | none =>
      rw [List.filter_cons_of_neg (by simp [hcls]), pushSlave, hcls]
      exact ih done slaves h
    | some cls =>
      rw [List.filter_cons_of_pos (by simp [hcls]), pushSlave, hcls, List.append_cons]
      exact ih _ _ (forall₂_append_singleton h ⟨heap slaves.length, cls, hcls, rfl⟩)

/-- The loop constructs one slave for each supported entry, in order. -/
theorem slavesOfTable_constructed (heap : Nat → FreshMemory) (table : SlaveTable) :
    List.Forall₂ ConstructedFor (masterEntries table) (slavesOfTable heap table) :=
  foldl_pushSlave heap table.entries [] [] .nil

theorem getSlaves_ok (heap : Nat → FreshMemory) (bus : BusInit) (hinit : bus.initOk = true)
    (hcount : bus.configCount > 0) (hstate : bus.state = ecStateSafeOp) :
    getSlaves heap bus = (slavesOfTable heap bus.table, "") := by
  rw [getSlaves, if_pos hinit, if_pos hcount, if_neg (by simp [hstate])]

end EthercatMaster

end Kddv
