import Kddv.Slave.Records

/-!
# EtherCAT slaves

The slave objects that both data sources fill: the description of the slave and the last
process data copied for it. The three concrete classes differ only in their records.
-/

namespace Kddv

open Framework

/-- The concrete classes derived from `EthercatSlave`. -/
inductive SlaveClass
  | keloDriveSlave
  | robileBatterySlave
  | keloBMSSlave
deriving DecidableEq

/-- Type of the member `rx` of each class. -/
@[reducible] def RxRecord : SlaveClass → Type
  | .keloDriveSlave => Rxpdo1
  | .robileBatterySlave => RobileMasterBatteryProcessDataOutput
  | .keloBMSSlave => EcPdRx

/-- Type of the member `tx` of each class. -/
@[reducible] def TxRecord : SlaveClass → Type
  | .keloDriveSlave => Txpdo1
  | .robileBatterySlave => RobileMasterBatteryProcessDataInput
  | .keloBMSSlave => EcPdTx

instance instPackedRxRecord : (cls : SlaveClass) → Packed (RxRecord cls)
  | .keloDriveSlave => inferInstanceAs (Packed Rxpdo1)
  | .robileBatterySlave => inferInstanceAs (Packed RobileMasterBatteryProcessDataOutput)
  | .keloBMSSlave => inferInstanceAs (Packed EcPdRx)

instance instPackedTxRecord : (cls : SlaveClass) → Packed (TxRecord cls)
  | .keloDriveSlave => inferInstanceAs (Packed Txpdo1)
  | .robileBatterySlave => inferInstanceAs (Packed RobileMasterBatteryProcessDataInput)
  | .keloBMSSlave => inferInstanceAs (Packed EcPdTx)

instance (cls : SlaveClass) : DecidableEq (RxRecord cls) := Packed.layout.decidableEq

instance (cls : SlaveClass) : DecidableEq (TxRecord cls) := Packed.layout.decidableEq

/-- `sizeof` of the RX record of a class. -/
def rxSize (cls : SlaveClass) : Nat := Packed.size (RxRecord cls)

/-- `sizeof` of the TX record of a class. -/
def txSize (cls : SlaveClass) : Nat := Packed.size (TxRecord cls)

theorem rxSize_eq (cls : SlaveClass) :
    rxSize cls = match cls with
      | .keloDriveSlave => 36
      | .robileBatterySlave => 12
      | .keloBMSSlave => 20 := by
  cases cls <;> rfl

theorem txSize_eq (cls : SlaveClass) :
    txSize cls = match cls with
      | .keloDriveSlave => 172
      | .robileBatterySlave => 68
      | .keloBMSSlave => 112 := by
  cases cls <;> rfl

theorem rxSize_pos (cls : SlaveClass) : 0 < rxSize cls := by
  rw [rxSize_eq]
  cases cls <;> decide

theorem txSize_pos (cls : SlaveClass) : 0 < txSize cls := by
  rw [txSize_eq]
  cases cls <;> decide

structure SlaveInfo where
  name : String
  slaveType : UInt8
  slaveNumber : Int
  eepMan : Int
  eepRev : Int
  eepId : Int
  address : Int
  rxStartOffset : Int
  txStartOffset : Int
deriving DecidableEq

structure EthercatSlave where
  slaveInfo : SlaveInfo
  cls : SlaveClass
  rx : RxRecord cls
  tx : TxRecord cls
deriving DecidableEq

/-- Source of a `memcpy`: the bytes found there, for each number of bytes copied. -/
abbrev Pointer := Nat → List UInt8

namespace EthercatSlave

/-- `memcpy(&rx, outputs, sizeof(rx))` -/
def copyRx (slave : EthercatSlave) (outputs : Pointer) : EthercatSlave :=
  { slave with rx := Packed.layout.decode (outputs (rxSize slave.cls)) }

/-- `memcpy(&tx, inputs, sizeof(tx))` -/
def copyTx (slave : EthercatSlave) (inputs : Pointer) : EthercatSlave :=
  { slave with tx := Packed.layout.decode (inputs (txSize slave.cls)) }

/-- The method `copyData`, which the three classes write alike for their own records. -/
def copyData (slave : EthercatSlave) (outputs inputs : Pointer) : EthercatSlave :=
  (slave.copyRx outputs).copyTx inputs

/-- The bytes of the RX record. -/
def rxBytes (slave : EthercatSlave) : List UInt8 := Packed.layout.encode slave.rx

/-- The bytes of the TX record. -/
def txBytes (slave : EthercatSlave) : List UInt8 := Packed.layout.encode slave.tx

@[simp] theorem rxBytes_length (slave : EthercatSlave) :
    slave.rxBytes.length = rxSize slave.cls :=
  Packed.layout.encode_length _

@[simp] theorem txBytes_length (slave : EthercatSlave) :
    slave.txBytes.length = txSize slave.cls :=
  Packed.layout.encode_length _

/-- The same slave object, possibly at another time: only its records may differ. -/
def SameSlave (left right : EthercatSlave) : Prop :=
  left.slaveInfo = right.slaveInfo ∧ left.cls = right.cls

instance (left right : EthercatSlave) : Decidable (left.SameSlave right) := by
  unfold SameSlave
  infer_instance

/-- The same slave objects in the same order. -/
abbrev SameSlaves (left right : List EthercatSlave) : Prop := List.Forall₂ SameSlave left right

theorem SameSlaves.refl (slaves : List EthercatSlave) : SameSlaves slaves slaves :=
  List.forall₂_same.mpr fun _ _ => ⟨rfl, rfl⟩

theorem sameSlaves_map {f : EthercatSlave → EthercatSlave} (h : ∀ slave, (f slave).SameSlave slave)
    (slaves : List EthercatSlave) : SameSlaves (slaves.map f) slaves := by
  rw [SameSlaves, List.forall₂_map_left_iff, List.forall₂_same]
  exact fun slave _ => h slave

@[simp] theorem copyData_slaveInfo (slave : EthercatSlave) (outputs inputs : Pointer) :
    (slave.copyData outputs inputs).slaveInfo = slave.slaveInfo := rfl

@[simp] theorem copyData_cls (slave : EthercatSlave) (outputs inputs : Pointer) :
    (slave.copyData outputs inputs).cls = slave.cls := rfl

theorem copyData_sameSlave (slave : EthercatSlave) (outputs inputs : Pointer) :
    (slave.copyData outputs inputs).SameSlave slave := ⟨rfl, rfl⟩

/-- Only as many bytes as the records have are read. -/
theorem copyData_congr (slave : EthercatSlave) {outputs outputs' inputs inputs' : Pointer}
    (hrx : outputs (rxSize slave.cls) = outputs' (rxSize slave.cls))
    (htx : inputs (txSize slave.cls) = inputs' (txSize slave.cls)) :
    slave.copyData outputs inputs = slave.copyData outputs' inputs' := by
  unfold copyData copyRx copyTx
  dsimp only
  rw [hrx, htx]

/-- Copying overwrites all records. -/
theorem copyData_sameSlave_congr {left right : EthercatSlave} (h : left.SameSlave right)
    (outputs inputs : Pointer) : left.copyData outputs inputs = right.copyData outputs inputs := by
  obtain ⟨info, cls, rx, tx⟩ := left
  obtain ⟨info', cls', rx', tx'⟩ := right
  obtain ⟨hinfo, hcls⟩ := h
  dsimp only at hinfo hcls
  subst hinfo hcls
  rfl

/-- Copying the bytes of another state of the same slave turns it into that state. -/
theorem copyData_eq {slave other : EthercatSlave} (outputs inputs : Pointer)
    (hsame : slave.SameSlave other) (hrx : outputs (rxSize other.cls) = other.rxBytes)
    (htx : inputs (txSize other.cls) = other.txBytes) :
    slave.copyData outputs inputs = other := by
  obtain ⟨info, cls, rx, tx⟩ := slave
  obtain ⟨info', cls', rx', tx'⟩ := other
  obtain ⟨hinfo, hcls⟩ := hsame
  dsimp only at hinfo hcls
  subst hinfo hcls
  have hrx' : Packed.layout.decode (outputs (rxSize cls)) = rx' :=
    (congrArg Packed.layout.decode hrx).trans (Packed.layout.decode_encode rx')
  have htx' : Packed.layout.decode (inputs (txSize cls)) = tx' :=
    (congrArg Packed.layout.decode htx).trans (Packed.layout.decode_encode tx')
  change EthercatSlave.mk info cls (Packed.layout.decode (outputs (rxSize cls)))
    (Packed.layout.decode (inputs (txSize cls))) = _
  rw [hrx', htx']

/-- The bytes of a copied record are the bytes that were copied. -/
theorem copyData_rxBytes (slave : EthercatSlave) (outputs inputs : Pointer)
    (h : (outputs (rxSize slave.cls)).length = rxSize slave.cls) :
    (slave.copyData outputs inputs).rxBytes = outputs (rxSize slave.cls) :=
  Packed.layout.encode_decode _ h

end EthercatSlave

/-! ## Slave types -/

def keloDriveSlaveType : UInt8 := 1

def robileBatterySlaveType : UInt8 := 2

def keloBMSSlaveType : UInt8 := 3

/-- Unknown names give `-1` converted to `uint8_t`. -/
def getSlaveType (name : String) : UInt8 :=
  if name = "KELO_ROBILE" then robileBatterySlaveType
  else if name = "SWMC" ∨ name = "KELOD105" then keloDriveSlaveType
  else if name = "KeloEcPd" then keloBMSSlaveType
  else 255

end Kddv
