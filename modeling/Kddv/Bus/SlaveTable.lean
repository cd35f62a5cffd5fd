import Kddv.Framework.Json
import Kddv.Slave.EthercatSlave

/-!
# The bus as the EtherCAT library reports it

The slave table that bus configuration fills, and the values in which the library answers.
The library is not part of the program; its answers are arbitrary inputs of the model.
-/

namespace Kddv

open Framework

/-- The members of `ec_slavet` that the program reads. The process data pointers are given
by their distance from the start of `IOmap`, with the number of mapped bytes. -/
structure EcSlave where
  name : String
  eepMan : UInt32
  eepId : UInt32
  eepRev : UInt32
  configadr : UInt16
  outputs : Nat
  outputBytes : Nat
  inputs : Nat
  inputBytes : Nat
deriving DecidableEq, Inhabited

/-- `ec_slave[1]`, ..., `ec_slave[ec_slavecount]`; the count is an `int`. -/
structure SlaveTable where
  slaves : List EcSlave
  count_lt : slaves.length < 2 ^ 31

/-- The table of a bus with one slave. -/
def SlaveTable.single (slave : EcSlave) : SlaveTable := ⟨[slave], by simp⟩

/-- The slaves with their indices in the table. -/
def SlaveTable.entries (table : SlaveTable) : List (EcSlave × Nat) := table.slaves.zipIdx 1

theorem SlaveTable.index_inRange (table : SlaveTable) (entry : EcSlave × Nat)
    (h : entry ∈ table.entries) : IntRange entry.2 := by
  have hbound := List.mem_zipIdx h
  have hcount := table.count_lt
  constructor <;> omega

/-- Values of `ec_slave[0].state`. -/
def ecStateSafeOp : UInt16 := 0x04

def ecStateOperational : UInt16 := 0x08

/-- The answers to one initialisation of the bus: the results of `ec_init` and `ec_config`,
the state seen after `ec_statecheck`, and the slave table. -/
structure BusInit where
  initOk : Bool
  configCount : Int
  state : UInt16
  table : SlaveTable

/-- What a new slave object finds in its memory: the constructors initialise no record. -/
structure FreshMemory where
  rx : (cls : SlaveClass) → RxRecord cls
  tx : (cls : SlaveClass) → TxRecord cls
  rxStartOffset : Int
  txStartOffset : Int

instance : Inhabited FreshMemory :=
  ⟨⟨fun _ => Packed.layout.decode [], fun _ => Packed.layout.decode [], 0, 0⟩⟩

/-- `std::make_shared` of a class, after its `slave_info` has been assigned. -/
def FreshMemory.makeSlave (memory : FreshMemory) (cls : SlaveClass) (info : SlaveInfo) :
    EthercatSlave :=
  ⟨info, cls, memory.rx cls, memory.tx cls⟩

end Kddv
