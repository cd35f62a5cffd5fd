import Kddv.Bus.SlaveTable

/-!
# Slaves from a config file

`PacketSniffer::loadConfig` and `PacketSniffer::getSlaves`: the slave list described by a
JSON document.
-/

namespace Kddv

open Framework

/-- Ways in which reading the configuration does not return. -/
inductive Fault
  | exception (what : String)
  | nullDereference
deriving DecidableEq

/-- Exceptions of the JSON library. -/
def orThrow {α : Type} (result : Except String α) : Except Fault α := result.mapError .exception

namespace PacketSniffer

/-- `file` is the content of the config file, if it can be opened; `parse` is the reader of
the JSON library. Returns the new configuration and the error message. -/
def loadConfig (parse : String → Except String Json) (config : Json) (filename : String)
    (file : Option String) : Except Fault (Json × String) :=
  match file with
  | some text => (orThrow (parse text)).map fun config => (config, "")
  | none => .ok (config, "Could not open file " ++ filename)

/-- The class constructed for a slave type. The pointer stays null for other types. -/
def classOf (slaveType : UInt8) : Option SlaveClass :=
  if slaveType = robileBatterySlaveType then some .robileBatterySlave
  else if slaveType = keloDriveSlaveType then some .keloDriveSlave
  else if slaveType = keloBMSSlaveType then some .keloBMSSlave
  else none

def memberInt (entry : Json) (key : String) : Except Fault Int :=
  orThrow ((entry.member key).bind Json.asInt)

/-- Body of the loop over `config["Slaves"]`. -/
def readSlave (memory : FreshMemory) (entry : Json) : Except Fault EthercatSlave := do
  let name ← orThrow ((entry.member "Name").bind Json.asString)
  let slaveType := getSlaveType name
  match classOf slaveType with
  | none => .error .nullDereference
  | some cls =>
    let slaveNumber ← memberInt entry "Slave ID"
    let eepMan ← memberInt entry "EEP Man"
    let eepId ← memberInt entry "EEP ID"
    let eepRev ← memberInt entry "EEP Rev"
    let address ← memberInt entry "Address"
    let rxStartOffset ← memberInt entry "RX start offset"
    let txStartOffset ← memberInt entry "TX start offset"
    return memory.makeSlave cls
      { name, slaveType, slaveNumber, eepMan, eepRev, eepId, address, rxStartOffset,
        txStartOffset }

/-- `heap i` is the memory in which the `i`-th slave object is created. Returns the slaves
and the error message. -/
def getSlaves (heap : Nat → FreshMemory) (config : Json) :
    Except Fault (List EthercatSlave × String) :=
  if config.empty then .ok ([], "No config file specified")
  else do
    let entries ← orThrow ((config.member "Slaves").bind Json.elements)
    let slaves ← entries.zipIdx.mapM fun (entry, i) => readSlave (heap i) entry
    return (slaves, "")

/-- What both user interfaces do with a config file: `setConfigFile` on a new sniffer, then
`getSlaves` unless the file could not be opened. -/
def readConfig (parse : String → Except String Json) (heap : Nat → FreshMemory)
    (filename : String) (file : Option String) : Except Fault (List EthercatSlave × String) := do
  let (config, error) ← loadConfig parse .null filename file
  if error ≠ "" then return ([], error)
  else getSlaves heap config

end PacketSniffer

end Kddv
