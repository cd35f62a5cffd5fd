import Kddv.Bus.SlaveTable

/-!
# The config file generator

`get_info` of `generate_config_file`: the JSON document that describes the supported slaves
of a bus. The offsets found by `si_map_sdo` for each slave are an input here.
-/

namespace Kddv

open Framework

/-- The chain of `strcmp` calls that selects the slaves to be written. -/
def isConfigured (name : String) : Bool :=
  name = "SWMC" || name = "KELO_ROBILE" || name = "KELOD105" || name = "KeloEcPd"

/-- `slave_info` for the slave at index `cnt`. -/
def slaveInfoJson (siMapSdo : Nat → CInt × CInt) (entry : EcSlave × Nat) : Json :=
  Json.null
    |>.setMember "Name" (.string entry.1.name)
    |>.setMember "Slave ID" (.int entry.2)
    |>.setMember "EEP Man" (.int entry.1.eepMan.toNat)
    |>.setMember "EEP ID" (.int entry.1.eepId.toNat)
    |>.setMember "EEP Rev" (.int entry.1.eepRev.toNat)
    |>.setMember "Address" (.int entry.1.configadr.toNat)
    |>.setMember "RX start offset" (.int (siMapSdo entry.2).1)
    |>.setMember "TX start offset" (.int (siMapSdo entry.2).2)

/-- The entries of the table that are written. -/
def configuredEntries (table : SlaveTable) : List (EcSlave × Nat) :=
  table.entries.filter fun entry => isConfigured entry.1.name

/-- A bus that is not in SAFE_OP is reported and read all the same. -/
def getInfo (siMapSdo : Nat → CInt × CInt) (bus : BusInit) : Json :=
  let root := Json.null.setMember "Slaves" (.array [])
  if bus.initOk then
    if bus.configCount > 0 then
      root.setMember "Slaves" (.array ((configuredEntries bus.table).map (slaveInfoJson siMapSdo)))
    else root
  else root

/-- The members of `slave_info` in key order. -/
theorem slaveInfoJson_eq (siMapSdo : Nat → CInt × CInt) (entry : EcSlave × Nat) :
    slaveInfoJson siMapSdo entry = .object
      [("Address", .int entry.1.configadr.toNat), ("EEP ID", .int entry.1.eepId.toNat),
        ("EEP Man", .int entry.1.eepMan.toNat), ("EEP Rev", .int entry.1.eepRev.toNat),
        ("Name", .string entry.1.name), ("RX start offset", .int (siMapSdo entry.2).1),
        ("Slave ID", .int entry.2), ("TX start offset", .int (siMapSdo entry.2).2)] := rfl

theorem getInfo_eq (siMapSdo : Nat → CInt × CInt) (bus : BusInit) (hinit : bus.initOk = true)
    (hcount : bus.configCount > 0) :
    getInfo siMapSdo bus = .object
      [("Slaves", .array ((configuredEntries bus.table).map (slaveInfoJson siMapSdo)))] := by
  rw [getInfo, if_pos hinit, if_pos hcount]
  rfl

end Kddv
