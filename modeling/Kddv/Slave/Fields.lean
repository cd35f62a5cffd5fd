import Kddv.Framework.JsonObject
import Kddv.Slave.Views

/-!
# The fields behind the views

All views of a slave are lists of the fields of its two records in declaration order: names,
units and printed values by position, and the published JSON object by name.
-/

namespace Kddv

open Framework

/-- The bytes of a field in its record. -/
def Scalar.bytes : Scalar → List UInt8
  | .uint16 value => Packed.layout.encode value
  | .uint32 value => Packed.layout.encode value
  | .uint64 value => Packed.layout.encode value
  | .float value => Packed.layout.encode value

/-- The field of type `α` with the given value. -/
abbrev scalar {α : Type} [ScalarType α] (value : α) : Scalar := ScalarType.scalar value

/-! ## Fields in declaration order -/

def Rxpdo1.fields (rx : Rxpdo1) : List Scalar :=
  [scalar rx.command1, scalar rx.command2, scalar rx.setpoint1, scalar rx.setpoint2,
   scalar rx.limit1P, scalar rx.limit1N, scalar rx.limit2P, scalar rx.limit2N,
   scalar rx.timestamp]

def Txpdo1.fields (tx : Txpdo1) : List Scalar :=
  [scalar tx.status1, scalar tx.status2, scalar tx.sensorTs, scalar tx.setpointTs,
   scalar tx.encoder1, scalar tx.velocity1, scalar tx.current1D, scalar tx.current1Q,
   scalar tx.current1U, scalar tx.current1V, scalar tx.current1W, scalar tx.voltage1,
   scalar tx.voltage1U, scalar tx.voltage1V, scalar tx.voltage1W, scalar tx.temperature1,
   scalar tx.encoder2, scalar tx.velocity2, scalar tx.current2D, scalar tx.current2Q,
   scalar tx.current2U, scalar tx.current2V, scalar tx.current2W, scalar tx.voltage2,
   scalar tx.voltage2U, scalar tx.voltage2V, scalar tx.voltage2W, scalar tx.temperature2,
   scalar tx.encoderPivot, scalar tx.velocityPivot, scalar tx.voltageBus, scalar tx.imuTs,
   scalar tx.accelX, scalar tx.accelY, scalar tx.accelZ, scalar tx.gyroX, scalar tx.gyroY,
   scalar tx.gyroZ, scalar tx.temperatureImu, scalar tx.pressure, scalar tx.currentIn]

def RobileMasterBatteryProcessDataOutput.fields (rx : RobileMasterBatteryProcessDataOutput) :
    List Scalar :=
  [scalar rx.command1, scalar rx.command2, scalar rx.shutdown, scalar rx.pwrDeviceId]

def RobileMasterBatteryProcessDataInput.fields (tx : RobileMasterBatteryProcessDataInput) :
    List Scalar :=
  [scalar tx.timeStamp, scalar tx.status, scalar tx.error, scalar tx.warning,
   scalar tx.outputCurrent, scalar tx.outputVoltage, scalar tx.outputPower,
   scalar tx.auxPortCurrent, scalar tx.genericData1, scalar tx.genericData2,
   scalar tx.bmsmPwrDeviceId, scalar tx.bmsmStatus, scalar tx.bmsmVoltage,
   scalar tx.bmsmCurrent, scalar tx.bmsmTemperature, scalar tx.bmsmSOC, scalar tx.bmsmSN,
   scalar tx.bmsmBatData1, scalar tx.bmsmBatData2]

def EcPdRx.fields (rx : EcPdRx) : List Scalar :=
  [scalar rx.command, scalar rx.bms1Command, scalar rx.bms2Command, scalar rx.neopixelRange1,
   scalar rx.neopixelColor1, scalar rx.neopixelRange2, scalar rx.neopixelColor2]

def EcPdTx.fields (tx : EcPdTx) : List Scalar :=
  [scalar tx.status, scalar tx.imuTs, scalar tx.accelX, scalar tx.accelY, scalar tx.accelZ,
   scalar tx.gyroX, scalar tx.gyroY, scalar tx.gyroZ, scalar tx.imuTemperature,
   scalar tx.pressure, scalar tx.chargeportVoltage, scalar tx.enableVoltage,
   scalar tx.neopixelVoltage, scalar tx.busVoltage, scalar tx.id1, scalar tx.status1,
   scalar tx.voltage1, scalar tx.current1, scalar tx.soc1, scalar tx.temperature1,
   scalar tx.cycles1, scalar tx.id2, scalar tx.status2, scalar tx.voltage2, scalar tx.current2,
   scalar tx.soc2, scalar tx.temperature2, scalar tx.cycles2]

namespace EthercatSlave

def rxFields : EthercatSlave → List Scalar
  | ⟨_, .keloDriveSlave, rx, _⟩ => Rxpdo1.fields rx
  | ⟨_, .robileBatterySlave, rx, _⟩ => RobileMasterBatteryProcessDataOutput.fields rx
  | ⟨_, .keloBMSSlave, rx, _⟩ => EcPdRx.fields rx

def txFields : EthercatSlave → List Scalar
  | ⟨_, .keloDriveSlave, _, tx⟩ => Txpdo1.fields tx
  | ⟨_, .robileBatterySlave, _, tx⟩ => RobileMasterBatteryProcessDataInput.fields tx
  | ⟨_, .keloBMSSlave, _, tx⟩ => EcPdTx.fields tx

/-- The fields follow each other in the record with no gap. -/
theorem rxFields_bytes (slave : EthercatSlave) :
    slave.rxFields.flatMap Scalar.bytes = slave.rxBytes := by
  obtain ⟨info, cls, rx, tx⟩ := slave
  cases cls <;>
    simp only [rxFields, Rxpdo1.fields, RobileMasterBatteryProcessDataOutput.fields,
      EcPdRx.fields, List.flatMap_cons, List.flatMap_nil, List.append_nil] <;> rfl

theorem txFields_bytes (slave : EthercatSlave) :
    slave.txFields.flatMap Scalar.bytes = slave.txBytes := by
  obtain ⟨info, cls, rx, tx⟩ := slave
  cases cls <;>
    simp only [txFields, Txpdo1.fields, RobileMasterBatteryProcessDataInput.fields,
      EcPdTx.fields, List.flatMap_cons, List.flatMap_nil, List.append_nil] <;> rfl

/-! ## The lists of the user interfaces -/

theorem getRxValues_eq (slave : EthercatSlave) :
    slave.getRxValues = slave.rxFields.map Scalar.print := by
  obtain ⟨info, cls, rx, tx⟩ := slave
  cases cls <;> rfl

theorem getTxValues_eq (slave : EthercatSlave) :
    slave.getTxValues = slave.txFields.map Scalar.print := by
  obtain ⟨info, cls, rx, tx⟩ := slave
  cases cls <;> rfl

theorem getRxVariables_length (slave : EthercatSlave) :
    slave.getRxVariables.length = slave.rxFields.length := by
  obtain ⟨info, cls, rx, tx⟩ := slave
  cases cls <;> rfl

theorem getTxVariables_length (slave : EthercatSlave) :
    slave.getTxVariables.length = slave.txFields.length := by
  obtain ⟨info, cls, rx, tx⟩ := slave
  cases cls <;> rfl

theorem getRxUnits_length (slave : EthercatSlave) :
    slave.getRxUnits.length = slave.rxFields.length := by
  obtain ⟨info, cls, rx, tx⟩ := slave
  cases cls <;> rfl

theorem getTxUnits_length (slave : EthercatSlave) :
    slave.getTxUnits.length = slave.txFields.length := by
  obtain ⟨info, cls, rx, tx⟩ := slave
  cases cls <;> rfl

theorem getRxVariables_nodup (slave : EthercatSlave) : slave.getRxVariables.Nodup := by
  unfold getRxVariables
  cases slave.cls <;> decide

theorem getTxVariables_nodup (slave : EthercatSlave) : slave.getTxVariables.Nodup := by
  unfold getTxVariables
  cases slave.cls <;> decide +kernel

/-! ## The published object -/

/-- A member for each name, holding the field at its position. -/
def fieldMembers (names : List String) (fields : List Scalar) : List (String × Json) :=
  names.zip (fields.map Scalar.json)

/-- The assignments of `convertToJson` run through the fields of both records. -/
theorem jsonMembers_eq (slave : EthercatSlave) :
    slave.jsonMembers =
      (fieldMembers slave.getRxVariables slave.rxFields).map (fun m => ("commands", m)) ++
        (fieldMembers slave.getTxVariables slave.txFields).map fun m => ("sensors", m) := by
  obtain ⟨info, cls, rx, tx⟩ := slave
  cases cls <;> rfl

private theorem assignMember_insertMember (outer key : String) (value : Json)
    (inner members : List (String × Json)) :
    assignMember (.object (Json.insertMember outer (.object inner) members)) outer key value =
      .object (Json.insertMember outer (.object (Json.insertMember key value inner)) members) := by
  simp only [assignMember, Json.member, Json.lookup_insertMember_self, Option.getD_some,
    Except.toOption, Json.setMember, Json.insertMember_insertMember]

private theorem foldl_assignMember (outer : String) (assignments inner members :
    List (String × Json)) :
    (assignments.map fun m => (outer, m)).foldl
        (fun data m => assignMember data m.1 m.2.1 m.2.2)
        (.object (Json.insertMember outer (.object inner) members)) =
      .object (Json.insertMember outer (.object (Json.insertMembers assignments inner))
        members) := by
  induction assignments generalizing inner with
  | nil => rfl
  | cons m assignments ih =>
    rw [List.map_cons, List.foldl_cons, assignMember_insertMember, ih]
    rfl

/-- The first assignment creates the inner object. -/
private theorem foldl_assignMember_new (outer : String) (assignments members :
    List (String × Json)) (hne : assignments ≠ []) (hnew : members.lookup outer = none) :
    (assignments.map fun m => (outer, m)).foldl
        (fun data m => assignMember data m.1 m.2.1 m.2.2) (.object members) =
      .object (Json.insertMember outer (.object (Json.insertMembers assignments []))
        members) := by
  cases assignments with
  | nil => exact absurd rfl hne
  | cons m assignments =>
    have hfirst : assignMember (.object members) outer m.1 m.2 =
        .object (Json.insertMember outer (.object [m]) members) := by
      simp only [assignMember, Json.member, hnew, Option.getD_none, Except.toOption,
        Option.getD_some, Json.setMember]
    rw [List.map_cons, List.foldl_cons, hfirst, foldl_assignMember]
    rfl

/-- The members of `commands`. -/
def commands (slave : EthercatSlave) : List (String × Json) :=
  Json.insertMembers (fieldMembers slave.getRxVariables slave.rxFields) []

/-- The members of `sensors`. -/
def sensors (slave : EthercatSlave) : List (String × Json) :=
  Json.insertMembers (fieldMembers slave.getTxVariables slave.txFields) []

theorem convertToJson_eq (slave : EthercatSlave) :
    slave.convertToJson .null =
      .object [("commands", .object slave.commands), ("sensors", .object slave.sensors)] := by
  have hrx : fieldMembers slave.getRxVariables slave.rxFields ≠ [] := by
    obtain ⟨info, cls, rx, tx⟩ := slave
    cases cls <;> exact List.cons_ne_nil _ _
  have htx : fieldMembers slave.getTxVariables slave.txFields ≠ [] := by
    obtain ⟨info, cls, rx, tx⟩ := slave
    cases cls <;> exact List.cons_ne_nil _ _
  have hnull : slave.convertToJson .null = slave.convertToJson (.object []) := by
    obtain ⟨info, cls, rx, tx⟩ := slave
    cases cls <;> rfl
  rw [hnull, convertToJson, jsonMembers_eq, List.foldl_append,
    foldl_assignMember_new "commands" _ [] hrx rfl, foldl_assignMember_new "sensors" _ _ htx rfl]
  rfl

/-- The names, units and printed values of one direction, and the members of its JSON object,
all describe the given fields in the given order. -/
structure ViewsAgree (names units values : List String) (members : List (String × Json))
    (fields : List Scalar) : Prop where
  names_nodup : names.Nodup
  names_length : names.length = fields.length
  units_length : units.length = fields.length
  values_length : values.length = fields.length
  value : ∀ i (h : i < fields.length), values[i]? = some (fields[i].print)
  stored : ∀ i (h : i < fields.length),
    ∃ name, names[i]? = some name ∧ members.lookup name = some (fields[i].json)
  no_other : (members.map Prod.fst).Perm names

private theorem fieldMembers_keys (names : List String) (fields : List Scalar)
    (h : names.length = fields.length) : (fieldMembers names fields).map Prod.fst = names := by
  rw [fieldMembers, List.map_fst_zip]
  rw [List.length_map, h]

private theorem viewsAgree (names units : List String) (fields : List Scalar)
    (hnodup : names.Nodup) (hnames : names.length = fields.length)
    (hunits : units.length = fields.length) :
    ViewsAgree names units (fields.map Scalar.print)
      (Json.insertMembers (fieldMembers names fields) []) fields := by
  have hkeys := fieldMembers_keys names fields hnames
  refine ⟨hnodup, hnames, hunits, List.length_map _, ?_, ?_, ?_⟩
  · intro i hi
    simp [hi]
  · intro i hi
    have hi' : i < names.length := by rwa [hnames]
    refine ⟨names[i], List.getElem?_eq_getElem hi', ?_⟩
    apply Json.lookup_insertMembers_of_mem
    · rwa [hkeys]
    · have hlength : i < (fieldMembers names fields).length := by
        simp [fieldMembers, hi, hi']
      have hget : (fieldMembers names fields)[i] = (names[i], fields[i].json) := by
        simp [fieldMembers]
      exact hget ▸ List.getElem_mem hlength
  · have hperm := Json.keys_insertMembers_perm Json.sorted_nil (fieldMembers names fields)
    rwa [hkeys, List.map_nil, List.append_nil, hnodup.dedup] at hperm

/-- For every slave, whatever its records hold. -/
theorem views_agree (slave : EthercatSlave) :
    slave.convertToJson .null =
        .object [("commands", .object slave.commands), ("sensors", .object slave.sensors)] ∧
      ViewsAgree slave.getRxVariables slave.getRxUnits slave.getRxValues slave.commands
        slave.rxFields ∧
      ViewsAgree slave.getTxVariables slave.getTxUnits slave.getTxValues slave.sensors
        slave.txFields ∧
      slave.rxFields.flatMap Scalar.bytes = slave.rxBytes ∧
      slave.txFields.flatMap Scalar.bytes = slave.txBytes := by
  refine ⟨slave.convertToJson_eq, ?_, ?_, slave.rxFields_bytes, slave.txFields_bytes⟩
  · rw [slave.getRxValues_eq]
    exact viewsAgree _ _ _ slave.getRxVariables_nodup slave.getRxVariables_length
      slave.getRxUnits_length
  · rw [slave.getTxValues_eq]
    exact viewsAgree _ _ _ slave.getTxVariables_nodup slave.getTxVariables_length
      slave.getTxUnits_length

end EthercatSlave

end Kddv
