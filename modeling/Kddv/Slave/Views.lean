import Kddv.Framework.Json
import Kddv.Slave.EthercatSlave

/-!
# Views of a slave

The names, units and printed values that the user interfaces list for a slave, and the JSON
object that is published for it. Each is a list of its own in the source.
-/

namespace Kddv

open Framework

/-- A field of a record, by its type in the source. -/
inductive Scalar
  | uint16 (value : UInt16)
  | uint32 (value : UInt32)
  | uint64 (value : UInt64)
  | float (value : CFloat)

class ScalarType (α : Type) where
  scalar : α → Scalar

instance : ScalarType UInt16 := ⟨.uint16⟩

instance : ScalarType UInt32 := ⟨.uint32⟩

instance : ScalarType UInt64 := ⟨.uint64⟩

instance : ScalarType CFloat := ⟨.float⟩

/-- The number denoted by a bit pattern, widened to `double`. -/
def CFloat.toDouble (value : CFloat) : Float := (Float32.ofBits value.bits).toFloat

def Scalar.print : Scalar → String
  | .uint16 value => toString value.toNat
  | .uint32 value => toString value.toNat
  | .uint64 value => toString value.toNat
  | .float value => toString value.toDouble

def Scalar.json : Scalar → Json
  | .uint16 value => .int value.toNat
  | .uint32 value => .int value.toNat
  | .uint64 value => .int value.toNat
  | .float value => .real value.toDouble

/-- `std::to_string` -/
def cppToString {α : Type} [ScalarType α] (value : α) : String := (ScalarType.scalar value).print

/-- Conversion to `Json::Value` in an assignment. -/
def toJson {α : Type} [ScalarType α] (value : α) : Json := (ScalarType.scalar value).json

/-! ## KeloDriveSlave -/

def KeloDriveSlave.rxVariables : List String :=
  ["command1", "command2", "setpoint1", "setpoint2", "limit1_p", "limit1_n", "limit2_p",
   "limit2_n", "timestamp"]

def KeloDriveSlave.rxUnits : List String :=
  ["", "", "", "", "", "", "", "", "[ns]"]

def KeloDriveSlave.txVariables : List String :=
  ["status1", "status2", "sensor_ts", "setpoint_ts", "encoder_1", "velocity_1", "current_1_d",
   "current_1_q", "current_1_u", "current_1_v", "current_1_w", "voltage_1", "voltage_1_u",
   "voltage_1_v", "voltage_1_w", "temperature_1", "encoder_2", "velocity_2", "current_2_d",
   "current_2_q", "current_2_u", "current_2_v", "current_2_w", "voltage_2", "voltage_2_u",
   "voltage_2_v", "voltage_2_w", "temperature_2", "encoder_pivot", "velocity_pivot",
   "voltage_bus", "imu_ts", "accel_x", "accel_y", "accel_z", "gyro_x", "gyro_y", "gyro_z",
   "temperature_imu", "pressure", "current_in"]

def KeloDriveSlave.txUnits : List String :=
  ["", "", "[ns]", "[ns]", "[rad]", "[rad/s]", "[A]", "[A]", "[A]", "[A]", "[A]", "[V]", "[V]",
   "[V]", "[V]", "[K]", "[rad]", "[rad/s]", "[A]", "[A]", "[A]", "[A]", "[A]", "[V]", "[V]",
   "[V]", "[V]", "[K]", "[rad]", "[rad/s]", "[V]", "[ns]", "[m/s^2]", "[m/s^2]", "[m/s^2]",
   "[rad/s]", "[rad/s]", "[rad/s]", "[K]", "[Pa]", "[A]"]

def KeloDriveSlave.getRxValues (rx : Rxpdo1) : List String :=
  [cppToString rx.command1, cppToString rx.command2, cppToString rx.setpoint1,
   cppToString rx.setpoint2, cppToString rx.limit1P, cppToString rx.limit1N,
   cppToString rx.limit2P, cppToString rx.limit2N, cppToString rx.timestamp]

def KeloDriveSlave.getTxValues (tx : Txpdo1) : List String :=
  [cppToString tx.status1, cppToString tx.status2, cppToString tx.sensorTs,
   cppToString tx.setpointTs, cppToString tx.encoder1, cppToString tx.velocity1,
   cppToString tx.current1D, cppToString tx.current1Q, cppToString tx.current1U,
   cppToString tx.current1V, cppToString tx.current1W, cppToString tx.voltage1,
   cppToString tx.voltage1U, cppToString tx.voltage1V, cppToString tx.voltage1W,
   cppToString tx.temperature1, cppToString tx.encoder2, cppToString tx.velocity2,
   cppToString tx.current2D, cppToString tx.current2Q, cppToString tx.current2U,
   cppToString tx.current2V, cppToString tx.current2W, cppToString tx.voltage2,
   cppToString tx.voltage2U, cppToString tx.voltage2V, cppToString tx.voltage2W,
   cppToString tx.temperature2, cppToString tx.encoderPivot, cppToString tx.velocityPivot,
   cppToString tx.voltageBus, cppToString tx.imuTs, cppToString tx.accelX, cppToString tx.accelY,
   cppToString tx.accelZ, cppToString tx.gyroX, cppToString tx.gyroY, cppToString tx.gyroZ,
   cppToString tx.temperatureImu, cppToString tx.pressure, cppToString tx.currentIn]

/-- The assignments of `convertToJson`, in the order of the source. -/
def KeloDriveSlave.jsonMembers (rx : Rxpdo1) (tx : Txpdo1) : List (String × String × Json) :=
  [("commands", "command1", toJson rx.command1), ("commands", "command2", toJson rx.command2),
   ("commands", "setpoint1", toJson rx.setpoint1), ("commands", "setpoint2", toJson rx.setpoint2),
   ("commands", "limit1_p", toJson rx.limit1P), ("commands", "limit1_n", toJson rx.limit1N),
   ("commands", "limit2_p", toJson rx.limit2P), ("commands", "limit2_n", toJson rx.limit2N),
   ("commands", "timestamp", toJson rx.timestamp), ("sensors", "status1", toJson tx.status1),
   ("sensors", "status2", toJson tx.status2), ("sensors", "sensor_ts", toJson tx.sensorTs),
   ("sensors", "setpoint_ts", toJson tx.setpointTs), ("sensors", "encoder_1", toJson tx.encoder1),
   ("sensors", "velocity_1", toJson tx.velocity1),
   ("sensors", "current_1_d", toJson tx.current1D),
   ("sensors", "current_1_q", toJson tx.current1Q),
   ("sensors", "current_1_u", toJson tx.current1U),
   ("sensors", "current_1_v", toJson tx.current1V),
   ("sensors", "current_1_w", toJson tx.current1W), ("sensors", "voltage_1", toJson tx.voltage1),
   ("sensors", "voltage_1_u", toJson tx.voltage1U),
   ("sensors", "voltage_1_v", toJson tx.voltage1V),
   ("sensors", "voltage_1_w", toJson tx.voltage1W),
   ("sensors", "temperature_1", toJson tx.temperature1),
   ("sensors", "encoder_2", toJson tx.encoder2), ("sensors", "velocity_2", toJson tx.velocity2),
   ("sensors", "current_2_d", toJson tx.current2D),
   ("sensors", "current_2_q", toJson tx.current2Q),
   ("sensors", "current_2_u", toJson tx.current2U),
   ("sensors", "current_2_v", toJson tx.current2V),
   ("sensors", "current_2_w", toJson tx.current2W), ("sensors", "voltage_2", toJson tx.voltage2),
   ("sensors", "voltage_2_u", toJson tx.voltage2U),
   ("sensors", "voltage_2_v", toJson tx.voltage2V),
   ("sensors", "voltage_2_w", toJson tx.voltage2W),
   ("sensors", "temperature_2", toJson tx.temperature2),
   ("sensors", "encoder_pivot", toJson tx.encoderPivot),
   ("sensors", "velocity_pivot", toJson tx.velocityPivot),
   ("sensors", "voltage_bus", toJson tx.voltageBus), ("sensors", "imu_ts", toJson tx.imuTs),
   ("sensors", "accel_x", toJson tx.accelX), ("sensors", "accel_y", toJson tx.accelY),
   ("sensors", "accel_z", toJson tx.accelZ), ("sensors", "gyro_x", toJson tx.gyroX),
   ("sensors", "gyro_y", toJson tx.gyroY), ("sensors", "gyro_z", toJson tx.gyroZ),
   ("sensors", "temperature_imu", toJson tx.temperatureImu),
   ("sensors", "pressure", toJson tx.pressure), ("sensors", "current_in", toJson tx.currentIn)]

/-! ## RobileBatterySlave -/

def RobileBatterySlave.rxVariables : List String :=
  ["command1", "command2", "shutdown", "pwr_device_id"]

def RobileBatterySlave.rxUnits : List String :=
  ["", "", "", ""]

def RobileBatterySlave.txVariables : List String :=
  ["timestamp", "status", "error", "warning", "output_current", "output_voltage", "output_power",
   "aux_port_current", "generic_data1", "generic_data2", "bmsm_pwr_device_id", "bmsm_status",
   "bmsm_voltage", "bmsm_current", "bmsm_temperature", "bmsm_soc", "bmsm_sn", "bmsm_bat_data1",
   "bmsm_bat_data2"]

def RobileBatterySlave.txUnits : List String :=
  ["[ms]", "", "", "", "[A]", "[V]", "[W]", "[A]", "", "", "", "", "[V]", "[A]", "[K]", "", "",
   "", ""]

def RobileBatterySlave.getRxValues (rx : RobileMasterBatteryProcessDataOutput) : List String :=
  [cppToString rx.command1, cppToString rx.command2, cppToString rx.shutdown,
   cppToString rx.pwrDeviceId]

def RobileBatterySlave.getTxValues (tx : RobileMasterBatteryProcessDataInput) : List String :=
  [cppToString tx.timeStamp, cppToString tx.status, cppToString tx.error, cppToString tx.warning,
   cppToString tx.outputCurrent, cppToString tx.outputVoltage, cppToString tx.outputPower,
   cppToString tx.auxPortCurrent, cppToString tx.genericData1, cppToString tx.genericData2,
   cppToString tx.bmsmPwrDeviceId, cppToString tx.bmsmStatus, cppToString tx.bmsmVoltage,
   cppToString tx.bmsmCurrent, cppToString tx.bmsmTemperature, cppToString tx.bmsmSOC,
   cppToString tx.bmsmSN, cppToString tx.bmsmBatData1, cppToString tx.bmsmBatData2]

/-- The assignments of `convertToJson`, in the order of the source. -/
def RobileBatterySlave.jsonMembers (rx : RobileMasterBatteryProcessDataOutput)
    (tx : RobileMasterBatteryProcessDataInput) : List (String × String × Json) :=
  [("commands", "command1", toJson rx.command1), ("commands", "command2", toJson rx.command2),
   ("commands", "shutdown", toJson rx.shutdown),
   ("commands", "pwr_device_id", toJson rx.pwrDeviceId),
   ("sensors", "timestamp", toJson tx.timeStamp), ("sensors", "status", toJson tx.status),
   ("sensors", "error", toJson tx.error), ("sensors", "warning", toJson tx.warning),
   ("sensors", "output_current", toJson tx.outputCurrent),
   ("sensors", "output_voltage", toJson tx.outputVoltage),
   ("sensors", "output_power", toJson tx.outputPower),
   ("sensors", "aux_port_current", toJson tx.auxPortCurrent),
   ("sensors", "generic_data1", toJson tx.genericData1),
   ("sensors", "generic_data2", toJson tx.genericData2),
   ("sensors", "bmsm_pwr_device_id", toJson tx.bmsmPwrDeviceId),
   ("sensors", "bmsm_status", toJson tx.bmsmStatus),
   ("sensors", "bmsm_voltage", toJson tx.bmsmVoltage),
   ("sensors", "bmsm_current", toJson tx.bmsmCurrent),
   ("sensors", "bmsm_temperature", toJson tx.bmsmTemperature),
   ("sensors", "bmsm_soc", toJson tx.bmsmSOC), ("sensors", "bmsm_sn", toJson tx.bmsmSN),
   ("sensors", "bmsm_bat_data1", toJson tx.bmsmBatData1),
   ("sensors", "bmsm_bat_data2", toJson tx.bmsmBatData2)]

/-! ## KeloBMSSlave -/

def KeloBMSSlave.rxVariables : List String :=
  ["command", "bms1_command", "bms2_command", "neopixel_range1", "neopixel_color1",
   "neopixel_range2", "neopixel_color2"]

def KeloBMSSlave.rxUnits : List String :=
  ["", "", "", "", "", "", ""]

def KeloBMSSlave.txVariables : List String :=
  ["status", "imu_ts", "accel_x", "accel_y", "accel_z", "gyro_x", "gyro_y", "gyro_z",
   "imu_temperature", "pressure", "chargeport_voltage", "enable_voltage", "neopixel_voltage",
   "bus_voltage", "id1", "status1", "voltage1", "current1", "soc1", "temperature1", "cycles1",
   "id2", "status2", "voltage2", "current2", "soc2", "temperature2", "cycles2"]

def KeloBMSSlave.txUnits : List String :=
  ["", "[ns]", "[m/s^2]", "[m/s^2]", "[m/s^2]", "[rad/s]", "[rad/s]", "[rad/s]", "[K]", "[Pa]",
   "[V]", "[V]", "[V]", "[V]", "", "", "[V]", "[A]", "", "[K]", "", "", "", "[V]", "[A]", "",
   "[K]", ""]

def KeloBMSSlave.getRxValues (rx : EcPdRx) : List String :=
  [cppToString rx.command, cppToString rx.bms1Command, cppToString rx.bms2Command,
   cppToString rx.neopixelRange1, cppToString rx.neopixelColor1, cppToString rx.neopixelRange2,
   cppToString rx.neopixelColor2]

def KeloBMSSlave.getTxValues (tx : EcPdTx) : List String :=
  [cppToString tx.status, cppToString tx.imuTs, cppToString tx.accelX, cppToString tx.accelY,
   cppToString tx.accelZ, cppToString tx.gyroX, cppToString tx.gyroY, cppToString tx.gyroZ,
   cppToString tx.imuTemperature, cppToString tx.pressure, cppToString tx.chargeportVoltage,
   cppToString tx.enableVoltage, cppToString tx.neopixelVoltage, cppToString tx.busVoltage,
   cppToString tx.id1, cppToString tx.status1, cppToString tx.voltage1, cppToString tx.current1,
   cppToString tx.soc1, cppToString tx.temperature1, cppToString tx.cycles1, cppToString tx.id2,
   cppToString tx.status2, cppToString tx.voltage2, cppToString tx.current2, cppToString tx.soc2,
   cppToString tx.temperature2, cppToString tx.cycles2]

/-- The assignments of `convertToJson`, in the order of the source. -/
def KeloBMSSlave.jsonMembers (rx : EcPdRx) (tx : EcPdTx) : List (String × String × Json) :=
  [("commands", "command", toJson rx.command),
   ("commands", "bms1_command", toJson rx.bms1Command),
   ("commands", "bms2_command", toJson rx.bms2Command),
   ("commands", "neopixel_range1", toJson rx.neopixelRange1),
   ("commands", "neopixel_color1", toJson rx.neopixelColor1),
   ("commands", "neopixel_range2", toJson rx.neopixelRange2),
   ("commands", "neopixel_color2", toJson rx.neopixelColor2),
   ("sensors", "status", toJson tx.status), ("sensors", "imu_ts", toJson tx.imuTs),
   ("sensors", "accel_x", toJson tx.accelX), ("sensors", "accel_y", toJson tx.accelY),
   ("sensors", "accel_z", toJson tx.accelZ), ("sensors", "gyro_x", toJson tx.gyroX),
   ("sensors", "gyro_y", toJson tx.gyroY), ("sensors", "gyro_z", toJson tx.gyroZ),
   ("sensors", "imu_temperature", toJson tx.imuTemperature),
   ("sensors", "pressure", toJson tx.pressure),
   ("sensors", "chargeport_voltage", toJson tx.chargeportVoltage),
   ("sensors", "enable_voltage", toJson tx.enableVoltage),
   ("sensors", "neopixel_voltage", toJson tx.neopixelVoltage),
   ("sensors", "bus_voltage", toJson tx.busVoltage), ("sensors", "id1", toJson tx.id1),
   ("sensors", "status1", toJson tx.status1), ("sensors", "voltage1", toJson tx.voltage1),
   ("sensors", "current1", toJson tx.current1), ("sensors", "soc1", toJson tx.soc1),
   ("sensors", "temperature1", toJson tx.temperature1), ("sensors", "cycles1", toJson tx.cycles1),
   ("sensors", "id2", toJson tx.id2), ("sensors", "status2", toJson tx.status2),
   ("sensors", "voltage2", toJson tx.voltage2), ("sensors", "current2", toJson tx.current2),
   ("sensors", "soc2", toJson tx.soc2), ("sensors", "temperature2", toJson tx.temperature2),
   ("sensors", "cycles2", toJson tx.cycles2)]

/-! ## The virtual methods -/

namespace EthercatSlave

def getRxVariables (slave : EthercatSlave) : List String :=
  match slave.cls with
  | .keloDriveSlave => KeloDriveSlave.rxVariables
  | .robileBatterySlave => RobileBatterySlave.rxVariables
  | .keloBMSSlave => KeloBMSSlave.rxVariables

def getTxVariables (slave : EthercatSlave) : List String :=
  match slave.cls with
  | .keloDriveSlave => KeloDriveSlave.txVariables
  | .robileBatterySlave => RobileBatterySlave.txVariables
  | .keloBMSSlave => KeloBMSSlave.txVariables

def getRxUnits (slave : EthercatSlave) : List String :=
  match slave.cls with
  | .keloDriveSlave => KeloDriveSlave.rxUnits
  | .robileBatterySlave => RobileBatterySlave.rxUnits
  | .keloBMSSlave => KeloBMSSlave.rxUnits

def getTxUnits (slave : EthercatSlave) : List String :=
  match slave.cls with
  | .keloDriveSlave => KeloDriveSlave.txUnits
  | .robileBatterySlave => RobileBatterySlave.txUnits
  | .keloBMSSlave => KeloBMSSlave.txUnits

def getRxValues : EthercatSlave → List String
  | ⟨_, .keloDriveSlave, rx, _⟩ => KeloDriveSlave.getRxValues rx
  | ⟨_, .robileBatterySlave, rx, _⟩ => RobileBatterySlave.getRxValues rx
  | ⟨_, .keloBMSSlave, rx, _⟩ => KeloBMSSlave.getRxValues rx

def getTxValues : EthercatSlave → List String
  | ⟨_, .keloDriveSlave, _, tx⟩ => KeloDriveSlave.getTxValues tx
  | ⟨_, .robileBatterySlave, _, tx⟩ => RobileBatterySlave.getTxValues tx
  | ⟨_, .keloBMSSlave, _, tx⟩ => KeloBMSSlave.getTxValues tx

def jsonMembers : EthercatSlave → List (String × String × Json)
  | ⟨_, .keloDriveSlave, rx, tx⟩ => KeloDriveSlave.jsonMembers rx tx
  | ⟨_, .robileBatterySlave, rx, tx⟩ => RobileBatterySlave.jsonMembers rx tx
  | ⟨_, .keloBMSSlave, rx, tx⟩ => KeloBMSSlave.jsonMembers rx tx

/-- `data[outer][inner] = value` -/
def assignMember (data : Json) (outer inner : String) (value : Json) : Json :=
  let object := (data.member outer).toOption.getD .null
  data.setMember outer (object.setMember inner value)

def convertToJson (slave : EthercatSlave) (data : Json) : Json :=
  slave.jsonMembers.foldl (fun data m => assignMember data m.1 m.2.1 m.2.2) data

end EthercatSlave

/-- The published document. `millisecSinceEpoch` is the clock reading. -/
def convertToJson (millisecSinceEpoch : Int) (slaves : List EthercatSlave) : Json :=
  let root := Json.null.setMember "timestamp" (.real (Float.ofInt millisecSinceEpoch / 1000.0))
  slaves.foldl (fun root slave =>
    root.setMember (slave.slaveInfo.name ++ " " ++ toString slave.slaveInfo.slaveNumber)
      (slave.convertToJson .null)) root

end Kddv
