import Kddv.Framework.PackedStruct

/-!
# Process data records

The packed structures that the three kinds of slave exchange with the master. RX records
are the commands sent to a slave, TX records the sensor values it returns.
-/

namespace Kddv

open Framework

/-- A C `float`, as its 32-bit pattern. Copying never looks at the number it denotes. -/
structure CFloat where
  bits : UInt32

instance : Packed CFloat := .ofFields ⟨CFloat.bits, CFloat.mk, fun _ => rfl, fun _ => rfl⟩

/-- Commands of a KELO drive (`rxpdo1_t`). -/
structure Rxpdo1 where
  (command1 command2 : UInt16)
  (setpoint1 setpoint2 limit1P limit1N limit2P limit2N : CFloat)
  timestamp : UInt64

instance : Packed Rxpdo1 := .ofFields
  { toFun := fun r => (r.command1, r.command2, r.setpoint1, r.setpoint2, r.limit1P,
      r.limit1N, r.limit2P, r.limit2N, r.timestamp)
    invFun := fun (command1, command2, setpoint1, setpoint2, limit1P, limit1N, limit2P,
      limit2N, timestamp) =>
      ⟨command1, command2, setpoint1, setpoint2, limit1P, limit1N, limit2P, limit2N, timestamp⟩
    left_inv := fun _ => rfl
    right_inv := fun _ => rfl }

/-- Sensor values of a KELO drive (`txpdo1_t`). -/
structure Txpdo1 where
  (status1 status2 : UInt16)
  (sensorTs setpointTs : UInt64)
  (encoder1 velocity1 current1D current1Q current1U current1V current1W voltage1 : CFloat)
  (voltage1U voltage1V voltage1W temperature1 encoder2 velocity2 current2D current2Q : CFloat)
  (current2U current2V current2W voltage2 voltage2U voltage2V voltage2W temperature2 : CFloat)
  (encoderPivot velocityPivot voltageBus : CFloat)
  imuTs : UInt64
  (accelX accelY accelZ gyroX gyroY gyroZ temperatureImu pressure currentIn : CFloat)

instance : Packed Txpdo1 := .ofFields
  { toFun := fun r => (r.status1, r.status2, r.sensorTs, r.setpointTs, r.encoder1,
      r.velocity1, r.current1D, r.current1Q, r.current1U, r.current1V, r.current1W, r.voltage1,
      r.voltage1U, r.voltage1V, r.voltage1W, r.temperature1, r.encoder2, r.velocity2,
      r.current2D, r.current2Q, r.current2U, r.current2V, r.current2W, r.voltage2, r.voltage2U,
      r.voltage2V, r.voltage2W, r.temperature2, r.encoderPivot, r.velocityPivot, r.voltageBus,
      r.imuTs, r.accelX, r.accelY, r.accelZ, r.gyroX, r.gyroY, r.gyroZ, r.temperatureImu,
      r.pressure, r.currentIn)
    invFun := fun (status1, status2, sensorTs, setpointTs, encoder1, velocity1, current1D,
      current1Q, current1U, current1V, current1W, voltage1, voltage1U, voltage1V, voltage1W,
      temperature1, encoder2, velocity2, current2D, current2Q, current2U, current2V, current2W,
      voltage2, voltage2U, voltage2V, voltage2W, temperature2, encoderPivot, velocityPivot,
      voltageBus, imuTs, accelX, accelY, accelZ, gyroX, gyroY, gyroZ, temperatureImu, pressure,
      currentIn) =>
      ⟨status1, status2, sensorTs, setpointTs, encoder1, velocity1, current1D, current1Q,
        current1U, current1V, current1W, voltage1, voltage1U, voltage1V, voltage1W,
        temperature1, encoder2, velocity2, current2D, current2Q, current2U, current2V,
        current2W, voltage2, voltage2U, voltage2V, voltage2W, temperature2, encoderPivot,
        velocityPivot, voltageBus, imuTs, accelX, accelY, accelZ, gyroX, gyroY, gyroZ,
        temperatureImu, pressure, currentIn⟩
    left_inv := fun _ => rfl
    right_inv := fun _ => rfl }

/-- Commands of the Robile battery module. -/
structure RobileMasterBatteryProcessDataOutput where
  (command1 command2 : UInt32)
  (shutdown pwrDeviceId : UInt16)

instance : Packed RobileMasterBatteryProcessDataOutput := .ofFields
  { toFun := fun r => (r.command1, r.command2, r.shutdown, r.pwrDeviceId)
    invFun := fun (command1, command2, shutdown, pwrDeviceId) =>
      ⟨command1, command2, shutdown, pwrDeviceId⟩
    left_inv := fun _ => rfl
    right_inv := fun _ => rfl }

/-- Sensor values of the Robile battery module. -/
structure RobileMasterBatteryProcessDataInput where
  timeStamp : UInt64
  (status error warning : UInt16)
  (outputCurrent outputVoltage outputPower auxPortCurrent genericData1 : CFloat)
  genericData2 : UInt32
  (bmsmPwrDeviceId bmsmStatus : UInt16)
  (bmsmVoltage bmsmCurrent bmsmTemperature : CFloat)
  bmsmSOC : UInt16
  (bmsmSN bmsmBatData1 : UInt32)
  bmsmBatData2 : CFloat

instance : Packed RobileMasterBatteryProcessDataInput := .ofFields
  { toFun := fun r => (r.timeStamp, r.status, r.error, r.warning, r.outputCurrent,
      r.outputVoltage, r.outputPower, r.auxPortCurrent, r.genericData1, r.genericData2,
      r.bmsmPwrDeviceId, r.bmsmStatus, r.bmsmVoltage, r.bmsmCurrent, r.bmsmTemperature,
      r.bmsmSOC, r.bmsmSN, r.bmsmBatData1, r.bmsmBatData2)
    invFun := fun (timeStamp, status, error, warning, outputCurrent, outputVoltage,
      outputPower, auxPortCurrent, genericData1, genericData2, bmsmPwrDeviceId, bmsmStatus,
      bmsmVoltage, bmsmCurrent, bmsmTemperature, bmsmSOC, bmsmSN, bmsmBatData1, bmsmBatData2) =>
      ⟨timeStamp, status, error, warning, outputCurrent, outputVoltage, outputPower,
        auxPortCurrent, genericData1, genericData2, bmsmPwrDeviceId, bmsmStatus, bmsmVoltage,
        bmsmCurrent, bmsmTemperature, bmsmSOC, bmsmSN, bmsmBatData1, bmsmBatData2⟩
    left_inv := fun _ => rfl
    right_inv := fun _ => rfl }

/-- Commands of the power distribution board (`EcPd_rx`). -/
structure EcPdRx where
  command : UInt32
  (bms1Command bms2Command neopixelRange1 : UInt16)
  neopixelColor1 : UInt32
  neopixelRange2 : UInt16
  neopixelColor2 : UInt32

instance : Packed EcPdRx := .ofFields
  { toFun := fun r => (r.command, r.bms1Command, r.bms2Command, r.neopixelRange1,
      r.neopixelColor1, r.neopixelRange2, r.neopixelColor2)
    invFun := fun (command, bms1Command, bms2Command, neopixelRange1, neopixelColor1,
      neopixelRange2, neopixelColor2) =>
      ⟨command, bms1Command, bms2Command, neopixelRange1, neopixelColor1, neopixelRange2,
        neopixelColor2⟩
    left_inv := fun _ => rfl
    right_inv := fun _ => rfl }

/-- Sensor values of the power distribution board (`EcPd_tx`). -/
structure EcPdTx where
  status : UInt32
  imuTs : UInt64
  (accelX accelY accelZ gyroX gyroY gyroZ imuTemperature pressure chargeportVoltage : CFloat)
  (enableVoltage neopixelVoltage busVoltage : CFloat)
  id1 : UInt32
  status1 : UInt16
  (voltage1 current1 soc1 temperature1 cycles1 : CFloat)
  id2 : UInt32
  status2 : UInt16
  (voltage2 current2 soc2 temperature2 cycles2 : CFloat)

instance : Packed EcPdTx := .ofFields
  { toFun := fun r => (r.status, r.imuTs, r.accelX, r.accelY, r.accelZ, r.gyroX, r.gyroY,
      r.gyroZ, r.imuTemperature, r.pressure, r.chargeportVoltage, r.enableVoltage,
      r.neopixelVoltage, r.busVoltage, r.id1, r.status1, r.voltage1, r.current1, r.soc1,
      r.temperature1, r.cycles1, r.id2, r.status2, r.voltage2, r.current2, r.soc2,
      r.temperature2, r.cycles2)
    invFun := fun (status, imuTs, accelX, accelY, accelZ, gyroX, gyroY, gyroZ,
      imuTemperature, pressure, chargeportVoltage, enableVoltage, neopixelVoltage, busVoltage,
      id1, status1, voltage1, current1, soc1, temperature1, cycles1, id2, status2, voltage2,
      current2, soc2, temperature2, cycles2) =>
      ⟨status, imuTs, accelX, accelY, accelZ, gyroX, gyroY, gyroZ, imuTemperature, pressure,
        chargeportVoltage, enableVoltage, neopixelVoltage, busVoltage, id1, status1, voltage1,
        current1, soc1, temperature1, cycles1, id2, status2, voltage2, current2, soc2,
        temperature2, cycles2⟩
    left_inv := fun _ => rfl
    right_inv := fun _ => rfl }

end Kddv
