import Kddv.Slave.Fields

/-!
# Bits of status and command words

Some 16-bit fields are shown bit by bit. The masks are those of the device headers; the bit
table below says which bit each of the shown names stands for.
-/

namespace Kddv

/-! ## Bit definitions of the headers -/

def com1Enable1 : UInt16 := 0x0001

def com1Enable2 : UInt16 := 0x0002

def com1ModeTorque : UInt16 := (0x0 : UInt16) <<< 2

def com1ModeDtorque : UInt16 := (0x1 : UInt16) <<< 2

def com1ModeVelocity : UInt16 := (0x2 : UInt16) <<< 2

def com1ModeDvelocity : UInt16 := (0x3 : UInt16) <<< 2

def com1Emergency1 : UInt16 := 0x0010

def com1Emergency2 : UInt16 := 0x0020

def com1Enableservo : UInt16 := 0x0400

def com1Servoclose : UInt16 := 0x0800

def com1UseTs : UInt16 := 0x8000

def stat1Enabled1 : UInt16 := 0x0001

def stat1Enabled2 : UInt16 := 0x0002

def stat1Enc1Ok : UInt16 := 0x0004

def stat1Enc2Ok : UInt16 := 0x0008

def stat1EncPivotOk : UInt16 := 0x0010

def stat1Undervoltage : UInt16 := 0x0020

def stat1Overvoltage : UInt16 := 0x0040

def stat1Overcurrent1 : UInt16 := 0x0080

def stat1Overcurrent2 : UInt16 := 0x0100

def stat1Overtemp1 : UInt16 := 0x0200

def stat1Overtemp2 : UInt16 := 0x0400

def stat1EnabledGrip : UInt16 := 0x0800

def stat1InposGrip : UInt16 := 0x1000

def stat1OverloadGrip : UInt16 := 0x2000

def stat1Detect : UInt16 := 0x4000

/-- `std::to_string((data & mask) >> shift)` -/
def maskedBit (data mask shift : UInt16) : String := toString ((data &&& mask) >>> shift).toNat

/-! ## parseBits -/

def KeloDriveSlave.areBitsParsable (varName : String) : Bool :=
  varName = "command1" || varName = "status1"

/-- The values of the four modes. -/
def KeloDriveSlave.modeValues (data : UInt16) : List String :=
  let mode := data &&& ((0x3 : UInt16) <<< 2)
  if mode = com1ModeTorque then ["1", "0", "0", "0"]
  else if mode = com1ModeDtorque then ["0", "1", "0", "0"]
  else if mode = com1ModeVelocity then ["0", "0", "1", "0"]
  else if mode = com1ModeDvelocity then ["0", "0", "0", "1"]
  else ["0", "0", "0", "0"]

/-- The names and the values, as they are pushed to the two vectors. -/
def KeloDriveSlave.parseBits (data : UInt16) (varName : String) : List String × List String :=
  if varName = "command1" then
    (["ENABLE1", "ENABLE2", "MODE_TORQUE", "MODE_DTORQUE", "MODE_VELOCITY", "MODE_DVELOCITY",
      "EMERGENCY1", "EMERGENCY2", "ENABLESERVO", "SERVOCLOSE", "USE_TS"],
    [maskedBit data com1Enable1 0, maskedBit data com1Enable2 1] ++ modeValues data ++
      [maskedBit data com1Emergency1 4, maskedBit data com1Emergency2 5,
        maskedBit data com1Enableservo 10, maskedBit data com1Servoclose 11,
        maskedBit data com1UseTs 15])
  else if varName = "status1" then
    (["ENABLED1", "ENABLED2", "ENC_1_OK", "ENC_2_OK", "ENC_PIVOT_OK", "UNDERVOLTAGE",
      "OVERVOLTAGE", "OVERCURRENT_1", "OVERCURRENT_2", "OVERTEMP_1", "OVERTEMP_2",
      "ENABLED_GRIP", "INPOS_GRIP", "OVERLOAD_GRIP", "DETECT"],
    [maskedBit data stat1Enabled1 0, maskedBit data stat1Enabled2 1,
      maskedBit data stat1Enc1Ok 2, maskedBit data stat1Enc2Ok 3,
      maskedBit data stat1EncPivotOk 4, maskedBit data stat1Undervoltage 5,
      maskedBit data stat1Overvoltage 6, maskedBit data stat1Overcurrent1 7,
      maskedBit data stat1Overcurrent2 8, maskedBit data stat1Overtemp1 9,
      maskedBit data stat1Overtemp2 10, maskedBit data stat1EnabledGrip 11,
      maskedBit data stat1InposGrip 12, maskedBit data stat1OverloadGrip 13,
      maskedBit data stat1Detect 14])
  else ([], [])

def RobileBatterySlave.areBitsParsable (varName : String) : Bool :=
  varName = "error" || varName = "warning"

def RobileBatterySlave.parseBits (data : UInt16) (varName : String) :
    List String × List String :=
  if varName = "error" then
    (["Low Battery", "Empty Frame", "Wrong Frame", "Wrong Charger", "Overload CHG",
      "Over current", "Watchdog"],
    [maskedBit data 0x0001 0, maskedBit data 0x0002 1, maskedBit data 0x0004 2,
      maskedBit data 0x0008 3, maskedBit data 0x0010 4, maskedBit data 0x0020 5,
      maskedBit data 0x0040 6])
  else if varName = "warning" then
    (["Over current", "Shutdown"], [maskedBit data 0x0001 0, maskedBit data 0x0002 1])
  else ([], [])

namespace EthercatSlave

def areBitsParsable (slave : EthercatSlave) (varName : String) : Bool :=
  match slave.cls with
  | .keloDriveSlave => KeloDriveSlave.areBitsParsable varName
  | .robileBatterySlave => RobileBatterySlave.areBitsParsable varName
  | .keloBMSSlave => false

/-- `vars` and `vals` are the vectors before the call. The BMS leaves them as they are. -/
def parseBits (slave : EthercatSlave) (data : UInt16) (varName : String)
    (vars vals : List String) : List String × List String :=
  match slave.cls with
  | .keloDriveSlave => KeloDriveSlave.parseBits data varName
  | .robileBatterySlave => RobileBatterySlave.parseBits data varName
  | .keloBMSSlave => (vars, vals)

end EthercatSlave

/-! ## The bits that are shown -/

/-- The shown names of a word with their meaning. The modes are the four values of bits 2 and 3;
every other name stands for a single bit. -/
def bitTable (cls : SlaveClass) (varName : String) : List (String × (UInt16 → Bool)) :=
  let bit (k : Nat) (data : UInt16) : Bool := data.toNat.testBit k
  match cls with
  | .keloDriveSlave =>
    if varName = "command1" then
      [("ENABLE1", bit 0), ("ENABLE2", bit 1),
        ("MODE_TORQUE", fun data => !bit 3 data && !bit 2 data),
        ("MODE_DTORQUE", fun data => !bit 3 data && bit 2 data),
        ("MODE_VELOCITY", fun data => bit 3 data && !bit 2 data),
        ("MODE_DVELOCITY", fun data => bit 3 data && bit 2 data),
        ("EMERGENCY1", bit 4), ("EMERGENCY2", bit 5), ("ENABLESERVO", bit 10),
        ("SERVOCLOSE", bit 11), ("USE_TS", bit 15)]
    else if varName = "status1" then
      [("ENABLED1", bit 0), ("ENABLED2", bit 1), ("ENC_1_OK", bit 2), ("ENC_2_OK", bit 3),
        ("ENC_PIVOT_OK", bit 4), ("UNDERVOLTAGE", bit 5), ("OVERVOLTAGE", bit 6),
        ("OVERCURRENT_1", bit 7), ("OVERCURRENT_2", bit 8), ("OVERTEMP_1", bit 9),
        ("OVERTEMP_2", bit 10), ("ENABLED_GRIP", bit 11), ("INPOS_GRIP", bit 12),
        ("OVERLOAD_GRIP", bit 13), ("DETECT", bit 14)]
    else []
  | .robileBatterySlave =>
    if varName = "error" then
      [("Low Battery", bit 0), ("Empty Frame", bit 1), ("Wrong Frame", bit 2),
        ("Wrong Charger", bit 3), ("Overload CHG", bit 4), ("Over current", bit 5),
        ("Watchdog", bit 6)]
    else if varName = "warning" then [("Over current", bit 0), ("Shutdown", bit 1)]
    else []
  | .keloBMSSlave => []

/-- The text of a bit. -/
def bitText (bit : Bool) : String := if bit then "1" else "0"

/-- A mask with one bit, shifted to that bit, reads the bit. -/
private theorem maskedBit_eq (data mask shift : UInt16) (k : Nat) (hk : k < 16)
    (hmask : mask.toNat = 2 ^ k) (hshift : shift.toNat = k) :
    maskedBit data mask shift = bitText (data.toNat.testBit k) := by
  have hbit : ((data &&& mask) >>> shift).toNat = (data.toNat.testBit k).toNat := by
    rw [UInt16.toNat_shiftRight, UInt16.toNat_and, hmask, hshift, Nat.mod_eq_of_lt hk,
      Nat.and_two_pow, Nat.shiftRight_eq_div_pow, Nat.mul_div_cancel _ (Nat.two_pow_pos k)]
  rw [maskedBit, hbit]
  cases data.toNat.testBit k <;> rfl

private theorem toNat_modeMask (data : UInt16) :
    (data &&& ((0x3 : UInt16) <<< 2)).toNat =
      (data.toNat.testBit 2).toNat * 4 + (data.toNat.testBit 3).toNat * 8 := by
  have hsplit : data.toNat &&& 12 = (data.toNat &&& 2 ^ 2) ||| (data.toNat &&& 2 ^ 3) := by
    rw [← Nat.and_or_distrib_left]
    rfl
  change data.toNat &&& 12 = _
  rw [hsplit, Nat.and_two_pow, Nat.and_two_pow]
  cases data.toNat.testBit 2 <;> cases data.toNat.testBit 3 <;> rfl

private theorem modeValues_eq (data : UInt16) :
    KeloDriveSlave.modeValues data =
      [bitText (!data.toNat.testBit 3 && !data.toNat.testBit 2),
        bitText (!data.toNat.testBit 3 && data.toNat.testBit 2),
        bitText (data.toNat.testBit 3 && !data.toNat.testBit 2),
        bitText (data.toNat.testBit 3 && data.toNat.testBit 2)] := by
  have hmode := toNat_modeMask data
  generalize hm : data &&& ((0x3 : UInt16) <<< 2) = mode at hmode
  have hvalue : mode = UInt16.ofNat
      ((data.toNat.testBit 2).toNat * 4 + (data.toNat.testBit 3).toNat * 8) := by
    rw [← hmode, UInt16.ofNat_toNat]
  rw [KeloDriveSlave.modeValues, hm, hvalue]
  cases data.toNat.testBit 2 <;> cases data.toNat.testBit 3 <;> rfl

/-- The pushed names are those of the table, and each value is that of its bits. -/
theorem parseBits_eq (slave : EthercatSlave) (data : UInt16) (varName : String) :
    slave.parseBits data varName [] [] =
      ((bitTable slave.cls varName).map Prod.fst,
        (bitTable slave.cls varName).map fun entry => bitText (entry.2 data)) := by
  obtain ⟨info, cls, rx, tx⟩ := slave
  have hbit (mask shift : UInt16) (k : Nat) (hk : k < 16) (hmask : mask.toNat = 2 ^ k)
      (hshift : shift.toNat = k) :=
    maskedBit_eq data mask shift k hk hmask hshift
  cases cls with
  | keloDriveSlave =>
    simp only [EthercatSlave.parseBits, KeloDriveSlave.parseBits, bitTable]
    split
    · rw [modeValues_eq, hbit com1Enable1 0 0 (by decide) rfl rfl,
        hbit com1Enable2 1 1 (by decide) rfl rfl, hbit com1Emergency1 4 4 (by decide) rfl rfl,
        hbit com1Emergency2 5 5 (by decide) rfl rfl,
        hbit com1Enableservo 10 10 (by decide) rfl rfl,
        hbit com1Servoclose 11 11 (by decide) rfl rfl, hbit com1UseTs 15 15 (by decide) rfl rfl]
      rfl
    · split
      · rw [hbit stat1Enabled1 0 0 (by decide) rfl rfl, hbit stat1Enabled2 1 1 (by decide) rfl rfl,
          hbit stat1Enc1Ok 2 2 (by decide) rfl rfl, hbit stat1Enc2Ok 3 3 (by decide) rfl rfl,
          hbit stat1EncPivotOk 4 4 (by decide) rfl rfl,
          hbit stat1Undervoltage 5 5 (by decide) rfl rfl,
          hbit stat1Overvoltage 6 6 (by decide) rfl rfl,
          hbit stat1Overcurrent1 7 7 (by decide) rfl rfl,
          hbit stat1Overcurrent2 8 8 (by decide) rfl rfl,
          hbit stat1Overtemp1 9 9 (by decide) rfl rfl,
          hbit stat1Overtemp2 10 10 (by decide) rfl rfl,
          hbit stat1EnabledGrip 11 11 (by decide) rfl rfl,
          hbit stat1InposGrip 12 12 (by decide) rfl rfl,
          hbit stat1OverloadGrip 13 13 (by decide) rfl rfl,
          hbit stat1Detect 14 14 (by decide) rfl rfl]
        rfl
      · rfl
  | robileBatterySlave =>
    simp only [EthercatSlave.parseBits, RobileBatterySlave.parseBits, bitTable]
    split
    · rw [hbit 0x0001 0 0 (by decide) rfl rfl, hbit 0x0002 1 1 (by decide) rfl rfl,
        hbit 0x0004 2 2 (by decide) rfl rfl, hbit 0x0008 3 3 (by decide) rfl rfl,
        hbit 0x0010 4 4 (by decide) rfl rfl, hbit 0x0020 5 5 (by decide) rfl rfl,
        hbit 0x0040 6 6 (by decide) rfl rfl]
      rfl
    · split
      · rw [hbit 0x0001 0 0 (by decide) rfl rfl, hbit 0x0002 1 1 (by decide) rfl rfl]
        rfl
      · rfl
  | keloBMSSlave => rfl

theorem bitTable_names_nodup (cls : SlaveClass) (varName : String) :
    ((bitTable cls varName).map Prod.fst).Nodup := by
  cases cls with
  | keloDriveSlave =>
    simp only [bitTable]
    split
    · simp only [List.map_cons, List.map_nil]
      decide
    · split
      · simp only [List.map_cons, List.map_nil]
        decide
      · exact List.nodup_nil
  | robileBatterySlave =>
    simp only [bitTable]
    split
    · simp only [List.map_cons, List.map_nil]
      decide
    · split
      · simp only [List.map_cons, List.map_nil]
        decide
      · exact List.nodup_nil
  | keloBMSSlave => exact List.nodup_nil

end Kddv
