import Kddv.Config.GetInfo
import Kddv.Config.Entries

/-!
# Reading back a generated config file

The generator writes the identification numbers of a slave as unsigned 32-bit values and the
sniffer reads them with `asInt`. Everything else that is written is read back as it is.
-/

namespace Kddv

open Framework

/-- The identification numbers are values of the type `int`. -/
def EepInRange (slave : EcSlave) : Prop :=
  slave.eepMan.toNat < 2 ^ 31 ∧ slave.eepId.toNat < 2 ^ 31 ∧ slave.eepRev.toNat < 2 ^ 31

instance (slave : EcSlave) : Decidable (EepInRange slave) := by
  unfold EepInRange
  infer_instance

/-- The slave description that a config entry stands for. -/
def storedInfo (siMapSdo : Nat → CInt × CInt) (entry : EcSlave × Nat) : SlaveInfo where
  name := entry.1.name
  slaveType := getSlaveType entry.1.name
  slaveNumber := entry.2
  eepMan := entry.1.eepMan.toNat
  eepRev := entry.1.eepRev.toNat
  eepId := entry.1.eepId.toNat
  address := entry.1.configadr.toNat
  rxStartOffset := (siMapSdo entry.2).1
  txStartOffset := (siMapSdo entry.2).2

theorem isConfigured_iff_mem (name : String) : isConfigured name = true ↔ name ∈ supportedNames := by
  simp only [isConfigured, supportedNames, Bool.or_eq_true, decide_eq_true_eq, List.mem_cons,
    List.not_mem_nil, or_false]
  tauto

/-- Generator and sniffer select the same names. -/
theorem isConfigured_iff (name : String) :
    isConfigured name = true ↔ ∃ cls, PacketSniffer.classOf (getSlaveType name) = some cls := by
  rw [isConfigured_iff_mem, ← classOf_isSome_iff, Option.isSome_iff_exists]

private theorem memberInt_ok (json : Json) (key : String) {value : Int}
    (hmember : json.member key = .ok (.int value)) (h : IntRange value) :
    PacketSniffer.memberInt json key = .ok value := by
  rw [PacketSniffer.memberInt, hmember, Except.bind, Json.asInt_int value h]
  rfl

private theorem memberInt_error (json : Json) (key : String) {value : Int}
    (hmember : json.member key = .ok (.int value)) (h : ¬ IntRange value) :
    PacketSniffer.memberInt json key = .error (.exception "LargestInt out of Int range") := by
  rw [PacketSniffer.memberInt, hmember, Except.bind, Json.asInt_int_error value h]
  rfl

private theorem inRange_nat {n : Nat} : IntRange n ↔ n < 2 ^ 31 := by
  constructor
  · intro h
    have := h.2
    omega
  · intro h
    constructor <;> omega

/-- The loop body for an entry whose members are integers, the identification numbers being
the only ones that may leave the range of `int`. -/
private theorem readSlave_of_members (memory : FreshMemory) (json : Json) (info : SlaveInfo)
    (cls : SlaveClass) (hcls : PacketSniffer.classOf (getSlaveType info.name) = some cls)
    (htype : info.slaveType = getSlaveType info.name)
    (hname : (json.member "Name").bind Json.asString = .ok info.name)
    (hnumber : PacketSniffer.memberInt json "Slave ID" = .ok info.slaveNumber)
    (hman : json.member "EEP Man" = .ok (.int info.eepMan))
    (hid : json.member "EEP ID" = .ok (.int info.eepId))
    (hrev : json.member "EEP Rev" = .ok (.int info.eepRev))
    (haddress : PacketSniffer.memberInt json "Address" = .ok info.address)
    (hrx : PacketSniffer.memberInt json "RX start offset" = .ok info.rxStartOffset)
    (htx : PacketSniffer.memberInt json "TX start offset" = .ok info.txStartOffset) :
    PacketSniffer.readSlave memory json =
      if IntRange info.eepMan ∧ IntRange info.eepId ∧ IntRange info.eepRev then
        .ok (memory.makeSlave cls info)
      else .error (.exception "LargestInt out of Int range") := by
  obtain ⟨name, slaveType, slaveNumber, eepMan, eepRev, eepId, address, rxOffset, txOffset⟩ := info
  dsimp only at *
  subst htype
  rw [PacketSniffer.readSlave, hname]
  simp only [orThrow, Except.mapError, bind, Except.bind, hcls, hnumber]
  by_cases h1 : IntRange eepMan
  · rw [memberInt_ok json _ hman h1]
    by_cases h2 : IntRange eepId
    · rw [memberInt_ok json _ hid h2]
      by_cases h3 : IntRange eepRev
      · rw [memberInt_ok json _ hrev h3, haddress, hrx, htx, if_pos ⟨h1, h2, h3⟩]
        rfl
      · rw [memberInt_error json _ hrev h3, if_neg fun h => h3 h.2.2]
    · rw [memberInt_error json _ hid h2, if_neg fun h => h2 h.2.1]
  · rw [memberInt_error json _ hman h1, if_neg fun h => h1 h.1]

/-- Reading one generated entry. -/
theorem readSlave_slaveInfoJson (memory : FreshMemory) (siMapSdo : Nat → CInt × CInt)
    (entry : EcSlave × Nat) (cls : SlaveClass)
    (hcls : PacketSniffer.classOf (getSlaveType entry.1.name) = some cls)
    (hindex : IntRange entry.2) :
    PacketSniffer.readSlave memory (slaveInfoJson siMapSdo entry) =
      if EepInRange entry.1 then .ok (memory.makeSlave cls (storedInfo siMapSdo entry))
      else .error (.exception "LargestInt out of Int range") := by
  have hmember (key : String) (value : Int) (hr : IntRange value)
      (h : (slaveInfoJson siMapSdo entry).member key = .ok (.int value)) :
      PacketSniffer.memberInt (slaveInfoJson siMapSdo entry) key = .ok value :=
    memberInt_ok _ key h hr
  have haddress : IntRange entry.1.configadr.toNat :=
    inRange_nat.mpr (lt_trans (UInt16.toNat_lt _) (by decide))
  rw [readSlave_of_members memory (slaveInfoJson siMapSdo entry) (storedInfo siMapSdo entry) cls
    hcls rfl ?_ (hmember _ _ hindex ?_) ?_ ?_ ?_ (hmember _ _ haddress ?_)
    (hmember _ _ (siMapSdo entry.2).1.2 ?_) (hmember _ _ (siMapSdo entry.2).2.2 ?_)]
  · simp only [storedInfo, EepInRange, inRange_nat]
  all_goals
    rw [slaveInfoJson_eq]
    simp [Json.member, List.lookup, storedInfo, Except.bind, Json.asString]

/-- The class of the slave that is constructed for a configured name. -/
def configuredClass (name : String) : SlaveClass :=
  (PacketSniffer.classOf (getSlaveType name)).getD .keloDriveSlave

/-- The slaves described by a generated document. -/
def storedSlaves (heap : Nat → FreshMemory) (siMapSdo : Nat → CInt × CInt) (table : SlaveTable) :
    List EthercatSlave :=
  (configuredEntries table).zipIdx.map fun entry =>
    (heap entry.2).makeSlave (configuredClass entry.1.1.name) (storedInfo siMapSdo entry.1)

private theorem readSlave_configured (memory : FreshMemory) (siMapSdo : Nat → CInt × CInt)
    (table : SlaveTable) (entry : EcSlave × Nat) (h : entry ∈ configuredEntries table) :
    PacketSniffer.readSlave memory (slaveInfoJson siMapSdo entry) =
      if EepInRange entry.1 then
        .ok (memory.makeSlave (configuredClass entry.1.name) (storedInfo siMapSdo entry))
      else .error (.exception "LargestInt out of Int range") := by
  obtain ⟨hmem, hname⟩ := List.mem_filter.mp h
  obtain ⟨cls, hcls⟩ := (isConfigured_iff _).mp hname
  rw [readSlave_slaveInfoJson memory siMapSdo entry cls hcls (table.index_inRange entry hmem),
    configuredClass, hcls]
  rfl

private theorem forall₂_ok_iff {α β ε : Type} (xs : List α) (ys : List β) (f : α → Except ε β)
    (P : α → Prop) [DecidablePred P] (g : α → β) (e : ε)
    (h : ∀ x ∈ xs, f x = if P x then .ok (g x) else .error e) :
    List.Forall₂ (fun x y => f x = .ok y) xs ys ↔ (∀ x ∈ xs, P x) ∧ ys = xs.map g := by
  induction xs generalizing ys with
  | nil => simp
  | cons x xs ih =>
    have hx := h x (by simp)
    rw [List.forall₂_cons_left_iff, List.forall_mem_cons, List.map_cons]
    by_cases hp : P x
    · rw [if_pos hp] at hx
      simp only [ih _ (fun x hm => h x (by simp [hm])), hx, Except.ok.injEq, hp, true_and]
      constructor
      · rintro ⟨y, ys, rfl, ⟨hall, rfl⟩, rfl⟩
        exact ⟨hall, rfl⟩
      · rintro ⟨hall, rfl⟩
        exact ⟨_, _, rfl, ⟨hall, rfl⟩, rfl⟩
    · rw [if_neg hp] at hx
      simp [hx, hp]

/-- A generated document can be read exactly when all identification numbers fit, and then
describes the configured slaves of the table in order. -/
theorem getSlaves_getInfo_ok_iff (heap : Nat → FreshMemory) (siMapSdo : Nat → CInt × CInt)
    (bus : BusInit) (hinit : bus.initOk = true) (hcount : bus.configCount > 0)
    (slaves : List EthercatSlave) (error : String) :
    PacketSniffer.getSlaves heap (getInfo siMapSdo bus) = .ok (slaves, error) ↔
      (∀ entry ∈ configuredEntries bus.table, EepInRange entry.1) ∧
        slaves = storedSlaves heap siMapSdo bus.table ∧ error = "" := by
  rw [getInfo_eq siMapSdo bus hinit hcount, getSlaves_ok_iff _ _ _ rfl, List.zipIdx_map,
    List.forall₂_map_left_iff]
  have hread (entry : (EcSlave × Nat) × Nat) (hm : entry ∈ (configuredEntries bus.table).zipIdx) :=
    readSlave_configured (heap entry.2) siMapSdo bus.table entry.1 (List.fst_mem_of_mem_zipIdx hm)
  have hloop := forall₂_ok_iff (configuredEntries bus.table).zipIdx slaves _
    (fun entry => EepInRange entry.1.1) _ _ hread
  have hall : (∀ entry ∈ (configuredEntries bus.table).zipIdx, EepInRange entry.1.1) ↔
      ∀ entry ∈ configuredEntries bus.table, EepInRange entry.1 := by
    constructor
    · intro h entry hm
      obtain ⟨i, hi, rfl⟩ := List.mem_iff_getElem.mp hm
      exact h (_, i) (List.mk_mem_zipIdx_iff_getElem?.mpr (List.getElem?_eq_getElem hi))
    · intro h entry hm
      exact h _ (List.fst_mem_of_mem_zipIdx hm)
  rw [hall] at hloop
  refine (and_congr_right fun _ => hloop).trans ?_
  rw [storedSlaves]
  tauto

def supportedEntries (table : SlaveTable) : List (EcSlave × Nat) :=
  table.entries.filter fun entry => entry.1.name ∈ supportedNames

theorem configuredEntries_eq (table : SlaveTable) :
    configuredEntries table = supportedEntries table := by
  apply List.filter_congr
  intro entry _
  rw [Bool.eq_iff_iff, isConfigured_iff_mem, decide_eq_true_iff]

/-- The slave was read from the config entry written for a table entry. -/
structure StoredAs (siMapSdo : Nat → CInt × CInt) (entry : EcSlave × Nat)
    (slave : EthercatSlave) : Prop where
  name : slave.slaveInfo.name = entry.1.name
  slaveNumber : slave.slaveInfo.slaveNumber = entry.2
  address : slave.slaveInfo.address = entry.1.configadr.toNat
  eepMan : slave.slaveInfo.eepMan = entry.1.eepMan.toNat
  eepId : slave.slaveInfo.eepId = entry.1.eepId.toNat
  eepRev : slave.slaveInfo.eepRev = entry.1.eepRev.toNat
  rxStartOffset : slave.slaveInfo.rxStartOffset = (siMapSdo entry.2).1
  txStartOffset : slave.slaveInfo.txStartOffset = (siMapSdo entry.2).2

private theorem storedSlaves_storedAs (heap : Nat → FreshMemory) (siMapSdo : Nat → CInt × CInt)
    (entries : List (EcSlave × Nat)) (start : Nat) :
    List.Forall₂ (StoredAs siMapSdo) entries ((entries.zipIdx start).map fun entry =>
      (heap entry.2).makeSlave (configuredClass entry.1.1.name) (storedInfo siMapSdo entry.1)) := by
  induction entries generalizing start with
  | nil => exact .nil
  | cons entry entries ih => exact .cons ⟨rfl, rfl, rfl, rfl, rfl, rfl, rfl, rfl⟩ (ih (start + 1))

/-- A generated config file is read back without exception or error, with one slave for each
supported entry of the table and every stored number unchanged, exactly when the
identification numbers of all supported slaves are below `2 ^ 31`. -/
theorem config_roundTrip_iff (parse : String → Except String Json) (write : Json → String)
    (heap : Nat → FreshMemory) (siMapSdo : Nat → CInt × CInt) (bus : BusInit) (filename : String)
    (hinit : bus.initOk = true) (hcount : bus.configCount > 0)
    (hpreserve : parse (write (getInfo siMapSdo bus)) = .ok (getInfo siMapSdo bus)) :
    (∃ slaves, PacketSniffer.readConfig parse heap filename (some (write (getInfo siMapSdo bus))) =
        .ok (slaves, "") ∧ List.Forall₂ (StoredAs siMapSdo) (supportedEntries bus.table) slaves) ↔
      ∀ entry ∈ supportedEntries bus.table, EepInRange entry.1 := by
  have hread : PacketSniffer.readConfig parse heap filename (some (write (getInfo siMapSdo bus))) =
      PacketSniffer.getSlaves heap (getInfo siMapSdo bus) := by
    simp only [PacketSniffer.readConfig, PacketSniffer.loadConfig, hpreserve]
    rfl
  have hok := getSlaves_getInfo_ok_iff heap siMapSdo bus hinit hcount
  rw [configuredEntries_eq] at hok
  rw [hread]
  constructor
  · rintro ⟨slaves, hslaves, -⟩
    exact ((hok slaves "").mp hslaves).1
  · intro heep
    refine ⟨storedSlaves heap siMapSdo bus.table, (hok _ _).mpr ⟨heep, rfl, rfl⟩, ?_⟩
    rw [← configuredEntries_eq]
    exact storedSlaves_storedAs heap siMapSdo _ 0

/-- A bus with one drive, given by its product code. -/
private def driveBus (eepId : UInt32) : BusInit where
  initOk := true
  configCount := 1
  state := ecStateSafeOp
  table := ⟨[⟨"KELOD105", 1280, eepId, 1020, 4097, 0, 36, 36, 172⟩], by
    rw [List.length_singleton]
    decide⟩

private def driveOffsets : Nat → CInt × CInt := fun _ => (⟨0, intRange_zero⟩, ⟨36, by decide⟩)

/-- The file that the generator writes for one drive. -/
private def driveText (eepId : UInt32) : String :=
  "\x7b\n   \"Slaves\" : [\n      \x7b\n         \"Address\" : 4097,\n         \"EEP ID\" : " ++
    toString eepId.toNat ++ ",\n         \"EEP Man\" : 1280,\n         \"EEP Rev\" : 1020,\n" ++
    "         \"Name\" : \"KELOD105\",\n         \"RX start offset\" : 0,\n" ++
    "         \"Slave ID\" : 1,\n         \"TX start offset\" : 36\n      \x7d\n   ]\n\x7d\n"

/-- The JSON reader on the file written for one drive. -/
private def driveParse (eepId : UInt32) (text : String) : Except String Json :=
  if text = driveText eepId then .ok (getInfo driveOffsets (driveBus eepId))
  else .error "Syntax error"

theorem config_roundTrip_drive :
    ∃ slaves, PacketSniffer.readConfig (driveParse 33558529) (fun _ => default) "config.json"
        (some (driveText 33558529)) = .ok (slaves, "") ∧
      List.Forall₂ (StoredAs driveOffsets) (supportedEntries (driveBus 33558529).table) slaves :=
  (config_roundTrip_iff (driveParse 33558529) (fun _ => driveText 33558529) (fun _ => default)
    driveOffsets (driveBus 33558529) "config.json" rfl (by decide) (if_pos rfl)).mpr
    (by decide)

/-- A product code of `2 ^ 31` is written and cannot be read back. -/
theorem config_roundTrip_fails :
    ¬ ∃ slaves, PacketSniffer.readConfig (driveParse 2147483648) (fun _ => default) "config.json"
        (some (driveText 2147483648)) = .ok (slaves, "") ∧
      List.Forall₂ (StoredAs driveOffsets) (supportedEntries (driveBus 2147483648).table)
        slaves := by
  rintro ⟨slaves, hread, -⟩
  have hparse : PacketSniffer.readConfig (driveParse 2147483648) (fun _ => default) "config.json"
      (some (driveText 2147483648)) =
      PacketSniffer.getSlaves (fun _ => default) (getInfo driveOffsets (driveBus 2147483648)) := by
    have htext : driveParse 2147483648 (driveText 2147483648) =
        .ok (getInfo driveOffsets (driveBus 2147483648)) := if_pos rfl
    simp only [PacketSniffer.readConfig, PacketSniffer.loadConfig, htext]
    rfl
  rw [hparse, getSlaves_getInfo_ok_iff _ _ _ rfl (by decide)] at hread
  exact absurd hread.1 (by decide)

end Kddv
