import Kddv.Config.Agreement
import Kddv.Config.MapSdo
import Kddv.Gui.Refresh
import Kddv.Master.Model
import Kddv.Sniffer.Decoding

/-!
# Both modes read the same data

The whole path of the sniffer mode, from the generated config file to the decoded frame, against
that of the EtherCAT mode, from the slave table to the copied process image.
-/

namespace Kddv

open Framework

/-! ## What the user sees -/

/-- The slave with another description. -/
def EthercatSlave.withInfo (slave : EthercatSlave) (info : SlaveInfo) : EthercatSlave :=
  ⟨info, slave.cls, slave.rx, slave.tx⟩

theorem EthercatSlave.copyData_withInfo (slave : EthercatSlave) (info : SlaveInfo)
    (outputs inputs : Pointer) :
    (slave.copyData outputs inputs).withInfo info =
      (slave.withInfo info).copyData outputs inputs := rfl

/-- The same device with the same records. Only the offsets may differ. -/
structure SameReadings (left right : EthercatSlave) : Prop where
  device : SameDevice left right
  records : left.withInfo right.slaveInfo = right

namespace SameReadings

variable {left right : EthercatSlave}

theorem convertToJson_eq (h : SameReadings left right) (data : Json) :
    left.convertToJson data = right.convertToJson data := by
  rw [← h.records]
  obtain ⟨info, cls, rx, tx⟩ := left
  cases cls <;> rfl

theorem boxLabels_eq (h : SameReadings left right) (showUnits : Bool) :
    boxLabels showUnits left = boxLabels showUnits right := by
  rw [← h.records]
  obtain ⟨info, cls, rx, tx⟩ := left
  cases cls <;> rfl

/-- The published documents are equal. -/
theorem convertToJson_list {left right : List EthercatSlave}
    (h : List.Forall₂ SameReadings left right) (millis : Int) :
    convertToJson millis left = convertToJson millis right := by
  unfold convertToJson
  dsimp only
  generalize Json.null.setMember "timestamp" (.real (Float.ofInt millis / 1000.0)) = root
  induction h generalizing root with
  | nil => rfl
  | cons hslave _ ih =>
    rw [List.foldl_cons, List.foldl_cons, hslave.convertToJson_eq, hslave.device.name,
      hslave.device.slaveNumber]
    exact ih _

/-- The labels in the boxes are equal. -/
theorem boxLabels_list {left right : List EthercatSlave}
    (h : List.Forall₂ SameReadings left right) (showUnits : Bool) :
    left.map (boxLabels showUnits) = right.map (boxLabels showUnits) := by
  induction h with
  | nil => rfl
  | cons hslave _ ih => rw [List.map_cons, List.map_cons, hslave.boxLabels_eq, ih]

end SameReadings

/-! ## The offsets in the file -/

/-- The answers of a slave that has process data in both directions, from the first bit on. -/
structure MapReplies.MapsBoth (replies : MapReplies) : Prop where
  finite : ∀ assigned ∈ replies.assignments, ¬ assigned.CountsForever
  outputs : 0 < Int32.ofNat (mappedBits replies.outputs) ∧ OffsetAtStart replies.outputs
  inputs : 0 < Int32.ofNat (mappedBits replies.inputs) ∧ OffsetAtStart replies.inputs

/-- The call finds both places in `IOmap`. -/
theorem MapReplies.MapsBoth.mapSlave {replies : Nat → MapReplies} {entry : EcSlave × Nat}
    (h : (replies entry.2).MapsBoth) {fuel : Nat} (hfuel : 65535 < fuel) :
    ∃ v, mapSlave fuel replies entry = some v ∧
      v.rxOffset = some (Int32.ofNat entry.1.outputs) ∧
      v.txOffset = some (Int32.ofNat entry.1.inputs) := by
  obtain ⟨v, hv⟩ := siMapSdo_ends (Int32.ofNat entry.1.outputs) (Int32.ofNat entry.1.inputs)
    h.finite hfuel
  have hread := siMapSdo_sound hv
  refine ⟨v, hv, ?_, ?_⟩
  · apply hread.rx.atStart_iff.mpr h.outputs.2
    rw [hread.rx.bitoffset_eq]
    exact h.outputs.1
  · apply hread.tx.atStart_iff.mpr h.inputs.2
    rw [hread.tx.bitoffset_eq]
    exact h.inputs.1

/-- The document exists, with the entries of all supported slaves. -/
theorem generateInfo_mapsBoth {fuel : Nat} {replies : Nat → MapReplies} {bus : BusInit}
    (hmaps : ∀ entry ∈ configuredEntries bus.table, (replies entry.2).MapsBoth)
    (hfuel : 65535 < fuel) : ∃ json, generateInfo fuel replies bus = .ok json := by
  have hjson : ∀ entry ∈ configuredEntries bus.table,
      ∃ json, generatedInfo fuel replies entry = .ok json := by
    intro entry hm
    obtain ⟨v, hv, hrx, htx⟩ := (hmaps entry hm).mapSlave hfuel
    rw [generatedInfo, hv]
    exact ⟨_, by simp only [hrx, htx]; rfl⟩
  obtain ⟨slaves, hslaves⟩ := exists_forall₂ hjson
  unfold generateInfo
  dsimp only
  split
  · split
    · rw [(mapM_eq_ok_iff _ _ _).mpr hslaves]
      exact ⟨_, rfl⟩
    · exact ⟨_, rfl⟩
  · exact ⟨_, rfl⟩

theorem slaveAt_entry {table : SlaveTable} {entry : EcSlave × Nat} (h : entry ∈ table.entries) :
    table.slaves[entry.2 - 1]? = some entry.1 ∧ table.slaveAt entry.2 = entry.1 := by
  have hslave := (List.mk_mem_zipIdx_iff_le_and_getElem?_sub.mp h).2
  refine ⟨hslave, ?_⟩
  rw [SlaveTable.slaveAt, Int.toNat_natCast, hslave]
  rfl

/-- The offsets that are written are the slave's places in `IOmap`. -/
theorem generatedOffsets_mapsBoth {fuel : Nat} {replies : Nat → MapReplies} {table : SlaveTable}
    {entry : EcSlave × Nat} (hentry : entry ∈ table.entries) (hmaps : (replies entry.2).MapsBoth)
    (hfuel : 65535 < fuel) (houtputs : entry.1.outputs < 2 ^ 31)
    (hinputs : entry.1.inputs < 2 ^ 31) :
    ((generatedOffsets fuel replies table entry.2).1 : Int) = entry.1.outputs ∧
      ((generatedOffsets fuel replies table entry.2).2 : Int) = entry.1.inputs := by
  obtain ⟨⟨bug, outputsBo, inputsBo, rx, tx⟩, hv, hrx, htx⟩ := hmaps.mapSlave hfuel
  dsimp only at hrx htx
  subst hrx htx
  rw [generatedOffsets, (slaveAt_entry hentry).1]
  dsimp only [Option.bind_some]
  rw [show (entry.1, entry.2) = entry from rfl, hv]
  exact ⟨Int32.toInt_ofNat_of_lt houtputs, Int32.toInt_ofNat_of_lt hinputs⟩

/-! ## One slave -/

/-- The bytes of `IOmap` that are sent. -/
def ProcessImage.payload (image : ProcessImage) (size : Nat) : List UInt8 :=
  (List.range size).map image.iomap

theorem ProcessImage.slice_payload (image : ProcessImage) {size offset n : Nat}
    (h : offset + n ≤ size) : slice (image.payload size) offset n = image.pointer offset n := by
  apply List.ext_getElem?
  intro i
  by_cases hi : i < n
  · rw [slice_getElem? _ _ _ _ hi]
    simp [payload, pointer, hi, show offset + i < size by omega]
  · rw [List.getElem?_eq_none, List.getElem?_eq_none]
    · simp only [pointer, List.length_map, List.length_range]
      omega
    · rw [slice_length _ _ _ (by simpa [payload] using h)]
      omega

/-- The image has room for the records of the slave of a table entry. -/
def EcSlave.FitsIn (slave : EcSlave) (size : Nat) : Prop :=
  slave.outputs + rxSize (configuredClass slave.name) ≤ size ∧
    slave.inputs + txSize (configuredClass slave.name) ≤ size

instance (slave : EcSlave) (size : Nat) : Decidable (slave.FitsIn size) := by
  unfold EcSlave.FitsIn
  infer_instance

/-- A slave of the master's list, copied from the image, against the slave stored for the same
entry, decoded from a frame with the image. -/
private theorem sameReadings_entry (image : ProcessImage) {entry : EcSlave × Nat}
    (hentry : entry ∈ image.table.entries) (heep : EepInRange entry.1)
    (hname : entry.1.name ≠ "KeloEcPd") {siMapSdo : Nat → CInt × CInt}
    (hrx : ((siMapSdo entry.2).1 : Int) = entry.1.outputs)
    (htx : ((siMapSdo entry.2).2 : Int) = entry.1.inputs) {frame : EthercatFrame}
    (around : Int → UInt8) {size : Nat} (hpayload : frame.payload = image.payload size)
    (hfits : entry.1.FitsIn size) (memory : FreshMemory) {slave : EthercatSlave}
    (h : EthercatMaster.ConstructedFor entry slave) :
    SameReadings (image.copy slave) (copySlave (frame.memory around)
      (memory.makeSlave (configuredClass entry.1.name) (storedInfo siMapSdo entry))) := by
  have hdevice := sameDevice_constructed memory siMapSdo entry slave heep hname h
  obtain ⟨fresh, cls, hcls, rfl⟩ := h
  rw [classOf_master_eq _ hname] at hcls
  have hclass : configuredClass entry.1.name = cls := by
    rw [configuredClass, hcls]
    rfl
  have hlength : frame.payload.length = size := by
    rw [hpayload, ProcessImage.payload, List.length_map, List.length_range]
  unfold EcSlave.FitsIn at hfits
  rw [hclass] at hdevice hfits ⊢
  obtain ⟨houtputs, hinputs⟩ := hfits
  let stored := memory.makeSlave cls (storedInfo siMapSdo entry)
  have hrxStart : stored.slaveInfo.rxStartOffset = entry.1.outputs := hrx
  have htxStart : stored.slaveInfo.txStartOffset = entry.1.inputs := htx
  have hin : InPayload frame.payload.length stored := by
    rw [InPayload, hlength, hrxStart, htxStart]
    change (0 ≤ (entry.1.outputs : Int) ∧ (entry.1.outputs : Int) + rxSize cls ≤ size) ∧
      0 ≤ (entry.1.inputs : Int) ∧ (entry.1.inputs : Int) + txSize cls ≤ size
    omega
  have hdecoded : copySlave (frame.memory around) stored =
      stored.copyData (image.pointer entry.1.outputs) (image.pointer entry.1.inputs) := by
    rw [copySlave_payload frame around stored hin, hrxStart, htxStart, hpayload,
      Int.toNat_natCast, Int.toNat_natCast]
    apply EthercatSlave.copyData_congr
    · exact image.slice_payload houtputs
    · exact image.slice_payload hinputs
  have hslave : image.table.slaveAt
      (fresh.makeSlave cls (EthercatMaster.slaveInfo fresh entry)).slaveInfo.slaveNumber =
        entry.1 := (slaveAt_entry hentry).2
  refine ⟨⟨hdevice.cls, hdevice.slaveType, hdevice.name, hdevice.slaveNumber, hdevice.eepMan,
    hdevice.eepId, hdevice.eepRev, hdevice.address⟩, ?_⟩
  have hcopied : image.copy (fresh.makeSlave cls (EthercatMaster.slaveInfo fresh entry)) =
      (fresh.makeSlave cls (EthercatMaster.slaveInfo fresh entry)).copyData
        (image.pointer entry.1.outputs) (image.pointer entry.1.inputs) := by
    unfold ProcessImage.copy ProcessImage.outputs ProcessImage.inputs
    rw [hslave]
  change (image.copy _).withInfo stored.slaveInfo = copySlave (frame.memory around) stored
  rw [hcopied, hdecoded, EthercatSlave.copyData_withInfo]
  exact EthercatSlave.copyData_sameSlave_congr ⟨rfl, rfl⟩ _ _

/-! ## All slaves -/

private theorem sameReadings_list (image : ProcessImage) (heap : Nat → FreshMemory)
    {siMapSdo : Nat → CInt × CInt} {frame : EthercatFrame} (around : Int → UInt8) {size : Nat}
    (hpayload : frame.payload = image.payload size) {entries : List (EcSlave × Nat)}
    (hentries : ∀ entry ∈ entries, entry ∈ image.table.entries ∧ EepInRange entry.1 ∧
      entry.1.name ≠ "KeloEcPd" ∧ ((siMapSdo entry.2).1 : Int) = entry.1.outputs ∧
      ((siMapSdo entry.2).2 : Int) = entry.1.inputs ∧ entry.1.FitsIn size)
    {slaves : List EthercatSlave} (start : Nat)
    (h : List.Forall₂ EthercatMaster.ConstructedFor entries slaves) :
    List.Forall₂ SameReadings (slaves.map image.copy)
      (((entries.zipIdx start).map fun entry =>
        (heap entry.2).makeSlave (configuredClass entry.1.1.name)
          (storedInfo siMapSdo entry.1)).map (copySlave (frame.memory around))) := by
  induction h generalizing start with
  | nil => exact .nil
  | cons hslave _ ih =>
    obtain ⟨hentry, heep, hname, hrx, htx, hfits⟩ := hentries _ List.mem_cons_self
    apply List.Forall₂.cons
    · exact sameReadings_entry image hentry heep hname hrx htx around hpayload hfits _ hslave
    · apply ih
      exact fun entry hm => hentries entry (List.mem_cons_of_mem _ hm)

/-- The generator ends, its file is read back without an error, discovery succeeds, and whatever is
in the process image, an accepted frame with its bytes is decoded to the slaves that the master
copies from the image: the same devices with the same records, and therefore the same labels and
the same published document. -/
def ModesAgree (parse : String → Except String Json) (write : Json → String)
    (heap heap' : Nat → FreshMemory) (fuel : Nat) (replies : Nat → MapReplies) (bus : BusInit)
    (filename : String) (size : Nat) : Prop :=
  ∃ json slaves, generateInfo fuel replies bus = .ok json ∧
    PacketSniffer.readConfig parse heap' filename (some (write json)) = .ok (slaves, "") ∧
    (EthercatMaster.getSlaves heap bus).2 = "" ∧
    ∀ (iomap : Nat → UInt8) (frame : EthercatFrame) (around : Int → UInt8) (zmq : Bool)
      (millis : Int), frame.src = incomingSource → frame.header.command = ecCmdLrw →
      frame.payload = ProcessImage.payload ⟨bus.table, iomap⟩ size →
      ∃ copied decoded,
        copied = (EthercatMaster.getSlaves heap bus).1.map (ProcessImage.copy ⟨bus.table, iomap⟩) ∧
        decoded = (packetCallback ⟨slaves, zmq⟩ (frame.memory around) millis).sniffer.slaves ∧
        List.Forall₂ SameReadings copied decoded ∧
        (∀ showUnits, copied.map (boxLabels showUnits) = decoded.map (boxLabels showUnits)) ∧
        convertToJson millis copied = convertToJson millis decoded

/-- Both modes agree on every bus in SAFE_OP without a BMS whose supported slaves have identification
numbers of the type `int` and map their process data from the first bit on, if their records lie in
the part of the image that the frame carries. -/
theorem both_modes_read_the_same (parse : String → Except String Json) (write : Json → String)
    (heap heap' : Nat → FreshMemory) (fuel : Nat) (hfuel : 65535 < fuel)
    (replies : Nat → MapReplies) (bus : BusInit) (filename : String)
    (hinit : bus.initOk = true) (hcount : bus.configCount > 0) (hstate : bus.state = ecStateSafeOp)
    (heep : ∀ entry ∈ configuredEntries bus.table, EepInRange entry.1)
    (hname : ∀ entry ∈ bus.table.entries, entry.1.name ≠ "KeloEcPd")
    (hmaps : ∀ entry ∈ configuredEntries bus.table, (replies entry.2).MapsBoth)
    (hpreserve : ∀ json, generateInfo fuel replies bus = .ok json → parse (write json) = .ok json)
    (size : Nat) (hfits : ∀ entry ∈ configuredEntries bus.table, entry.1.FitsIn size) :
    ModesAgree parse write heap heap' fuel replies bus filename size := by
  obtain ⟨json, hjson⟩ := generateInfo_mapsBoth hmaps hfuel
  let siMapSdo := generatedOffsets fuel replies bus.table
  have hread : PacketSniffer.readConfig parse heap' filename (some (write json)) =
      PacketSniffer.getSlaves heap' json := by
    simp only [PacketSniffer.readConfig, PacketSniffer.loadConfig, hpreserve json hjson]
    rfl
  refine ⟨json, storedSlaves heap' siMapSdo bus.table, hjson, ?_, ?_, ?_⟩
  · rw [hread, generateInfo_eq_getInfo hjson]
    exact (getSlaves_getInfo_ok_iff heap' siMapSdo bus hinit hcount _ _).mpr ⟨heep, rfl, rfl⟩
  · rw [EthercatMaster.getSlaves_ok heap bus hinit hcount hstate]
  · intro iomap frame around zmq millis hsrc hcommand hpayload
    have haccepted := (frame.accepted_memory_iff around).mpr ⟨hsrc, hcommand⟩
    have hlt : size < 2 ^ 31 := by
      have hlength := frame.payload_length_lt
      rw [hpayload, ProcessImage.payload, List.length_map, List.length_range] at hlength
      omega
    have hreadings : List.Forall₂ SameReadings
        ((EthercatMaster.getSlaves heap bus).1.map (ProcessImage.copy ⟨bus.table, iomap⟩))
        (packetCallback ⟨storedSlaves heap' siMapSdo bus.table, zmq⟩ (frame.memory around)
          millis).sniffer.slaves := by
      have hlist := EthercatMaster.slavesOfTable_constructed heap bus.table
      rw [masterEntries_eq bus.table hname] at hlist
      rw [EthercatMaster.getSlaves_ok heap bus hinit hcount hstate, packetCallback_slaves,
        if_pos haccepted]
      apply sameReadings_list ⟨bus.table, iomap⟩ heap' around hpayload _ 0 hlist
      intro entry hm
      have hentry := List.mem_of_mem_filter hm
      have hfit := hfits entry hm
      have hoffsets := generatedOffsets_mapsBoth hentry (hmaps entry hm) hfuel
        (by unfold EcSlave.FitsIn at hfit; omega) (by unfold EcSlave.FitsIn at hfit; omega)
      exact ⟨hentry, heep entry hm, hname entry hentry, hoffsets.1, hoffsets.2, hfit⟩
    exact ⟨_, _, rfl, rfl, hreadings, SameReadings.boxLabels_list hreadings,
      SameReadings.convertToJson_list hreadings millis⟩

/-- One PDO with entries of 32 bits each. -/
private def wordPdo (index : UInt16) (words : UInt8) : AssignReplies where
  count := ⟨1, 1⟩
  pdo _ := ⟨⟨1, index⟩, ⟨1, words⟩, fun _ => ⟨1, 0x70000120⟩⟩

/-- The answers of a battery module, with 12 bytes of outputs and 68 bytes of inputs. -/
private def batteryReplies : MapReplies where
  count := ⟨1, 4⟩
  syncManager k := if k = 0 then ⟨⟨1, 3⟩, wordPdo 0x1600 3⟩ else ⟨⟨1, 4⟩, wordPdo 0x1a00 17⟩

private def batteryEntry : EcSlave × Nat :=
  (⟨"KELO_ROBILE", 5001027, 1, 34603265, 4097, 0, 12, 12, 68⟩, 1)

private def batteryBus : BusInit where
  initOk := true
  configCount := 1
  state := ecStateSafeOp
  table := .single batteryEntry.1

private theorem batteryReplies_mapsBoth : batteryReplies.MapsBoth := by
  have hrx : (wordPdo 0x1600 3).FirstMapped := by decide
  have htx : (wordPdo 0x1a00 17).FirstMapped := by decide
  refine ⟨by decide, ⟨by decide, fun _ => ⟨0, ?_, rfl⟩⟩, by decide, fun _ => ⟨0, ?_, rfl⟩⟩
  · exact ⟨[], wordPdo 0x1600 3, [], rfl, hrx, nofun, rfl⟩
  · exact ⟨[], wordPdo 0x1a00 17, [], rfl, htx, nofun, rfl⟩

/-- The file that the generator writes for the battery module. -/
private def batteryText : String :=
  "\x7b\n   \"Slaves\" : [\n      \x7b\n         \"Address\" : 4097,\n         \"EEP ID\" : 1,\n" ++
    "         \"EEP Man\" : 5001027,\n         \"EEP Rev\" : 34603265,\n" ++
    "         \"Name\" : \"KELO_ROBILE\",\n         \"RX start offset\" : 0,\n" ++
    "         \"Slave ID\" : 1,\n         \"TX start offset\" : 12\n      \x7d\n   ]\n\x7d\n"

/-- The JSON reader on that file. -/
private def batteryParse (text : String) : Except String Json :=
  if text = batteryText then .ok (getInfo (fun _ => (⟨0, by decide⟩, ⟨12, by decide⟩)) batteryBus)
  else .error "Syntax error"

private theorem batteryParse_generated (json : Json)
    (hjson : generateInfo 65536 (fun _ => batteryReplies) batteryBus = .ok json) :
    batteryParse batteryText = .ok json := by
  have hmem : batteryEntry ∈ batteryBus.table.entries := List.mem_singleton.mpr rfl
  have hoffsets : ((generatedOffsets 65536 (fun _ => batteryReplies) batteryBus.table 1).1 : Int) =
      0 ∧ ((generatedOffsets 65536 (fun _ => batteryReplies) batteryBus.table 1).2 : Int) = 12 :=
    generatedOffsets_mapsBoth hmem batteryReplies_mapsBoth (by decide) (by decide) (by decide)
  have hentries : configuredEntries batteryBus.table = [batteryEntry] := rfl
  rw [generateInfo_eq_getInfo hjson, batteryParse, if_pos rfl, getInfo_eq _ _ rfl (by decide),
    getInfo_eq _ _ rfl (by decide), hentries]
  simp only [List.map_cons, List.map_nil, slaveInfoJson_eq, batteryEntry, hoffsets.1, hoffsets.2]

theorem both_modes_read_the_same_battery :
    ModesAgree batteryParse (fun _ => batteryText) (fun _ => default) (fun _ => default) 65536
      (fun _ => batteryReplies) batteryBus "config.json" 80 :=
  both_modes_read_the_same batteryParse (fun _ => batteryText) (fun _ => default)
    (fun _ => default) 65536 (by decide) (fun _ => batteryReplies) batteryBus "config.json" rfl
    (by decide) rfl (by decide) (by decide) (fun _ _ => batteryReplies_mapsBoth)
    batteryParse_generated 80 (by decide)

end Kddv
