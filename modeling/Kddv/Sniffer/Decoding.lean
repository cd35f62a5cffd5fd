import Kddv.Sniffer.Frame

/-!
# Decoding undoes encoding

A payload that holds the records of all slaves at their offsets is decoded to exactly these
records, whatever else the frame contains.
-/

namespace Kddv

open Framework

/-- The ranges of the payload that belong to a list of slaves, by their configured offsets. -/
def recordSpans (slaves : List EthercatSlave) : List Span :=
  slaves.flatMap fun slave =>
    [⟨slave.slaveInfo.rxStartOffset, rxSize slave.cls⟩,
      ⟨slave.slaveInfo.txStartOffset, txSize slave.cls⟩]

/-- The payload holds both records of the slave as packed structures. -/
def HoldsRecords (payload : List UInt8) (slave : EthercatSlave) : Prop :=
  slice payload slave.slaveInfo.rxStartOffset.toNat (rxSize slave.cls) = slave.rxBytes ∧
    slice payload slave.slaveInfo.txStartOffset.toNat (txSize slave.cls) = slave.txBytes

instance (payload : List UInt8) (slave : EthercatSlave) :
    Decidable (HoldsRecords payload slave) := by
  unfold HoldsRecords
  infer_instance

/-- The records of all slaves with the positions they are encoded at. -/
def recordBlocks (slaves : List EthercatSlave) : List Block :=
  slaves.flatMap fun slave =>
    [(slave.slaveInfo.rxStartOffset.toNat, slave.rxBytes),
      (slave.slaveInfo.txStartOffset.toNat, slave.txBytes)]

/-- Both ranges of a slave lie in a payload of the given size. -/
def InPayload (size : Nat) (slave : EthercatSlave) : Prop :=
  (0 ≤ slave.slaveInfo.rxStartOffset ∧ slave.slaveInfo.rxStartOffset + rxSize slave.cls ≤ size) ∧
    0 ≤ slave.slaveInfo.txStartOffset ∧ slave.slaveInfo.txStartOffset + txSize slave.cls ≤ size

instance (size : Nat) (slave : EthercatSlave) : Decidable (InPayload size slave) := by
  unfold InPayload
  infer_instance

theorem inPayload_of_recordSpans (slaves : List EthercatSlave) (size : Nat)
    (h : ∀ span ∈ recordSpans slaves, span.Inside size) (slave : EthercatSlave)
    (hs : slave ∈ slaves) : InPayload size slave := by
  have hrx := h ⟨slave.slaveInfo.rxStartOffset, rxSize slave.cls⟩
    (List.mem_flatMap.mpr ⟨slave, hs, by simp⟩)
  have htx := h ⟨slave.slaveInfo.txStartOffset, txSize slave.cls⟩
    (List.mem_flatMap.mpr ⟨slave, hs, by simp⟩)
  exact ⟨(Span.inside_iff _ _ (rxSize_pos _)).mp hrx, (Span.inside_iff _ _ (txSize_pos _)).mp htx⟩

/-- Decoding one slave from a payload that contains its ranges. -/
theorem copySlave_payload (frame : EthercatFrame) (around : Int → UInt8) (slave : EthercatSlave)
    (h : InPayload frame.payload.length slave) :
    copySlave (frame.memory around) slave =
      slave.copyData (slice frame.payload slave.slaveInfo.rxStartOffset.toNat)
        (slice frame.payload slave.slaveInfo.txStartOffset.toNat) := by
  obtain ⟨⟨hrx, hrx'⟩, htx, htx'⟩ := h
  have hreadRx := frame.read_payload around slave.slaveInfo.rxStartOffset.toNat (rxSize slave.cls)
    (by omega)
  have hreadTx := frame.read_payload around slave.slaveInfo.txStartOffset.toNat (txSize slave.cls)
    (by omega)
  rw [Int.toNat_of_nonneg hrx] at hreadRx
  rw [Int.toNat_of_nonneg htx] at hreadTx
  exact slave.copyData_congr hreadRx hreadTx

/-- Decoding one slave whose records are in the payload. -/
theorem copySlave_of_holdsRecords (frame : EthercatFrame) (around : Int → UInt8)
    {slave assigned : EthercatSlave} (hsame : slave.SameSlave assigned)
    (hin : InPayload frame.payload.length assigned) (hholds : HoldsRecords frame.payload assigned) :
    copySlave (frame.memory around) slave = assigned := by
  have hin' : InPayload frame.payload.length slave := by
    rw [InPayload, hsame.1, hsame.2]
    exact hin
  rw [copySlave_payload frame around slave hin', hsame.1]
  exact EthercatSlave.copyData_eq _ _ hsame hholds.1 hholds.2

private theorem map_copySlave (frame : EthercatFrame) (around : Int → UInt8)
    {slaves assigned : List EthercatSlave}
    (hsame : EthercatSlave.SameSlaves slaves assigned)
    (hin : ∀ slave ∈ assigned, InPayload frame.payload.length slave)
    (hholds : ∀ slave ∈ assigned, HoldsRecords frame.payload slave) :
    slaves.map (copySlave (frame.memory around)) = assigned := by
  induction hsame with
  | nil => rfl
  | cons hs _ ih =>
    rw [List.map_cons, copySlave_of_holdsRecords frame around hs (hin _ (by simp))
      (hholds _ (by simp)), ih (fun s hm => hin s (by simp [hm]))
        (fun s hm => hholds s (by simp [hm]))]

private theorem recordBlocks_inside (slaves : List EthercatSlave) (size : Nat)
    (h : ∀ slave ∈ slaves, InPayload size slave) (block : Block)
    (hb : block ∈ recordBlocks slaves) :
    block.1 + block.2.length ≤ size := by
  obtain ⟨slave, hs, hb⟩ := List.mem_flatMap.mp hb
  obtain ⟨⟨hrx, hrx'⟩, htx, htx'⟩ := h slave hs
  simp only [List.mem_cons, List.not_mem_nil, or_false] at hb
  rcases hb with rfl | rfl
  · rw [EthercatSlave.rxBytes_length]
    omega
  · rw [EthercatSlave.txBytes_length]
    omega

private theorem recordSpans_eq_map (slaves : List EthercatSlave) (size : Nat)
    (h : ∀ slave ∈ slaves, InPayload size slave) :
    recordSpans slaves = (recordBlocks slaves).map fun block => ⟨block.1, block.2.length⟩ := by
  rw [recordSpans, recordBlocks, List.map_flatMap]
  apply List.flatMap_congr
  intro slave hs
  obtain ⟨⟨hrx, -⟩, htx, -⟩ := h slave hs
  simp [Int.toNat_of_nonneg hrx, Int.toNat_of_nonneg htx]

private theorem recordBlocks_pairwise (slaves : List EthercatSlave) (size : Nat)
    (h : ∀ slave ∈ slaves, InPayload size slave)
    (hd : (recordSpans slaves).Pairwise Span.Disjoint) :
    (recordBlocks slaves).Pairwise Block.Disjoint := by
  rw [recordSpans_eq_map slaves size h, List.pairwise_map] at hd
  apply hd.imp
  intro left right hdisjoint
  simp only [Span.Disjoint] at hdisjoint
  simp only [Block.Disjoint]
  omega

/-- Encoding into any payload of the right size keeps every record. -/
theorem writeAll_holdsRecords (slaves : List EthercatSlave) (base : List UInt8)
    (h : ∀ slave ∈ slaves, InPayload base.length slave)
    (hd : (recordSpans slaves).Pairwise Span.Disjoint) (slave : EthercatSlave)
    (hs : slave ∈ slaves) :
    HoldsRecords (writeAll base (recordBlocks slaves)) slave := by
  have hread := slice_writeAll base (recordBlocks slaves) (recordBlocks_inside slaves _ h)
    (recordBlocks_pairwise slaves _ h hd)
  have hrx := hread _ (List.mem_flatMap.mpr ⟨slave, hs, List.mem_cons_self⟩)
  have htx := hread _ (List.mem_flatMap.mpr
    ⟨slave, hs, List.mem_cons_of_mem _ List.mem_cons_self⟩)
  rw [EthercatSlave.rxBytes_length] at hrx
  rw [EthercatSlave.txBytes_length] at htx
  exact ⟨hrx, htx⟩

/-- Decoding undoes encoding for a whole frame. Let the ranges of the assigned records be
disjoint and lie in a payload of `size` bytes. Every accepted frame whose payload holds the
records leaves the slaves with exactly these records, independently of the other payload
bytes, of the remaining header fields, of the working counter, of what follows the datagram
and of the memory around the frame. Such a payload exists around any other payload bytes. -/
theorem packetCallback_decodes_records (assigned : List EthercatSlave) (size : Nat)
    (hinside : ∀ span ∈ recordSpans assigned, span.Inside size)
    (hdisjoint : (recordSpans assigned).Pairwise Span.Disjoint) :
    (∀ (sniffer : PacketSniffer) (frame : EthercatFrame) (around : Int → UInt8) (millis : Int),
      EthercatSlave.SameSlaves sniffer.slaves assigned →
      frame.src = incomingSource → frame.header.command = ecCmdLrw →
      frame.payload.length = size → (∀ slave ∈ assigned, HoldsRecords frame.payload slave) →
      (packetCallback sniffer (frame.memory around) millis).sniffer.slaves = assigned) ∧
    ∀ base : List UInt8, base.length = size →
      (writeAll base (recordBlocks assigned)).length = size ∧
        ∀ slave ∈ assigned, HoldsRecords (writeAll base (recordBlocks assigned)) slave := by
  have hin := inPayload_of_recordSpans assigned size hinside
  constructor
  · intro sniffer frame around millis hsame hsrc hcmd hsize hholds
    have haccepted := (frame.accepted_memory_iff around).mpr ⟨hsrc, hcmd⟩
    rw [packetCallback_accepted _ _ _ haccepted]
    exact map_copySlave frame around hsame (by rw [hsize]; exact hin) hholds
  · intro base hbase
    subst hbase
    exact ⟨writeAll_length base _ (recordBlocks_inside assigned _ hin),
      writeAll_holdsRecords assigned base hin hdisjoint⟩

private def batteryInfo : SlaveInfo :=
  ⟨"KELO_ROBILE", robileBatterySlaveType, 1, 5001027, 1, 34603265, 4097, 0, 12⟩

private def countingPayload : List UInt8 := (List.range 80).map UInt8.ofNat

private def batteryWith (rx tx : List UInt8) : EthercatSlave :=
  ⟨batteryInfo, .robileBatterySlave, Packed.layout.decode rx, Packed.layout.decode tx⟩

private def countingFrame : EthercatFrame where
  dst := [0xff, 0xff, 0xff, 0xff, 0xff, 0xff]
  src := incomingSource
  header := ⟨94, ecCmdLrw, 7, 0, 0, 0x8050, 0⟩
  payload := countingPayload
  wkcnt := 3
  rest := [0xaa]
  dst_length := rfl
  src_length := incomingSource_length
  payload_length := by decide

/-- One battery module whose records fill a payload of 80 bytes. -/
theorem packetCallback_decodes_battery :
    (packetCallback ⟨[batteryWith [] []], true⟩
        (countingFrame.memory fun _ => 0) 0).sniffer.slaves =
      [batteryWith (slice countingPayload 0 12) (slice countingPayload 12 68)] := by
  have hspans : recordSpans
        [batteryWith (slice countingPayload 0 12) (slice countingPayload 12 68)] =
      [⟨0, 12⟩, ⟨12, 68⟩] := rfl
  apply (packetCallback_decodes_records
    [batteryWith (slice countingPayload 0 12) (slice countingPayload 12 68)] 80
    (by
      rw [hspans]
      intro span hm
      simp only [List.mem_cons, List.not_mem_nil, or_false] at hm
      rcases hm with rfl | rfl <;> rw [Span.inside_iff _ _ (by decide)] <;> decide)
    (by
      rw [hspans]
      decide)).1
  · exact .cons ⟨rfl, rfl⟩ .nil
  · rfl
  · rfl
  · rfl
  · decide

end Kddv
