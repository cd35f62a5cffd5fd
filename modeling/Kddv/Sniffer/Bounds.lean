import Kddv.Sniffer.GetSlaves
import Kddv.Sniffer.PacketCallback

/-!
# Reads outside a frame

The packet callback compares no offset with the length of the captured frame. It stays inside
the frame exactly when the frame is long enough for the datagram it announces and for the
ranges of all configured slaves.
-/

namespace Kddv

open Framework

/-- Every conversion that succeeds gives a value of the type `int`. -/
private theorem asInt_inRange (json : Json) (value : Int) (h : json.asInt = .ok value) :
    IntRange value := by
  cases json with
  | null =>
    cases h
    decide
  | bool b =>
    cases h
    cases b <;> decide
  | int v =>
    rw [Json.asInt] at h
    split at h
    · cases h
      assumption
    · cases h
  | real v =>
    rw [Json.asInt] at h
    split at h
    · cases h
      exact ⟨Int32.le_toInt _, Int32.toInt_lt _⟩
    · cases h
  | string s => cases h
  | array items => cases h
  | object members => cases h

private theorem memberInt_inRange (json : Json) (key : String) (value : Int)
    (h : PacketSniffer.memberInt json key = .ok value) : IntRange value := by
  rw [PacketSniffer.memberInt, orThrow] at h
  cases hmember : json.member key with
  | error e =>
    rw [hmember] at h
    cases h
  | ok entry =>
    rw [hmember, Except.bind] at h
    cases hint : entry.asInt with
    | error e =>
      rw [hint] at h
      cases h
    | ok v =>
      rw [hint] at h
      rw [← Except.ok.inj h]
      exact asInt_inRange entry v hint

/-- The offsets of a configured slave are values of the type `int`. -/
def OffsetsInRange (slave : EthercatSlave) : Prop :=
  IntRange slave.slaveInfo.rxStartOffset ∧ IntRange slave.slaveInfo.txStartOffset

theorem readSlave_offsetsInRange (memory : FreshMemory) (json : Json) (slave : EthercatSlave)
    (h : PacketSniffer.readSlave memory json = .ok slave) : OffsetsInRange slave := by
  rw [PacketSniffer.readSlave] at h
  obtain ⟨name, -, h⟩ := except_bind_ok h
  dsimp only at h
  split at h
  · cases h
  · obtain ⟨slaveNumber, -, h⟩ := except_bind_ok h
    obtain ⟨eepMan, -, h⟩ := except_bind_ok h
    obtain ⟨eepId, -, h⟩ := except_bind_ok h
    obtain ⟨eepRev, -, h⟩ := except_bind_ok h
    obtain ⟨address, -, h⟩ := except_bind_ok h
    obtain ⟨rxStartOffset, hrx, h⟩ := except_bind_ok h
    obtain ⟨txStartOffset, htx, h⟩ := except_bind_ok h
    cases h
    exact ⟨memberInt_inRange json _ _ hrx, memberInt_inRange json _ _ htx⟩

theorem getSlaves_offsetsInRange (heap : Nat → FreshMemory) (config : Json)
    (slaves : List EthercatSlave) (error : String)
    (h : PacketSniffer.getSlaves heap config = .ok (slaves, error)) (slave : EthercatSlave)
    (hs : slave ∈ slaves) : OffsetsInRange slave := by
  rw [PacketSniffer.getSlaves] at h
  split at h
  · cases h
    cases hs
  · obtain ⟨entries, -, h⟩ := except_bind_ok h
    obtain ⟨read, hread, h⟩ := except_bind_ok h
    cases h
    obtain ⟨i, hi, rfl⟩ := List.mem_iff_getElem.mp hs
    have hloop := (mapM_eq_ok_iff _ _ _).mp hread
    have hentry := (List.forall₂_iff_get.mp hloop).2 i (by rw [hloop.length_eq]; exact hi) hi
    exact readSlave_offsetsInRange _ _ _ hentry

/-- A range at a configured offset, which is counted from the start of the payload, is part of
a frame of `length` bytes, and the position of its first byte is a value of the type `int`. -/
def RangeInFrame (length : Nat) (offset : Int) (size : Nat) : Prop :=
  -26 ≤ offset ∧ 26 + offset < 2 ^ 31 ∧ 26 + offset + size ≤ length

instance (length : Nat) (offset : Int) (size : Nat) :
    Decidable (RangeInFrame length offset size) := by
  unfold RangeInFrame
  infer_instance

/-- The frame is long enough for its first datagram, with the working counter, and for the
ranges of all slaves. -/
def LongEnough (frame : Memory) (slaves : List EthercatSlave) : Prop :=
  28 + datagramSize frame ≤ frame.buffer.length ∧ ∀ slave ∈ slaves,
    RangeInFrame frame.buffer.length slave.slaveInfo.rxStartOffset (rxSize slave.cls) ∧
      RangeInFrame frame.buffer.length slave.slaveInfo.txStartOffset (txSize slave.cls)

instance (frame : Memory) (slaves : List EthercatSlave) : Decidable (LongEnough frame slaves) := by
  unfold LongEnough
  infer_instance

private theorem currentOffset_inside_iff (length : Nat) (offset : Int) (size : Nat)
    (hsize : 0 < size) (h : IntRange offset) :
    (⟨currentOffset offset, size⟩ : Span).Inside length ↔ RangeInFrame length offset size := by
  obtain ⟨hlow, hhigh⟩ := h
  rw [Span.inside_iff _ _ hsize, RangeInFrame]
  by_cases hover : 26 + offset < 2 ^ 31
  · have hcur : currentOffset offset = 26 + offset := by
      rw [currentOffset, ethHeaderSize, ecComtSize_eq]
      apply Int.bmod_eq_of_le <;> omega
    simp only [hcur]
    constructor <;> intro hb <;> omega
  · -- the sum wraps to a negative position
    have hcur : currentOffset offset = 26 + offset - 2 ^ 32 := by
      rw [currentOffset, ethHeaderSize, ecComtSize_eq, ← Int.sub_bmod_right]
      apply Int.bmod_eq_of_le <;> omega
    simp only [hcur]
    constructor <;> intro hb <;> omega

private theorem reads_inside_iff (sniffer : PacketSniffer) (frame : Memory) (millis : Int)
    (haccepted : Accepted frame) (hrange : ∀ slave ∈ sniffer.slaves, OffsetsInRange slave) :
    (∀ span ∈ (packetCallback sniffer frame millis).reads, span.Inside frame.buffer.length) ↔
      LongEnough frame sniffer.slaves := by
  have hreads : (packetCallback sniffer frame millis).reads =
      ⟨ethHeaderSize, ecComtSize⟩ ::
        ⟨(ethHeaderSize + ecComtSize + datagramSize frame : Nat), 2⟩ ::
          sniffer.slaves.flatMap fun slave => [rxSpan slave, txSpan slave] := by
    simp [packetCallback, haccepted.1, haccepted.2]
  rw [hreads, List.forall_mem_cons, List.forall_mem_cons, ← and_assoc, LongEnough]
  apply and_congr
  · rw [Span.inside_iff _ _ (by decide), Span.inside_iff _ _ Nat.two_pos]
    simp only [ethHeaderSize, ecComtSize_eq]
    omega
  · rw [List.forall_mem_flatMap]
    apply forall₂_congr
    intro slave hs
    obtain ⟨hrx, htx⟩ := hrange slave hs
    rw [List.forall_mem_cons, List.forall_mem_singleton, rxSpan, txSpan,
      currentOffset_inside_iff _ _ _ (rxSize_pos _) hrx,
      currentOffset_inside_iff _ _ _ (txSize_pos _) htx]

/-- The frame has no effect: the slaves are unchanged and nothing is displayed or published. -/
def Ignored (sniffer : PacketSniffer) (result : PacketResult) : Prop :=
  result.sniffer.slaves = sniffer.slaves ∧
    (∀ slaves, SnifferOutput.dataCallback slaves ∉ result.outputs) ∧
      ∀ message, SnifferOutput.publishMsg message ∉ result.outputs

private theorem ignored_iff (sniffer : PacketSniffer) (frame : Memory) (millis : Int) :
    Ignored sniffer (packetCallback sniffer frame millis) ↔ ¬ Accepted frame := by
  constructor
  · rintro ⟨-, hcallback, -⟩ haccepted
    apply hcallback (sniffer.slaves.map (copySlave frame))
    simp [packetCallback, haccepted.1, haccepted.2]
  · intro hrejected
    obtain ⟨hsniffer, houtputs⟩ := packetCallback_rejected sniffer frame millis hrejected
    refine ⟨by rw [hsniffer], ?_, ?_⟩ <;> intro _ <;> rw [houtputs] <;> exact List.not_mem_nil

/-- For any configured slaves and any captured bytes: the callback reads inside the frame or
ignores it, exactly when the frame fails one of the two filters or is long enough. -/
theorem packetCallback_bounds_iff (heap : Nat → FreshMemory) (config : Json)
    (slaves : List EthercatSlave) (error : String)
    (hconfig : PacketSniffer.getSlaves heap config = .ok (slaves, error))
    (zmqPublishEnabled : Bool) (frame : Memory) (millis : Int) :
    ((∀ span ∈ (packetCallback ⟨slaves, zmqPublishEnabled⟩ frame millis).reads,
        span.Inside frame.buffer.length) ∨
      Ignored ⟨slaves, zmqPublishEnabled⟩
        (packetCallback ⟨slaves, zmqPublishEnabled⟩ frame millis)) ↔
    srcAddr frame ≠ incomingSource ∨ (ethercatHeader frame).command ≠ ecCmdLrw ∨
      LongEnough frame slaves := by
  have hrange := getSlaves_offsetsInRange heap config slaves error hconfig
  rw [ignored_iff, ← or_assoc]
  by_cases haccepted : Accepted frame
  · rw [reads_inside_iff _ _ _ haccepted hrange]
    simp only [haccepted, haccepted.1, haccepted.2, not_true_eq_false, ne_eq, or_false, false_or]
  · have hrejected : srcAddr frame ≠ incomingSource ∨
        (ethercatHeader frame).command ≠ ecCmdLrw := by
      rwa [Accepted, not_and_or] at haccepted
    simp only [haccepted, hrejected, not_false_eq_true, or_true, true_or]

/-- The config entry of one drive. -/
private def driveConfig : Json :=
  .object [("Slaves", .array [.object
    [("Address", .int 4097), ("EEP ID", .int 33558529), ("EEP Man", .int 1280),
      ("EEP Rev", .int 1020), ("Name", .string "KELOD105"), ("RX start offset", .int 0),
      ("Slave ID", .int 1), ("TX start offset", .int 36)]])]

/-- The drive that it describes. -/
def driveSlave : EthercatSlave :=
  (default : FreshMemory).makeSlave .keloDriveSlave
    ⟨"KELOD105", keloDriveSlaveType, 1, 1280, 1020, 33558529, 4097, 0, 36⟩

private theorem getSlaves_driveConfig :
    PacketSniffer.getSlaves (fun _ => default) driveConfig = .ok ([driveSlave], "") := rfl

/-- A frame with the given datagram length and number of bytes after the datagram header. -/
def lrwBytes (dlength : UInt8) (size : Nat) : Memory where
  buffer := [0xff, 0xff, 0xff, 0xff, 0xff, 0xff] ++ incomingSource ++ [0x88, 0xa4] ++
    [0, 0x10, ecCmdLrw, 0, 0, 0, 0, 0, dlength, 0, 0, 0] ++ List.replicate size 0
  around := fun _ => 0

/-- A frame that carries both records of the drive. -/
theorem packetCallback_bounds_drive :
    (∀ span ∈ (packetCallback ⟨[driveSlave], true⟩ (lrwBytes 208 210) 0).reads, span.Inside 236) ∨
      Ignored ⟨[driveSlave], true⟩ (packetCallback ⟨[driveSlave], true⟩ (lrwBytes 208 210) 0) :=
  (packetCallback_bounds_iff (fun _ => default) driveConfig [driveSlave] "" getSlaves_driveConfig
    true (lrwBytes 208 210) 0).mpr (.inr (.inr (by decide +kernel)))

/-- A frame of the minimal length of 60 bytes is decoded as if it carried both records. -/
theorem packetCallback_leaves_frame :
    ¬ ((∀ span ∈ (packetCallback ⟨[driveSlave], true⟩ (lrwBytes 32 34) 0).reads, span.Inside 60) ∨
      Ignored ⟨[driveSlave], true⟩ (packetCallback ⟨[driveSlave], true⟩ (lrwBytes 32 34) 0)) := by
  have haccepted : Accepted (lrwBytes 32 34) := by decide
  rintro (hinside | hignored)
  · have hlong := (reads_inside_iff ⟨[driveSlave], true⟩ (lrwBytes 32 34) 0 haccepted
      (getSlaves_offsetsInRange _ _ _ _ getSlaves_driveConfig)).mp hinside
    exact absurd hlong (by decide)
  · exact (ignored_iff _ _ _).mp hignored haccepted

end Kddv
