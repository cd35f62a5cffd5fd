import Kddv.Framework.Memory
import Kddv.Slave.Views

/-!
# The packet callback

`PacketSniffer::packetCallback` on one captured frame. The serialized frame is read through
pointers with no length check, so its bytes are modelled together with the memory around
them, and every range that is read is recorded.
-/

namespace Kddv

open Framework

/-- The EtherCAT length field and the header of the first datagram (`ec_comt`). -/
structure EcComt where
  elength : UInt16
  command : UInt8
  index : UInt8
  adp : UInt16
  ado : UInt16
  dlength : UInt16
  irpt : UInt16

instance : Packed EcComt := .ofFields
  { toFun := fun h => (h.elength, h.command, h.index, h.adp, h.ado, h.dlength, h.irpt)
    invFun := fun (elength, command, index, adp, ado, dlength, irpt) =>
      ⟨elength, command, index, adp, ado, dlength, irpt⟩
    left_inv := fun _ => rfl
    right_inv := fun _ => rfl }

/-- Logical read-write, `EC_CMD_LRW`. -/
def ecCmdLrw : UInt8 := 12

/-- `eth.header_size()` -/
def ethHeaderSize : Nat := 14

/-- `sizeof(ec_comt)` -/
def ecComtSize : Nat := Packed.size EcComt

@[simp] theorem ecComtSize_eq : ecComtSize = 12 := rfl

/-- Source address of frames that have passed through all slaves. -/
def incomingSource : List UInt8 := [0x03, 0x01, 0x01, 0x01, 0x01, 0x01]

theorem incomingSource_length : incomingSource.length = 6 := rfl

/-- `eth.src_addr()`: the six bytes after the destination address. -/
def srcAddr (frame : Memory) : List UInt8 := slice frame.buffer 6 6

def ethercatHeader (frame : Memory) : EcComt :=
  Packed.layout.decode (frame.read ethHeaderSize ecComtSize)

def datagramSize (frame : Memory) : Nat := (ethercatHeader frame).dlength.toNat &&& 0x0fff

/-- `start_offset + offset` in the type `int`. -/
def currentOffset (offset : Int) : Int :=
  Int.bmod ((ethHeaderSize + ecComtSize : Nat) + offset) (2 ^ 32)

/-- Small offsets do not overflow. -/
theorem currentOffset_of_inRange (offset : Int) (h : -26 ≤ offset) (h' : 26 + offset < 2 ^ 31) :
    currentOffset offset = 26 + offset := by
  rw [currentOffset, ethHeaderSize, ecComtSize_eq]
  apply Int.bmod_eq_of_le <;> omega

def rxSpan (slave : EthercatSlave) : Span :=
  ⟨currentOffset slave.slaveInfo.rxStartOffset, rxSize slave.cls⟩

def txSpan (slave : EthercatSlave) : Span :=
  ⟨currentOffset slave.slaveInfo.txStartOffset, txSize slave.cls⟩

/-- Body of the loop over the slaves. -/
def copySlave (frame : Memory) (slave : EthercatSlave) : EthercatSlave :=
  slave.copyData (frame.read (currentOffset slave.slaveInfo.rxStartOffset))
    (frame.read (currentOffset slave.slaveInfo.txStartOffset))

/-- Decoding depends on the configuration only, not on the records decoded before. -/
theorem copySlave_congr (frame : Memory) {left right : EthercatSlave} (h : left.SameSlave right) :
    copySlave frame left = copySlave frame right := by
  rw [copySlave, copySlave, h.1]
  exact EthercatSlave.copyData_sameSlave_congr h _ _

structure PacketSniffer where
  slaves : List EthercatSlave
  zmqPublishEnabled : Bool

/-- What the callback does besides updating the slaves. -/
inductive SnifferOutput
  | workingCounterIs (wkcnt expected : Nat)
  | dataCallback (slaves : List EthercatSlave)
  | publishMsg (message : Json)

structure PacketResult where
  sniffer : PacketSniffer
  reads : List Span
  outputs : List SnifferOutput
  continueSniffing : Bool

/-- The frame passes both filters of the callback. -/
def Accepted (frame : Memory) : Prop :=
  srcAddr frame = incomingSource ∧ (ethercatHeader frame).command = ecCmdLrw

instance (frame : Memory) : Decidable (Accepted frame) := by
  unfold Accepted
  infer_instance

def packetCallback (sniffer : PacketSniffer) (frame : Memory) (millisecSinceEpoch : Int) :
    PacketResult :=
  if srcAddr frame ≠ incomingSource then ⟨sniffer, [], [], true⟩
  else
    let headerSpan : Span := ⟨ethHeaderSize, ecComtSize⟩
    if (ethercatHeader frame).command ≠ ecCmdLrw then ⟨sniffer, [headerSpan], [], true⟩
    else
      let wkcntSpan : Span := ⟨(ethHeaderSize + ecComtSize + datagramSize frame : Nat), 2⟩
      let wkcnt := leValue (frame.read wkcntSpan.start wkcntSpan.size)
      let expectedWkcnt := sniffer.slaves.length * 3
      let mismatch := if expectedWkcnt ≠ wkcnt then
        [SnifferOutput.workingCounterIs wkcnt expectedWkcnt] else []
      let slaves := sniffer.slaves.map (copySlave frame)
      let published := if sniffer.zmqPublishEnabled then
        [SnifferOutput.publishMsg (convertToJson millisecSinceEpoch slaves)] else []
      ⟨{ sniffer with slaves := slaves },
        headerSpan :: wkcntSpan :: sniffer.slaves.flatMap fun slave => [rxSpan slave, txSpan slave],
        mismatch ++ .dataCallback slaves :: published, true⟩

/-- A frame that fails a filter leaves everything as it is. -/
theorem packetCallback_rejected (sniffer : PacketSniffer) (frame : Memory) (millis : Int)
    (h : ¬ Accepted frame) :
    (packetCallback sniffer frame millis).sniffer = sniffer ∧
      (packetCallback sniffer frame millis).outputs = [] := by
  by_cases hsrc : srcAddr frame = incomingSource
  · have hcmd : (ethercatHeader frame).command ≠ ecCmdLrw := fun hc => h ⟨hsrc, hc⟩
    simp [packetCallback, hsrc, hcmd]
  · simp [packetCallback, hsrc]

/-- An accepted frame is decoded for every slave. -/
theorem packetCallback_accepted (sniffer : PacketSniffer) (frame : Memory) (millis : Int)
    (h : Accepted frame) :
    (packetCallback sniffer frame millis).sniffer =
      { sniffer with slaves := sniffer.slaves.map (copySlave frame) } := by
  simp [packetCallback, h.1, h.2]

/-- The message about an unexpected working counter. -/
def mismatchOutputs (slaveCount : Nat) (frame : Memory) : List SnifferOutput :=
  let wkcnt := leValue (frame.read (ethHeaderSize + ecComtSize + datagramSize frame : Nat) 2)
  if slaveCount * 3 ≠ wkcnt then [.workingCounterIs wkcnt (slaveCount * 3)] else []

/-- What follows it for the decoded slaves. -/
def consumerOutputs (zmqPublishEnabled : Bool) (millisecSinceEpoch : Int)
    (slaves : List EthercatSlave) : List SnifferOutput :=
  .dataCallback slaves ::
    if zmqPublishEnabled then [.publishMsg (convertToJson millisecSinceEpoch slaves)] else []

theorem packetCallback_outputs (sniffer : PacketSniffer) (frame : Memory) (millis : Int)
    (h : Accepted frame) :
    (packetCallback sniffer frame millis).outputs =
      mismatchOutputs sniffer.slaves.length frame ++
        consumerOutputs sniffer.zmqPublishEnabled millis
          (sniffer.slaves.map (copySlave frame)) := by
  simp [packetCallback, mismatchOutputs, consumerOutputs, h.1, h.2]

theorem packetCallback_slaves (sniffer : PacketSniffer) (frame : Memory) (millis : Int) :
    (packetCallback sniffer frame millis).sniffer.slaves =
      if Accepted frame then sniffer.slaves.map (copySlave frame) else sniffer.slaves := by
  split
  · rename_i h
    rw [packetCallback_accepted sniffer frame millis h]
  · rename_i h
    rw [(packetCallback_rejected sniffer frame millis h).1]

end Kddv
