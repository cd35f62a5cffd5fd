import Kddv.Sniffer.Bounds

/-!
# The capture loop

Whole runs of the sniffer: the packet callback on one captured frame after the other, and
what the user interface and the subscribers receive from it.
-/

namespace Kddv

open Framework

/-- A captured frame, with the publish flag and the clock reading that the callback finds. -/
structure SniffedPacket where
  frame : Memory
  zmqPublishEnabled : Bool
  millisecSinceEpoch : Int

namespace PacketSniffer

def setZMQPublish (sniffer : PacketSniffer) (value : Bool) : PacketSniffer :=
  { sniffer with zmqPublishEnabled := value }

/-- The callback is called for each frame until it returns false. -/
def startSnifferLoop (sniffer : PacketSniffer) : List SniffedPacket → List PacketResult
  | [] => []
  | packet :: packets =>
    let result := packetCallback (sniffer.setZMQPublish packet.zmqPublishEnabled) packet.frame
      packet.millisecSinceEpoch
    if result.continueSniffing then result :: startSnifferLoop result.sniffer packets else [result]

/-- The slaves after a run that started with the given ones. -/
def slavesAfter (slaves : List EthercatSlave) (results : List PacketResult) : List EthercatSlave :=
  (results.getLast?.map fun result => result.sniffer.slaves).getD slaves

end PacketSniffer

@[simp] theorem slavesAfter_nil (slaves : List EthercatSlave) :
    PacketSniffer.slavesAfter slaves [] = slaves := rfl

@[simp] theorem slavesAfter_cons (slaves : List EthercatSlave) (result : PacketResult)
    (results : List PacketResult) :
    PacketSniffer.slavesAfter slaves (result :: results) =
      PacketSniffer.slavesAfter result.sniffer.slaves results := by
  cases results <;> rfl

/-- The loop is never asked to stop. -/
theorem packetCallback_continueSniffing (sniffer : PacketSniffer) (frame : Memory)
    (millis : Int) : (packetCallback sniffer frame millis).continueSniffing = true := by
  unfold packetCallback
  split
  · rfl
  · dsimp only
    split <;> rfl

@[simp] theorem startSnifferLoop_cons (sniffer : PacketSniffer) (packet : SniffedPacket)
    (packets : List SniffedPacket) :
    sniffer.startSnifferLoop (packet :: packets) =
      packetCallback (sniffer.setZMQPublish packet.zmqPublishEnabled) packet.frame
          packet.millisecSinceEpoch ::
        (packetCallback (sniffer.setZMQPublish packet.zmqPublishEnabled) packet.frame
          packet.millisecSinceEpoch).sniffer.startSnifferLoop packets := by
  simp only [PacketSniffer.startSnifferLoop, packetCallback_continueSniffing, if_true]

/-! ## Decoding one frame -/

/-- The slave with both records read from their ranges of the frame. -/
def decodeFrame (frame : Memory) (slave : EthercatSlave) : EthercatSlave :=
  slave.copyData (slice frame.buffer (26 + slave.slaveInfo.rxStartOffset).toNat)
    (slice frame.buffer (26 + slave.slaveInfo.txStartOffset).toNat)

private theorem read_rangeInFrame (frame : Memory) (offset : Int) (size : Nat)
    (h : RangeInFrame frame.buffer.length offset size) :
    frame.read (currentOffset offset) size = slice frame.buffer (26 + offset).toNat size := by
  obtain ⟨hlow, hhigh, hend⟩ := h
  rw [currentOffset_of_inRange offset hlow hhigh,
    show 26 + offset = ((26 + offset).toNat : Int) by omega]
  exact frame.read_inside _ _ (by omega)

/-- In a frame that is long enough, the loop body reads nothing else. -/
theorem copySlave_eq_decodeFrame {frame : Memory} {slaves : List EthercatSlave}
    (h : LongEnough frame slaves) {slave : EthercatSlave} (hs : slave ∈ slaves) :
    copySlave frame slave = decodeFrame frame slave := by
  obtain ⟨hrx, htx⟩ := h.2 slave hs
  exact slave.copyData_congr (read_rangeInFrame frame _ _ hrx) (read_rangeInFrame frame _ _ htx)

/-- Decoding depends on the configuration only, not on the records decoded before. -/
theorem map_copySlave_congr (frame : Memory) {left right : List EthercatSlave}
    (h : EthercatSlave.SameSlaves left right) :
    left.map (copySlave frame) = right.map (copySlave frame) := by
  induction h with
  | nil => rfl
  | cons hfirst _ ih => rw [List.map_cons, List.map_cons, copySlave_congr frame hfirst, ih]

theorem packetCallback_sameSlaves (sniffer : PacketSniffer) (frame : Memory) (millis : Int) :
    EthercatSlave.SameSlaves (packetCallback sniffer frame millis).sniffer.slaves
      sniffer.slaves := by
  rw [packetCallback_slaves]
  split
  · exact EthercatSlave.sameSlaves_map (fun slave => slave.copyData_sameSlave _ _) _
  · exact EthercatSlave.SameSlaves.refl _

/-! ## Runs -/

/-- The output reaches the user interface or the subscribers. -/
def SnifferOutput.isConsumed : SnifferOutput → Bool
  | .workingCounterIs _ _ => false
  | .dataCallback _ => true
  | .publishMsg _ => true

def consumed (outputs : List SnifferOutput) : List SnifferOutput :=
  outputs.filter SnifferOutput.isConsumed

@[simp] theorem consumed_append (left right : List SnifferOutput) :
    consumed (left ++ right) = consumed left ++ consumed right :=
  List.filter_append left right

theorem consumed_mismatchOutputs (slaveCount : Nat) (frame : Memory) :
    consumed (mismatchOutputs slaveCount frame) = [] := by
  unfold mismatchOutputs
  dsimp only
  split <;> rfl

theorem consumed_consumerOutputs (zmqPublishEnabled : Bool) (millis : Int)
    (slaves : List EthercatSlave) :
    consumed (consumerOutputs zmqPublishEnabled millis slaves) =
      consumerOutputs zmqPublishEnabled millis slaves := by
  cases zmqPublishEnabled <;> rfl

/-- What a frame gives the consumers: its decoded data once, and the same data as one message
if publishing is on. -/
def expectedOutputs (slaves : List EthercatSlave) (packet : SniffedPacket) : List SnifferOutput :=
  if Accepted packet.frame then
    let decoded := slaves.map (decodeFrame packet.frame)
    .dataCallback decoded :: if packet.zmqPublishEnabled then
      [.publishMsg (convertToJson packet.millisecSinceEpoch decoded)] else []
  else []

/-- Every accepted frame is long enough for the configured slaves. -/
def AllLongEnough (slaves : List EthercatSlave) (packets : List SniffedPacket) : Prop :=
  ∀ packet ∈ packets, Accepted packet.frame → LongEnough packet.frame slaves

/-- One frame, decoded into slaves that hold the data of any earlier frame. -/
private theorem packetCallback_run (sniffer : PacketSniffer) (slaves : List EthercatSlave)
    (packet : SniffedPacket) (hsame : EthercatSlave.SameSlaves sniffer.slaves slaves)
    (hlong : Accepted packet.frame → LongEnough packet.frame slaves) :
    let result := packetCallback (sniffer.setZMQPublish packet.zmqPublishEnabled) packet.frame
      packet.millisecSinceEpoch
    consumed result.outputs = expectedOutputs slaves packet ∧
      result.sniffer.slaves = if Accepted packet.frame then
        slaves.map (decodeFrame packet.frame) else sniffer.slaves := by
  intro result
  by_cases haccepted : Accepted packet.frame
  · have hdecode : sniffer.slaves.map (copySlave packet.frame) =
        slaves.map (decodeFrame packet.frame) := by
      rw [map_copySlave_congr packet.frame hsame]
      apply List.map_congr_left
      intro slave hs
      exact copySlave_eq_decodeFrame (hlong haccepted) hs
    constructor
    · rw [packetCallback_outputs _ _ _ haccepted, consumed_append, consumed_mismatchOutputs,
        consumed_consumerOutputs, expectedOutputs, if_pos haccepted, ← hdecode]
      rfl
    · rw [packetCallback_slaves, if_pos haccepted, if_pos haccepted]
      exact hdecode
  · obtain ⟨hsniffer, houtputs⟩ := packetCallback_rejected
      (sniffer.setZMQPublish packet.zmqPublishEnabled) packet.frame packet.millisecSinceEpoch
      haccepted
    constructor
    · rw [houtputs, expectedOutputs, if_neg haccepted]
      rfl
    · rw [hsniffer, if_neg haccepted]
      rfl

private theorem sameSlaves_trans {left middle right : List EthercatSlave}
    (h : EthercatSlave.SameSlaves left middle) (h' : EthercatSlave.SameSlaves middle right) :
    EthercatSlave.SameSlaves left right := by
  induction h generalizing right with
  | nil => exact h'
  | cons hfirst _ ih =>
    cases h' with
    | cons hfirst' hrest' =>
      exact .cons ⟨hfirst.1.trans hfirst'.1, hfirst.2.trans hfirst'.2⟩ (ih hrest')

/-- Each call of the callback serves the consumers with its own frame. -/
private theorem startSnifferLoop_outputs (slaves : List EthercatSlave)
    (packets : List SniffedPacket) (hlong : AllLongEnough slaves packets)
    (sniffer : PacketSniffer) (hsame : EthercatSlave.SameSlaves sniffer.slaves slaves) :
    List.Forall₂ (fun packet result => result.continueSniffing = true ∧
      consumed result.outputs = expectedOutputs slaves packet) packets
        (sniffer.startSnifferLoop packets) := by
  induction packets generalizing sniffer with
  | nil => exact .nil
  | cons packet packets ih =>
    obtain ⟨hfirst, hrest⟩ := List.forall_mem_cons.mp hlong
    rw [startSnifferLoop_cons]
    refine .cons ⟨packetCallback_continueSniffing _ _ _, ?_⟩ (ih hrest _ ?_)
    · exact (packetCallback_run sniffer slaves packet hsame hfirst).1
    · exact sameSlaves_trans (packetCallback_sameSlaves _ _ _) hsame

/-- The slaves hold the data of the last accepted frame. -/
private theorem startSnifferLoop_slaves (slaves : List EthercatSlave)
    (packets : List SniffedPacket) (hlong : AllLongEnough slaves packets)
    (sniffer : PacketSniffer) (hsame : EthercatSlave.SameSlaves sniffer.slaves slaves) (i : Nat)
    (hi : i < packets.length) :
    PacketSniffer.slavesAfter sniffer.slaves ((sniffer.startSnifferLoop packets).take (i + 1)) =
      if Accepted packets[i].frame then slaves.map (decodeFrame packets[i].frame)
      else PacketSniffer.slavesAfter sniffer.slaves
        ((sniffer.startSnifferLoop packets).take i) := by
  induction packets generalizing sniffer i with
  | nil => cases hi
  | cons packet packets ih =>
    obtain ⟨hfirst, hrest⟩ := List.forall_mem_cons.mp hlong
    rw [startSnifferLoop_cons]
    cases i with
    | zero => exact (packetCallback_run sniffer slaves packet hsame hfirst).2
    | succ i =>
      have hnext := sameSlaves_trans (packetCallback_sameSlaves
        (sniffer.setZMQPublish packet.zmqPublishEnabled) packet.frame
        packet.millisecSinceEpoch) hsame
      simp only [List.take_succ_cons, slavesAfter_cons, List.getElem_cons_succ]
      exact ih hrest _ hnext i (by simpa using hi)

/-- For every run over frames that are long enough: no frame stops the loop, every accepted
frame is shown once and published once if publishing is on, with its own data, and every
other frame has no effect. -/
theorem startSnifferLoop_serves_frames (sniffer : PacketSniffer) (packets : List SniffedPacket)
    (hlong : AllLongEnough sniffer.slaves packets) :
    List.Forall₂ (fun packet result => result.continueSniffing = true ∧
        consumed result.outputs = expectedOutputs sniffer.slaves packet) packets
      (sniffer.startSnifferLoop packets) ∧
    ∀ i (hi : i < packets.length),
      PacketSniffer.slavesAfter sniffer.slaves ((sniffer.startSnifferLoop packets).take (i + 1)) =
        if Accepted packets[i].frame then sniffer.slaves.map (decodeFrame packets[i].frame)
        else PacketSniffer.slavesAfter sniffer.slaves
          ((sniffer.startSnifferLoop packets).take i) :=
  ⟨startSnifferLoop_outputs sniffer.slaves packets hlong sniffer (.refl _),
    startSnifferLoop_slaves sniffer.slaves packets hlong sniffer (.refl _)⟩

/-- Two frames of a drive, the second one while publishing is off, and an empty frame. -/
private def drivePackets : List SniffedPacket :=
  [⟨lrwBytes 208 210, true, 5⟩, ⟨lrwBytes 208 210, false, 10⟩, ⟨⟨[], fun _ => 0⟩, true, 15⟩]

theorem startSnifferLoop_serves_drive :
    List.Forall₂ (fun packet result => result.continueSniffing = true ∧
        consumed result.outputs = expectedOutputs [driveSlave] packet) drivePackets
      (PacketSniffer.startSnifferLoop ⟨[driveSlave], false⟩ drivePackets) ∧
    ∀ i (hi : i < drivePackets.length),
      PacketSniffer.slavesAfter [driveSlave]
          ((PacketSniffer.startSnifferLoop ⟨[driveSlave], false⟩ drivePackets).take (i + 1)) =
        if Accepted drivePackets[i].frame then
          [driveSlave].map (decodeFrame drivePackets[i].frame)
        else PacketSniffer.slavesAfter [driveSlave]
          ((PacketSniffer.startSnifferLoop ⟨[driveSlave], false⟩ drivePackets).take i) := by
  apply startSnifferLoop_serves_frames ⟨[driveSlave], false⟩ drivePackets
  intro packet hpacket
  unfold drivePackets at hpacket
  fin_cases hpacket
  · exact fun _ => by decide +kernel
  · exact fun _ => by decide +kernel
  · intro haccepted
    exact absurd haccepted (by decide)

end Kddv
