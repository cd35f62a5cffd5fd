import Kddv.Bus.SlaveTable
import Kddv.Sniffer.Decoding

/-!
# Process images sent in several datagrams

The generated offsets are positions in the whole process image, while the packet callback
applies them to the payload of each datagram by itself and to all slaves.
-/

namespace Kddv

open Framework

/-- Part of the process image that is sent in one datagram. -/
structure Segment where
  start : Nat
  length : Nat
  length_lt : length < 4096

namespace Segment

/-- The segment contains both ranges of the slave. -/
def Carries (segment : Segment) (slave : EthercatSlave) : Prop :=
  (segment.start ≤ slave.slaveInfo.rxStartOffset ∧
      slave.slaveInfo.rxStartOffset + rxSize slave.cls ≤ segment.start + segment.length) ∧
    segment.start ≤ slave.slaveInfo.txStartOffset ∧
      slave.slaveInfo.txStartOffset + txSize slave.cls ≤ segment.start + segment.length

/-- The segment contains no byte of the slave. -/
def Misses (segment : Segment) (slave : EthercatSlave) : Prop :=
  Span.Disjoint ⟨segment.start, segment.length⟩
      ⟨slave.slaveInfo.rxStartOffset, rxSize slave.cls⟩ ∧
    Span.Disjoint ⟨segment.start, segment.length⟩
      ⟨slave.slaveInfo.txStartOffset, txSize slave.cls⟩

instance (segment : Segment) (slave : EthercatSlave) : Decidable (segment.Carries slave) := by
  unfold Carries
  infer_instance

instance (segment : Segment) (slave : EthercatSlave) : Decidable (segment.Misses slave) := by
  unfold Misses
  infer_instance

end Segment

/-- A captured frame with the memory around it and the time of its arrival. -/
structure Capture where
  frame : EthercatFrame
  around : Int → UInt8
  millis : Int

def Capture.memory (capture : Capture) : Memory := capture.frame.memory capture.around

/-- An LRW datagram with the logical address and the bytes of a segment. -/
structure SentAs (image : List UInt8) (segment : Segment) (capture : Capture) : Prop where
  src : capture.frame.src = incomingSource
  command : capture.frame.header.command = ecCmdLrw
  address : capture.frame.header.adp.toNat + 2 ^ 16 * capture.frame.header.ado.toNat = segment.start
  payload : capture.frame.payload = slice image segment.start segment.length

def processCapture (sniffer : PacketSniffer) (capture : Capture) : PacketSniffer :=
  (packetCallback sniffer capture.memory capture.millis).sniffer

def processCaptures (sniffer : PacketSniffer) (captures : List Capture) : PacketSniffer :=
  captures.foldl processCapture sniffer

/-- The slave with its records taken from the image. -/
def imageSlave (image : List UInt8) (slave : EthercatSlave) : EthercatSlave :=
  slave.copyData (slice image slave.slaveInfo.rxStartOffset.toNat)
    (slice image slave.slaveInfo.txStartOffset.toNat)

open Classical in
/-- However the segments of an image are captured, each slave carried by one of the segments
received so far has its records of the image, and the others are unchanged. -/
def RespectsLogicalAddresses (slaves : List EthercatSlave) (size : Nat) (segments : List Segment) :
    Prop :=
  ∀ (image : List UInt8) (captures : List Capture) (start : List EthercatSlave) (zmq : Bool)
    (received : Nat), image.length = size → EthercatSlave.SameSlaves start slaves →
    List.Forall₂ (SentAs image) segments captures →
    (processCaptures ⟨start, zmq⟩ (captures.take received)).slaves =
      start.map fun slave =>
        if ∃ segment ∈ segments.take received, segment.Carries slave then imageSlave image slave
        else slave

theorem processCapture_slaves {image : List UInt8} {segment : Segment} {capture : Capture}
    (h : SentAs image segment capture) (sniffer : PacketSniffer) :
    (processCapture sniffer capture).slaves =
      sniffer.slaves.map (copySlave capture.memory) := by
  have haccepted := (capture.frame.accepted_memory_iff capture.around).mpr ⟨h.src, h.command⟩
  rw [processCapture, Capture.memory, packetCallback_accepted _ _ _ haccepted]

private theorem slice_slice_zero (bytes : List UInt8) (length offset size : Nat)
    (h : offset + size ≤ length) :
    slice (slice bytes 0 length) offset size = slice bytes offset size := by
  rw [slice, slice, slice, List.drop_zero, List.drop_take, List.take_take]
  congr 1
  omega

/-- A segment at address zero is decoded as the image is. -/
private theorem copySlave_of_start_zero {image : List UInt8} {segment : Segment} {capture : Capture}
    (h : SentAs image segment capture) (hinside : segment.start + segment.length ≤ image.length)
    (slave : EthercatSlave) (hstart : segment.start = 0) (hcarries : segment.Carries slave) :
    copySlave capture.memory slave = imageSlave image slave := by
  have hpayload : capture.frame.payload = slice image 0 segment.length := by
    rw [h.payload, hstart]
  have hlength : capture.frame.payload.length = segment.length := by
    rw [hpayload, slice_length _ _ _ (by omega)]
  obtain ⟨⟨hrx, hrx'⟩, htx, htx'⟩ := hcarries
  have hin : InPayload capture.frame.payload.length slave := by
    rw [hlength]
    refine ⟨⟨?_, ?_⟩, ?_, ?_⟩ <;> omega
  rw [Capture.memory, copySlave_payload _ _ _ hin, hpayload]
  exact slave.copyData_congr (slice_slice_zero _ _ _ _ (by omega))
    (slice_slice_zero _ _ _ _ (by omega))

/-- If every received segment starts at zero and carries all slaves, the first of them sets all
records and the others set the same records again. -/
private theorem processCaptures_of_start_zero {image : List UInt8} {segments : List Segment}
    {captures : List Capture} (h : List.Forall₂ (SentAs image) segments captures)
    (start : List EthercatSlave) (zmq : Bool) (hne : segments ≠ [])
    (hinside : ∀ segment ∈ segments, segment.start + segment.length ≤ image.length)
    (hgood : ∀ segment ∈ segments, ∀ slave ∈ start, segment.start = 0 ∧ segment.Carries slave) :
    (processCaptures ⟨start, zmq⟩ captures).slaves = start.map (imageSlave image) := by
  induction h generalizing start zmq with
  | nil => exact absurd rfl hne
  | @cons segment capture segments captures hsent hrest ih =>
    have hfirst : (processCapture ⟨start, zmq⟩ capture).slaves = start.map (imageSlave image) := by
      rw [processCapture_slaves hsent]
      apply List.map_congr_left
      intro slave hs
      obtain ⟨hzero, hcarries⟩ := hgood segment (by simp) slave hs
      exact copySlave_of_start_zero hsent (hinside _ (by simp)) slave hzero hcarries
    change (processCaptures (processCapture ⟨start, zmq⟩ capture) captures).slaves = _
    by_cases hempty : segments = []
    · subst hempty
      cases hrest
      exact hfirst
    · have hnext := ih (start.map (imageSlave image)) (processCapture ⟨start, zmq⟩ capture).2 hempty
        (fun d hd => hinside d (by simp [hd])) (by
          intro d hd slave hm
          obtain ⟨slave, hs, rfl⟩ := List.mem_map.mp hm
          exact hgood d (by simp [hd]) slave hs)
      rw [← hfirst] at hnext
      rw [show processCapture ⟨start, zmq⟩ capture =
        ⟨(processCapture ⟨start, zmq⟩ capture).1, (processCapture ⟨start, zmq⟩ capture).2⟩ from rfl,
        hnext, hfirst, List.map_map]
      rfl

/-! ## The images that tell the layouts apart -/

/-- The bytes of a segment. -/
private def segmentPayload (image : List UInt8) (segment : Segment) : List UInt8 :=
  (List.range segment.length).map fun i => image.getD (segment.start + i) 0

private theorem segmentPayload_length (image : List UInt8) (segment : Segment) :
    (segmentPayload image segment).length = segment.length := by
  simp [segmentPayload]

private theorem segmentPayload_getElem? (image : List UInt8) (segment : Segment) (i : Nat)
    (h : i < segment.length) :
    (segmentPayload image segment)[i]? = some (image.getD (segment.start + i) 0) := by
  simp [segmentPayload, h]

private theorem segmentPayload_eq (image : List UInt8) (segment : Segment)
    (hinside : segment.start + segment.length ≤ image.length) :
    segmentPayload image segment = slice image segment.start segment.length := by
  apply List.ext_getElem?
  intro i
  by_cases hi : i < segment.length
  · rw [segmentPayload_getElem? _ _ _ hi, slice_getElem? _ _ _ _ hi, List.getD_eq_getElem?_getD,
      List.getElem?_eq_getElem (by omega)]
    rfl
  · rw [List.getElem?_eq_none (by rw [segmentPayload_length]; omega),
      List.getElem?_eq_none (by rw [slice_length _ _ _ hinside]; omega)]

private theorem broadcast_length :
    ([0xff, 0xff, 0xff, 0xff, 0xff, 0xff] : List UInt8).length = 6 := rfl

/-- The capture of a segment with no other byte set after the header. -/
private def segmentCapture (image : List UInt8) (segment : Segment) : Capture where
  frame :=
    { dst := [0xff, 0xff, 0xff, 0xff, 0xff, 0xff]
      src := incomingSource
      header := ⟨0, ecCmdLrw, 0, UInt16.ofNat segment.start, UInt16.ofNat (segment.start / 2 ^ 16),
        UInt16.ofNat segment.length, 0⟩
      payload := segmentPayload image segment
      wkcnt := 0
      rest := []
      dst_length := broadcast_length
      src_length := incomingSource_length
      payload_length := by
        have hlt := segment.length_lt
        rw [segmentPayload_length, UInt16.toNat_ofNat_of_lt' (lt_trans hlt (by decide)),
          show 0x0fff = 2 ^ 12 - 1 from rfl, Nat.and_two_pow_sub_one_eq_mod,
          Nat.mod_eq_of_lt hlt] }
  around := fun _ => 0
  millis := 0

private theorem segmentCapture_sentAs (image : List UInt8) (segment : Segment)
    (hinside : segment.start + segment.length ≤ image.length) (hsize : image.length ≤ 4096) :
    SentAs image segment (segmentCapture image segment) where
  src := rfl
  command := rfl
  address := by
    have hstart : segment.start < 2 ^ 16 := lt_of_le_of_lt (by omega) (by decide : 4096 < 2 ^ 16)
    change (UInt16.ofNat segment.start).toNat +
      2 ^ 16 * (UInt16.ofNat (segment.start / 2 ^ 16)).toNat = segment.start
    rw [UInt16.toNat_ofNat_of_lt' hstart, Nat.div_eq_of_lt hstart]
    rfl
  payload := segmentPayload_eq image segment hinside

private theorem segmentCapture_byte (image : List UInt8) (segment : Segment) (offset : Nat) :
    (segmentCapture image segment).memory.byte ((26 + offset : Nat) : Int) =
      if offset < segment.length then image.getD (segment.start + offset) 0 else 0 := by
  have hlength := segmentPayload_length image segment
  have hbytes : (segmentCapture image segment).memory.buffer[26 + offset]? =
      (segmentPayload image segment ++ [0, 0])[offset]? := by
    rw [Capture.memory, EthercatFrame.memory_buffer, EthercatFrame.bytes,
      List.getElem?_append_right (by rw [EthercatFrame.headers_length]; omega),
      EthercatFrame.headers_length, Nat.add_sub_cancel_left]
    change (segmentPayload image segment ++ (Packed.layout.encode (0 : UInt16) ++ []))[offset]? = _
    rw [show Packed.layout.encode (0 : UInt16) = [0, 0] by decide, List.append_nil]
  rw [Memory.byte, if_pos (by omega), Int.toNat_natCast, List.getD_eq_getElem?_getD, hbytes]
  split
  · rename_i hlt
    rw [List.getElem?_append_left (by omega), segmentPayload_getElem? _ _ _ hlt]
    rfl
  · rename_i hge
    rw [List.getElem?_append_right (by omega)]
    rcases offset - (segmentPayload image segment).length with _ | _ | n <;> rfl

/-- An image with a single byte set. -/
private def oneAt (size position : Nat) : List UInt8 := (List.replicate size 0).set position 1

private theorem oneAt_length (size position : Nat) : (oneAt size position).length = size := by
  simp [oneAt]

private theorem oneAt_getD (size position i : Nat) (h : i ≠ position) :
    (oneAt size position).getD i 0 = 0 := by
  rw [oneAt, List.getD_eq_getElem?_getD, List.getElem?_set_ne (Ne.symm h),
    List.getElem?_replicate]
  split <;> rfl

private theorem oneAt_getElem? (size position : Nat) (h : position < size) :
    (oneAt size position)[position]? = some 1 := by
  simp [oneAt, h]

/-- Unless the segment starts at zero and carries the slave, the first byte decoded for the
slave is not the one that is set in the image. -/
private theorem segmentCapture_byte_zero (slave : EthercatSlave) (size : Nat) (segment : Segment)
    (hslave : InPayload size slave)
    (hwhole : segment.Carries slave ∨ segment.Misses slave)
    (hbad : ¬ (segment.start = 0 ∧ segment.Carries slave)) :
    (segmentCapture (oneAt size slave.slaveInfo.rxStartOffset.toNat) segment).memory.byte
      ((26 + slave.slaveInfo.rxStartOffset.toNat : Nat) : Int) = 0 := by
  rw [segmentCapture_byte]
  split
  · rename_i hlt
    apply oneAt_getD
    intro heq
    have hstart : segment.start = 0 := by omega
    rcases hwhole with hcarries | hmisses
    · exact hbad ⟨hstart, hcarries⟩
    · -- the segment begins at zero and reaches into the slave
      have hpos := rxSize_pos slave.cls
      have hrx := hslave.1.1
      have hdisjoint := hmisses.1
      simp only [Span.Disjoint] at hdisjoint
      omega
  · rfl

private theorem copySlave_rxBytes_head (capture : Capture) (slave : EthercatSlave) (size : Nat)
    (hsize : size ≤ 4096) (hslave : InPayload size slave) :
    (copySlave capture.memory slave).rxBytes[0]? =
      some (capture.memory.byte ((26 + slave.slaveInfo.rxStartOffset.toNat : Nat) : Int)) := by
  obtain ⟨hrx, hrx'⟩ := hslave.1
  rw [copySlave, EthercatSlave.copyData_rxBytes _ _ _ (Memory.read_length _ _ _),
    Memory.read_getElem? _ _ _ _ (rxSize_pos _),
    currentOffset_of_inRange _ (by omega) (by omega)]
  congr 2
  omega

private theorem imageSlave_rxBytes_head (slave : EthercatSlave) (size : Nat)
    (hslave : InPayload size slave) :
    (imageSlave (oneAt size slave.slaveInfo.rxStartOffset.toNat) slave).rxBytes[0]? = some 1 := by
  obtain ⟨hrx, hrx'⟩ := hslave.1
  have hpos := rxSize_pos slave.cls
  rw [imageSlave, EthercatSlave.copyData_rxBytes _ _ _
    (slice_length _ _ _ (by rw [oneAt_length]; omega)), slice_getElem? _ _ _ _ hpos, Nat.add_zero,
    oneAt_getElem? _ _ (by omega)]

private theorem forall₂_segmentCapture (image : List UInt8) (segments : List Segment)
    (hinside : ∀ segment ∈ segments, segment.start + segment.length ≤ image.length)
    (hsize : image.length ≤ 4096) :
    List.Forall₂ (SentAs image) segments (segments.map (segmentCapture image)) := by
  rw [List.forall₂_map_right_iff, List.forall₂_same]
  intro segment hs
  exact segmentCapture_sentAs image segment (hinside segment hs) hsize

/-- If all slaves have their records of the image, processing a further segment decodes each
slave from that segment. -/
private theorem processCaptures_concat (image : List UInt8) (segment : Segment)
    (hsent : SentAs image segment (segmentCapture image segment)) (sniffer : PacketSniffer)
    (captures : List Capture) :
    (processCaptures sniffer (captures ++ [segmentCapture image segment])).slaves =
      (processCaptures sniffer captures).slaves.map
        (copySlave (segmentCapture image segment).memory) := by
  rw [processCaptures, List.foldl_append, List.foldl_cons, List.foldl_nil,
    processCapture_slaves hsent]
  rfl

/-- The property keeps slaves that start with their records of the image. -/
private theorem respects_keeps_image {slaves : List EthercatSlave} {size : Nat}
    {segments : List Segment} (h : RespectsLogicalAddresses slaves size segments)
    (image : List UInt8) (hlength : image.length = size) (hsize : size ≤ 4096)
    (hinside : ∀ segment ∈ segments, segment.start + segment.length ≤ size) (received : Nat) :
    (processCaptures ⟨slaves.map (imageSlave image), true⟩
      ((segments.take received).map (segmentCapture image))).slaves =
        slaves.map (imageSlave image) := by
  have hsame : EthercatSlave.SameSlaves (slaves.map (imageSlave image)) slaves :=
    EthercatSlave.sameSlaves_map (fun slave => slave.copyData_sameSlave _ _) slaves
  subst hlength
  rw [List.map_take, h image _ _ true received rfl hsame
    (forall₂_segmentCapture image segments hinside hsize), List.map_map]
  apply List.map_congr_left
  intro slave _
  rw [Function.comp_apply]
  split <;> rfl

/-- A received segment that is shifted, or does not carry some slave, breaks the property. -/
private theorem start_zero_of_respects {slaves : List EthercatSlave} {size : Nat}
    {segments : List Segment} (hsize : size ≤ 4096)
    (hslaves : ∀ slave ∈ slaves, InPayload size slave)
    (hinside : ∀ segment ∈ segments, segment.start + segment.length ≤ size)
    (hwhole : ∀ segment ∈ segments, ∀ slave ∈ slaves,
      segment.Carries slave ∨ segment.Misses slave)
    (h : RespectsLogicalAddresses slaves size segments) (segment : Segment)
    (hsegment : segment ∈ segments) (slave : EthercatSlave) (hslave : slave ∈ slaves) :
    segment.start = 0 ∧ segment.Carries slave := by
  by_contra hbad
  have hin := hslaves slave hslave
  let image := oneAt size slave.slaveInfo.rxStartOffset.toNat
  have hlength : image.length = size := oneAt_length _ _
  obtain ⟨k, hk, rfl⟩ := List.mem_iff_getElem.mp hsegment
  have hbefore := respects_keeps_image h image hlength hsize hinside k
  have hafter := respects_keeps_image h image hlength hsize hinside (k + 1)
  have hsent : SentAs image segments[k] (segmentCapture image segments[k]) :=
    segmentCapture_sentAs _ _ (by rw [hlength]; exact hinside _ hsegment)
      (by rw [hlength]; exact hsize)
  rw [List.take_succ_eq_append_getElem hk, List.map_append, List.map_singleton,
    processCaptures_concat image _ hsent, hbefore, List.map_map] at hafter
  have hdecoded := List.map_inj_left.mp hafter slave hslave
  have hhead :
      (copySlave (segmentCapture image segments[k]).memory (imageSlave image slave)).rxBytes[0]? =
      some 0 := by
    rw [copySlave_rxBytes_head _ (imageSlave image slave) size hsize hin]
    exact congrArg some
      (segmentCapture_byte_zero slave size _ hin (hwhole _ hsegment _ hslave) hbad)
  rw [Function.comp_apply] at hdecoded
  rw [hdecoded, imageSlave_rxBytes_head slave size hin] at hhead
  exact absurd hhead (by decide)

/-- Let each datagram carry whole slaves of an image of at most 4096 bytes. Decoding respects
the logical addresses exactly when every datagram starts at address zero and carries all
configured slaves. -/
theorem respectsLogicalAddresses_iff (slaves : List EthercatSlave) (size : Nat)
    (segments : List Segment) (hsize : size ≤ 4096)
    (hslaves : ∀ slave ∈ slaves, InPayload size slave)
    (hinside : ∀ segment ∈ segments, segment.start + segment.length ≤ size)
    (hwhole : ∀ segment ∈ segments, ∀ slave ∈ slaves,
      segment.Carries slave ∨ segment.Misses slave) :
    RespectsLogicalAddresses slaves size segments ↔
      ∀ segment ∈ segments, ∀ slave ∈ slaves, segment.start = 0 ∧ segment.Carries slave := by
  constructor
  · exact start_zero_of_respects hsize hslaves hinside hwhole
  · intro hgood image captures start zmq received hlength hsame hsent
    subst hlength
    have hgood' : ∀ segment ∈ segments.take received, ∀ slave ∈ start,
        segment.start = 0 ∧ segment.Carries slave := by
      intro segment hs slave hm
      obtain ⟨i, hi, rfl⟩ := List.mem_iff_getElem.mp hm
      obtain ⟨hinfo, hcls⟩ :=
        (List.forall₂_iff_get.mp hsame).2 i hi (by rw [← hsame.length_eq]; exact hi)
      have hslave := hgood segment (List.mem_of_mem_take hs) _
        (List.get_mem slaves ⟨i, by rw [← hsame.length_eq]; exact hi⟩)
      rw [Segment.Carries, ← hinfo, ← hcls] at hslave
      exact hslave
    have hsent' : List.Forall₂ (SentAs image) (segments.take received) (captures.take received) :=
      List.forall₂_take received hsent
    by_cases hempty : segments.take received = []
    · rw [hempty] at hsent'
      rw [List.forall₂_nil_left_iff.mp hsent', hempty]
      simp [processCaptures]
    · rw [processCaptures_of_start_zero hsent' start zmq hempty
        (fun segment hs => hinside segment (List.mem_of_mem_take hs)) hgood']
      obtain ⟨first, hfirst⟩ := List.exists_mem_of_ne_nil _ hempty
      apply List.map_congr_left
      intro slave hs
      rw [if_pos ⟨first, hfirst, (hgood' first hfirst slave hs).2⟩]

/-- A battery module whose records begin at the given offset. -/
private def batteryAt (number offset : Int) : EthercatSlave :=
  (default : FreshMemory).makeSlave .robileBatterySlave
    ⟨"KELO_ROBILE", robileBatterySlaveType, number, 5001027, 1, 34603265, 4096 + number, offset,
      offset + 12⟩

/-- Two battery modules in one datagram. -/
theorem respectsLogicalAddresses_one_datagram :
    RespectsLogicalAddresses [batteryAt 1 0, batteryAt 2 80] 160 [⟨0, 160, by decide⟩] :=
  (respectsLogicalAddresses_iff [batteryAt 1 0, batteryAt 2 80] 160 [⟨0, 160, by decide⟩]
    (by decide) (by decide) (by decide) (by decide)).mpr (by decide)

/-- The same image sent in two datagrams, one for each battery module. -/
theorem respectsLogicalAddresses_two_datagrams :
    ¬ RespectsLogicalAddresses [batteryAt 1 0, batteryAt 2 80] 160
      [⟨0, 80, by decide⟩, ⟨80, 80, by decide⟩] := by
  intro h
  have hgood := start_zero_of_respects (by decide) (by decide) (by decide) (by decide) h
    ⟨80, 80, by decide⟩ (by simp) (batteryAt 2 80) (by simp)
  exact absurd hgood.1 (by decide)

end Kddv
