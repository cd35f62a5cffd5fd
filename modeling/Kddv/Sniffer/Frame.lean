import Kddv.Sniffer.PacketCallback

/-!
# EtherCAT frames

The Ethernet frames whose first datagram is complete, and what the packet callback finds in
them: the source address, the datagram header and the ranges of the datagram payload.
-/

namespace Kddv

open Framework

/-- An Ethernet frame with at least one EtherCAT datagram. Only the low twelve bits of the
length word count the payload; the others are flags. -/
structure EthercatFrame where
  dst : List UInt8
  src : List UInt8
  header : EcComt
  payload : List UInt8
  wkcnt : UInt16
  rest : List UInt8
  dst_length : dst.length = 6
  src_length : src.length = 6
  payload_length : header.dlength.toNat &&& 0x0fff = payload.length

namespace EthercatFrame

/-- What precedes the payload of the first datagram. -/
def headers (frame : EthercatFrame) : List UInt8 :=
  frame.dst ++ (frame.src ++ ([0x88, 0xa4] ++ Packed.layout.encode frame.header))

/-- The captured bytes, as the capture library serializes them. -/
def bytes (frame : EthercatFrame) : List UInt8 :=
  frame.headers ++ (frame.payload ++ (Packed.layout.encode frame.wkcnt ++ frame.rest))

def memory (frame : EthercatFrame) (around : Int → UInt8) : Memory := ⟨frame.bytes, around⟩

@[simp] theorem memory_buffer (frame : EthercatFrame) (around : Int → UInt8) :
    (frame.memory around).buffer = frame.bytes := rfl

theorem encode_header_length (header : EcComt) : (Packed.layout.encode header).length = 12 :=
  Packed.layout.encode_length header

@[simp] theorem headers_length (frame : EthercatFrame) : frame.headers.length = 26 := by
  simp only [headers, List.length_append, frame.dst_length, frame.src_length,
    encode_header_length, List.length_cons, List.length_nil]

theorem payload_length_lt (frame : EthercatFrame) : frame.payload.length < 4096 := by
  rw [← frame.payload_length]
  exact Nat.and_lt_two_pow (n := 12) _ (by decide)

theorem bytes_length (frame : EthercatFrame) :
    frame.bytes.length = 28 + frame.payload.length + frame.rest.length := by
  have hwkcnt : (Packed.layout.encode frame.wkcnt).length = 2 :=
    Packed.layout.encode_length frame.wkcnt
  simp only [bytes, List.length_append, headers_length, hwkcnt]
  omega

theorem srcAddr_memory (frame : EthercatFrame) (around : Int → UInt8) :
    srcAddr (frame.memory around) = frame.src := by
  rw [srcAddr, slice, memory_buffer, bytes, headers, List.append_assoc,
    List.drop_left' frame.dst_length, List.append_assoc, List.take_left' frame.src_length]

theorem ethercatHeader_memory (frame : EthercatFrame) (around : Int → UInt8) :
    ethercatHeader (frame.memory around) = frame.header := by
  have hpre : (frame.dst ++ (frame.src ++ [0x88, 0xa4])).length = 14 := by
    simp [frame.dst_length, frame.src_length]
  have hslice : slice frame.bytes ethHeaderSize ecComtSize = Packed.layout.encode frame.header := by
    have hsplit : frame.bytes = (frame.dst ++ (frame.src ++ [0x88, 0xa4])) ++
        (Packed.layout.encode frame.header ++
          (frame.payload ++ (Packed.layout.encode frame.wkcnt ++ frame.rest))) := by
      simp only [bytes, headers, List.append_assoc]
    rw [slice, hsplit, ethHeaderSize, List.drop_left' hpre, ecComtSize_eq,
      List.take_left' (encode_header_length frame.header)]
  rw [ethercatHeader, Memory.read_inside _ _ _ (by
    rw [memory_buffer, bytes_length, ethHeaderSize, ecComtSize_eq]
    omega), memory_buffer, hslice]
  exact Packed.layout.decode_encode frame.header

theorem accepted_memory_iff (frame : EthercatFrame) (around : Int → UInt8) :
    Accepted (frame.memory around) ↔
      frame.src = incomingSource ∧ frame.header.command = ecCmdLrw := by
  rw [Accepted, srcAddr_memory, ethercatHeader_memory]

theorem slice_payload (frame : EthercatFrame) (offset size : Nat)
    (h : offset + size ≤ frame.payload.length) :
    slice frame.bytes (26 + offset) size = slice frame.payload offset size := by
  apply List.ext_getElem?
  intro i
  by_cases hi : i < size
  · rw [slice_getElem? _ _ _ _ hi, slice_getElem? _ _ _ _ hi, bytes,
      List.getElem?_append_right (by rw [headers_length]; omega), headers_length,
      List.getElem?_append_left (by omega)]
    congr 1
    omega
  · simp only [slice, List.getElem?_take, if_neg hi]

end EthercatFrame

/-- Reading a range of the payload through the callback's pointer. -/
theorem EthercatFrame.read_payload (frame : EthercatFrame) (around : Int → UInt8)
    (offset size : Nat) (h : offset + size ≤ frame.payload.length) :
    (frame.memory around).read (currentOffset offset) size = slice frame.payload offset size := by
  have hlt := frame.payload_length_lt
  rw [currentOffset_of_inRange _ (by omega) (by omega),
    show (26 + (offset : Int)) = ((26 + offset : Nat) : Int) by omega,
    Memory.read_inside _ _ _ (by rw [memory_buffer, bytes_length]; omega), memory_buffer,
    frame.slice_payload offset size h]

end Kddv
