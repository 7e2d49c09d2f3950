import Firecracker.Dumbo.Ipv4

/-!
# Firecracker.Dumbo.Frames

Writing the frames and packets the MMDS sends, and reading the ones it receives: the Ethernet
frames of `dumbo::pdu::ethernet` (no 802.1Q tags), the ARP frames of IPv4 over Ethernet of
`dumbo::pdu::arp`, and the header writer of `dumbo::pdu::ipv4`.

A frame is the byte string it occupies. The getters read at fixed offsets; the writers set the
fields one after the other in a buffer whose length they check first, and a finished packet is
the buffer shrunk to its length (`shrink_unchecked`). A MAC address is its six bytes read as one
big-endian 48-bit number, so it is written and read as a `u32` and a `u16`.

Every writer is undone by the getters: `newWithHeader_spec` (Ethernet), `writeRaw_spec` (the nine
fields of an ARP frame), `arpRequest_roundTrip` (the ARP requests accepted are exactly the frames
`write_request` writes), and `fromBytes_withPayloadLen` (a packet written as `write_next_packet`
writes one is accepted by `from_bytes` with its checksum verified, and reads back its addresses,
protocol and payload). The speculative tests with which the MMDS claims a frame read the bytes
the getters of the packet inside read, and only the first 42 of them, so they have no false
negatives (`testSpeculativeTpa_of_requestFromBytes`, `testSpeculativeDstAddr_of_fromBytes`).
-/

namespace Firecracker

open NetBytes

/-- `MacAddr`: its six bytes, as one big-endian 48-bit number. -/
structure MacAddr where
  bits : BitVec 48
  deriving DecidableEq, Repr

namespace MacAddr

/-- `MacAddr::from_bytes_unchecked(&bytes[ofs..ofs + 6])`. -/
def fromBytesUnchecked (bytes : List (BitVec 8)) (ofs : Nat) : MacAddr :=
  ⟨ntohl bytes ofs ++ ntohs bytes (ofs + 4)⟩

/-- `bytes[ofs..ofs + 6].copy_from_slice(addr.get_bytes())`. -/
def writeTo (addr : MacAddr) (bytes : List (BitVec 8)) (ofs : Nat) : List (BitVec 8) :=
  htons (htonl bytes ofs (addr.bits.extractLsb' 16 32)) (ofs + 4) (addr.bits.extractLsb' 0 16)

variable {b : List (BitVec 8)} {i j ofs : Nat} {a : MacAddr}

@[simp] theorem length_writeTo (a : MacAddr) (b : List (BitVec 8)) (ofs : Nat) :
    (a.writeTo b ofs).length = b.length := by
  simp [writeTo]

theorem fromBytesUnchecked_writeTo (h : ofs + 5 < b.length) :
    fromBytesUnchecked (a.writeTo b ofs) ofs = a := by
  unfold fromBytesUnchecked writeTo
  rw [ntohl_htons_of_disjoint _ (by omega), ntohl_htonl _ (by omega),
    ntohs_htons _ (by simp only [length_htonl]; omega)]
  exact congrArg MacAddr.mk (@BitVec.extractLsb'_append_extractLsb' 32 16 a.bits)

/-! Reads of bytes an address write does not cover, and address reads of bytes other writes do
not cover. -/

theorem getD_writeTo_of_lt (h : j < ofs ∨ ofs + 5 < j) : (a.writeTo b ofs).getD j 0 = b.getD j 0 := by
  unfold writeTo
  rw [getD_htons_of_ne _ (by omega) (by omega), getD_htonl_of_lt _ (by omega)]

theorem ntohs_writeTo_of_disjoint (h : j + 1 < ofs ∨ ofs + 5 < j) :
    ntohs (a.writeTo b ofs) j = ntohs b j := by
  unfold writeTo
  rw [ntohs_htons_of_disjoint _ (by omega), ntohs_htonl_of_disjoint _ (by omega)]

theorem ntohl_writeTo_of_disjoint (h : j + 3 < ofs ∨ ofs + 5 < j) :
    ntohl (a.writeTo b ofs) j = ntohl b j := by
  unfold writeTo
  rw [ntohl_htons_of_disjoint _ (by omega), ntohl_htonl_of_disjoint _ (by omega)]

theorem fromBytesUnchecked_htons_of_disjoint {v : BitVec 16} (h : j + 5 < i ∨ i + 1 < j) :
    fromBytesUnchecked (htons b i v) j = fromBytesUnchecked b j := by
  unfold fromBytesUnchecked
  rw [ntohl_htons_of_disjoint _ (by omega), ntohs_htons_of_disjoint _ (by omega)]

theorem fromBytesUnchecked_htonl_of_disjoint {v : BitVec 32} (h : j + 5 < i ∨ i + 3 < j) :
    fromBytesUnchecked (htonl b i v) j = fromBytesUnchecked b j := by
  unfold fromBytesUnchecked
  rw [ntohl_htonl_of_disjoint _ (by omega), ntohs_htonl_of_disjoint _ (by omega)]

theorem fromBytesUnchecked_set_of_ne {x : BitVec 8} (h : j + 5 < i ∨ i < j) :
    fromBytesUnchecked (b.set i x) j = fromBytesUnchecked b j := by
  unfold fromBytesUnchecked
  rw [ntohl_set_of_ne (by omega), ntohs_set_of_ne (by omega)]

theorem fromBytesUnchecked_writeTo_of_disjoint {a' : MacAddr} (h : j + 5 < ofs ∨ ofs + 5 < j) :
    fromBytesUnchecked (a'.writeTo b ofs) j = fromBytesUnchecked b j := by
  unfold writeTo
  rw [fromBytesUnchecked_htons_of_disjoint (by omega), fromBytesUnchecked_htonl_of_disjoint (by omega)]

theorem writeTo_fromBytesUnchecked (h : ofs + 5 < b.length) :
    (fromBytesUnchecked b ofs).writeTo b ofs = b := by
  unfold fromBytesUnchecked writeTo
  rw [BitVec.extractLsb'_append_eq_left, BitVec.extractLsb'_append_eq_right, htonl_ntohl (by omega),
    htons_ntohs h]

theorem drop_writeTo_of_lt {n : Nat} (h : ofs + 5 < n) : (a.writeTo b ofs).drop n = b.drop n := by
  unfold writeTo
  rw [drop_htons_of_lt _ (by omega), drop_htonl_of_lt _ (by omega)]

theorem fromBytesUnchecked_take_append {n : Nat} (rest : List (BitVec 8)) (h : ofs + 5 < n)
    (hn : n ≤ b.length) : fromBytesUnchecked (b.take n ++ rest) ofs = fromBytesUnchecked b ofs := by
  unfold fromBytesUnchecked
  rw [ntohl_take_append rest (by omega) hn, ntohs_take_append rest h hn]

theorem fromBytesUnchecked_take {n : Nat} (h : ofs + 5 < n) :
    fromBytesUnchecked (b.take n) ofs = fromBytesUnchecked b ofs := by
  unfold fromBytesUnchecked
  rw [ntohl_take (by omega), ntohs_take h]

end MacAddr

namespace Dumbo

/-- `InnerBytes::shrink_unchecked`, which panics on a length past the end. -/
def shrinkUnchecked (bytes : List (BitVec 8)) (len : Nat) : Option (List (BitVec 8)) :=
  if len ≤ bytes.length then some (bytes.take len) else none

/-! ## Ethernet frames -/

namespace Ethernet

def dstMacOffset : Nat := 0
def srcMacOffset : Nat := 6
def ethertypeOffset : Nat := 12
def payloadOffset : Nat := 14

def ethertypeArp : BitVec 16 := 0x0806
def ethertypeIpv4 : BitVec 16 := 0x0800

inductive Error
  | sliceTooShort
  deriving DecidableEq, Repr

/-- `EthernetFrame::from_bytes`: a frame holds at least its header. -/
def fromBytes (bytes : List (BitVec 8)) : Except Error (List (BitVec 8)) :=
  if bytes.length < payloadOffset then .error .sliceTooShort else .ok bytes

section Getters

variable (bytes : List (BitVec 8))

def dstMac : MacAddr := MacAddr.fromBytesUnchecked bytes dstMacOffset
def srcMac : MacAddr := MacAddr.fromBytesUnchecked bytes srcMacOffset
def ethertype : BitVec 16 := ntohs bytes ethertypeOffset
def payload : List (BitVec 8) := bytes.drop payloadOffset

end Getters

/-- `new_with_header`, which `write_incomplete` wraps: the three header fields, in a buffer that
holds at least the header. -/
def newWithHeader (buf : List (BitVec 8)) (dstMac srcMac : MacAddr) (ethertype : BitVec 16) :
    Except Error (List (BitVec 8)) :=
  if buf.length < payloadOffset then .error .sliceTooShort
  else
    let frame := dstMac.writeTo buf dstMacOffset
    let frame := srcMac.writeTo frame srcMacOffset
    .ok (htons frame ethertypeOffset ethertype)

def writeIncomplete (buf : List (BitVec 8)) (dstMac srcMac : MacAddr) (ethertype : BitVec 16) :
    Except Error (List (BitVec 8)) :=
  newWithHeader buf dstMac srcMac ethertype

/-- `with_payload_len_unchecked`: the frame, shrunk to its header and `payload_len` bytes. -/
def withPayloadLenUnchecked (frame : List (BitVec 8)) (payloadLen : Nat) :
    Option (List (BitVec 8)) :=
  shrinkUnchecked frame (payloadOffset + payloadLen)

/-- **What the header writer writes, the getters read back**, and the payload is the buffer's. -/
theorem newWithHeader_spec {buf frame : List (BitVec 8)} {dst src : MacAddr} {ty : BitVec 16}
    (h : newWithHeader buf dst src ty = .ok frame) :
    frame.length = buf.length ∧ dstMac frame = dst ∧ srcMac frame = src ∧ ethertype frame = ty ∧
      payload frame = payload buf := by
  unfold newWithHeader at h
  split at h
  · cases h
  rename_i hlen
  cases h
  simp only [dstMacOffset, srcMacOffset, ethertypeOffset, payloadOffset] at hlen ⊢
  refine ⟨by simp, ?_, ?_, ?_, ?_⟩
  · rw [dstMac, MacAddr.fromBytesUnchecked_htons_of_disjoint (by simp [dstMacOffset]),
      dstMacOffset, MacAddr.fromBytesUnchecked_writeTo_of_disjoint (by omega),
      MacAddr.fromBytesUnchecked_writeTo (by omega)]
  · rw [srcMac, MacAddr.fromBytesUnchecked_htons_of_disjoint (by simp [srcMacOffset]),
      srcMacOffset, MacAddr.fromBytesUnchecked_writeTo (by simp; omega)]
  · rw [ethertype, ethertypeOffset, ntohs_htons _ (by simp; omega)]
  · rw [payload, payloadOffset, drop_htons_of_lt _ (by omega), MacAddr.drop_writeTo_of_lt (by omega),
      MacAddr.drop_writeTo_of_lt (by omega)]
    rfl

theorem newWithHeader_ok {buf : List (BitVec 8)} (dst src : MacAddr) (ty : BitVec 16)
    (h : payloadOffset ≤ buf.length) : ∃ frame, newWithHeader buf dst src ty = .ok frame := by
  unfold newWithHeader
  rw [if_neg (by omega)]
  exact ⟨_, rfl⟩

theorem header_take_append {frame : List (BitVec 8)} (rest : List (BitVec 8))
    (h : payloadOffset ≤ frame.length) :
    dstMac (frame.take payloadOffset ++ rest) = dstMac frame ∧
      srcMac (frame.take payloadOffset ++ rest) = srcMac frame ∧
      ethertype (frame.take payloadOffset ++ rest) = ethertype frame ∧
      payload (frame.take payloadOffset ++ rest) = rest := by
  refine ⟨MacAddr.fromBytesUnchecked_take_append rest (by unfold dstMacOffset payloadOffset; omega) h,
    MacAddr.fromBytesUnchecked_take_append rest (by unfold srcMacOffset payloadOffset; omega) h,
    ntohs_take_append rest (by unfold ethertypeOffset payloadOffset; omega) h, ?_⟩
  exact List.drop_left' (by simp only [List.length_take]; omega)

end Ethernet

/-! ## ARP frames of IPv4 over Ethernet -/

namespace Arp

def operRequest : BitVec 16 := 0x0001
def operReply : BitVec 16 := 0x0002
def htypeEthernet : BitVec 16 := 0x0001
def ethIpv4FrameLen : Nat := 28

def htypeOffset : Nat := 0
def ptypeOffset : Nat := 2
def hlenOffset : Nat := 4
def plenOffset : Nat := 5
def operOffset : Nat := 6
def shaOffset : Nat := 8
def ethIpv4SpaOffset : Nat := 14
def ethIpv4ThaOffset : Nat := 18
def ethIpv4TpaOffset : Nat := 24

def ipv4AddrLen : Nat := 4
def macAddrLen : Nat := 6

inductive Error
  | hLen
  | hType
  | operation
  | pLen
  | pType
  | sliceExactLen
  deriving DecidableEq, Repr

section Getters

variable (bytes : List (BitVec 8))

def htype : BitVec 16 := ntohs bytes htypeOffset
def ptype : BitVec 16 := ntohs bytes ptypeOffset
def hlen : BitVec 8 := bytes.getD hlenOffset 0
def plen : BitVec 8 := bytes.getD plenOffset 0
def operation : BitVec 16 := ntohs bytes operOffset
def sha : MacAddr := MacAddr.fromBytesUnchecked bytes shaOffset
def spa : BitVec 32 := ntohl bytes ethIpv4SpaOffset
def tha : MacAddr := MacAddr.fromBytesUnchecked bytes ethIpv4ThaOffset
def tpa : BitVec 32 := ntohl bytes ethIpv4TpaOffset

end Getters

/-- `EthIPv4ArpFrame::request_from_bytes`: a frame of exactly 28 bytes that asks, over Ethernet,
for an IPv4 address. -/
def requestFromBytes (bytes : List (BitVec 8)) : Except Error (List (BitVec 8)) :=
  if bytes.length ≠ ethIpv4FrameLen then .error .sliceExactLen
  else if htype bytes ≠ htypeEthernet then .error .hType
  else if ptype bytes ≠ Ethernet.ethertypeIpv4 then .error .pType
  else if hlen bytes ≠ BitVec.ofNat 8 macAddrLen then .error .hLen
  else if plen bytes ≠ BitVec.ofNat 8 ipv4AddrLen then .error .pLen
  else if operation bytes ≠ operRequest then .error .operation
  else .ok bytes

/-- `write_raw`: the nine fields, in a buffer of exactly 28 bytes. -/
def writeRaw (buf : List (BitVec 8)) (htype ptype : BitVec 16) (hlen plen : BitVec 8)
    (operation : BitVec 16) (sha : MacAddr) (spa : BitVec 32) (tha : MacAddr) (tpa : BitVec 32) :
    Except Error (List (BitVec 8)) :=
  if buf.length ≠ ethIpv4FrameLen then .error .sliceExactLen
  else
    let frame := htons buf htypeOffset htype
    let frame := htons frame ptypeOffset ptype
    let frame := frame.set hlenOffset hlen
    let frame := frame.set plenOffset plen
    let frame := htons frame operOffset operation
    let frame := sha.writeTo frame shaOffset
    let frame := htonl frame ethIpv4SpaOffset spa
    let frame := tha.writeTo frame ethIpv4ThaOffset
    .ok (htonl frame ethIpv4TpaOffset tpa)

def writeRequest (buf : List (BitVec 8)) (sha : MacAddr) (spa : BitVec 32) (tha : MacAddr)
    (tpa : BitVec 32) : Except Error (List (BitVec 8)) :=
  writeRaw buf htypeEthernet Ethernet.ethertypeIpv4 (BitVec.ofNat 8 macAddrLen)
    (BitVec.ofNat 8 ipv4AddrLen) operRequest sha spa tha tpa

def writeReply (buf : List (BitVec 8)) (sha : MacAddr) (spa : BitVec 32) (tha : MacAddr)
    (tpa : BitVec 32) : Except Error (List (BitVec 8)) :=
  writeRaw buf htypeEthernet Ethernet.ethertypeIpv4 (BitVec.ofNat 8 macAddrLen)
    (BitVec.ofNat 8 ipv4AddrLen) operReply sha spa tha tpa

/-- `test_speculative_tpa`: whether `buf` may hold an Ethernet frame with an ARP request for
`addr`, read without parsing either. -/
def testSpeculativeTpa (buf : List (BitVec 8)) (addr : BitVec 32) : Bool :=
  if buf.length ≥ Ethernet.payloadOffset + ethIpv4FrameLen then
    tpa (buf.drop Ethernet.payloadOffset) = addr
  else false

structure Holds (frame : List (BitVec 8)) (htype' ptype' : BitVec 16) (hlen' plen' : BitVec 8)
    (operation' : BitVec 16) (sha' : MacAddr) (spa' : BitVec 32) (tha' : MacAddr) (tpa' : BitVec 32) :
    Prop where
  length : frame.length = ethIpv4FrameLen
  htype : htype frame = htype'
  ptype : ptype frame = ptype'
  hlen : hlen frame = hlen'
  plen : plen frame = plen'
  operation : operation frame = operation'
  sha : sha frame = sha'
  spa : spa frame = spa'
  tha : tha frame = tha'
  tpa : tpa frame = tpa'

/-- **What `write_raw` writes, the getters read back.** -/
theorem writeRaw_spec {buf frame : List (BitVec 8)} {htype' ptype' : BitVec 16} {hlen' plen' : BitVec 8}
    {operation' : BitVec 16} {sha' : MacAddr} {spa' : BitVec 32} {tha' : MacAddr} {tpa' : BitVec 32}
    (h : writeRaw buf htype' ptype' hlen' plen' operation' sha' spa' tha' tpa' = .ok frame) :
    Holds frame htype' ptype' hlen' plen' operation' sha' spa' tha' tpa' := by
  unfold writeRaw at h
  split at h
  · cases h
  rename_i hlen
  simp only [Except.ok.injEq] at h
  subst h
  have hbuf : buf.length = 28 := by simpa [ethIpv4FrameLen] using hlen
  constructor <;>
    simp (disch := first | omega | simp only [length_htons, length_htonl, MacAddr.length_writeTo,
        List.length_set, hbuf] <;> omega)
      only [ethIpv4FrameLen, Arp.htype, Arp.ptype, Arp.hlen, Arp.plen, Arp.operation,
      Arp.sha, Arp.spa, Arp.tha, Arp.tpa, htypeOffset, ptypeOffset, hlenOffset, plenOffset,
      operOffset, shaOffset, ethIpv4SpaOffset, ethIpv4ThaOffset, ethIpv4TpaOffset,
      length_htons, length_htonl, MacAddr.length_writeTo, List.length_set, hbuf,
      ntohs_htonl_of_disjoint, MacAddr.ntohs_writeTo_of_disjoint, ntohs_htons_of_disjoint,
      ntohs_set_of_ne, ntohs_htons,
      ntohl_htonl_of_disjoint, MacAddr.ntohl_writeTo_of_disjoint, ntohl_htonl,
      getD_htonl_of_lt, MacAddr.getD_writeTo_of_lt, getD_htons_of_ne, getD_set_of_ne, getD_set_self,
      MacAddr.fromBytesUnchecked_htonl_of_disjoint, MacAddr.fromBytesUnchecked_writeTo_of_disjoint,
      MacAddr.fromBytesUnchecked_writeTo]

theorem requestFromBytes_ok {bytes arp : List (BitVec 8)} (h : requestFromBytes bytes = .ok arp) :
    arp = bytes ∧ Holds bytes htypeEthernet Ethernet.ethertypeIpv4 (BitVec.ofNat 8 macAddrLen)
      (BitVec.ofNat 8 ipv4AddrLen) operRequest (sha bytes) (spa bytes) (tha bytes) (tpa bytes) := by
  unfold requestFromBytes at h
  split at h
  · cases h
  split at h
  · cases h
  split at h
  · cases h
  split at h
  · cases h
  split at h
  · cases h
  split at h
  · cases h
  rename_i hlen hh hp hhl hpl hop
  cases h
  exact ⟨rfl, ⟨Decidable.not_not.1 hlen, Decidable.not_not.1 hh, Decidable.not_not.1 hp,
    Decidable.not_not.1 hhl, Decidable.not_not.1 hpl, Decidable.not_not.1 hop, rfl, rfl, rfl, rfl⟩⟩

theorem requestFromBytes_of_holds {frame : List (BitVec 8)} {sha' : MacAddr} {spa' : BitVec 32}
    {tha' : MacAddr} {tpa' : BitVec 32}
    (hf : Holds frame htypeEthernet Ethernet.ethertypeIpv4 (BitVec.ofNat 8 macAddrLen)
      (BitVec.ofNat 8 ipv4AddrLen) operRequest sha' spa' tha' tpa') :
    requestFromBytes frame = .ok frame := by
  unfold requestFromBytes
  rw [hf.length, hf.htype, hf.ptype, hf.hlen, hf.plen, hf.operation]
  simp

theorem writeRaw_self {bytes : List (BitVec 8)} (h : bytes.length = ethIpv4FrameLen) :
    writeRaw bytes (htype bytes) (ptype bytes) (hlen bytes) (plen bytes) (operation bytes)
      (sha bytes) (spa bytes) (tha bytes) (tpa bytes) = .ok bytes := by
  unfold ethIpv4FrameLen at h
  unfold writeRaw
  rw [if_neg (by unfold ethIpv4FrameLen; omega)]
  simp only [htype, ptype, hlen, plen, operation, sha, spa, tha, tpa, htypeOffset, ptypeOffset,
    hlenOffset, plenOffset, operOffset, shaOffset, ethIpv4SpaOffset, ethIpv4ThaOffset,
    ethIpv4TpaOffset]
  rw [htons_ntohs (by omega), htons_ntohs (by omega), set_getD_self (by omega),
    set_getD_self (by omega), htons_ntohs (by omega), MacAddr.writeTo_fromBytesUnchecked (by omega),
    htonl_ntohl (by omega), MacAddr.writeTo_fromBytesUnchecked (by omega), htonl_ntohl (by omega)]

theorem writeReply_ok {buf : List (BitVec 8)} (sha' : MacAddr) (spa' : BitVec 32) (tha' : MacAddr)
    (tpa' : BitVec 32) (h : buf.length = ethIpv4FrameLen) :
    ∃ frame, writeReply buf sha' spa' tha' tpa' = .ok frame ∧
      Holds frame htypeEthernet Ethernet.ethertypeIpv4 (BitVec.ofNat 8 macAddrLen)
        (BitVec.ofNat 8 ipv4AddrLen) operReply sha' spa' tha' tpa' := by
  cases hw : writeReply buf sha' spa' tha' tpa' with
  | error e =>
    unfold writeReply writeRaw at hw
    rw [if_neg (fun hne => hne h)] at hw
    cases hw
  | ok frame => exact ⟨frame, rfl, writeRaw_spec hw⟩

/-- **ARP requests round-trip both ways.** What `write_request` writes, `request_from_bytes`
accepts, reading back the four addresses; and what `request_from_bytes` accepts is the slice
itself, which `write_request` of its own four addresses writes again. So the requests accepted
are exactly the frames `write_request` can write. -/
theorem arpRequest_roundTrip (buf frame : List (BitVec 8)) (sha' : MacAddr) (spa' : BitVec 32)
    (tha' : MacAddr) (tpa' : BitVec 32) :
    (writeRequest buf sha' spa' tha' tpa' = .ok frame →
      requestFromBytes frame = .ok frame ∧ sha frame = sha' ∧ spa frame = spa' ∧
        tha frame = tha' ∧ tpa frame = tpa') ∧
    (requestFromBytes buf = .ok frame →
      frame = buf ∧ writeRequest buf (sha buf) (spa buf) (tha buf) (tpa buf) = .ok buf) := by
  constructor
  · intro h
    have hf := writeRaw_spec h
    exact ⟨requestFromBytes_of_holds hf, hf.sha, hf.spa, hf.tha, hf.tpa⟩
  · intro h
    obtain ⟨rfl, hf⟩ := requestFromBytes_ok h
    refine ⟨rfl, ?_⟩
    have hself := writeRaw_self hf.length
    rwa [hf.htype, hf.ptype, hf.hlen, hf.plen, hf.operation] at hself

/-- A request from `06:00:00:00:00:01` at `192.168.0.2` for `192.168.0.1`, written into a zeroed
buffer: it parses back with its four addresses, and writing it again from them gives it again. -/
theorem arpRequest_roundTrip_zeroed :
    ∃ frame, writeRequest (List.replicate 28 0) ⟨0x060000000001⟩ 0xc0a80002 ⟨0⟩ 0xc0a80001 = .ok frame ∧
      (requestFromBytes frame = .ok frame ∧ sha frame = ⟨0x060000000001⟩ ∧ spa frame = 0xc0a80002 ∧
        tha frame = ⟨0⟩ ∧ tpa frame = 0xc0a80001) ∧
      writeRequest frame (sha frame) (spa frame) (tha frame) (tpa frame) = .ok frame := by
  have hwrite : writeRequest (List.replicate 28 0) ⟨0x060000000001⟩ 0xc0a80002 ⟨0⟩ 0xc0a80001 =
      .ok [0, 1, 8, 0, 6, 4, 0, 1, 6, 0, 0, 0, 0, 1, 0xc0, 0xa8, 0, 2, 0, 0, 0, 0, 0, 0, 0xc0, 0xa8, 0, 1] := by
    decide
  obtain ⟨hparse, -⟩ := arpRequest_roundTrip (List.replicate 28 0) _ ⟨0x060000000001⟩ 0xc0a80002 ⟨0⟩
    0xc0a80001
  have hparsed := hparse hwrite
  obtain ⟨-, hagain⟩ := arpRequest_roundTrip _ _ ⟨0⟩ 0 ⟨0⟩ 0
  exact ⟨_, hwrite, hparsed, (hagain hparsed.1).2⟩

/-- **The speculative ARP test has no false negatives**: an Ethernet frame whose payload is a
request for `addr` passes it. -/
theorem testSpeculativeTpa_of_requestFromBytes {buf arp : List (BitVec 8)}
    (h : requestFromBytes (Ethernet.payload buf) = .ok arp) :
    testSpeculativeTpa buf (tpa arp) = true := by
  obtain ⟨rfl, hf⟩ := requestFromBytes_ok h
  have hlen := hf.length
  simp only [Ethernet.payload, List.length_drop, Ethernet.payloadOffset, ethIpv4FrameLen] at hlen
  unfold testSpeculativeTpa
  rw [if_pos (by unfold Ethernet.payloadOffset ethIpv4FrameLen; omega)]
  simp [Ethernet.payload]

theorem testSpeculativeTpa_take {buf : List (BitVec 8)} {n : Nat}
    (hn : Ethernet.payloadOffset + ethIpv4FrameLen ≤ n) (addr : BitVec 32) :
    testSpeculativeTpa (buf.take n) addr = testSpeculativeTpa buf addr := by
  unfold Ethernet.payloadOffset ethIpv4FrameLen at hn
  unfold testSpeculativeTpa tpa ethIpv4TpaOffset Ethernet.payloadOffset ethIpv4FrameLen
  rw [ntohl_drop, ntohl_take (by omega), ntohl_drop, List.length_take]
  by_cases hlen : 14 + 28 ≤ buf.length
  · rw [if_pos (by omega), if_pos hlen]
  · rw [if_neg (by omega), if_neg hlen]

end Arp

/-! ## The IPv4 header writer -/

namespace Ipv4

def dscpAndEcnOffset : Nat := 1
def identificationOffset : Nat := 4
def flagsAndFragmentoffOffset : Nat := 6
def ttlOffset : Nat := 8
def protocolOffset : Nat := 9
def headerChecksumOffset : Nat := 10
def sourceAddressOffset : Nat := 12
def destinationAddressOffset : Nat := 16

def defaultTtl : BitVec 8 := 1
def protocolTcp : BitVec 8 := 0x06
def protocolUdp : BitVec 8 := 0x11

section Getters

variable (bytes : List (BitVec 8))

def ttl : BitVec 8 := bytes.getD ttlOffset 0
def protocol : BitVec 8 := bytes.getD protocolOffset 0
def headerChecksum : BitVec 16 := ntohs bytes headerChecksumOffset
def sourceAddress : BitVec 32 := ntohl bytes sourceAddressOffset
def destinationAddress : BitVec 32 := ntohl bytes destinationAddressOffset

end Getters

section Setters

variable (bytes : List (BitVec 8))

/-- `set_version_and_header_len`: the version in the high nibble, and the header length in 32-bit
words, from its low byte, in the low one. -/
def setVersionAndHeaderLen (version : BitVec 8) (headerLen : Nat) : List (BitVec 8) :=
  let version := version <<< 4
  let ihl := (BitVec.ofNat 8 headerLen >>> 2) &&& 0xf
  bytes.set versionAndIhlOffset (version ||| ihl)

def setDscpAndEcn (dscp ecn : BitVec 8) : List (BitVec 8) :=
  bytes.set dscpAndEcnOffset ((dscp <<< 2) ||| ecn)

def setTotalLen (value : BitVec 16) : List (BitVec 8) := htons bytes totalLenOffset value

def setIdentification (value : BitVec 16) : List (BitVec 8) :=
  htons bytes identificationOffset value

def setFlagsAndFragmentOffset (flags : BitVec 8) (fragmentOffset : BitVec 16) : List (BitVec 8) :=
  htons bytes flagsAndFragmentoffOffset ((flags.setWidth 16 <<< 13) ||| fragmentOffset)

def setTtl (value : BitVec 8) : List (BitVec 8) := bytes.set ttlOffset value
def setProtocol (value : BitVec 8) : List (BitVec 8) := bytes.set protocolOffset value

def setHeaderChecksum (value : BitVec 16) : List (BitVec 8) :=
  htons bytes headerChecksumOffset value

def setSourceAddress (addr : BitVec 32) : List (BitVec 8) := htonl bytes sourceAddressOffset addr

def setDestinationAddress (addr : BitVec 32) : List (BitVec 8) :=
  htonl bytes destinationAddressOffset addr

end Setters

/-- `IPv4Packet::write_header`: a header without options, with `dscp`, `ecn`, `identification`,
`flags` and `fragment_offset` zero and the default `ttl`; `total_len` and the checksum are left to
`with_payload_len_unchecked`. -/
def writeHeader (buf : List (BitVec 8)) (protocol : BitVec 8) (srcAddr dstAddr : BitVec 32) :
    Except Error (List (BitVec 8)) :=
  if buf.length < optionsOffset then .error .sliceTooShort
  else
    let packet := setVersionAndHeaderLen buf ipv4Version optionsOffset
    let packet := setDscpAndEcn packet 0 0
    let packet := setIdentification packet 0
    let packet := setFlagsAndFragmentOffset packet 0 0
    let packet := setTtl packet defaultTtl
    let packet := setProtocol packet protocol
    let packet := setSourceAddress packet srcAddr
    .ok (setDestinationAddress packet dstAddr)

/-- `with_header_and_payload_len_unchecked`: the packet shrunk to `header_len + payload_len`
bytes (a panic past its end), that length as `total_len`, and, when asked, the header checksum,
computed with a zero checksum field. -/
def withHeaderAndPayloadLenUnchecked (packet : List (BitVec 8)) (headerLen payloadLen : Nat)
    (computeChecksum : Bool) : Option (List (BitVec 8)) :=
  let totalLen := headerLen + payloadLen
  (shrinkUnchecked packet totalLen).map fun packet =>
    let packet := setTotalLen packet (BitVec.ofNat 16 totalLen)
    if computeChecksum then
      let packet := setHeaderChecksum packet 0
      setHeaderChecksum packet (computeChecksumUnchecked packet headerLen)
    else packet

def withPayloadLenUnchecked (packet : List (BitVec 8)) (payloadLen : Nat) (computeChecksum : Bool) :
    Option (List (BitVec 8)) :=
  withHeaderAndPayloadLenUnchecked packet (headerLen packet) payloadLen computeChecksum

/-- `test_speculative_dst_addr`: whether `buf` may hold an Ethernet frame with an IPv4 packet for
`addr`, read without parsing either. -/
def testSpeculativeDstAddr (buf : List (BitVec 8)) (addr : BitVec 32) : Bool :=
  if buf.length ≥ Ethernet.payloadOffset + optionsOffset then
    destinationAddress (buf.drop Ethernet.payloadOffset) = addr
  else false

theorem versionAndHeaderLen_of_getD {bytes : List (BitVec 8)}
    (h : bytes.getD versionAndIhlOffset 0 = 0x45) :
    versionAndHeaderLen bytes = (ipv4Version, optionsOffset) := by
  unfold versionAndHeaderLen
  rw [h]
  decide

theorem writeHeader_spec {buf header : List (BitVec 8)} {proto : BitVec 8} {src dst : BitVec 32}
    (h : writeHeader buf proto src dst = .ok header) :
    header.length = buf.length ∧ optionsOffset ≤ buf.length ∧ header.getD versionAndIhlOffset 0 = 0x45 ∧
      ttl header = defaultTtl ∧ protocol header = proto ∧ sourceAddress header = src ∧
      destinationAddress header = dst := by
  unfold writeHeader at h
  split at h
  · cases h
  rename_i hlen
  simp only [Except.ok.injEq] at h
  subst h
  simp only [optionsOffset] at hlen
  refine ⟨by simp [setDestinationAddress, setSourceAddress, setProtocol, setTtl,
    setFlagsAndFragmentOffset, setIdentification, setDscpAndEcn, setVersionAndHeaderLen],
    by unfold optionsOffset; omega, ?_⟩
  simp (disch := first | omega | simp only [length_htons, length_htonl, List.length_set] <;> omega)
    only [setDestinationAddress, setSourceAddress, setProtocol, setTtl, setFlagsAndFragmentOffset,
      setIdentification, setDscpAndEcn, setVersionAndHeaderLen, ttl, protocol, sourceAddress,
      destinationAddress, versionAndIhlOffset, dscpAndEcnOffset, identificationOffset,
      flagsAndFragmentoffOffset, ttlOffset, protocolOffset, sourceAddressOffset,
      destinationAddressOffset, getD_htonl_of_lt, getD_htons_of_ne, getD_set_of_ne, getD_set_self,
      ntohl_htonl_of_disjoint, ntohl_htonl, and_true]
  decide

/-- **The header checksum verifies.** For a header of 20 to 60 bytes whose checksum field is
zero, storing `compute_checksum_unchecked` of it in that field makes it zero: the words now add
up to the sum plus its folded complement, which folds to `0xffff`. -/
theorem computeChecksumUnchecked_setHeaderChecksum {b : List (BitVec 8)} {hl : Nat}
    (h20 : optionsOffset ≤ hl) (h60 : hl ≤ 60) (hlen : hl ≤ b.length)
    (hzero : headerChecksum b = 0) :
    computeChecksumUnchecked (setHeaderChecksum b (computeChecksumUnchecked b hl)) hl = 0 := by
  unfold optionsOffset at h20
  unfold setHeaderChecksum headerChecksumOffset
  unfold headerChecksum headerChecksumOffset at hzero
  generalize hc : computeChecksumUnchecked b hl = c
  have hword := Pdu.wordSum_htons (b := b) (k := 5) (n := hl / 2) c (by omega) (by omega)
  rw [show 2 * 5 = 10 from rfl, hzero, show (0 : BitVec 16).toNat = 0 from rfl] at hword
  have hwords := Pdu.wordSum_le b (hl / 2)
  have hfold := OnesComplement.fold_lt (Pdu.wordSum b (hl / 2))
  have hc' : c.toNat = 65535 - OnesComplement.fold (Pdu.wordSum b (hl / 2)) := by
    rw [← hc, computeChecksumUnchecked, BitVec.toNat_not, BitVec.toNat_ofNat,
      Nat.mod_eq_of_lt (by omega : Pdu.wordSum b (hl / 2) < 2 ^ 32)]
    omega
  have hsum : Pdu.wordSum (htons b 10 c) (hl / 2) =
      Pdu.wordSum b (hl / 2) + (65535 - OnesComplement.fold (Pdu.wordSum b (hl / 2))) := by
    omega
  rw [computeChecksumUnchecked, hsum, Nat.mod_eq_of_lt (by omega),
    OnesComplement.fold_add_complement]
  rfl

theorem withHeaderAndPayloadLenUnchecked_spec (q : List (BitVec 8)) (hl n : Nat)
    (h20 : optionsOffset ≤ hl) (h60 : hl ≤ 60) (hle : hl + n ≤ q.length) :
    ∃ c, withHeaderAndPayloadLenUnchecked q hl n true = some (setHeaderChecksum
        (setHeaderChecksum (setTotalLen (q.take (hl + n)) (BitVec.ofNat 16 (hl + n))) 0) c) ∧
      computeChecksumUnchecked (setHeaderChecksum
        (setHeaderChecksum (setTotalLen (q.take (hl + n)) (BitVec.ofNat 16 (hl + n))) 0) c) hl = 0 := by
  unfold optionsOffset at h20
  refine ⟨computeChecksumUnchecked
      (setHeaderChecksum (setTotalLen (q.take (hl + n)) (BitVec.ofNat 16 (hl + n))) 0) hl,
    by simp [withHeaderAndPayloadLenUnchecked, shrinkUnchecked, hle], ?_⟩
  apply computeChecksumUnchecked_setHeaderChecksum (by unfold optionsOffset; omega) h60
  · simp only [setHeaderChecksum, setTotalLen, length_htons, List.length_take]
    omega
  · unfold headerChecksum setHeaderChecksum
    exact ntohs_htons 0
      (by simp only [setTotalLen, length_htons, List.length_take, headerChecksumOffset]; omega)

theorem fromBytes_of_header {bytes : List (BitVec 8)} (hv : bytes.getD versionAndIhlOffset 0 = 0x45)
    (hlen : optionsOffset ≤ bytes.length) (htotal : (totalLen bytes).toNat = bytes.length)
    (hck : computeChecksumUnchecked bytes optionsOffset = 0) : fromBytes bytes true = .ok bytes := by
  unfold fromBytes
  rw [if_neg (by omega), versionAndHeaderLen_of_getD hv]
  dsimp only
  rw [htotal, if_neg (fun h => h rfl), if_neg (by omega), if_neg (fun h => h rfl),
    if_neg (Nat.lt_irrefl _), hck]
  simp

/-- **An IPv4 packet written as `write_next_packet` writes one is accepted with its checksum.**
The header from `write_header`, any payload written after it, the real addresses set, and the
packet shrunk to `n` payload bytes by `with_payload_len_unchecked` with the checksum: for a
`total_len` that fits in 16 bits, `from_bytes` accepts the packet with its checksum verified, and
its getters read back the protocol, the default `ttl`, both addresses and the `n` bytes. -/
theorem fromBytes_withPayloadLen {buf header pay : List (BitVec 8)} {proto : BitVec 8}
    {src₀ dst₀ : BitVec 32} (hw : writeHeader buf proto src₀ dst₀ = .ok header)
    (src dst : BitVec 32) {n : Nat} (hn : n ≤ pay.length) (hmax : optionsOffset + n < 2 ^ 16) :
    ∃ packet, withPayloadLenUnchecked
        (setDestinationAddress (setSourceAddress (header.take optionsOffset ++ pay) src) dst) n true =
          some packet ∧
      fromBytes packet true = .ok packet ∧ packet.length = optionsOffset + n ∧
      protocol packet = proto ∧ ttl packet = defaultTtl ∧ sourceAddress packet = src ∧
      destinationAddress packet = dst ∧ payload packet = pay.take n := by
  obtain ⟨hlen, hbuf, hv, httl, hproto, -, -⟩ := writeHeader_spec hw
  unfold optionsOffset at hbuf hmax ⊢
  have hH : (header.take 20).length = 20 := by simp only [List.length_take]; omega
  generalize hqdef : setDestinationAddress (setSourceAddress (header.take 20 ++ pay) src) dst = q
  have hq : ∀ j, j < 12 → q.getD j 0 = header.getD j 0 := by
    intro j hj
    rw [← hqdef, setDestinationAddress, setSourceAddress, destinationAddressOffset, sourceAddressOffset,
      getD_htonl_of_lt _ (by omega), getD_htonl_of_lt _ (by omega),
      getD_take_append pay (by omega) (by omega)]
  have hhl : headerLen q = 20 := by
    rw [headerLen, versionAndHeaderLen_of_getD ((hq 0 (by omega)).trans hv)]
    rfl
  have hqlen : q.length = 20 + pay.length := by
    simp only [← hqdef, setDestinationAddress, setSourceAddress, length_htonl, List.length_append, hH]
  obtain ⟨c, hsome, hck⟩ := withHeaderAndPayloadLenUnchecked_spec q 20 n
    (by unfold optionsOffset; omega) (by omega) (by omega)
  unfold withPayloadLenUnchecked
  rw [hhl]
  refine ⟨_, hsome, ?_⟩
  have hr : (q.take (20 + n)) = htonl (htonl (header.take 20 ++ pay.take n) 12 src) 16 dst := by
    rw [← hqdef, setDestinationAddress, setSourceAddress, destinationAddressOffset, sourceAddressOffset,
      take_htonl, take_htonl, List.take_append,
      List.take_of_length_le (by omega), hH, Nat.add_sub_cancel_left]
  rw [hr] at hck ⊢
  have hplen : (pay.take n).length = n := by simp only [List.length_take]; omega
  have hfield : ∀ j, j < 12 → (header.take 20 ++ pay.take n).getD j 0 = header.getD j 0 :=
    fun j hj => getD_take_append _ (by omega) (by omega)
  simp only [setHeaderChecksum, setTotalLen, headerChecksumOffset, totalLenOffset] at hck ⊢
  unfold versionAndIhlOffset at hv
  unfold ttl ttlOffset at httl
  unfold protocol protocolOffset at hproto
  have hv' : (htons (htons (htons (htonl (htonl (header.take 20 ++ pay.take n) 12 src) 16 dst) 2
      (BitVec.ofNat 16 (20 + n))) 10 0) 10 c).getD versionAndIhlOffset 0 = 0x45 := by
    simp (disch := omega) only [versionAndIhlOffset, getD_htons_of_ne, getD_htonl_of_lt, hfield, hv]
  refine ⟨fromBytes_of_header hv' ?_ ?_ hck, ?_, ?_, ?_, ?_, ?_, ?payload⟩
  case payload =>
    rw [payload, headerLen, versionAndHeaderLen_of_getD hv']
    simp only [payloadUnchecked, optionsOffset, drop_htons_of_lt _ (by omega : 10 + 1 < 20),
      drop_htons_of_lt _ (by omega : 2 + 1 < 20), drop_htonl_of_lt _ (by omega : 16 + 3 < 20),
      drop_htonl_of_lt _ (by omega : 12 + 3 < 20), List.drop_left' hH]
  all_goals
    simp (disch := first | omega | simp only [length_htons, length_htonl, List.length_append, hH,
        hplen] <;> omega)
      only [optionsOffset, totalLen, totalLenOffset, protocol, protocolOffset,
        ttl, ttlOffset, sourceAddress, sourceAddressOffset, destinationAddress,
        destinationAddressOffset, length_htons, length_htonl, List.length_append, hH, hplen,
        getD_htons_of_ne, getD_htonl_of_lt, hfield, hproto, httl, ntohs_htons_of_disjoint,
        ntohs_htons, ntohl_htons_of_disjoint, ntohl_htonl_of_disjoint, ntohl_htonl,
        BitVec.toNat_ofNat, Nat.mod_eq_of_lt, Nat.le_add_right]

/-- A TCP packet of four payload bytes from `169.254.169.254` to `10.0.0.2`, its header first
written with both addresses `LOCALHOST`, as `write_next_packet` writes it. -/
theorem fromBytes_withPayloadLen_tcp :
    ∃ header, writeHeader (List.replicate 24 0) protocolTcp 0x7f000001 0x7f000001 = .ok header ∧
      ∃ packet, withPayloadLenUnchecked (setDestinationAddress
          (setSourceAddress (header.take optionsOffset ++ [1, 2, 3, 4]) 0xa9fea9fe) 0x0a000002) 4
          true = some packet ∧
        fromBytes packet true = .ok packet ∧ packet.length = optionsOffset + 4 ∧
        protocol packet = protocolTcp ∧ ttl packet = defaultTtl ∧ sourceAddress packet = 0xa9fea9fe ∧
        destinationAddress packet = 0x0a000002 ∧ payload packet = [1, 2, 3, 4].take 4 := by
  have h : writeHeader (List.replicate 24 0) protocolTcp 0x7f000001 0x7f000001 = .ok _ := rfl
  exact ⟨_, h, fromBytes_withPayloadLen h 0xa9fea9fe 0x0a000002 (by decide) (by decide)⟩

theorem testSpeculativeDstAddr_take {buf : List (BitVec 8)} {n : Nat}
    (hn : Ethernet.payloadOffset + optionsOffset ≤ n) (addr : BitVec 32) :
    testSpeculativeDstAddr (buf.take n) addr = testSpeculativeDstAddr buf addr := by
  unfold Ethernet.payloadOffset optionsOffset at hn
  unfold testSpeculativeDstAddr destinationAddress destinationAddressOffset Ethernet.payloadOffset
    optionsOffset
  rw [ntohl_drop, ntohl_take (by omega), ntohl_drop, List.length_take]
  by_cases hlen : 14 + 20 ≤ buf.length
  · rw [if_pos (by omega), if_pos hlen]
  · rw [if_neg (by omega), if_neg hlen]

/-- **The speculative IPv4 test has no false negatives**: an Ethernet frame whose payload
`from_bytes` accepts, checksum verified or not, passes it for the packet's destination. -/
theorem testSpeculativeDstAddr_of_fromBytes {buf ip : List (BitVec 8)} {verifyChecksum : Bool}
    (h : fromBytes (Ethernet.payload buf) verifyChecksum = .ok ip) :
    testSpeculativeDstAddr buf (destinationAddress ip) = true := by
  obtain ⟨rfl, -, hhdr, hle⟩ := fromBytes_ok h
  have hlen : optionsOffset ≤ (Ethernet.payload buf).length := hhdr.trans hle
  simp only [Ethernet.payload, List.length_drop, Ethernet.payloadOffset, optionsOffset] at hlen
  unfold testSpeculativeDstAddr
  rw [if_pos (by unfold Ethernet.payloadOffset optionsOffset; omega)]
  simp [Ethernet.payload]

end Ipv4

end Dumbo
end Firecracker
