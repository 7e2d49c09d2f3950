import Firecracker.Dumbo.Frames
import Firecracker.Dumbo.PacketLen

/-!
# Firecracker.Mmds.Ns

`mmds::ns`: the network stack of the MMDS, which the net device puts between the guest and the
tap. The device offers every frame the guest sends to `is_mmds_frame`, which looks only at its
first `FRAME_HEADER_MAX_LEN` bytes, and gives the frames it claims to `detour_frame`
(`write_to_mmds_or_tap`); before it reads from the tap it asks `write_next_frame` for a frame to
deliver. ARP requests are answered by the stack itself, one pending reply at a time; TCP segments
go to its `TcpIPv4Handler`.

The handler works on parsed packets (`Ipv4Packet`): how it reads the bytes of a segment
(`TcpSegment::from_bytes` without a checksum, and the getters it calls, among them
`parse_mss_option`, which need not terminate) is the parameter `segmentOf`, and the store
behind `convert_to_response` is the callback `respond`. The handler computes the length of what
it writes, not its bytes, so `write_packet` here writes the Ethernet header only.
`timestamp_cycles()` is the input `now`, and a new connection's initial sequence number the input
`isn`. A `none` result is a panic.

What the stack does with a frame addressed to it: an ARP request for the MMDS address gets through
the device's test and is answered by the next frame the stack writes, a 42-byte ARP reply to the
requester (`arpRequest_answered`); and no frame the stack would consume and that is addressed to
the MMDS ever goes to the tap (`isMmdsFrame_complete`).

Over whole runs (`step`, from `new`): whatever the guest sends, the handler keeps its bookkeeping
and the stack's address, and `write_next_frame` panics only in the `split_at_mut` of
`write_arp_reply`, on a buffer of 14 to 41 bytes (`mmdsStack_safe`); the device's buffer is
always larger. The proof lifts the handler's invariants (`TcpIPv4Handler.Inv`,
`EndpointsInv`) through each call of the stack, which makes one call on the handler at most
(`step_cases`), and uses that every packet the handler reports fits in its buffer
(`TcpIPv4Handler.writeNextPacket_len_le`).
-/

namespace Firecracker
namespace Mmds

open Dumbo NetBytes

/-- `DEFAULT_MAC_ADDR`, `"06:01:23:45:67:01"` as `parse_str` reads it. -/
def defaultMacAddr : MacAddr := ⟨0x060123456701⟩
def defaultIpv4Addr : BitVec 32 := 0xa9fea9fe
def defaultTcpPort : BitVec 16 := 80
def defaultMaxConnections : {n : Nat // n ≠ 0} := ⟨30, by decide⟩
def defaultMaxPendingResets : {n : Nat // n ≠ 0} := ⟨100, by decide⟩

inductive WriteArpFrameError
  | noPendingArpReply
  | arp (e : Arp.Error)
  | ethernet (e : Ethernet.Error)
  deriving DecidableEq, Repr

inductive WritePacketError
  | ipv4Packet (e : Ipv4.Error)
  | ethernet (e : Ethernet.Error)
  | tcpSegment (e : TcpError)
  | writeNext (e : Handler.WriteNextError)
  deriving DecidableEq, Repr

/-- `MmdsNetworkStack`, without the shared store (the callback `respond`). -/
structure MmdsNetworkStack where
  /-- The MAC address of the network interface the frames to the MMDS come from. -/
  remoteMacAddr : MacAddr
  macAddr : MacAddr
  ipv4Addr : BitVec 32
  /-- The requester of the ARP reply still to send. -/
  pendingArpReplyDest : Option (BitVec 32)
  tcpHandler : TcpIPv4Handler

namespace MmdsNetworkStack

def new (macAddr : MacAddr) (ipv4Addr : BitVec 32) (tcpPort : BitVec 16)
    (maxConnections maxPendingResets : {n : Nat // n ≠ 0}) : MmdsNetworkStack :=
  { remoteMacAddr := macAddr, macAddr, ipv4Addr, pendingArpReplyDest := none,
    tcpHandler := TcpIPv4Handler.new ipv4Addr tcpPort maxConnections maxPendingResets }

def newWithDefaults (mmdsIpv4Addr : Option (BitVec 32)) : MmdsNetworkStack :=
  new defaultMacAddr (mmdsIpv4Addr.getD defaultIpv4Addr) defaultTcpPort defaultMaxConnections
    defaultMaxPendingResets

variable (s : MmdsNetworkStack)

/-- `set_ipv4_addr`: the stack's address and the handler's. -/
def setIpv4Addr (ipv4Addr : BitVec 32) : MmdsNetworkStack :=
  { s with ipv4Addr, tcpHandler := { s.tcpHandler with localIpv4Addr := ipv4Addr } }

/-- `is_mmds_frame`: an Ethernet frame with an ARP request for, or an IPv4 packet to, the MMDS
address, as the speculative tests see it. -/
def isMmdsFrame (src : List (BitVec 8)) : Bool :=
  match Ethernet.fromBytes src with
  | .ok eth =>
    if Ethernet.ethertype eth = Ethernet.ethertypeArp then Arp.testSpeculativeTpa src s.ipv4Addr
    else if Ethernet.ethertype eth = Ethernet.ethertypeIpv4 then
      Ipv4.testSpeculativeDstAddr src s.ipv4Addr
    else false
  | .error _ => false

/-- `detour_arp`: an ARP request, from whatever address and for whatever address, makes its
sender the remote interface and the reply to it pending. -/
def detourArp (eth : List (BitVec 8)) : MmdsNetworkStack × Bool :=
  match Arp.requestFromBytes (Ethernet.payload eth) with
  | .ok arp =>
    ({ s with remoteMacAddr := Arp.sha arp, pendingArpReplyDest := some (Arp.spa arp) }, true)
  | .error _ => (s, false)

section Handler

variable (respond : List (BitVec 8) → List (BitVec 8))
  (segmentOf : List (BitVec 8) → Except TcpError TcpPacket) (isn : BitVec 32) (now : BitVec 64)

/-- `detour_ipv4`: an IPv4 packet, its checksum not verified, is consumed; a TCP one goes to the
handler, whose result only counts in the metrics. -/
def detourIpv4 (eth : List (BitVec 8)) : Option (MmdsNetworkStack × Bool) :=
  match Ipv4.fromBytes (Ethernet.payload eth) false with
  | .ok ip =>
    if Ipv4.protocol ip = Ipv4.protocolTcp then
      let s := { s with remoteMacAddr := Ethernet.srcMac eth }
      (s.tcpHandler.receivePacket respond ⟨Ipv4.sourceAddress ip, segmentOf (Ipv4.payload ip)⟩ isn
          now).map fun r => ({ s with tcpHandler := r.1 }, true)
    else some (s, true)
  | .error _ => some (s, false)

def detourFrame (src : List (BitVec 8)) : Option (MmdsNetworkStack × Bool) :=
  match Ethernet.fromBytes src with
  | .ok eth =>
    if Ethernet.ethertype eth = Ethernet.ethertypeArp then some (s.detourArp eth)
    else if Ethernet.ethertype eth = Ethernet.ethertypeIpv4 then
      s.detourIpv4 respond segmentOf isn now eth
    else some (s, false)
  | .error _ => some (s, false)

end Handler

/-- `prepare_eth_unsized`: the Ethernet header of a frame to the remote interface. -/
def prepareEthUnsized (buf : List (BitVec 8)) (ethertype : BitVec 16) :
    Except Ethernet.Error (List (BitVec 8)) :=
  Ethernet.writeIncomplete buf s.remoteMacAddr s.macAddr ethertype

/-- `write_arp_reply`: the buffer as the call leaves it, and the length of the frame written. -/
def writeArpReply (buf : List (BitVec 8)) :
    Option (List (BitVec 8) × Except WriteArpFrameError Nat) :=
  match s.pendingArpReplyDest with
  | none => some (buf, .error .noPendingArpReply)
  | some arpReplyDest =>
    match s.prepareEthUnsized buf Ethernet.ethertypeArp with
    | .error e => some (buf, .error (.ethernet e))
    | .ok eth =>
      let payload := Ethernet.payload eth
      if payload.length < Arp.ethIpv4FrameLen then none
      else
        match Arp.writeReply (payload.take Arp.ethIpv4FrameLen) s.macAddr s.ipv4Addr
            s.remoteMacAddr arpReplyDest with
        | .error e => some (eth, .error (.arp e))
        | .ok arp =>
          let buf := eth.take Ethernet.payloadOffset ++ arp ++ payload.drop Arp.ethIpv4FrameLen
          match Ethernet.withPayloadLenUnchecked buf arp.length with
          | some frame => some (buf, .ok frame.length)
          | none => none

/-- `write_packet`: the handler's next packet after the Ethernet header (its bytes are not
modelled), and its frame's length. -/
def writePacket (buf : List (BitVec 8)) (now : BitVec 64) :
    Option (MmdsNetworkStack × List (BitVec 8) × Except WritePacketError (Option Nat)) :=
  match s.prepareEthUnsized buf Ethernet.ethertypeIpv4 with
  | .error e => some (s, buf, .error (.ethernet e))
  | .ok eth =>
    match s.tcpHandler.writeNextPacket (Ethernet.payload eth).length now with
    | none => none
    | some (h, .error e) => some ({ s with tcpHandler := h }, eth, .error (.writeNext e))
    | some (h, .ok (none, _)) => some ({ s with tcpHandler := h }, eth, .ok none)
    | some (h, .ok (some packetLen, _)) =>
      match Ethernet.withPayloadLenUnchecked eth packetLen with
      | some frame => some ({ s with tcpHandler := h }, eth, .ok (some frame.length))
      | none => none

/-- Whether `write_next_frame` asks the handler for a packet at `now`. -/
def callWrite (now : BitVec 64) : Bool :=
  match s.tcpHandler.nextSegmentStatus with
  | .available => true
  | .timeout value => decide (value ≤ now)
  | .nothing => false

/-- `write_next_frame`: a pending ARP reply first, else the handler's next packet when it has one
to send; the buffer as the call leaves it, and the length of the frame written, if any. An error
only counts in the metrics; a failed ARP reply stays pending. -/
def writeNextFrame (buf : List (BitVec 8)) (now : BitVec 64) :
    Option (MmdsNetworkStack × List (BitVec 8) × Option Nat) :=
  if s.pendingArpReplyDest.isSome then
    match s.writeArpReply buf with
    | some (buf, .ok len) => some ({ s with pendingArpReplyDest := none }, buf, some len)
    | some (buf, .error _) => some (s, buf, none)
    | none => none
  else if s.callWrite now then
    match s.writePacket buf now with
    | some (s, buf, .ok len) => some (s, buf, len)
    | some (s, buf, .error _) => some (s, buf, none)
    | none => none
  else some (s, buf, none)

end MmdsNetworkStack

/-- `FRAME_HEADER_MAX_LEN` of the net device: the Ethernet header and an ARP frame. -/
def frameHeaderMaxLen : Nat := Ethernet.payloadOffset + Arp.ethIpv4FrameLen

/-- The MMDS side of the net device's `write_to_mmds_or_tap` for a frame the guest sends, its
`virtio_net_hdr` taken off: the stack claims the frame on its first `FRAME_HEADER_MAX_LEN` bytes
and then consumes the whole of it; `false` sends it to the tap. -/
def writeToMmdsOrTap (respond : List (BitVec 8) → List (BitVec 8))
    (segmentOf : List (BitVec 8) → Except TcpError TcpPacket) (isn : BitVec 32) (now : BitVec 64)
    (ns : MmdsNetworkStack) (frame : List (BitVec 8)) : Option (MmdsNetworkStack × Bool) :=
  if ns.isMmdsFrame (frame.take frameHeaderMaxLen) then
    (ns.detourFrame respond segmentOf isn now frame).map fun r => (r.1, true)
  else some (ns, false)

/-- An ARP request from `06:00:00:00:00:01` at `10.0.0.2` for `169.254.169.254`, broadcast. -/
def sampleArpRequest : List (BitVec 8) :=
  [0xff, 0xff, 0xff, 0xff, 0xff, 0xff, 0x06, 0x00, 0x00, 0x00, 0x00, 0x01, 0x08, 0x06,
    0x00, 0x01, 0x08, 0x00, 0x06, 0x04, 0x00, 0x01, 0x06, 0x00, 0x00, 0x00, 0x00, 0x01,
    0x0a, 0x00, 0x00, 0x02, 0x00, 0x00, 0x00, 0x00, 0x00, 0x00, 0xa9, 0xfe, 0xa9, 0xfe]

namespace MmdsNetworkStack

variable {s : MmdsNetworkStack} (respond : List (BitVec 8) → List (BitVec 8))
  (segmentOf : List (BitVec 8) → Except TcpError TcpPacket) (isn : BitVec 32) (now : BitVec 64)

/-! ### Claiming frames -/

theorem isMmdsFrame_take {src : List (BitVec 8)} {n : Nat} (hn : frameHeaderMaxLen ≤ n) :
    s.isMmdsFrame (src.take n) = s.isMmdsFrame src := by
  have hn' : 14 + 28 ≤ n := hn
  have hty : Ethernet.ethertype (src.take n) = Ethernet.ethertype src :=
    ntohs_take (by unfold Ethernet.ethertypeOffset; omega)
  unfold isMmdsFrame Ethernet.fromBytes
  rw [List.length_take, Arp.testSpeculativeTpa_take hn,
    Ipv4.testSpeculativeDstAddr_take (show 14 + 20 ≤ n by omega)]
  by_cases hlen : src.length < Ethernet.payloadOffset
  · rw [if_pos (by omega), if_pos hlen]
  · rw [if_neg (by unfold Ethernet.payloadOffset at *; omega), if_neg hlen]
    dsimp only
    rw [hty]

theorem isMmdsFrame_of_arpRequest {frame arp : List (BitVec 8)}
    (hty : Ethernet.ethertype frame = Ethernet.ethertypeArp)
    (hreq : Arp.requestFromBytes (Ethernet.payload frame) = .ok arp)
    (htpa : Arp.tpa arp = s.ipv4Addr) : s.isMmdsFrame frame = true := by
  have hlen := (Arp.requestFromBytes_ok hreq).2.length
  simp only [Ethernet.payload, List.length_drop] at hlen
  unfold isMmdsFrame Ethernet.fromBytes
  rw [if_neg (by unfold Ethernet.payloadOffset Arp.ethIpv4FrameLen at *; omega)]
  dsimp only
  rw [hty, if_pos rfl, ← htpa]
  exact Arp.testSpeculativeTpa_of_requestFromBytes hreq

theorem isMmdsFrame_of_ipv4 {frame ip : List (BitVec 8)} {verifyChecksum : Bool}
    (hty : Ethernet.ethertype frame = Ethernet.ethertypeIpv4)
    (hip : Ipv4.fromBytes (Ethernet.payload frame) verifyChecksum = .ok ip)
    (hdst : Ipv4.destinationAddress ip = s.ipv4Addr) : s.isMmdsFrame frame = true := by
  obtain ⟨rfl, -, hhdr, hle⟩ := Ipv4.fromBytes_ok hip
  have hlen : Ipv4.optionsOffset ≤ (Ethernet.payload frame).length := hhdr.trans hle
  simp only [Ethernet.payload, List.length_drop] at hlen
  unfold isMmdsFrame Ethernet.fromBytes
  rw [if_neg (by unfold Ethernet.payloadOffset Ipv4.optionsOffset at *; omega)]
  dsimp only
  rw [hty, if_neg (by decide), if_pos rfl, ← hdst]
  exact Ipv4.testSpeculativeDstAddr_of_fromBytes hip

theorem detourFrame_of_arpRequest {frame arp : List (BitVec 8)}
    (hty : Ethernet.ethertype frame = Ethernet.ethertypeArp)
    (hreq : Arp.requestFromBytes (Ethernet.payload frame) = .ok arp) :
    s.detourFrame respond segmentOf isn now frame =
      some ({ s with remoteMacAddr := Arp.sha arp, pendingArpReplyDest := some (Arp.spa arp) },
        true) := by
  have hlen := (Arp.requestFromBytes_ok hreq).2.length
  simp only [Ethernet.payload, List.length_drop] at hlen
  unfold detourFrame Ethernet.fromBytes
  rw [if_neg (by unfold Ethernet.payloadOffset Arp.ethIpv4FrameLen at *; omega)]
  dsimp only
  rw [hty, if_pos rfl]
  unfold detourArp
  rw [hreq]

theorem detourFrame_of_ipv4 {frame ip : List (BitVec 8)}
    (hty : Ethernet.ethertype frame = Ethernet.ethertypeIpv4)
    (hip : Ipv4.fromBytes (Ethernet.payload frame) false = .ok ip) {r : MmdsNetworkStack × Bool}
    (hr : s.detourFrame respond segmentOf isn now frame = some r) : r.2 = true := by
  obtain ⟨rfl, -, hhdr, hle⟩ := Ipv4.fromBytes_ok hip
  have hlen : Ipv4.optionsOffset ≤ (Ethernet.payload frame).length := hhdr.trans hle
  simp only [Ethernet.payload, List.length_drop] at hlen
  unfold detourFrame Ethernet.fromBytes at hr
  rw [if_neg (by unfold Ethernet.payloadOffset Ipv4.optionsOffset at *; omega)] at hr
  dsimp only at hr
  rw [hty, if_neg (by decide), if_pos rfl] at hr
  unfold detourIpv4 at hr
  rw [hip] at hr
  dsimp only at hr
  split at hr
  · obtain ⟨_, -, rfl⟩ := Option.map_eq_some_iff.mp hr
    rfl
  · cases hr
    rfl

/-! ### Answering ARP requests -/

/-- What an ARP reply frame holds: an Ethernet header from `src` to `dst`, and a reply from
`sha`/`spa` to `tha`/`tpa` in the first 28 bytes of its payload. -/
structure ArpReplyFrame (out : List (BitVec 8)) (dst src sha : MacAddr) (spa : BitVec 32)
    (tha : MacAddr) (tpa : BitVec 32) : Prop where
  dstMac : Ethernet.dstMac out = dst
  srcMac : Ethernet.srcMac out = src
  ethertype : Ethernet.ethertype out = Ethernet.ethertypeArp
  arp : Arp.Holds ((Ethernet.payload out).take Arp.ethIpv4FrameLen) Arp.htypeEthernet
    Ethernet.ethertypeIpv4 (BitVec.ofNat 8 Arp.macAddrLen) (BitVec.ofNat 8 Arp.ipv4AddrLen)
    Arp.operReply sha spa tha tpa

theorem writeArpReply_ok {buf : List (BitVec 8)} {dest : BitVec 32}
    (hp : s.pendingArpReplyDest = some dest) (hbuf : frameHeaderMaxLen ≤ buf.length) :
    ∃ out, s.writeArpReply buf = some (out, .ok frameHeaderMaxLen) ∧
      ArpReplyFrame out s.remoteMacAddr s.macAddr s.macAddr s.ipv4Addr s.remoteMacAddr dest ∧
      out.length = buf.length ∧ out.drop frameHeaderMaxLen = buf.drop frameHeaderMaxLen := by
  have hbuf' : 14 + 28 ≤ buf.length := hbuf
  obtain ⟨eth, heth⟩ := Ethernet.newWithHeader_ok s.remoteMacAddr s.macAddr Ethernet.ethertypeArp
    (show Ethernet.payloadOffset ≤ buf.length by unfold Ethernet.payloadOffset; omega)
  obtain ⟨hlen, hdst, hsrc, hty, hpay⟩ := Ethernet.newWithHeader_spec heth
  have hplen : (Ethernet.payload eth).length = buf.length - 14 := by
    rw [hpay, Ethernet.payload, List.length_drop]
    rfl
  obtain ⟨arp, harp, hf⟩ := Arp.writeReply_ok s.macAddr s.ipv4Addr s.remoteMacAddr dest
    (show ((Ethernet.payload eth).take Arp.ethIpv4FrameLen).length = Arp.ethIpv4FrameLen by
      rw [List.length_take, hplen]; unfold Arp.ethIpv4FrameLen; omega)
  have harplen : arp.length = 28 := hf.length
  have hheader := Ethernet.header_take_append (arp ++ (Ethernet.payload eth).drop Arp.ethIpv4FrameLen)
    (show Ethernet.payloadOffset ≤ eth.length by unfold Ethernet.payloadOffset; omega)
  have hlen' : (eth.take Ethernet.payloadOffset ++ arp ++
      (Ethernet.payload eth).drop Arp.ethIpv4FrameLen).length = buf.length := by
    simp only [List.length_append, List.length_take, List.length_drop, harplen, hplen, hlen,
      Ethernet.payloadOffset, Arp.ethIpv4FrameLen]
    omega
  refine ⟨eth.take Ethernet.payloadOffset ++ arp ++ (Ethernet.payload eth).drop Arp.ethIpv4FrameLen,
    ?_, ?_, hlen', ?_⟩
  · unfold writeArpReply prepareEthUnsized Ethernet.writeIncomplete
    rw [hp]
    dsimp only
    rw [heth]
    dsimp only
    rw [if_neg (by rw [hplen]; unfold Arp.ethIpv4FrameLen; omega), harp]
    dsimp only
    rw [Ethernet.withPayloadLenUnchecked, shrinkUnchecked, if_pos (by
      rw [hlen', harplen]; unfold Ethernet.payloadOffset; omega)]
    dsimp only
    rw [List.length_take, hlen', harplen, Nat.min_eq_left (by unfold Ethernet.payloadOffset; omega)]
    rfl
  · rw [List.append_assoc]
    obtain ⟨hdst', hsrc', hty', hpay'⟩ := hheader
    refine ⟨hdst'.trans hdst, hsrc'.trans hsrc, hty'.trans hty, ?_⟩
    rw [hpay', List.take_left' hf.length]
    exact hf
  · rw [List.append_assoc, frameHeaderMaxLen, ← List.drop_drop, ← Ethernet.payload, hheader.2.2.2,
      List.drop_left' hf.length, hpay, Ethernet.payload, List.drop_drop]

/-- **While an ARP reply is pending, `write_next_frame` sends it, and nothing else.** It never
calls the handler: into a buffer shorter than an Ethernet header nothing is written and the reply
stays pending for the next call; a buffer of 14 to 41 bytes panics in `split_at_mut`; a larger
one gets the 42-byte reply from the MMDS to the requester, and the reply is no longer pending. -/
theorem writeNextFrame_pending {dest : BitVec 32} (hp : s.pendingArpReplyDest = some dest)
    (buf : List (BitVec 8)) (now : BitVec 64) :
    (buf.length < Ethernet.payloadOffset → s.writeNextFrame buf now = some (s, buf, none)) ∧
    (Ethernet.payloadOffset ≤ buf.length → buf.length < frameHeaderMaxLen →
      s.writeNextFrame buf now = none) ∧
    (frameHeaderMaxLen ≤ buf.length → ∃ out,
      s.writeNextFrame buf now = some ({ s with pendingArpReplyDest := none }, out,
        some frameHeaderMaxLen) ∧
      ArpReplyFrame out s.remoteMacAddr s.macAddr s.macAddr s.ipv4Addr s.remoteMacAddr dest ∧
      out.drop frameHeaderMaxLen = buf.drop frameHeaderMaxLen) := by
  have hsome : s.pendingArpReplyDest.isSome = true := by rw [hp]; rfl
  refine ⟨fun hshort => ?_, fun hlong hshort => ?_, fun hbuf => ?_⟩
  · unfold writeNextFrame writeArpReply prepareEthUnsized Ethernet.writeIncomplete
      Ethernet.newWithHeader
    rw [if_pos hsome, hp]
    dsimp only
    rw [if_pos hshort]
  · obtain ⟨eth, heth⟩ := Ethernet.newWithHeader_ok s.remoteMacAddr s.macAddr
      Ethernet.ethertypeArp hlong
    have hlen := (Ethernet.newWithHeader_spec heth).1
    unfold writeNextFrame writeArpReply prepareEthUnsized Ethernet.writeIncomplete
    rw [if_pos hsome, hp]
    dsimp only
    rw [heth]
    dsimp only
    rw [if_pos (by
      simp only [Ethernet.payload, List.length_drop, hlen, Ethernet.payloadOffset,
        Arp.ethIpv4FrameLen]
      unfold frameHeaderMaxLen Ethernet.payloadOffset Arp.ethIpv4FrameLen at hshort
      omega)]
  · obtain ⟨out, hw, hframe, -, hdrop⟩ := writeArpReply_ok hp hbuf
    refine ⟨out, ?_, hframe, hdrop⟩
    unfold writeNextFrame
    rw [if_pos hsome, hw]

theorem writeNextFrame_pending_sample :
    ({ newWithDefaults none with pendingArpReplyDest := some 0x0a000002 } :
        MmdsNetworkStack).pendingArpReplyDest = some 0x0a000002 ∧
    let s : MmdsNetworkStack := { newWithDefaults none with pendingArpReplyDest := some 0x0a000002 }
    ((List.replicate 42 0).length < Ethernet.payloadOffset →
        s.writeNextFrame (List.replicate 42 0) 0 = some (s, List.replicate 42 0, none)) ∧
    (Ethernet.payloadOffset ≤ (List.replicate 42 0).length →
        (List.replicate 42 0).length < frameHeaderMaxLen →
        s.writeNextFrame (List.replicate 42 0) 0 = none) ∧
    (frameHeaderMaxLen ≤ (List.replicate 42 0).length → ∃ out,
      s.writeNextFrame (List.replicate 42 0) 0 =
        some ({ s with pendingArpReplyDest := none }, out, some frameHeaderMaxLen) ∧
      ArpReplyFrame out s.remoteMacAddr s.macAddr s.macAddr s.ipv4Addr s.remoteMacAddr 0x0a000002 ∧
      out.drop frameHeaderMaxLen = (List.replicate 42 0).drop frameHeaderMaxLen) :=
  ⟨rfl, writeNextFrame_pending rfl (List.replicate 42 0) 0⟩

/-- **An ARP request for the MMDS is answered.** Whatever the stack's state, an Ethernet frame
with an ARP request for the MMDS address passes the device's test on its first
`FRAME_HEADER_MAX_LEN` bytes and is consumed; the next `write_next_frame`, into a buffer that
holds an ARP frame, is a 42-byte ARP reply from the MMDS's MAC and IPv4 addresses to the
requester's, sent to the requester's MAC address, with the rest of the buffer untouched; the
handler is never touched, and no reply is pending afterwards. -/
theorem arpRequest_answered {frame arp buf : List (BitVec 8)} (now' : BitVec 64)
    (hty : Ethernet.ethertype frame = Ethernet.ethertypeArp)
    (hreq : Arp.requestFromBytes (Ethernet.payload frame) = .ok arp)
    (htpa : Arp.tpa arp = s.ipv4Addr) (hbuf : frameHeaderMaxLen ≤ buf.length) :
    ∃ s' out, writeToMmdsOrTap respond segmentOf isn now s frame = some (s', true) ∧
      s'.writeNextFrame buf now' =
        some ({ s' with pendingArpReplyDest := none }, out, some frameHeaderMaxLen) ∧
      s'.tcpHandler = s.tcpHandler ∧
      ArpReplyFrame out (Arp.sha arp) s.macAddr s.macAddr s.ipv4Addr (Arp.sha arp) (Arp.spa arp) ∧
      out.drop frameHeaderMaxLen = buf.drop frameHeaderMaxLen := by
  have hclaim : s.isMmdsFrame (frame.take frameHeaderMaxLen) = true := by
    rw [isMmdsFrame_take le_rfl]
    exact isMmdsFrame_of_arpRequest hty hreq htpa
  let s' : MmdsNetworkStack :=
    { s with remoteMacAddr := Arp.sha arp, pendingArpReplyDest := some (Arp.spa arp) }
  have hdetour : writeToMmdsOrTap respond segmentOf isn now s frame = some (s', true) := by
    rw [writeToMmdsOrTap, if_pos hclaim, detourFrame_of_arpRequest respond segmentOf isn now hty hreq]
    rfl
  obtain ⟨-, -, hwrite⟩ := writeNextFrame_pending (s := s') rfl buf now'
  obtain ⟨out, hout, hframe, hdrop⟩ := hwrite hbuf
  exact ⟨s', out, hdetour, hout, rfl, hframe, hdrop⟩

/-- The sample request, offered to a stack with the default addresses, and a 42-byte buffer. -/
theorem arpRequest_answered_sample :
    (Ethernet.ethertype sampleArpRequest = Ethernet.ethertypeArp ∧
      Arp.requestFromBytes (Ethernet.payload sampleArpRequest) =
        .ok (Ethernet.payload sampleArpRequest) ∧
      Arp.tpa (Ethernet.payload sampleArpRequest) = (newWithDefaults none).ipv4Addr ∧
      frameHeaderMaxLen ≤ (List.replicate 42 0).length) ∧
    ∃ s' out, writeToMmdsOrTap (fun _ => []) (fun _ => .error .sliceTooShort) 0 0
        (newWithDefaults none) sampleArpRequest = some (s', true) ∧
      s'.writeNextFrame (List.replicate 42 0) 0 =
        some ({ s' with pendingArpReplyDest := none }, out, some frameHeaderMaxLen) ∧
      s'.tcpHandler = (newWithDefaults none).tcpHandler ∧
      ArpReplyFrame out (Arp.sha (Ethernet.payload sampleArpRequest))
        (newWithDefaults none).macAddr
        (newWithDefaults none).macAddr
        (newWithDefaults none).ipv4Addr
        (Arp.sha (Ethernet.payload sampleArpRequest)) (Arp.spa (Ethernet.payload sampleArpRequest)) ∧
      out.drop frameHeaderMaxLen = (List.replicate 42 0).drop frameHeaderMaxLen :=
  ⟨⟨rfl, rfl, rfl, by decide⟩, arpRequest_answered _ _ _ _ 0 rfl rfl rfl (by decide)⟩

/-- **No frame for the MMDS goes to the tap.** An Ethernet frame with an ARP request for the MMDS
address, or with an IPv4 packet to it that `from_bytes` accepts, passes the device's test on its
first `FRAME_HEADER_MAX_LEN` bytes, whatever follows them; `write_to_mmds_or_tap` then hands it
to `detour_frame`, which consumes it (or panics in the handler). -/
theorem isMmdsFrame_complete {frame : List (BitVec 8)}
    (haddr : (∃ arp, Ethernet.ethertype frame = Ethernet.ethertypeArp ∧
        Arp.requestFromBytes (Ethernet.payload frame) = .ok arp ∧ Arp.tpa arp = s.ipv4Addr) ∨
      (∃ ip, Ethernet.ethertype frame = Ethernet.ethertypeIpv4 ∧
        Ipv4.fromBytes (Ethernet.payload frame) false = .ok ip ∧
        Ipv4.destinationAddress ip = s.ipv4Addr)) :
    s.isMmdsFrame (frame.take frameHeaderMaxLen) = true ∧
      ∀ r, writeToMmdsOrTap respond segmentOf isn now s frame = some r →
        r.2 = true ∧ s.detourFrame respond segmentOf isn now frame = some (r.1, true) := by
  have hclaim : s.isMmdsFrame (frame.take frameHeaderMaxLen) = true := by
    rw [isMmdsFrame_take le_rfl]
    rcases haddr with ⟨arp, hty, hreq, htpa⟩ | ⟨ip, hty, hip, hdst⟩
    · exact isMmdsFrame_of_arpRequest hty hreq htpa
    · exact isMmdsFrame_of_ipv4 hty hip hdst
  refine ⟨hclaim, fun r hr => ?_⟩
  rw [writeToMmdsOrTap, if_pos hclaim] at hr
  obtain ⟨⟨s', b⟩, hd, rfl⟩ := Option.map_eq_some_iff.mp hr
  have hb : b = true := by
    rcases haddr with ⟨arp, hty, hreq, -⟩ | ⟨ip, hty, hip, -⟩
    · rw [detourFrame_of_arpRequest respond segmentOf isn now hty hreq] at hd
      cases hd
      rfl
    · exact detourFrame_of_ipv4 respond segmentOf isn now hty hip hd
  subst hb
  exact ⟨rfl, hd⟩

theorem isMmdsFrame_complete_sampleArpRequest :
    ((∃ arp, Ethernet.ethertype sampleArpRequest = Ethernet.ethertypeArp ∧
        Arp.requestFromBytes (Ethernet.payload sampleArpRequest) = .ok arp ∧
        Arp.tpa arp = (newWithDefaults none).ipv4Addr) ∨
      (∃ ip, Ethernet.ethertype sampleArpRequest = Ethernet.ethertypeIpv4 ∧
        Ipv4.fromBytes (Ethernet.payload sampleArpRequest) false = .ok ip ∧
        Ipv4.destinationAddress ip = (newWithDefaults none).ipv4Addr)) ∧
    (newWithDefaults none).isMmdsFrame (sampleArpRequest.take frameHeaderMaxLen) = true ∧
      ∀ r, writeToMmdsOrTap (fun _ => []) (fun _ => .error .sliceTooShort) 0 0
          (newWithDefaults none) sampleArpRequest = some r →
        r.2 = true ∧ (newWithDefaults none).detourFrame (fun _ => [])
          (fun _ => .error .sliceTooShort) 0 0 sampleArpRequest = some (r.1, true) := by
  have h : (∃ arp, Ethernet.ethertype sampleArpRequest = Ethernet.ethertypeArp ∧
        Arp.requestFromBytes (Ethernet.payload sampleArpRequest) = .ok arp ∧
        Arp.tpa arp = (newWithDefaults none).ipv4Addr) :=
    ⟨Ethernet.payload sampleArpRequest, rfl, rfl, rfl⟩
  exact ⟨.inl h, isMmdsFrame_complete _ _ _ _ (.inl h)⟩

end MmdsNetworkStack

/-! ### Runs -/

/-- What the net device does with its stack: a frame the guest sends, a frame asked for before a
read from the tap, and a new MMDS address from `configure_mmds_network_stack`. -/
inductive NsOp
  | txFrame (frame : List (BitVec 8)) (isn : BitVec 32) (now : BitVec 64)
  | rxFrame (buf : List (BitVec 8)) (now : BitVec 64)
  | setIpv4Addr (ipv4Addr : BitVec 32)

namespace MmdsNetworkStack

/-- One call of the device on the stack; `none` is a panic. -/
def step (respond : List (BitVec 8) → List (BitVec 8))
    (segmentOf : List (BitVec 8) → Except TcpError TcpPacket) (s : MmdsNetworkStack) :
    NsOp → Option MmdsNetworkStack
  | .txFrame frame isn now => (writeToMmdsOrTap respond segmentOf isn now s frame).map Prod.fst
  | .rxFrame buf now => (s.writeNextFrame buf now).map Prod.fst
  | .setIpv4Addr ipv4Addr => some (s.setIpv4Addr ipv4Addr)

/-- The stacks `new` creates, also through `new_with_defaults` and a snapshot's `restore`. -/
def Created (s : MmdsNetworkStack) : Prop :=
  ∃ (macAddr : MacAddr) (ipv4Addr : BitVec 32) (tcpPort : BitVec 16)
    (maxConnections maxPendingResets : {n : Nat // n ≠ 0}),
    s = new macAddr ipv4Addr tcpPort maxConnections maxPendingResets

variable {s s' : MmdsNetworkStack} {respond : List (BitVec 8) → List (BitVec 8)}
  {segmentOf : List (BitVec 8) → Except TcpError TcpPacket}

/-- What a call other than `set_ipv4_addr` does to the handler: nothing, or one call on it; and
the address stays. -/
def HandlerMoves (respond : List (BitVec 8) → List (BitVec 8)) (s s' : MmdsNetworkStack) : Prop :=
  s'.ipv4Addr = s.ipv4Addr ∧
    (s'.tcpHandler = s.tcpHandler ∨ ∃ op, s.tcpHandler.step respond op = some s'.tcpHandler)

theorem HandlerMoves.of_eq (hip : s'.ipv4Addr = s.ipv4Addr) (hh : s'.tcpHandler = s.tcpHandler) :
    HandlerMoves respond s s' := ⟨hip, .inl hh⟩

theorem detourArp_moves (eth : List (BitVec 8)) : HandlerMoves respond s (s.detourArp eth).1 := by
  unfold detourArp
  split <;> exact .of_eq rfl rfl

theorem detourIpv4_moves {isn : BitVec 32} {now : BitVec 64} {eth : List (BitVec 8)}
    {r : MmdsNetworkStack × Bool} (hd : s.detourIpv4 respond segmentOf isn now eth = some r) :
    HandlerMoves respond s r.1 := by
  unfold detourIpv4 at hd
  split at hd
  · split at hd
    · obtain ⟨⟨h₁, ev⟩, hrecv, rfl⟩ := Option.map_eq_some_iff.mp hd
      exact ⟨rfl, .inr ⟨.receivePacket _ isn now, by rw [TcpIPv4Handler.step, hrecv]; rfl⟩⟩
    · cases hd
      exact .of_eq rfl rfl
  · cases hd
    exact .of_eq rfl rfl

theorem detourFrame_moves {isn : BitVec 32} {now : BitVec 64} {frame : List (BitVec 8)}
    {r : MmdsNetworkStack × Bool} (hd : s.detourFrame respond segmentOf isn now frame = some r) :
    HandlerMoves respond s r.1 := by
  unfold detourFrame at hd
  split at hd
  · split at hd
    · cases hd
      exact detourArp_moves _
    split at hd
    · exact detourIpv4_moves hd
    · cases hd
      exact .of_eq rfl rfl
  · cases hd
    exact .of_eq rfl rfl

theorem writeToMmdsOrTap_moves {isn : BitVec 32} {now : BitVec 64} {frame : List (BitVec 8)}
    {r : MmdsNetworkStack × Bool} (hw : writeToMmdsOrTap respond segmentOf isn now s frame = some r) :
    HandlerMoves respond s r.1 := by
  unfold writeToMmdsOrTap at hw
  split at hw
  · obtain ⟨r', hd, rfl⟩ := Option.map_eq_some_iff.mp hw
    exact detourFrame_moves (r := r') hd
  · cases hw
    exact .of_eq rfl rfl

theorem writePacket_moves {buf : List (BitVec 8)} {now : BitVec 64}
    {r : MmdsNetworkStack × List (BitVec 8) × Except WritePacketError (Option Nat)}
    (hw : s.writePacket buf now = some r) : HandlerMoves respond s r.1 := by
  unfold writePacket at hw
  split at hw
  · cases hw
    exact .of_eq rfl rfl
  rename_i eth _
  have hmove : ∀ h₁ x, s.tcpHandler.writeNextPacket (Ethernet.payload eth).length now = some (h₁, x) →
      HandlerMoves respond s { s with tcpHandler := h₁ } := fun h₁ x hnext =>
    ⟨rfl, .inr ⟨.writeNextPacket _ now, by rw [TcpIPv4Handler.step, hnext]; rfl⟩⟩
  split at hw
  · cases hw
  · cases hw
    exact hmove _ _ (by assumption)
  · cases hw
    exact hmove _ _ (by assumption)
  · rename_i h₁ packetLen ev hnext
    split at hw
    · cases hw
      exact hmove _ _ hnext
    · cases hw

theorem writeNextFrame_moves {buf : List (BitVec 8)} {now : BitVec 64}
    {r : MmdsNetworkStack × List (BitVec 8) × Option Nat} (hw : s.writeNextFrame buf now = some r) :
    HandlerMoves respond s r.1 := by
  unfold writeNextFrame at hw
  split at hw
  · split at hw
    · cases hw
      exact .of_eq rfl rfl
    · cases hw
      exact .of_eq rfl rfl
    · cases hw
  split at hw
  · split at hw
    · cases hw
      exact writePacket_moves (by assumption)
    · cases hw
      exact writePacket_moves (by assumption)
    · cases hw
  · cases hw
    exact .of_eq rfl rfl

/-- **What a step does to the handler**: a new address for both, or a call on the handler at
most. -/
theorem step_cases {op : NsOp} (hs : s.step respond segmentOf op = some s') :
    (∃ ipv4Addr, s' = s.setIpv4Addr ipv4Addr) ∨ HandlerMoves respond s s' := by
  cases op with
  | txFrame frame isn now =>
    obtain ⟨r, hw, rfl⟩ := Option.map_eq_some_iff.mp hs
    exact .inr (writeToMmdsOrTap_moves hw)
  | rxFrame buf now =>
    obtain ⟨r, hw, rfl⟩ := Option.map_eq_some_iff.mp hs
    exact .inr (writeNextFrame_moves hw)
  | setIpv4Addr ipv4Addr =>
    cases hs
    exact .inl ⟨ipv4Addr, rfl⟩

/-- The state the stack keeps consistent: the handler's bookkeeping and its endpoints', and one
MMDS address for the stack and its handler. -/
structure Consistent (s : MmdsNetworkStack) : Prop where
  handler : s.tcpHandler.Inv
  endpoints : s.tcpHandler.EndpointsInv
  localIpv4Addr : s.tcpHandler.localIpv4Addr = s.ipv4Addr

theorem Consistent.new (macAddr : MacAddr) (ipv4Addr : BitVec 32) (tcpPort : BitVec 16)
    (maxConnections maxPendingResets : {n : Nat // n ≠ 0}) :
    (MmdsNetworkStack.new macAddr ipv4Addr tcpPort maxConnections maxPendingResets).Consistent :=
  ⟨TcpIPv4Handler.new_inv _ _ _ _, fun _ hx => by simp [MmdsNetworkStack.new, TcpIPv4Handler.new] at hx,
    rfl⟩

theorem Consistent.setIpv4Addr (hc : s.Consistent) (ipv4Addr : BitVec 32) :
    (s.setIpv4Addr ipv4Addr).Consistent :=
  ⟨⟨hc.handler.active_nodup, hc.handler.active_mem, hc.handler.timeout_mem,
    hc.handler.connections_le, hc.handler.rstQueue_le⟩, hc.endpoints, rfl⟩

theorem Consistent.of_moves (hrespond : ∀ request, (respond request).length ≤ maxWindowSize.toNat)
    (hc : s.Consistent) (hm : HandlerMoves respond s s') : s'.Consistent := by
  obtain ⟨hip, heq | ⟨op, hop⟩⟩ := hm
  · exact ⟨heq ▸ hc.handler, heq ▸ hc.endpoints, by rw [heq, hip]; exact hc.localIpv4Addr⟩
  · exact ⟨hc.handler.step hop, hc.endpoints.step hrespond hop,
      by rw [TcpIPv4Handler.step_localIpv4Addr hop, hip]; exact hc.localIpv4Addr⟩

theorem reachable_consistent (hrespond : ∀ request, (respond request).length ≤ maxWindowSize.toNat)
    (hreach : Run.Reachable (step respond segmentOf) Created s) : s.Consistent :=
  Run.Reachable.inv (fun _ _ _ hc hs => (step_cases hs).elim
      (fun ⟨a, heq⟩ => heq ▸ hc.setIpv4Addr a) (hc.of_moves hrespond))
    (fun _ ⟨_, _, _, _, _, hnew⟩ => hnew ▸ Consistent.new _ _ _ _ _) hreach

/-! ### No panic in `write_next_frame` -/

theorem writePacket_isSome (hc : s.Consistent) (buf : List (BitVec 8)) (now : BitVec 64) :
    (s.writePacket buf now).isSome := by
  unfold writePacket
  cases hprep : s.prepareEthUnsized buf Ethernet.ethertypeIpv4 with
  | error e => rfl
  | ok eth =>
    have hlen := (Ethernet.newWithHeader_spec hprep).1
    have hhdr : Ethernet.payloadOffset ≤ buf.length := by
      by_contra hshort
      rw [prepareEthUnsized, Ethernet.writeIncomplete, Ethernet.newWithHeader,
        if_pos (by omega)] at hprep
      cases hprep
    obtain ⟨⟨h₁, r⟩, hnext⟩ := Option.isSome_iff_exists.mp
      (TcpIPv4Handler.writeNextPacket_isSome hc.handler hc.endpoints
        (Ethernet.payload eth).length now)
    dsimp only
    rw [hnext]
    rcases r with e | ⟨_ | len, ev⟩
    · rfl
    · rfl
    · have hle := TcpIPv4Handler.writeNextPacket_len_le hnext
      simp only [Ethernet.payload, List.length_drop] at hle
      dsimp only
      rw [Ethernet.withPayloadLenUnchecked, shrinkUnchecked, if_pos (by omega)]
      rfl

theorem writeNextFrame_eq_none (hc : s.Consistent) {buf : List (BitVec 8)} {now : BitVec 64}
    (hw : s.writeNextFrame buf now = none) :
    s.pendingArpReplyDest.isSome ∧ Ethernet.payloadOffset ≤ buf.length ∧
      buf.length < frameHeaderMaxLen := by
  cases hp : s.pendingArpReplyDest with
  | some dest =>
    obtain ⟨hshort, -, hlong⟩ := writeNextFrame_pending hp buf now
    refine ⟨rfl, ?_, ?_⟩
    · by_contra h
      rw [hshort (by omega)] at hw
      cases hw
    · by_contra h
      obtain ⟨out, hout, -⟩ := hlong (by omega)
      rw [hout] at hw
      cases hw
  | none =>
    exfalso
    unfold writeNextFrame at hw
    rw [hp, if_neg (by simp)] at hw
    split at hw
    · obtain ⟨r, hr⟩ := Option.isSome_iff_exists.mp (writePacket_isSome hc buf now)
      rw [hr] at hw
      rcases r with ⟨s', buf', _ | _⟩ <;> cases hw
    · cases hw

/-- **The MMDS stack stays consistent, and only an ARP reply into a short buffer panics.** In
every state reached from `new` by any interleaving of frames the guest sends, frames the device
asks for and address changes, whatever the frames hold and for responses of at most
`MAX_WINDOW_SIZE` bytes: the handler answers from the stack's own address, and
`write_next_frame` never panics, except when an ARP reply is pending and the buffer holds an
Ethernet header but not a whole 42-byte ARP frame. -/
theorem mmdsStack_safe (hrespond : ∀ request, (respond request).length ≤ maxWindowSize.toNat)
    (hreach : Run.Reachable (step respond segmentOf) Created s) :
    s.tcpHandler.localIpv4Addr = s.ipv4Addr ∧
      ∀ buf now, s.writeNextFrame buf now = none →
        s.pendingArpReplyDest.isSome ∧ Ethernet.payloadOffset ≤ buf.length ∧
          buf.length < frameHeaderMaxLen := by
  have hc := reachable_consistent hrespond hreach
  exact ⟨hc.localIpv4Addr, fun _ _ hw => writeNextFrame_eq_none hc hw⟩

/-- The default stack after the sample ARP request. -/
theorem mmdsStack_safe_afterArpRequest :
    ∃ s, Run.run (step (fun _ => []) (fun _ => .error .sliceTooShort)) (newWithDefaults none)
        [.txFrame sampleArpRequest 0 0] = some s ∧
      s.tcpHandler.localIpv4Addr = s.ipv4Addr ∧
      ∀ buf now, s.writeNextFrame buf now = none →
        s.pendingArpReplyDest.isSome ∧ Ethernet.payloadOffset ≤ buf.length ∧
          buf.length < frameHeaderMaxLen := by
  have hreach : Run.Reachable (step (fun _ => []) (fun _ => .error .sliceTooShort)) Created _ :=
    (Run.Reachable.init (s := newWithDefaults none) ⟨defaultMacAddr, defaultIpv4Addr,
      defaultTcpPort, defaultMaxConnections, defaultMaxPendingResets, rfl⟩).run
      [.txFrame sampleArpRequest 0 0] rfl
  exact ⟨_, rfl, mmdsStack_safe (fun _ => Nat.zero_le _) hreach⟩

end MmdsNetworkStack

end Mmds
end Firecracker
