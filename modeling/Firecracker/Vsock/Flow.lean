import Firecracker.Vsock.Connection
import Firecracker.Lib.Run

/-!
# Firecracker.Vsock.Flow

Flow control of a `VsockConnection` over its runs: any interleaving of the calls the muxer makes
on it (`send_pkt` with any packet of the guest, `recv_pkt`, `notify`), from `new_peer_init` or
`new_local_init`.

RX: a data packet of `recv_pkt` carries at most `peer_avail_credit()` bytes
(`recvPkt_rw_le_credit`). That credit is computed in wrapping `u32` arithmetic, so once the guest
advertises a `buf_alloc` below the bytes in flight towards it, the credit wraps to nearly `2 ^ 32`
and the connection sends as much as the packet holds into a buffer with no room left
(`recvPkt_overruns_guestBuffer`); a run reaches such a state (`rxCredit_counterexample`).

TX: a `TxWorld` runs the connection beside the guest's counters (the bytes it has sent, and the
`fwd_cnt` it last got from `recv_pkt`) and a ghost count of the bytes the connection took; its
runs are those where each data packet respects the credit the guest sees. `send_pkt` takes all of
a data packet or none of it (`sendPkt_taken`), `notify` forwards bytes from the front of the TX
buffer (`notify_flow`), and `recv_pkt` tells the guest `fwd_cnt`. The invariant `Inv` orders the
four counters along the wrapping line within `CONN_TX_BUF_SIZE` and says the TX buffer holds the
bytes taken and not forwarded; every call keeps it (`step_inv`). So the TX buffer is always
`received - fwd_cnt` long, and a packet that respects the credit never meets `TxBufFull`
(`txBuf_flowControl`).
-/

namespace Firecracker
namespace Vsock
namespace Csm

inductive ConnCall where
  /-- `send_pkt` of a packet from the guest. -/
  | sendPkt (pkt : VsockPacket) (now : Nat)
  /-- `recv_pkt` into an RX buffer of the guest. -/
  | recvPkt (pkt : VsockPacket) (now : Nat)
  /-- `notify` with the epoll events of the host stream. -/
  | notify (evset : EventSet)

namespace VsockConnection

variable {S : Type} [StreamIo S]

/-- One call, and the packet it hands the guest: `recv_pkt` hands over its packet when it returns
`Ok`. -/
def call (c : VsockConnection S) : ConnCall → VsockConnection S × Option VsockPacket
  | .sendPkt pkt now => ((c.sendPkt pkt now).1, none)
  | .recvPkt pkt now =>
    match c.recvPkt pkt now with
    | (c, pkt, .ok ()) => (c, some pkt)
    | (c, _, .error _) => (c, none)
  | .notify evset => (c.notify evset, none)

/-- A connection as `new_peer_init` or `new_local_init` makes it. -/
def Created (c : VsockConnection S) : Prop :=
  ∃ stream localCid peerCid localPort peerPort,
    (∃ peerBufAlloc, c = newPeerInit stream localCid peerCid localPort peerPort peerBufAlloc) ∨
      c = newLocalInit stream localCid peerCid localPort peerPort

/-- The connections some run of calls reaches from a new one. -/
def Reachable : VsockConnection S → Prop :=
  Run.Reachable (fun (c : VsockConnection S) a => some (c.call a).1) Created

/-- The guest's free receive space as the guest counts it: what it advertised less the bytes in
flight towards it, with no wrap-around (`max(0, peer_buf_alloc - (rx_cnt - peer_fwd_cnt))`). -/
def guestFreeSpace (c : VsockConnection S) : Nat := c.peerBufAlloc.toNat - (c.rxCnt - c.peerFwdCnt).toNat

/-! ## The data branch of `recv_pkt` -/

section recv

variable {c c' : VsockConnection S} {pkt pkt' : VsockPacket} {now : Nat}

theorem op_setOp_ne_rw {op : BitVec 16} (hop : op ≠ vsockOpRw) (pkt : VsockPacket) :
    (pkt.setOp op).hdr.op ≠ vsockOpRw := hop

theorem recvRw_rw {r : Except VsockError Unit} (h : c.recvRw pkt now = .inr (c', pkt', r))
    (hop : pkt'.hdr.op = vsockOpRw) :
    pkt'.hdr.len.toNat ≤ min pkt.bufSize c.peerAvailCredit ∧ c'.rxCnt = c.rxCnt + pkt'.hdr.len := by
  unfold recvRw at h
  split at h
  · cases h
    exact absurd hop (op_setOp_ne_rw (by decide) _)
  split at h
  · cases h
    exact absurd hop (op_setOp_ne_rw (by decide) _)
  dsimp only at h
  split at h
  · rename_i pkt₁ stream₁ readCnt hread
    split at h
    · cases h
      exact absurd hop (op_setOp_ne_rw (show vsockOpShutdown ≠ vsockOpRw by decide) pkt₁)
    · cases h
      have hle : readCnt ≤ min pkt.bufSize c.peerAvailCredit :=
        (VsockPacket.readAtOffsetFrom_ok hread).2
      have hcredit : c.peerAvailCredit < 2 ^ 32 := BitVec.isLt _
      have hlen : (BitVec.ofNat 32 readCnt).toNat = readCnt := by
        rw [BitVec.toNat_ofNat]
        exact Nat.mod_eq_of_lt (by omega)
      exact ⟨by simpa [VsockPacket.setLen, VsockPacket.setOp, hlen] using hle, rfl⟩
  · split at h
    · cases h
    · cases h
      exact absurd hop (op_setOp_ne_rw (by decide) _)

/-- **What `recv_pkt` sends the guest is within the credit it computes.** A data packet of
`recv_pkt` holds at most `min(buf_size, peer_avail_credit())` bytes, and `rx_cnt` counts them. -/
theorem recvPkt_rw_le_credit (h : c.recvPkt pkt now = (c', pkt', .ok ()))
    (hop : pkt'.hdr.op = vsockOpRw) :
    pkt'.hdr.len.toNat ≤ min pkt.bufSize c.peerAvailCredit ∧ c'.rxCnt = c.rxCnt + pkt'.hdr.len := by
  unfold recvPkt at h
  rcases h1 : c.pendingRx.remove .rst with ⟨rst, p1⟩
  rcases h2 : p1.remove .response with ⟨response, p2⟩
  rcases h3 : p2.remove .request with ⟨request, p3⟩
  rcases h4 : p3.remove .rw with ⟨rw, p4⟩
  simp only [h1, h2, h3, h4] at h
  split at h
  · cases h
    exact absurd hop (op_setOp_ne_rw (by decide) _)
  split at h
  · cases h
    exact absurd hop (op_setOp_ne_rw (by decide) _)
  split at h
  · cases h
    exact absurd hop (op_setOp_ne_rw (by decide) _)
  split at h
  · rename_i r hr
    split at hr
    · have hrw : ({ c with pendingRx := p4 } : VsockConnection S).recvRw (c.initPkt pkt) now =
          .inr (c', pkt', .ok ()) := h ▸ hr
      exact (recvRw_rw hrw hop :)
    · cases hr
  · rename_i c₁ hc₁
    rcases h5 : c₁.pendingRx.remove .creditUpdate with ⟨creditUpdate, p5⟩
    simp only [h5] at h
    split at h
    · cases h
      exact absurd hop (op_setOp_ne_rw (by decide) _)
    · cases h

theorem recvRw_read (hstate : c.state.canRecv = true) (hcredit : c.peerAvailCredit ≠ 0)
    {buf : List (BitVec 8)} (hbuf : pkt.buf = some buf) (hne : buf ≠ []) {stream' : S}
    {bytes : List (BitVec 8)}
    (hread : StreamIo.read c.stream (min pkt.bufSize c.peerAvailCredit) = (stream', .ok bytes))
    (hbytes : bytes ≠ []) (now : Nat) :
    ∃ c' pkt', c.recvRw pkt now = .inr (c', pkt', .ok ()) ∧ pkt'.hdr.op = vsockOpRw ∧
      pkt'.hdr.len = BitVec.ofNat 32 bytes.length := by
  have hsize : pkt.bufSize = buf.length := by simp [VsockPacket.bufSize, hbuf]
  have hmax : min pkt.bufSize c.peerAvailCredit ≠ 0 := by
    have := List.length_pos_iff.2 hne
    omega
  have hreadAt : pkt.readAtOffsetFrom 0 c.stream (min pkt.bufSize c.peerAvailCredit) =
      ({ pkt with buf := some (buf.take 0 ++ bytes ++ buf.drop (0 + bytes.length)) }, stream',
        .ok bytes.length) := by
    unfold VsockPacket.readAtOffsetFrom
    rw [VsockPacket.bufRegionAddr_of_le hbuf (by omega) hmax]
    simp only [hread]
  have hlen : bytes.length ≠ 0 := by simpa using hbytes
  unfold recvRw
  rw [if_neg (by simp [hstate]), if_neg (by simpa [needCreditUpdateFromPeer] using hcredit)]
  dsimp only
  rw [hreadAt]
  dsimp only
  rw [if_neg hlen]
  exact ⟨_, _, rfl, rfl, rfl⟩

/-- **The guest's buffer can be overrun.** Take a connection that can receive, owes the guest data
and nothing before it, and whose guest has advertised a `buf_alloc` below the bytes in flight
towards it (it lowered `buf_alloc`, or reported a `fwd_cnt` that does not cover them). The guest
has no free space, but `peer_avail_credit()` wraps to `2 ^ 32` less the shortfall, and `recv_pkt`
reads whatever the stream has, up to the packet's buffer, and sends it as a data packet. -/
theorem recvPkt_overruns_guestBuffer (hstate : c.state.canRecv = true)
    (hrst : c.pendingRx.contains .rst = false) (hresp : c.pendingRx.contains .response = false)
    (hreq : c.pendingRx.contains .request = false) (hrw : c.pendingRx.contains .rw = true)
    (hlow : c.peerBufAlloc.toNat < (c.rxCnt - c.peerFwdCnt).toNat)
    {buf : List (BitVec 8)} (hbuf : pkt.buf = some buf) (hne : buf ≠ []) {stream' : S}
    {bytes : List (BitVec 8)}
    (hread : StreamIo.read c.stream (min pkt.bufSize c.peerAvailCredit) = (stream', .ok bytes))
    (hbytes : bytes ≠ []) (now : Nat) :
    c.guestFreeSpace = 0 ∧
      c.peerAvailCredit = 2 ^ 32 - ((c.rxCnt - c.peerFwdCnt).toNat - c.peerBufAlloc.toNat) ∧
      ∃ c' pkt', c.recvPkt pkt now = (c', pkt', .ok ()) ∧ pkt'.hdr.op = vsockOpRw ∧
        pkt'.hdr.len = BitVec.ofNat 32 bytes.length := by
  have hlt := (c.rxCnt - c.peerFwdCnt).isLt
  have hcredit : c.peerAvailCredit = 2 ^ 32 - ((c.rxCnt - c.peerFwdCnt).toNat - c.peerBufAlloc.toNat) := by
    rw [peerAvailCredit, BitVec.toNat_sub, Nat.mod_eq_of_lt (by omega)]
    omega
  refine ⟨by unfold guestFreeSpace; omega, hcredit, ?_⟩
  unfold recvPkt
  rcases h1 : c.pendingRx.remove .rst with ⟨rst, p1⟩
  rcases h2 : p1.remove .response with ⟨response, p2⟩
  rcases h3 : p2.remove .request with ⟨request, p3⟩
  rcases h4 : p3.remove .rw with ⟨rw, p4⟩
  have hrst' : rst = false := by rw [PendingRxSet.fst_of_remove_eq h1, hrst]
  have hresp' : response = false := by
    rw [PendingRxSet.fst_of_remove_eq h2, PendingRxSet.contains_of_remove_eq h1, hresp, Bool.and_false]
  have hreq' : request = false := by
    rw [PendingRxSet.fst_of_remove_eq h3, PendingRxSet.contains_of_remove_eq h2,
      PendingRxSet.contains_of_remove_eq h1, hreq, Bool.and_false, Bool.and_false]
  have hrw' : rw = true := by
    rw [PendingRxSet.fst_of_remove_eq h4, PendingRxSet.contains_of_remove_eq h3,
      PendingRxSet.contains_of_remove_eq h2, PendingRxSet.contains_of_remove_eq h1, hrw]
    decide
  obtain ⟨c', pkt', hr, hop, hlen⟩ := recvRw_read (c := { c with pendingRx := p4 }) hstate
    (show c.peerAvailCredit ≠ 0 by omega) (show (c.initPkt pkt).buf = some buf from hbuf) hne hread
    hbytes now
  simp only [h2, h3, h4, hrst', hresp', hreq', hrw', Bool.false_eq_true, if_false, if_true, hr]
  exact ⟨c', pkt', rfl, hop, hlen⟩

end recv

end VsockConnection

/-! ## A guest that lowers `buf_alloc` -/

/-- A host stream for a concrete run: the bytes it has to give, and the bytes written to it. A
read gives what it has, up to the count asked for; a write takes everything. -/
structure HostStream where
  pending : List (BitVec 8)
  written : List (BitVec 8)

instance : StreamIo HostStream where
  write s buf := ({ s with written := s.written ++ buf }, .ok buf.length)
  write_le := by
    intro s s' buf n h
    simp only [Prod.mk.injEq, Except.ok.injEq] at h
    exact h.2 ▸ Nat.le_refl _
  read s count := ({ s with pending := s.pending.drop count }, .ok (s.pending.take count))
  asRawFd _ := 0
  read_length_le := by
    intro s s' count bytes h
    simp only [Prod.mk.injEq, Except.ok.injEq] at h
    exact h.2 ▸ List.length_take_le _ _
  write_ne_txBufFull := by
    intro s s' buf h
    simp at h

def rxBuffer (n : Nat) : VsockPacket := ⟨VsockPacketHeader.default, some (List.replicate n 0)⟩

/-- A credit update of the guest that lowers `buf_alloc` to 8, with nothing consumed. -/
def lowerBufAlloc : VsockPacket :=
  ⟨{ VsockPacketHeader.default with op := vsockOpCreditUpdate, bufAlloc := 8 }, none⟩

/-- A guest-initiated connection whose guest advertises 16 bytes, with 20 bytes waiting on the
host stream. -/
def lowerBufAllocStart : VsockConnection HostStream :=
  VsockConnection.newPeerInit ⟨List.replicate 20 0x61, []⟩ 2 3 1024 1025 16

/-- The response, the stream readable, 16 bytes for the guest, the guest's credit update, the
stream readable again. -/
def lowerBufAllocCalls : List ConnCall :=
  [.recvPkt (rxBuffer 16) 0, .notify ⟨true, false⟩, .recvPkt (rxBuffer 16) 0,
    .sendPkt lowerBufAlloc 0, .notify ⟨true, false⟩]

/-- The connection after those calls: 16 bytes in flight towards a guest that advertises 8. -/
def lowerBufAllocConn : VsockConnection HostStream :=
  (Run.run (fun (c : VsockConnection HostStream) a => some (c.call a).1) lowerBufAllocStart
    lowerBufAllocCalls).getD lowerBufAllocStart

theorem recvPkt_overruns_guestBuffer_lowered :
    lowerBufAllocConn.guestFreeSpace = 0 ∧ lowerBufAllocConn.peerAvailCredit = 2 ^ 32 - 8 ∧
      ∃ c' pkt', lowerBufAllocConn.recvPkt (rxBuffer 4) 0 = (c', pkt', .ok ()) ∧
        pkt'.hdr.op = vsockOpRw ∧ pkt'.hdr.len = 4 := by
  have h := VsockConnection.recvPkt_overruns_guestBuffer (c := lowerBufAllocConn) (by decide)
    (by decide) (by decide) (by decide) (by decide) (by decide)
    (show (rxBuffer 4).buf = some (List.replicate 4 0) from rfl) (by decide) rfl (by decide) 0
  exact ⟨h.1, h.2.1, h.2.2⟩

/-- A run reaches a connection that sends 4 bytes to a guest with no free space left. -/
theorem rxCredit_counterexample :
    lowerBufAllocConn.Reachable ∧ lowerBufAllocConn.guestFreeSpace = 0 ∧
      ∃ c' pkt', lowerBufAllocConn.recvPkt (rxBuffer 4) 0 = (c', pkt', .ok ()) ∧
        pkt'.hdr.op = vsockOpRw ∧ lowerBufAllocConn.guestFreeSpace < pkt'.hdr.len.toNat := by
  refine ⟨Run.Reachable.run (Run.Reachable.init ⟨_, _, _, _, _, .inl ⟨_, rfl⟩⟩) lowerBufAllocCalls rfl,
    by decide, _, _, rfl, rfl, by decide⟩

/-! ## TX: the guest's side of the credit -/

/-- A connection beside the counters of the guest at the other end: the bytes of the data packets
it has sent (its `tx_cnt`), and the `fwd_cnt` of the last packet it got from `recv_pkt`; and, as a
ghost, the bytes the connection has taken from the guest's data packets. -/
structure TxWorld (S : Type) [StreamIo S] where
  conn : VsockConnection S
  guestTxCnt : BitVec 32
  guestFwdCnt : BitVec 32
  received : BitVec 32

namespace TxWorld

open Wrapping

variable {S : Type} [StreamIo S]

/-- The bytes a packet of the guest counts as sent: the length of a data packet. -/
def sentLen (pkt : VsockPacket) : BitVec 32 := if pkt.hdr.op = vsockOpRw then pkt.hdr.len else 0

/-- The bytes `send_pkt` takes from a packet: all of a data packet that its data branch writes to
the stream or to the TX buffer, none of any other. -/
def taken (c : VsockConnection S) (pkt : VsockPacket) : BitVec 32 :=
  if c.state.canSend = true ∧ pkt.hdr.op = vsockOpRw ∧ pkt.bufSize ≠ 0 ∧
      (({ c with peerBufAlloc := pkt.hdr.bufAlloc, peerFwdCnt := pkt.hdr.fwdCnt } :
        VsockConnection S).sendBytes pkt).2.isOk = true then pkt.hdr.len
  else 0

/-- The guest respects the credit: a data packet holds at most `CONN_TX_BUF_SIZE` less the bytes
the guest has sent and not seen forwarded, `tx_cnt - peer_fwd_cnt` in wrapping arithmetic. -/
def Respects (w : TxWorld S) (pkt : VsockPacket) : Prop :=
  pkt.hdr.op = vsockOpRw →
    pkt.hdr.len.toNat ≤ connTxBufSize.toNat - (w.guestTxCnt - w.guestFwdCnt).toNat

instance (w : TxWorld S) (pkt : VsockPacket) : Decidable (w.Respects pkt) :=
  inferInstanceAs (Decidable (_ → _))

/-- One call. The guest sends only packets that respect the credit, and learns `fwd_cnt` from
each packet that `recv_pkt` hands it. -/
def step (w : TxWorld S) : ConnCall → Option (TxWorld S)
  | .sendPkt pkt now =>
    if w.Respects pkt then
      some { conn := (w.conn.sendPkt pkt now).1, guestTxCnt := w.guestTxCnt + sentLen pkt,
             guestFwdCnt := w.guestFwdCnt, received := w.received + taken w.conn pkt }
    else none
  | .recvPkt pkt now =>
    match w.conn.recvPkt pkt now with
    | (conn, pkt', .ok ()) => some { w with conn, guestFwdCnt := pkt'.hdr.fwdCnt }
    | (conn, _, .error _) => some { w with conn }
  | .notify evset => some { w with conn := w.conn.notify evset }

def Init (w : TxWorld S) : Prop :=
  w.conn.Created ∧ w.guestTxCnt = 0 ∧ w.guestFwdCnt = 0 ∧ w.received = 0

/-- The worlds some run of calls, with a guest that respects the credit, reaches. -/
def Reachable : TxWorld S → Prop := Run.Reachable step Init

theorem step_cases {w w' : TxWorld S} {a : ConnCall} (h : w.step a = some w') :
    (∃ pkt now, a = .sendPkt pkt now ∧ w.Respects pkt ∧
      w' = { conn := (w.conn.sendPkt pkt now).1, guestTxCnt := w.guestTxCnt + sentLen pkt,
             guestFwdCnt := w.guestFwdCnt, received := w.received + taken w.conn pkt }) ∨
    (∃ pkt now conn pkt', a = .recvPkt pkt now ∧ w.conn.recvPkt pkt now = (conn, pkt', .ok ()) ∧
      w' = { w with conn, guestFwdCnt := pkt'.hdr.fwdCnt }) ∨
    (∃ pkt now conn pkt' e, a = .recvPkt pkt now ∧
      w.conn.recvPkt pkt now = (conn, pkt', .error e) ∧ w' = { w with conn }) ∨
    (∃ evset, a = .notify evset ∧ w' = { w with conn := w.conn.notify evset }) := by
  cases a with
  | sendPkt pkt now =>
    simp only [step] at h
    split at h
    · rename_i hr
      cases h
      exact .inl ⟨pkt, now, rfl, hr, rfl⟩
    · cases h
  | recvPkt pkt now =>
    simp only [step] at h
    split at h
    · rename_i conn pkt' hrecv
      cases h
      exact .inr (.inl ⟨pkt, now, conn, pkt', rfl, hrecv, rfl⟩)
    · rename_i conn pkt' e hrecv
      cases h
      exact .inr (.inr (.inl ⟨pkt, now, conn, pkt', e, rfl, hrecv, rfl⟩))
  | notify evset =>
    cases h
    exact .inr (.inr (.inr ⟨evset, rfl, rfl⟩))

theorem step_conn {w w' : TxWorld S} {a : ConnCall} (h : w.step a = some w') :
    w'.conn = (w.conn.call a).1 := by
  rcases step_cases h with ⟨pkt, now, rfl, -, rfl⟩ | ⟨pkt, now, conn, pkt', rfl, hrecv, rfl⟩ |
      ⟨pkt, now, conn, pkt', e, rfl, hrecv, rfl⟩ | ⟨evset, rfl, rfl⟩
  · rfl
  · simp only [VsockConnection.call, hrecv]
  · simp only [VsockConnection.call, hrecv]
  · rfl

/-- **The world observes runs of the connection**: its connection is reachable. -/
theorem Reachable.conn {w : TxWorld S} (hw : w.Reachable) : w.conn.Reachable := by
  induction hw with
  | init hi => exact Run.Reachable.init hi.1
  | step _ ha ih => exact Run.Reachable.step ih (by rw [step_conn ha])

/-! ### What `send_pkt` takes -/

/-- **`send_pkt` takes all of a data packet or none of it.** It takes all of it when `send_bytes`
succeeds, writing some bytes to the stream and pushing the rest to the TX buffer; or it takes none
and leaves the TX side alone; or the packet did not fit in the TX buffer. -/
theorem sendPkt_taken (c : VsockConnection S) (pkt : VsockPacket) (now : Nat) :
    (taken c pkt = pkt.hdr.len ∧ pkt.hdr.op = vsockOpRw ∧ ∃ written ≤ pkt.hdr.len.toNat,
        (c.sendPkt pkt now).1.fwdCnt = c.fwdCnt + BitVec.ofNat 32 written ∧
        (c.sendPkt pkt now).1.txBuf.len = c.txBuf.len + (pkt.hdr.len.toNat - written)) ∨
      (taken c pkt = 0 ∧ (c.sendPkt pkt now).1.txBuf = c.txBuf ∧
        (c.sendPkt pkt now).1.fwdCnt = c.fwdCnt) ∨
      (pkt.hdr.op = vsockOpRw ∧ TxBuf.size < c.txBuf.len + pkt.hdr.len.toNat) := by
  by_cases hrw : c.state.canSend = true ∧ pkt.hdr.op = vsockOpRw
  swap
  · have htaken : taken c pkt = 0 := if_neg fun h => hrw ⟨h.1, h.2.1⟩
    exact .inr (.inl ⟨htaken, VsockConnection.sendPkt_txSide c hrw now⟩)
  rw [VsockConnection.sendPkt_rw c hrw now]
  by_cases hsize : pkt.bufSize = 0
  · have htaken : taken c pkt = 0 := if_neg fun h => h.2.2.1 hsize
    rw [VsockConnection.sendRw_of_bufSize_eq_zero _ hsize]
    exact .inr (.inl ⟨htaken, rfl, rfl⟩)
  obtain ⟨htx, hfwd⟩ := VsockConnection.sendRw_txSide
    ({ c with peerBufAlloc := pkt.hdr.bufAlloc, peerFwdCnt := pkt.hdr.fwdCnt }) hsize
  rw [htx, hfwd]
  rcases hs : ({ c with peerBufAlloc := pkt.hdr.bufAlloc, peerFwdCnt := pkt.hdr.fwdCnt } :
    VsockConnection S).sendBytes pkt with ⟨c₂, e | ⟨⟩⟩
  · rcases VsockConnection.sendBytes_error _ hs with ⟨-, hfull⟩ | ⟨-, htx₂, hfwd₂⟩
    · exact .inr (.inr ⟨hrw.2, hfull⟩)
    · have htaken : taken c pkt = 0 := if_neg fun h => by
        rw [hs] at h
        exact Bool.false_ne_true h.2.2.2
      exact .inr (.inl ⟨htaken, htx₂, hfwd₂⟩)
  · obtain ⟨written, hw, hfwd₂, hlen₂⟩ := VsockConnection.sendBytes_ok _ hs
    have htaken : taken c pkt = pkt.hdr.len := if_pos ⟨hrw.1, hrw.2, hsize, by rw [hs]; rfl⟩
    exact .inl ⟨htaken, hrw.2, written, hw, hfwd₂, hlen₂⟩

/-! ### The invariant -/

/-- The TX counters line up. Along the wrapping counters, the guest's copy of `fwd_cnt` lies
behind `fwd_cnt`, which lies behind the bytes taken, which lie behind the bytes the guest sent,
with at most `CONN_TX_BUF_SIZE` from the first to the last; and the TX buffer holds the bytes
taken and not forwarded. -/
structure Inv (w : TxWorld S) : Prop where
  buffered : w.conn.txBuf.len = dist w.conn.fwdCnt w.received
  ordered : dist w.guestFwdCnt w.guestTxCnt =
    dist w.guestFwdCnt w.conn.fwdCnt + dist w.conn.fwdCnt w.received + dist w.received w.guestTxCnt
  bounded : dist w.guestFwdCnt w.guestTxCnt ≤ TxBuf.size

section inv

variable {w : TxWorld S} {conn : VsockConnection S}

theorem Inv.sent_le (hi : w.Inv) {pkt : VsockPacket} (hr : w.Respects pkt) :
    dist w.guestFwdCnt w.guestTxCnt + (sentLen pkt).toNat ≤ TxBuf.size := by
  have hb := hi.bounded
  unfold sentLen
  split
  · rename_i hop
    have hlen : pkt.hdr.len.toNat ≤ TxBuf.size - dist w.guestFwdCnt w.guestTxCnt := hr hop
    omega
  · simpa using hb

/-- **A data packet that respects the credit fits in the TX buffer** beside what it holds. -/
theorem Inv.fits (hi : w.Inv) {pkt : VsockPacket} (hr : w.Respects pkt)
    (hop : pkt.hdr.op = vsockOpRw) : w.conn.txBuf.len + pkt.hdr.len.toNat ≤ TxBuf.size := by
  have hsent := hi.sent_le hr
  rw [sentLen, if_pos hop] at hsent
  have hbuf := hi.buffered
  have hord := hi.ordered
  omega

theorem Inv.sendBytes_ne_txBufFull (hi : w.Inv) {pkt : VsockPacket} (hr : w.Respects pkt)
    (hop : pkt.hdr.op = vsockOpRw) {c : VsockConnection S} (htx : c.txBuf = w.conn.txBuf) :
    (c.sendBytes pkt).2 ≠ .error (.guestMemoryMmap .txBufFull) := by
  intro hfull
  have hs : c.sendBytes pkt = ((c.sendBytes pkt).1, .error (.guestMemoryMmap .txBufFull)) :=
    Prod.ext rfl hfull
  have hfits := hi.fits hr hop
  rcases VsockConnection.sendBytes_error _ hs with ⟨-, hover⟩ | ⟨hne, -⟩
  · rw [htx] at hover
    omega
  · exact hne rfl

theorem Inv.send (hi : w.Inv) {n k written : Nat}
    (hn : dist w.guestFwdCnt w.guestTxCnt + n ≤ TxBuf.size) (hk : k ≤ n) (hw : written ≤ k)
    (hfwd : conn.fwdCnt = w.conn.fwdCnt + BitVec.ofNat 32 written)
    (hlen : conn.txBuf.len = w.conn.txBuf.len + (k - written)) :
    Inv { conn, guestTxCnt := w.guestTxCnt + BitVec.ofNat 32 n, guestFwdCnt := w.guestFwdCnt,
          received := w.received + BitVec.ofNat 32 k } := by
  obtain ⟨hbuf, hord, hbound⟩ := hi
  have hsize := TxBuf.size_eq
  have hsent : dist w.guestFwdCnt (w.guestTxCnt + BitVec.ofNat 32 n) =
      dist w.guestFwdCnt w.guestTxCnt + n := dist_add_right (by omega)
  have hforwarded : dist w.guestFwdCnt (w.conn.fwdCnt + BitVec.ofNat 32 written) =
      dist w.guestFwdCnt w.conn.fwdCnt + written := dist_add_right (by omega)
  have hbuffered : dist (w.conn.fwdCnt + BitVec.ofNat 32 written) (w.received + BitVec.ofNat 32 k) =
      dist w.conn.fwdCnt w.received + k - written := dist_add_add (by omega) (by omega)
  have hleft : dist (w.received + BitVec.ofNat 32 k) (w.guestTxCnt + BitVec.ofNat 32 n) =
      dist w.received w.guestTxCnt + n - k := dist_add_add (by omega) (by omega)
  refine ⟨?_, ?_, ?_⟩ <;> dsimp only
  · rw [hlen, hfwd, hbuffered]
    omega
  · rw [hfwd, hsent, hforwarded, hbuffered, hleft]
    omega
  · omega

theorem Inv.flush (hi : w.Inv) {n : Nat} (hn : n ≤ w.conn.txBuf.len)
    (hfwd : conn.fwdCnt = w.conn.fwdCnt + BitVec.ofNat 32 n)
    (hlen : conn.txBuf.len = w.conn.txBuf.len - n) : Inv { w with conn } := by
  obtain ⟨hbuf, hord, hbound⟩ := hi
  have hsize := TxBuf.size_eq
  have hforwarded : dist w.guestFwdCnt (w.conn.fwdCnt + BitVec.ofNat 32 n) =
      dist w.guestFwdCnt w.conn.fwdCnt + n := dist_add_right (by omega)
  have hbuffered : dist (w.conn.fwdCnt + BitVec.ofNat 32 n) w.received =
      dist w.conn.fwdCnt w.received - n := dist_add_left (by omega)
  refine ⟨?_, ?_, hbound⟩ <;> dsimp only
  · rw [hlen, hfwd, hbuffered, hbuf]
  · rw [hfwd, hforwarded, hbuffered]
    omega

theorem Inv.seen (hi : w.Inv) (htx : conn.txBuf.len = w.conn.txBuf.len)
    (hfwd : conn.fwdCnt = w.conn.fwdCnt) : Inv { w with conn, guestFwdCnt := w.conn.fwdCnt } := by
  obtain ⟨hbuf, hord, hbound⟩ := hi
  have hsize := TxBuf.size_eq
  have hahead : dist w.conn.fwdCnt w.guestTxCnt =
      dist w.conn.fwdCnt w.received + dist w.received w.guestTxCnt := dist_add (by omega)
  refine ⟨?_, ?_, ?_⟩ <;> dsimp only
  · rw [htx, hfwd, hbuf]
  · rw [hfwd, hahead, dist_self, Nat.zero_add]
  · omega

theorem Inv.quiet (hi : w.Inv) (htx : conn.txBuf.len = w.conn.txBuf.len)
    (hfwd : conn.fwdCnt = w.conn.fwdCnt) : Inv { w with conn } := by
  obtain ⟨hbuf, hord, hbound⟩ := hi
  refine ⟨?_, ?_, hbound⟩ <;> dsimp only
  · rw [htx, hfwd, hbuf]
  · rw [hfwd, hord]

/-- **One `send_pkt` keeps the counters lined up** when its packet respects the credit. -/
theorem Inv.sendPkt (hi : w.Inv) {pkt : VsockPacket} (hr : w.Respects pkt) (now : Nat) :
    Inv { conn := (w.conn.sendPkt pkt now).1, guestTxCnt := w.guestTxCnt + sentLen pkt,
          guestFwdCnt := w.guestFwdCnt, received := w.received + taken w.conn pkt } := by
  have hroom := hi.sent_le hr
  have hsent : sentLen pkt = BitVec.ofNat 32 (sentLen pkt).toNat := by simp
  rcases sendPkt_taken w.conn pkt now with
    ⟨htaken, hop, written, hw, hfwd, hlen⟩ | ⟨htaken, htx, hfwd⟩ | ⟨hop, hover⟩
  · have hlen' : sentLen pkt = pkt.hdr.len := if_pos hop
    rw [hlen'] at hroom ⊢
    rw [htaken, show pkt.hdr.len = BitVec.ofNat 32 pkt.hdr.len.toNat by simp]
    exact hi.send hroom (Nat.le_refl _) hw hfwd hlen
  · rw [htaken, hsent, show (0 : BitVec 32) = BitVec.ofNat 32 0 from rfl]
    exact hi.send hroom (Nat.zero_le _) (Nat.le_refl _) (by simp [hfwd]) (by simp [htx])
  · have hfits := hi.fits hr hop
    omega

end inv

theorem init_inv {w : TxWorld S} (h : w.Init) : w.Inv := by
  obtain ⟨⟨stream, localCid, peerCid, localPort, peerPort, hc⟩, hgT, hgF, hrec⟩ := h
  have htx : w.conn.txBuf.len = 0 ∧ w.conn.fwdCnt = 0 := by
    rcases hc with ⟨_, hc⟩ | hc <;> (rw [hc]; exact ⟨TxBuf.len_new, rfl⟩)
  refine ⟨?_, ?_, ?_⟩ <;> simp [htx, hgT, hgF, hrec, TxBuf.size_eq]

/-- **Every call keeps the counters lined up.** -/
theorem step_inv {w w' : TxWorld S} {a : ConnCall} (hi : w.Inv) (h : w.step a = some w') :
    w'.Inv := by
  rcases step_cases h with ⟨pkt, now, rfl, hr, rfl⟩ | ⟨pkt, now, conn, pkt', rfl, hrecv, rfl⟩ |
      ⟨pkt, now, conn, pkt', e, rfl, hrecv, rfl⟩ | ⟨evset, rfl, rfl⟩
  · exact hi.sendPkt hr now
  · obtain ⟨htx, hfwd, hpkt⟩ := VsockConnection.recvPkt_txSide w.conn pkt now
    rw [hrecv] at htx hfwd hpkt
    rw [show pkt'.hdr.fwdCnt = w.conn.fwdCnt from hpkt]
    exact hi.seen (congrArg TxBuf.len htx) hfwd
  · obtain ⟨htx, hfwd, -⟩ := VsockConnection.recvPkt_txSide w.conn pkt now
    rw [hrecv] at htx hfwd
    exact hi.quiet (congrArg TxBuf.len htx) hfwd
  · obtain ⟨n, hn, hfwd, hlen⟩ := VsockConnection.notify_flow w.conn evset
    exact hi.flush hn hfwd hlen

theorem reachable_inv {w : TxWorld S} (hw : w.Reachable) : w.Inv :=
  Run.Reachable.inv (I := Inv) (fun _ _ _ hi hs => step_inv hi hs) (fun _ hs => init_inv hs) hw

/-- **TX flow control.** In every run where the guest respects the credit, the TX buffer holds the
bytes taken from the guest and not yet forwarded, `received - fwd_cnt` in wrapping arithmetic,
and at most `CONN_TX_BUF_SIZE` of them; and no data packet that respects the credit makes
`send_bytes`, in the data branch of `send_pkt`, fail with `TxBufFull`. -/
theorem txBuf_flowControl {w : TxWorld S} (hw : w.Reachable) :
    w.conn.txBuf.len = (w.received - w.conn.fwdCnt).toNat ∧
      w.conn.txBuf.len ≤ connTxBufSize.toNat ∧
      ∀ pkt : VsockPacket, w.Respects pkt → pkt.hdr.op = vsockOpRw →
        (({ w.conn with peerBufAlloc := pkt.hdr.bufAlloc, peerFwdCnt := pkt.hdr.fwdCnt } :
          VsockConnection S).sendBytes pkt).2 ≠ .error (.guestMemoryMmap .txBufFull) := by
  have hi := reachable_inv hw
  exact ⟨hi.buffered, TxBuf.len_le_size _, fun pkt hr hop => hi.sendBytes_ne_txBufFull hr hop rfl⟩

end TxWorld

/-! ## A guest that sends data -/

/-- A data packet of the guest with 4 bytes, advertising 16 bytes of its own buffer. -/
def guestData : VsockPacket :=
  ⟨{ VsockPacketHeader.default with op := vsockOpRw, len := 4, bufAlloc := 16 },
    some (List.replicate 4 0x62)⟩

/-- The connection of `lowerBufAllocStart` with a guest that has sent nothing. -/
def txFlowStart : TxWorld HostStream := ⟨lowerBufAllocStart, 0, 0, 0⟩

def txFlowCalls : List ConnCall := [.recvPkt (rxBuffer 16) 0, .sendPkt guestData 0]

def txFlowWorld : TxWorld HostStream :=
  (Run.run TxWorld.step txFlowStart txFlowCalls).getD txFlowStart

theorem txBuf_flowControl_guestData :
    txFlowWorld.received = 4 ∧ txFlowWorld.conn.txBuf.len = (txFlowWorld.received - txFlowWorld.conn.fwdCnt).toNat ∧
      txFlowWorld.conn.txBuf.len ≤ connTxBufSize.toNat ∧
      ∀ pkt : VsockPacket, txFlowWorld.Respects pkt → pkt.hdr.op = vsockOpRw →
        (({ txFlowWorld.conn with peerBufAlloc := pkt.hdr.bufAlloc, peerFwdCnt := pkt.hdr.fwdCnt } :
          VsockConnection HostStream).sendBytes pkt).2 ≠ .error (.guestMemoryMmap .txBufFull) :=
  ⟨by decide, TxWorld.txBuf_flowControl
    (Run.Reachable.run
      (Run.Reachable.init (s := txFlowStart) ⟨⟨_, _, _, _, _, .inl ⟨_, rfl⟩⟩, rfl, rfl, rfl⟩)
      txFlowCalls rfl)⟩

end Csm
end Vsock
end Firecracker
