import Firecracker.Vsock.Csm

/-!
# Firecracker.Vsock.Connection

`devices/src/virtio/vsock/csm/connection.rs`: `VsockConnection`, the state machine of one
connection between a guest AF_VSOCK socket and a host stream.

The guest's packets come in through `send_pkt`: data (`VSOCK_OP_RW`) is written to the host
stream, and what the stream does not take waits in the TX buffer; every packet also tells the
connection the guest's receive buffer (`buf_alloc`) and how much of it the guest has consumed
(`fwd_cnt`). `recv_pkt` fills in the next packet the connection owes the guest (`pending_rx`),
reading data from the host stream for a `VSOCK_OP_RW`. `notify` is called when the stream can be
read from (`IN`) or written to (`OUT`); the latter flushes the TX buffer.

The stream is any `StreamIo`, the current time (`Instant::now()`, in milliseconds) an input, and a
packet's buffer is the guest memory it names, so the `GuestMemoryMmap` arguments are not kept.
-/

namespace Firecracker
namespace Vsock
namespace Csm

/-- The epoll events a connection tells apart: `IN` and `OUT`. -/
structure EventSet where
  «in» : Bool
  out : Bool
  deriving DecidableEq, Repr

def EventSet.isEmpty (e : EventSet) : Bool := !e.in && !e.out

structure VsockConnection (S : Type) where
  state : ConnState
  localCid : BitVec 64
  peerCid : BitVec 64
  localPort : BitVec 32
  peerPort : BitVec 32
  stream : S
  txBuf : TxBuf
  /-- Total number of bytes that have been successfully written to `stream`, either directly, or
  flushed from `txBuf`. -/
  fwdCnt : BitVec 32
  /-- The amount of buffer space that the peer (guest) has allocated for this connection. -/
  peerBufAlloc : BitVec 32
  /-- The total number of bytes that the peer has forwarded away. -/
  peerFwdCnt : BitVec 32
  /-- The total number of bytes sent to the peer (guest vsock driver). -/
  rxCnt : BitVec 32
  /-- Our `fwdCnt`, as last sent to the peer. -/
  lastFwdCntToPeer : BitVec 32
  pendingRx : PendingRxSet
  /-- When this connection should be terminated, due to some timeout. -/
  expiry : Option Nat

/-- `Established | PeerClosed(false, _)`: the states in which the guest can still receive data. -/
def ConnState.canRecv : ConnState → Bool
  | .established | .peerClosed false _ => true
  | _ => false

/-- `Established | PeerClosed(_, false)`: the states in which the guest can still send data. -/
def ConnState.canSend : ConnState → Bool
  | .established | .peerClosed _ false => true
  | _ => false

namespace VsockConnection

variable {S : Type} [StreamIo S]

/-- `new_peer_init`: a guest-initiated connection, which owes the guest a response. -/
def newPeerInit (stream : S) (localCid peerCid : BitVec 64) (localPort peerPort : BitVec 32)
    (peerBufAlloc : BitVec 32) : VsockConnection S :=
  { state := .peerInit, localCid, peerCid, localPort, peerPort, stream, txBuf := TxBuf.new,
    fwdCnt := 0, peerBufAlloc, peerFwdCnt := 0, rxCnt := 0, lastFwdCntToPeer := 0,
    pendingRx := .ofPendingRx .response, expiry := none }

/-- `new_local_init`: a host-initiated connection, which owes the guest a request. -/
def newLocalInit (stream : S) (localCid peerCid : BitVec 64) (localPort peerPort : BitVec 32) :
    VsockConnection S :=
  { state := .localInit, localCid, peerCid, localPort, peerPort, stream, txBuf := TxBuf.new,
    fwdCnt := 0, peerBufAlloc := 0, peerFwdCnt := 0, rxCnt := 0, lastFwdCntToPeer := 0,
    pendingRx := .ofPendingRx .request, expiry := none }

variable (c : VsockConnection S)

def willExpire (now : Nat) : Bool :=
  match c.expiry with
  | none => false
  | some t => now < t

def hasExpired (now : Nat) : Bool :=
  match c.expiry with
  | none => false
  | some t => t ≤ now

/-- `kill`: terminate the connection the next time it is asked for a packet. -/
def kill : VsockConnection S :=
  { c with state := .killed, pendingRx := c.pendingRx.insert .rst }

def hasPendingRx : Bool := !c.pendingRx.isEmpty

/-- `peer_avail_credit`: the guest's advertised buffer less what is in flight towards it, all in
wrapping `u32` arithmetic. -/
def peerAvailCredit : Nat := (c.peerBufAlloc - (c.rxCnt - c.peerFwdCnt)).toNat

def needCreditUpdateFromPeer : Bool := c.peerAvailCredit == 0

/-- `peer_needs_credit_update`: the free space the guest last heard of is below the threshold. -/
def peerNeedsCreditUpdate : Bool :=
  let peerSeenFreeBuf := connTxBufSize - (c.fwdCnt - c.lastFwdCntToPeer)
  decide (peerSeenFreeBuf < connCreditUpdateThreshold)

/-- `init_pkt`: the addresses, the type, and the credit the connection gives the guest. -/
def initPkt (pkt : VsockPacket) : VsockPacket :=
  { pkt with hdr := { pkt.hdr with srcCid := c.localCid, dstCid := c.peerCid,
                                   srcPort := c.localPort, dstPort := c.peerPort,
                                   type_ := vsockTypeStream, bufAlloc := connTxBufSize,
                                   fwdCnt := c.fwdCnt } }

def getPolledEvset : EventSet :=
  { out := !c.txBuf.isEmpty
    «in» :=
      match c.state with
      | .killed | .localClosed | .peerClosed true _ => false
      | _ => !c.needCreditUpdateFromPeer }

/-- `send_bytes_raw`: straight to the stream, with no account kept. -/
def sendBytesRaw (buf : List (BitVec 8)) : VsockConnection S × Except Error Nat :=
  match ByteSink.write c.stream buf with
  | (stream, .ok n) => ({ c with stream }, .ok n)
  | (stream, .error e) => ({ c with stream }, .error (.streamWrite e))

/-! ## `recv_pkt` -/

/-- The data branch of `recv_pkt`: `.inr` is what `recv_pkt` returns; `.inl` goes on to the credit
update, after a read that would block. -/
def recvRw (pkt : VsockPacket) (now : Nat) :
    VsockConnection S ⊕ (VsockConnection S × VsockPacket × Except VsockError Unit) :=
  if !c.state.canRecv then
    .inr (c, pkt.setOp vsockOpRst, .ok ())
  else if c.needCreditUpdateFromPeer then
    .inr ({ c with lastFwdCntToPeer := c.fwdCnt }, pkt.setOp vsockOpCreditRequest, .ok ())
  else
    let maxLen := min pkt.bufSize c.peerAvailCredit
    match pkt.readAtOffsetFrom 0 c.stream maxLen with
    | (pkt, stream, .ok readCnt) =>
      let c := { c with stream }
      let (c, pkt) :=
        if readCnt = 0 then
          ({ c with state := .localClosed, expiry := some (now + connShutdownTimeoutMs) },
            ((pkt.setOp vsockOpShutdown).setFlag vsockFlagsShutdownRcv).setFlag
              vsockFlagsShutdownSend)
        else (c, (pkt.setOp vsockOpRw).setLen (BitVec.ofNat 32 readCnt))
      .inr ({ c with rxCnt := c.rxCnt + pkt.hdr.len, lastFwdCntToPeer := c.fwdCnt }, pkt, .ok ())
    | (_, stream, .error e) =>
      if e = .guestMemoryMmap (.os .wouldBlock) then .inl { c with stream }
      else .inr ({ c with stream, lastFwdCntToPeer := c.fwdCnt }, pkt.setOp vsockOpRst, .ok ())

/-- `recv_pkt`: the connection, the packet filled in, and `NoData` when the connection owes the
guest nothing. The indications are served in the order `Rst`, `Response`, `Request`, `Rw`, and
last `CreditUpdate`, which is served only when nothing else is pending. -/
def recvPkt (pkt : VsockPacket) (now : Nat) :
    VsockConnection S × VsockPacket × Except VsockError Unit :=
  let pkt := c.initPkt pkt
  let (rst, pendingRx) := c.pendingRx.remove .rst
  let c := { c with pendingRx }
  if rst then (c, pkt.setOp vsockOpRst, .ok ()) else
  let (response, pendingRx) := c.pendingRx.remove .response
  let c := { c with pendingRx }
  if response then ({ c with state := .established }, pkt.setOp vsockOpResponse, .ok ()) else
  let (request, pendingRx) := c.pendingRx.remove .request
  let c := { c with pendingRx }
  if request then
    ({ c with expiry := some (now + connRequestTimeoutMs) }, pkt.setOp vsockOpRequest, .ok ())
  else
  let (rw, pendingRx) := c.pendingRx.remove .rw
  let c := { c with pendingRx }
  match (if rw then c.recvRw pkt now else .inl c) with
  | .inr r => r
  | .inl c =>
    let (creditUpdate, pendingRx) := c.pendingRx.remove .creditUpdate
    let c := { c with pendingRx }
    if creditUpdate && !c.hasPendingRx then
      ({ c with lastFwdCntToPeer := c.fwdCnt }, pkt.setOp vsockOpCreditUpdate, .ok ())
    else (c, pkt, .error .noData)

/-! ## `send_pkt` -/

/-- `send_bytes`: behind the TX buffer when it holds data; else straight to the stream, with
what the stream does not take pushed to the TX buffer. -/
def sendBytes (pkt : VsockPacket) : VsockConnection S × Except VsockError Unit :=
  let len := pkt.hdr.len.toNat
  if !c.txBuf.isEmpty then
    match pkt.writeFromOffsetTo 0 c.txBuf len with
    | (txBuf, r) => ({ c with txBuf }, r.map fun _ => ())
  else
    match pkt.writeFromOffsetTo 0 c.stream len with
    | (stream, r) =>
      let c := { c with stream }
      let written : Except VsockError Nat :=
        match r with
        | .error (.guestMemoryMmap (.os .wouldBlock)) => .ok 0
        | r => r
      match written with
      | .error e => (c, .error e)
      | .ok written =>
        let c := { c with fwdCnt := c.fwdCnt + BitVec.ofNat 32 written }
        if written < len then
          match pkt.writeFromOffsetTo written c.txBuf (len - written) with
          | (txBuf, r) => ({ c with txBuf }, r.map fun _ => ())
        else (c, .ok ())

def sendRw (pkt : VsockPacket) : VsockConnection S :=
  if pkt.bufSize = 0 then c
  else
    match c.sendBytes pkt with
    | (c, .error _) => c.kill
    | (c, .ok ()) =>
      if c.peerNeedsCreditUpdate then { c with pendingRx := c.pendingRx.insert .creditUpdate }
      else c

def shutdownFlag (pkt : VsockPacket) (flag : BitVec 32) : Bool := pkt.hdr.flags &&& flag != 0

/-- `send_pkt`: the peer credit information first, then the packet by the connection's state and
the packet's op. It always returns `Ok(())`. -/
def sendPkt (pkt : VsockPacket) (now : Nat) : VsockConnection S × Except VsockError Unit :=
  let c := { c with peerBufAlloc := pkt.hdr.bufAlloc, peerFwdCnt := pkt.hdr.fwdCnt }
  let op := pkt.hdr.op
  let c :=
    if c.state.canSend ∧ op = vsockOpRw then c.sendRw pkt
    else if c.state = .localInit ∧ op = vsockOpResponse then
      { c with expiry := none, state := .established }
    else if c.state = .established ∧ op = vsockOpShutdown then
      let recvOff := shutdownFlag pkt vsockFlagsShutdownRcv
      let sendOff := shutdownFlag pkt vsockFlagsShutdownSend
      let c := { c with state := .peerClosed recvOff sendOff }
      if recvOff && sendOff then
        if c.txBuf.isEmpty then { c with pendingRx := c.pendingRx.insert .rst }
        else { c with expiry := some (now + connShutdownTimeoutMs) }
      else c
    else
      match c.state, op == vsockOpShutdown with
      | .peerClosed recvOff sendOff, true =>
        let recvOff := recvOff || shutdownFlag pkt vsockFlagsShutdownRcv
        let sendOff := sendOff || shutdownFlag pkt vsockFlagsShutdownSend
        let c := { c with state := .peerClosed recvOff sendOff }
        if recvOff && sendOff && c.txBuf.isEmpty then
          { c with pendingRx := c.pendingRx.insert .rst }
        else c
      | state, _ =>
        if (state.canRecv || state = .peerInit) ∧ op = vsockOpCreditUpdate then c
        else if (state.canSend || state = .peerInit) ∧ op = vsockOpCreditRequest then
          { c with pendingRx := c.pendingRx.insert .creditUpdate }
        else c
  (c, .ok ())

/-! ## `notify` -/

/-- `notify`: a readable stream sets an `Rw` indication; a writable one flushes the TX buffer. The
flush recurses at most three times in the source. -/
def notify (evset : EventSet) : VsockConnection S :=
  let c := if evset.in then { c with pendingRx := c.pendingRx.insert .rw } else c
  if !evset.out then c
  else if c.txBuf.isEmpty then c
  else
    match c.txBuf.flushTo 3 c.stream with
    | (txBuf, stream, r) =>
      let c := { c with txBuf, stream }
      let (c, flushed) :=
        match r with
        | .ok n => (c, n)
        | .error (.txBufFlush (.os .wouldBlock)) => (c, 0)
        | .error _ => (c.kill, 0)
      let c := { c with fwdCnt := c.fwdCnt + BitVec.ofNat 32 flushed }
      if c.state = .peerClosed true true ∧ c.txBuf.isEmpty then
        { c with pendingRx := c.pendingRx.insert .rst }
      else if c.peerNeedsCreditUpdate then
        { c with pendingRx := c.pendingRx.insert .creditUpdate }
      else c

/-! ## What `recv_pkt` leaves pending -/

theorem recvRw_inl {pkt : VsockPacket} {now : Nat} {c' : VsockConnection S}
    (h : c.recvRw pkt now = .inl c') : ∃ stream, c' = { c with stream } := by
  unfold recvRw at h
  split at h
  · cases h
  split at h
  · cases h
  dsimp only at h
  split at h
  · cases h
  · split at h
    · cases h
      exact ⟨_, rfl⟩
    · cases h

theorem recvRw_inr {pkt : VsockPacket} {now : Nat}
    {r : VsockConnection S × VsockPacket × Except VsockError Unit}
    (h : c.recvRw pkt now = .inr r) : r.2.2 = .ok () := by
  unfold recvRw at h
  split at h
  · cases h
    rfl
  split at h
  · cases h
    rfl
  dsimp only at h
  split at h
  · cases h
    rfl
  · split at h
    · cases h
    · cases h
      rfl

/-- **`recv_pkt` fails only with nothing left to say.** Its only error is `NoData`, returned after
every indication was removed: the connection keeps its state and has no pending RX indication. -/
theorem recvPkt_error {pkt : VsockPacket} {now : Nat} {c' : VsockConnection S} {pkt' : VsockPacket}
    {e : VsockError} (h : c.recvPkt pkt now = (c', pkt', .error e)) :
    e = .noData ∧ c'.hasPendingRx = false ∧ c'.state = c.state := by
  unfold recvPkt at h
  rcases h1 : c.pendingRx.remove .rst with ⟨rst, p1⟩
  rcases h2 : p1.remove .response with ⟨response, p2⟩
  rcases h3 : p2.remove .request with ⟨request, p3⟩
  rcases h4 : p3.remove .rw with ⟨rw, p4⟩
  simp only [h1, h2, h3, h4] at h
  split at h
  · cases h
  split at h
  · cases h
  split at h
  · cases h
  split at h
  · rename_i r hr
    split at hr
    · have hok := recvRw_inr _ hr
      rw [h] at hok
      cases hok
    · cases hr
  · rename_i c₁ hc₁
    have hc : c₁.pendingRx = p4 ∧ c₁.state = c.state := by
      split at hc₁
      · obtain ⟨stream, rfl⟩ := recvRw_inl _ hc₁
        exact ⟨rfl, rfl⟩
      · cases hc₁
        exact ⟨rfl, rfl⟩
    rcases h5 : c₁.pendingRx.remove .creditUpdate with ⟨creditUpdate, p5⟩
    simp only [h5] at h
    split at h
    · cases h
    cases h
    refine ⟨rfl, ?_, hc.2⟩
    have hempty : p5.isEmpty = true := by
      refine PendingRxSet.isEmpty_of_contains fun a => ?_
      rw [PendingRxSet.contains_of_remove_eq h5, hc.1, PendingRxSet.contains_of_remove_eq h4,
        PendingRxSet.contains_of_remove_eq h3, PendingRxSet.contains_of_remove_eq h2,
        PendingRxSet.contains_of_remove_eq h1]
      cases a <;> simp
    simp [hasPendingRx, hempty]

theorem recvPkt_ok_of_rst (pkt : VsockPacket) (now : Nat) (h : c.pendingRx.contains .rst = true) :
    (c.recvPkt pkt now).2.2 = .ok () := by
  unfold recvPkt
  rcases h1 : c.pendingRx.remove .rst with ⟨rst, p1⟩
  have hrst : rst = true := by rw [PendingRxSet.fst_of_remove_eq h1, h]
  subst hrst
  rfl

theorem contains_rst_of_recvPkt_error {pkt : VsockPacket} {now : Nat} {c' : VsockConnection S}
    {pkt' : VsockPacket} {e : VsockError} (h : c.recvPkt pkt now = (c', pkt', .error e)) :
    c.pendingRx.contains .rst = false := by
  cases hc : c.pendingRx.contains .rst
  · rfl
  · have hok := c.recvPkt_ok_of_rst pkt now hc
    rw [h] at hok
    cases hok

/-! ## What the calls do to the TX buffer and `fwd_cnt` -/

section flow

variable {pkt : VsockPacket} {c' : VsockConnection S}

theorem written_le_of_absorbed {W : Type} [ByteSink W] {dst dst' : W} {r : Except VsockError Nat}
    {written : Nat} (hw : pkt.writeFromOffsetTo 0 dst pkt.hdr.len.toNat = (dst', r))
    (hwritten : (match r with
      | .error (.guestMemoryMmap (.os .wouldBlock)) => (.ok 0 : Except VsockError Nat)
      | r => r) = .ok written) :
    written ≤ pkt.hdr.len.toNat ∧ ∃ buf, pkt.bufRegionAddr 0 pkt.hdr.len.toNat = .ok buf := by
  split at hwritten
  · cases hwritten
    exact ⟨Nat.zero_le _, VsockPacket.writeFromOffsetTo_sinkError hw⟩
  · subst hwritten
    exact VsockPacket.writeFromOffsetTo_ok hw

/-- **`send_bytes` that succeeds.** It wrote `written` of the packet's `len` bytes to the stream,
counted in `fwd_cnt`, and put the rest in the TX buffer (all of them, behind a TX buffer that holds
data). -/
theorem sendBytes_ok (h : c.sendBytes pkt = (c', .ok ())) :
    ∃ written ≤ pkt.hdr.len.toNat, c'.fwdCnt = c.fwdCnt + BitVec.ofNat 32 written ∧
      c'.txBuf.len = c.txBuf.len + (pkt.hdr.len.toNat - written) := by
  unfold sendBytes at h
  dsimp only at h
  split at h
  · rcases hw : pkt.writeFromOffsetTo 0 c.txBuf pkt.hdr.len.toNat with ⟨b, r⟩
    rw [hw] at h
    simp only [Prod.mk.injEq] at h
    obtain ⟨rfl, hr⟩ := h
    rcases TxBuf.writeFromOffsetTo_txBuf hw with ⟨rfl, hlen⟩ | ⟨-, rfl, -⟩ | ⟨-, e, -, rfl⟩
    · exact ⟨0, Nat.zero_le _, by simp, by simpa using hlen⟩
    · cases hr
    · cases hr
  · rename_i hempty
    rcases hw : pkt.writeFromOffsetTo 0 c.stream pkt.hdr.len.toNat with ⟨stream, r⟩
    rw [hw] at h
    dsimp only at h
    split at h
    · cases h
    rename_i written hwritten
    obtain ⟨hle, -⟩ := written_le_of_absorbed hw hwritten
    have hlen₀ : c.txBuf.len = 0 := by simpa using hempty
    split at h
    · rcases hw₂ : pkt.writeFromOffsetTo written c.txBuf (pkt.hdr.len.toNat - written) with ⟨b, r₂⟩
      rw [hw₂] at h
      simp only [Prod.mk.injEq] at h
      obtain ⟨rfl, hr⟩ := h
      rcases TxBuf.writeFromOffsetTo_txBuf hw₂ with ⟨rfl, hlen⟩ | ⟨-, rfl, -⟩ | ⟨-, e, -, rfl⟩
      · exact ⟨written, hle, rfl, hlen⟩
      · cases hr
      · cases hr
    · rename_i hall
      simp only [Prod.mk.injEq] at h
      obtain ⟨rfl, -⟩ := h
      exact ⟨written, hle, rfl, by dsimp only; omega⟩

/-- **`send_bytes` that fails** with `TxBufFull` had no room in the TX buffer for the packet's `len`
bytes; with any other error it left the TX buffer and `fwd_cnt` as they were. -/
theorem sendBytes_error {e : VsockError} (h : c.sendBytes pkt = (c', .error e)) :
    (e = .guestMemoryMmap .txBufFull ∧ TxBuf.size < c.txBuf.len + pkt.hdr.len.toNat) ∨
      (e ≠ .guestMemoryMmap .txBufFull ∧ c'.txBuf = c.txBuf ∧ c'.fwdCnt = c.fwdCnt) := by
  unfold sendBytes at h
  dsimp only at h
  split at h
  · rcases hw : pkt.writeFromOffsetTo 0 c.txBuf pkt.hdr.len.toNat with ⟨b, r⟩
    rw [hw] at h
    simp only [Prod.mk.injEq] at h
    obtain ⟨rfl, hr⟩ := h
    rcases TxBuf.writeFromOffsetTo_txBuf hw with ⟨rfl, -⟩ | ⟨-, rfl, hfull⟩ | ⟨rfl, e', he', rfl⟩
    · cases hr
    · cases hr
      exact .inl ⟨rfl, hfull⟩
    · cases hr
      refine .inr ⟨?_, rfl, rfl⟩
      rcases VsockPacket.bufRegionAddr_error he' with rfl | rfl <;> simp
  · rename_i hempty
    rcases hw : pkt.writeFromOffsetTo 0 c.stream pkt.hdr.len.toNat with ⟨stream, r⟩
    rw [hw] at h
    dsimp only at h
    split at h
    · rename_i e' hwritten
      cases h
      refine .inr ⟨?_, rfl, rfl⟩
      rintro rfl
      split at hwritten
      · cases hwritten
      · subst hwritten
        exact VsockPacket.writeFromOffsetTo_ne_txBufFull _ _ hw
    rename_i written hwritten
    obtain ⟨hle, buf, hbuf⟩ := written_le_of_absorbed hw hwritten
    have hlen₀ : c.txBuf.len = 0 := by simpa using hempty
    split at h
    · rename_i hlt
      rcases hw₂ : pkt.writeFromOffsetTo written c.txBuf (pkt.hdr.len.toNat - written) with ⟨b, r₂⟩
      rw [hw₂] at h
      simp only [Prod.mk.injEq] at h
      obtain ⟨rfl, hr⟩ := h
      obtain ⟨hb, hfit, -⟩ := VsockPacket.bufRegionAddr_ok hbuf
      have hbounds : pkt.bufRegionAddr written (pkt.hdr.len.toNat - written) = .ok buf :=
        VsockPacket.bufRegionAddr_of_le hb (by omega) (by omega)
      rcases TxBuf.writeFromOffsetTo_txBuf hw₂ with ⟨rfl, -⟩ | ⟨-, rfl, hfull⟩ | ⟨-, e', he', -⟩
      · cases hr
      · cases hr
        exact .inl ⟨rfl, by omega⟩
      · rw [hbounds] at he'
        cases he'
    · cases h

theorem recvRw_inr_txSide {now : Nat} {pkt' : VsockPacket}
    {r : Except VsockError Unit} (h : c.recvRw pkt now = .inr (c', pkt', r)) :
    c'.txBuf = c.txBuf ∧ c'.fwdCnt = c.fwdCnt ∧ pkt'.hdr.fwdCnt = pkt.hdr.fwdCnt := by
  unfold recvRw at h
  split at h
  · cases h
    exact ⟨rfl, rfl, rfl⟩
  split at h
  · cases h
    exact ⟨rfl, rfl, rfl⟩
  dsimp only at h
  split at h
  · rename_i pkt₁ stream₁ readCnt hread
    have hfwd : pkt₁.hdr.fwdCnt = pkt.hdr.fwdCnt :=
      congrArg VsockPacketHeader.fwdCnt (VsockPacket.readAtOffsetFrom_ok hread).1
    split at h <;> (cases h; exact ⟨rfl, rfl, hfwd⟩)
  · split at h
    · cases h
    · cases h
      exact ⟨rfl, rfl, rfl⟩

/-- **`recv_pkt` leaves the TX side alone.** The TX buffer and `fwd_cnt` stay, and the packet
carries `fwd_cnt` as `init_pkt` sets it. -/
theorem recvPkt_txSide (pkt : VsockPacket) (now : Nat) :
    (c.recvPkt pkt now).1.txBuf = c.txBuf ∧ (c.recvPkt pkt now).1.fwdCnt = c.fwdCnt ∧
      (c.recvPkt pkt now).2.1.hdr.fwdCnt = c.fwdCnt := by
  unfold recvPkt
  rcases h1 : c.pendingRx.remove .rst with ⟨rst, p1⟩
  rcases h2 : p1.remove .response with ⟨response, p2⟩
  rcases h3 : p2.remove .request with ⟨request, p3⟩
  rcases h4 : p3.remove .rw with ⟨rw, p4⟩
  simp only [h2, h3, h4]
  split
  · exact ⟨rfl, rfl, rfl⟩
  split
  · exact ⟨rfl, rfl, rfl⟩
  split
  · exact ⟨rfl, rfl, rfl⟩
  split
  · rename_i r hr
    obtain ⟨c₁, pkt₁, r₁⟩ := r
    split at hr
    · exact recvRw_inr_txSide _ hr
    · cases hr
  · rename_i c₁ hc₁
    have hc : c₁.txBuf = c.txBuf ∧ c₁.fwdCnt = c.fwdCnt := by
      split at hc₁
      · obtain ⟨stream, rfl⟩ := recvRw_inl _ hc₁
        exact ⟨rfl, rfl⟩
      · cases hc₁
        exact ⟨rfl, rfl⟩
    split
    · exact ⟨hc.1, hc.2, rfl⟩
    · exact ⟨hc.1, hc.2, rfl⟩

theorem notify_eq (evset : EventSet) :
    c.notify evset =
      (if evset.in then { c with pendingRx := c.pendingRx.insert .rw } else c).notify ⟨false, evset.out⟩ :=
  rfl

theorem notify_out_flow :
    ∃ n ≤ c.txBuf.len, (c.notify ⟨false, true⟩).fwdCnt = c.fwdCnt + BitVec.ofNat 32 n ∧
      (c.notify ⟨false, true⟩).txBuf.len = c.txBuf.len - n := by
  unfold notify
  simp only [Bool.false_eq_true, if_false, Bool.not_true]
  split
  · exact ⟨0, Nat.zero_le _, by simp, by simp⟩
  rcases hf : c.txBuf.flushTo 3 c.stream with ⟨b, stream, r⟩
  simp only [apply_ite VsockConnection.fwdCnt, apply_ite VsockConnection.txBuf, ite_self]
  rcases r with e | n
  · obtain rfl := TxBuf.flushTo_error hf
    refine ⟨0, Nat.zero_le _, ?_, ?_⟩ <;> split <;> simp_all [kill]
  · obtain ⟨hn, hlen, -⟩ := TxBuf.flushTo_ok hf
    exact ⟨n, hn, rfl, hlen⟩

/-- **`notify` moves what it flushes.** The TX buffer loses `n` of its bytes and `fwd_cnt` counts
them. -/
theorem notify_flow (evset : EventSet) :
    ∃ n ≤ c.txBuf.len, (c.notify evset).fwdCnt = c.fwdCnt + BitVec.ofNat 32 n ∧
      (c.notify evset).txBuf.len = c.txBuf.len - n := by
  obtain ⟨c₁, hc₁, htx, hfwd⟩ : ∃ c₁ : VsockConnection S, c.notify evset = c₁.notify ⟨false, evset.out⟩ ∧
      c₁.txBuf = c.txBuf ∧ c₁.fwdCnt = c.fwdCnt :=
    ⟨_, notify_eq c evset, by split <;> rfl, by split <;> rfl⟩
  rw [hc₁, ← htx, ← hfwd]
  cases evset.out with
  | false => exact ⟨0, Nat.zero_le _, by simp [notify], rfl⟩
  | true => exact notify_out_flow c₁

theorem sendRw_of_bufSize_eq_zero (h : pkt.bufSize = 0) : c.sendRw pkt = c := by
  unfold sendRw
  rw [if_pos h]

theorem sendRw_txSide (h : pkt.bufSize ≠ 0) :
    (c.sendRw pkt).txBuf = (c.sendBytes pkt).1.txBuf ∧
      (c.sendRw pkt).fwdCnt = (c.sendBytes pkt).1.fwdCnt := by
  unfold sendRw
  rw [if_neg h]
  rcases hs : c.sendBytes pkt with ⟨c₁, e | ⟨⟩⟩
  · exact ⟨rfl, rfl⟩
  · exact ⟨by dsimp only; split <;> rfl, by dsimp only; split <;> rfl⟩

/-- **`send_pkt` of a data packet in a state where the guest can send** is the data branch, on the
connection with the packet's credit information. -/
theorem sendPkt_rw (h : c.state.canSend = true ∧ pkt.hdr.op = vsockOpRw) (now : Nat) :
    (c.sendPkt pkt now).1 =
      ({ c with peerBufAlloc := pkt.hdr.bufAlloc, peerFwdCnt := pkt.hdr.fwdCnt } :
        VsockConnection S).sendRw pkt := by
  unfold sendPkt
  dsimp only
  rw [if_pos h]

/-- **Every other branch of `send_pkt` leaves the TX side alone**: they change the state, the
expiry and the indications. -/
theorem sendPkt_txSide (h : ¬(c.state.canSend = true ∧ pkt.hdr.op = vsockOpRw)) (now : Nat) :
    (c.sendPkt pkt now).1.txBuf = c.txBuf ∧ (c.sendPkt pkt now).1.fwdCnt = c.fwdCnt := by
  unfold sendPkt
  dsimp only
  rw [if_neg h]
  split
  · exact ⟨rfl, rfl⟩
  split
  · split <;> (try split) <;> exact ⟨rfl, rfl⟩
  · split
    · split <;> exact ⟨rfl, rfl⟩
    · split <;> (try split) <;> exact ⟨rfl, rfl⟩

end flow

end VsockConnection

end Csm
end Vsock
end Firecracker
