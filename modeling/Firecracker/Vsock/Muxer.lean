import Firecracker.Vsock.Connection
import Firecracker.Lib.AssocMap
import Firecracker.Lib.Loop

/-!
# Firecracker.Vsock.Muxer

`devices/src/virtio/vsock/unix/muxer.rs`, `muxer_rxq.rs` and `muxer_killq.rs`: how
`VsockMuxer::recv_pkt` finds the next packet for the guest. The RX queue (`MuxerRxQ`) holds what
the muxer owes the guest: an RST of its own, or a connection with something to say. `recv_pkt`
looks at the front of the queue until an entry yields a packet. A connection entry is popped once
the connection has nothing more to say, so an iteration that yields no packet pops the front
(`recvPktBody_next`): `VsockConnection::recv_pkt` fails only when it leaves the connection with no
pending indication (`recvPkt_error`). When the epoll update of `apply_conn_mutation` fails,
`kill_connection` puts the entry back, its connection now with an RST to yield. The loop ends
within the length of the queue (`recvPkt_terminates`).

The connection map is an association list, in the iteration order of the hash map. The epoll
listeners the muxer keeps for its connections are not modelled: whether an update of one
succeeds is an input, which may say it fails whenever the connection asks for events. `now`
stands for every `Instant::now()` of the call.
-/

namespace Firecracker
namespace Vsock

open Csm

def muxerRxqSize : Nat := 256
def muxerKillqSize : Nat := 128

structure ConnMapKey where
  localPort : BitVec 32
  peerPort : BitVec 32
  deriving DecidableEq, Repr

inductive MuxerRx where
  | connRx (key : ConnMapKey)
  | rstPkt (localPort peerPort : BitVec 32)
  deriving DecidableEq, Repr

/-! ## The RX and kill queues -/

/-- `MuxerRxQ`: its entries, and whether every connection with pending RX is in it. -/
structure MuxerRxQ where
  q : List MuxerRx
  synced : Bool

namespace MuxerRxQ

def isEmpty (rxq : MuxerRxQ) : Bool := rxq.q.length == 0

def isFull (rxq : MuxerRxQ) : Bool := rxq.q.length == muxerRxqSize

def peek (rxq : MuxerRxQ) : Option MuxerRx := rxq.q.head?

def pop (rxq : MuxerRxQ) : Option MuxerRx × MuxerRxQ := (rxq.q.head?, { rxq with q := rxq.q.tail })

/-- The loop of `from_conn_map` over the connections, with the entries so far. -/
def fromConnMapLoop {S : Type} :
    List (Sigma fun _ : ConnMapKey => VsockConnection S) → List MuxerRx → MuxerRxQ
  | [], q => ⟨q, true⟩
  | ⟨key, conn⟩ :: conns, q =>
    if !conn.hasPendingRx then fromConnMapLoop conns q
    else if q.length ≥ muxerRxqSize then ⟨q, false⟩
    else fromConnMapLoop conns (q ++ [.connRx key])

/-- `from_conn_map`: a queue of the connections with pending RX, as many as fit. -/
def fromConnMap {S : Type} (conns : List (Sigma fun _ : ConnMapKey => VsockConnection S)) :
    MuxerRxQ :=
  fromConnMapLoop conns []

theorem length_fromConnMapLoop {S : Type} (conns : List (Sigma fun _ : ConnMapKey => VsockConnection S))
    {q : List MuxerRx} (hq : q.length ≤ muxerRxqSize) :
    (fromConnMapLoop conns q).q.length ≤ muxerRxqSize := by
  induction conns generalizing q with
  | nil => exact hq
  | cons entry conns ih =>
    obtain ⟨key, conn⟩ := entry
    unfold fromConnMapLoop
    split
    · exact ih hq
    split
    · exact hq
    · rename_i hlt
      exact ih (by rw [List.length_append, List.length_singleton]; omega)

/-- The entries with the last `ConnRx` replaced by `rx`, if there is one. -/
def replaceLastConnRx (rx : MuxerRx) : List MuxerRx → Option (List MuxerRx)
  | [] => none
  | qi :: q =>
    match replaceLastConnRx rx q with
    | some q => some (qi :: q)
    | none =>
      match qi with
      | .connRx _ => some (rx :: q)
      | .rstPkt _ _ => none

/-- `push`: at the back while the queue is synced and not full. Otherwise an RST takes the place of
the last connection entry, and the queue is out of sync. -/
def push (rxq : MuxerRxQ) (rx : MuxerRx) : MuxerRxQ × Bool :=
  if rxq.synced && !rxq.isFull then ({ rxq with q := rxq.q ++ [rx] }, true)
  else
    match rx with
    | .rstPkt _ _ =>
      match replaceLastConnRx rx rxq.q with
      | some q => (⟨q, false⟩, true)
      | none => (rxq, false)
    | .connRx _ => ({ rxq with synced := false }, false)

theorem push_connRx_q (rxq : MuxerRxQ) (key : ConnMapKey) :
    (rxq.push (.connRx key)).1.q = rxq.q ∨ (rxq.push (.connRx key)).1.q = rxq.q ++ [.connRx key] := by
  unfold push
  split
  · exact .inr rfl
  · exact .inl rfl

end MuxerRxQ

/-- `MuxerKillQ`: connections and when to kill them, and whether every expiring connection is in
it. -/
structure MuxerKillQ where
  q : List (ConnMapKey × Nat)
  synced : Bool

/-- `MuxerKillQ::push`: at the back while the queue is synced and not full. -/
def MuxerKillQ.push (killq : MuxerKillQ) (key : ConnMapKey) (killTime : Nat) : MuxerKillQ :=
  if !killq.synced || killq.q.length == muxerKillqSize then { killq with synced := false }
  else { killq with q := killq.q ++ [(key, killTime)] }

/-! ## The muxer -/

structure VsockMuxer (S : Type) where
  cid : BitVec 64
  connMap : AList fun _ : ConnMapKey => VsockConnection S
  rxq : MuxerRxQ
  killq : MuxerKillQ
  localPortSet : List (BitVec 32)

namespace VsockMuxer

variable {S : Type} [StreamIo S]

/-- `format!("OK {}\n", local_port)`, the acknowledgement of a host-initiated connection. -/
def ackMsg (localPort : BitVec 32) : List (BitVec 8) :=
  ("OK " ++ toString localPort.toNat ++ "\n").toList.map fun ch => BitVec.ofNat 8 ch.toNat

/-- `kill_connection`: the connection of `key`, if there is one, killed with an RST to yield; the
key goes on the RX queue unless the connection had something to say already. -/
def killConnection (m : VsockMuxer S) (key : ConnMapKey) : VsockMuxer S :=
  match m.connMap.lookup key with
  | some conn =>
    { m with connMap := m.connMap.replace key conn.kill
             rxq := if !conn.hasPendingRx then (m.rxq.push (.connRx key)).1 else m.rxq }
  | none => { m with rxq := (m.rxq.push (.connRx key)).1 }

/-- `apply_conn_mutation`: apply `mutFn` to the connection of `key`, if there is one, and bring the
queues up to date; what `mutFn` computes besides the connection is returned. `epollOk` is whether
the update of the connection's epoll listener succeeds when the connection asks for events; one
that fails kills the connection. -/
def applyConnMutation {β : Type} (m : VsockMuxer S) (key : ConnMapKey) (now : Nat) (epollOk : Bool)
    (mutFn : VsockConnection S → VsockConnection S × β) : VsockMuxer S × Option β :=
  match m.connMap.lookup key with
  | none => (m, none)
  | some conn =>
    let hadRx := conn.hasPendingRx
    let wasExpiring := conn.willExpire now
    let prevState := conn.state
    let (conn, out) := mutFn conn
    let conn :=
      if prevState = .localInit ∧ conn.state = .established then
        match conn.sendBytesRaw (ackMsg key.localPort) with
        | (conn, .ok written) => if written = (ackMsg key.localPort).length then conn else conn.kill
        | (conn, .error _) => conn.kill
      else conn
    let rxq := if !hadRx && conn.hasPendingRx then (m.rxq.push (.connRx key)).1 else m.rxq
    let killq :=
      if !wasExpiring && conn.willExpire now then
        match conn.expiry with
        | some killTime => m.killq.push key killTime
        | none => m.killq
      else m.killq
    let m := { m with connMap := m.connMap.replace key conn, rxq, killq }
    (if conn.getPolledEvset.isEmpty || epollOk then m else m.killConnection key, some out)

def removeConnection (m : VsockMuxer S) (key : ConnMapKey) : VsockMuxer S :=
  { m with connMap := m.connMap.erase key, localPortSet := m.localPortSet.erase key.localPort }

/-- The RST packet the muxer builds for an `RstPkt` entry. -/
def rstPkt (m : VsockMuxer S) (pkt : VsockPacket) (localPort peerPort : BitVec 32) : VsockPacket :=
  { pkt with
    hdr := { pkt.hdr with op := vsockOpRst, srcCid := vsockHostCid, dstCid := m.cid,
                          srcPort := localPort, dstPort := peerPort, len := 0,
                          type_ := vsockTypeStream, flags := 0, bufAlloc := 0, fwdCnt := 0 } }

/-- The closure `recv_pkt` hands to `apply_conn_mutation`: the connection's `recv_pkt`, and whether
the connection has nothing more to say (`do_pop`). -/
def connRecvPkt (pkt : VsockPacket) (now : Nat) (conn : VsockConnection S) :
    VsockConnection S × VsockPacket × Except VsockError Unit × Bool :=
  match conn.recvPkt pkt now with
  | (conn, pkt, connRes) => (conn, pkt, connRes, !conn.hasPendingRx)

/-- One iteration of `while let Some(rx) = self.rxq.peek()`, on the muxer and the packet;
`epollOk m key` is whether the epoll update for the connection of `key` succeeds. -/
def recvPktBody (now : Nat) (epollOk : VsockMuxer S → ConnMapKey → Bool) :
    VsockMuxer S × VsockPacket →
      Loop.Step (VsockMuxer S × VsockPacket) (VsockMuxer S × VsockPacket × Except VsockError Unit)
  | (m, pkt) =>
    match m.rxq.peek with
    | none => .done (m, pkt, .error .noData)
    | some (.rstPkt localPort peerPort) =>
      .done ({ m with rxq := m.rxq.pop.2 }, m.rstPkt pkt localPort peerPort, .ok ())
    | some (.connRx key) =>
      let (m, out) := m.applyConnMutation key now (epollOk m key) (connRecvPkt pkt now)
      let (pkt, connRes, doPop) := out.getD (pkt, .error .noData, true)
      let m := if doPop then { m with rxq := m.rxq.pop.2 } else m
      match connRes with
      | .ok () =>
        let m :=
          if pkt.hdr.op = vsockOpRst then m.removeConnection ⟨pkt.hdr.srcPort, pkt.hdr.dstPort⟩
          else m
        .done (m, pkt, .ok ())
      | .error _ => .next (m, pkt)

/-- The RX queue `recv_pkt` starts from: rebuilt from the connections when it is empty and out of
sync. -/
def syncRxq (m : VsockMuxer S) : VsockMuxer S :=
  if m.rxq.isEmpty && !m.rxq.synced then { m with rxq := MuxerRxQ.fromConnMap m.connMap.entries }
  else m

/-- `VsockChannel::recv_pkt` of the muxer: at most `fuel` iterations of its loop. -/
def recvPkt (m : VsockMuxer S) (pkt : VsockPacket) (now : Nat)
    (epollOk : VsockMuxer S → ConnMapKey → Bool) (fuel : Nat) :
    Option (VsockMuxer S × VsockPacket × Except VsockError Unit) :=
  Loop.run (recvPktBody now epollOk) fuel (m.syncRxq, pkt)

/-! ## The loop ends -/

omit [StreamIo S] in
theorem length_syncRxq (m : VsockMuxer S) :
    m.syncRxq.rxq.q.length ≤ m.rxq.q.length + muxerRxqSize := by
  unfold syncRxq
  split
  · exact le_trans (MuxerRxQ.length_fromConnMapLoop _ (Nat.zero_le _)) (Nat.le_add_left _ _)
  · exact Nat.le_add_right _ _

/-- An entry whose turn ends `recv_pkt`: an RST of the muxer's own, or a connection with an RST
to yield. -/
def yields (m : VsockMuxer S) : MuxerRx → Bool
  | .rstPkt _ _ => true
  | .connRx key => (m.connMap.lookup key).any fun conn => conn.pendingRx.contains .rst

omit [StreamIo S] in
theorem lookup_killConnection_of_ne {m : VsockMuxer S} {key k : ConnMapKey} (h : k ≠ key) :
    (m.killConnection key).connMap.lookup k = m.connMap.lookup k := by
  unfold killConnection
  split
  · exact AList.lookup_replace_of_ne h
  · rfl

omit [StreamIo S] in
theorem killConnection_of_lookup {m : VsockMuxer S} {key : ConnMapKey} {conn : VsockConnection S}
    (h : m.connMap.lookup key = some conn) :
    (m.killConnection key).yields (.connRx key) = true ∧
      ((m.killConnection key).rxq.q = m.rxq.q ∨
        (m.killConnection key).rxq.q = m.rxq.q ++ [.connRx key]) := by
  unfold killConnection
  rw [h]
  refine ⟨?_, ?_⟩
  · simp [yields, AList.lookup_replace_self (AList.mem_of_lookup_eq_some h), VsockConnection.kill]
  · dsimp only
    split
    · exact MuxerRxQ.push_connRx_q _ _
    · exact .inl rfl

theorem applyConnMutation_none {β : Type} {m m' : VsockMuxer S} {key : ConnMapKey} {now : Nat}
    {epollOk : Bool} {mutFn : VsockConnection S → VsockConnection S × β}
    (h : m.applyConnMutation key now epollOk mutFn = (m', none)) :
    m' = m ∧ m.connMap.lookup key = none := by
  unfold applyConnMutation at h
  split at h
  · rename_i hnone
    cases h
    exact ⟨rfl, hnone⟩
  · cases h

theorem applyConnMutation_some {β : Type} {m m' : VsockMuxer S} {key : ConnMapKey} {now : Nat}
    {epollOk : Bool} {mutFn : VsockConnection S → VsockConnection S × β} {out : β}
    (h : m.applyConnMutation key now epollOk mutFn = (m', some out)) :
    ∃ conn, m.connMap.lookup key = some conn ∧ (mutFn conn).2 = out ∧
      ((mutFn conn).1.state = conn.state → (mutFn conn).1.hasPendingRx = false →
        (∀ k, k ≠ key → m'.connMap.lookup k = m.connMap.lookup k) ∧
        (m'.rxq.q = m.rxq.q ∨ (m'.rxq.q = m.rxq.q ++ [.connRx key] ∧ m'.yields (.connRx key) = true))) := by
  unfold applyConnMutation at h
  split at h
  · cases h
  rename_i conn hconn
  rcases hmut : mutFn conn with ⟨conn', out'⟩
  rw [hmut] at h
  dsimp only at h
  simp only [Prod.mk.injEq, Option.some.injEq] at h
  obtain ⟨hm', rfl⟩ := h
  refine ⟨conn, hconn, by rw [hmut], fun hstate hrx => ?_⟩
  rw [hmut] at hstate hrx
  dsimp only at hstate hrx
  have hack : ¬(conn.state = .localInit ∧ conn'.state = .established) := by
    rintro ⟨hlocal, hest⟩
    rw [hstate, hlocal] at hest
    cases hest
  simp only [hack, if_false, hrx, Bool.and_false, Bool.false_eq_true] at hm'
  have hshape : ∃ killq, m' = { m with connMap := m.connMap.replace key conn', killq } ∨
      m' = ({ m with connMap := m.connMap.replace key conn', killq } : VsockMuxer S).killConnection key := by
    split at hm'
    · exact ⟨_, .inl hm'.symm⟩
    · exact ⟨_, .inr hm'.symm⟩
  have hmem : key ∈ m.connMap := AList.mem_of_lookup_eq_some hconn
  obtain ⟨killq, rfl | rfl⟩ := hshape
  · exact ⟨fun k hk => AList.lookup_replace_of_ne hk, .inl rfl⟩
  · refine ⟨fun k hk => (lookup_killConnection_of_ne hk).trans (AList.lookup_replace_of_ne hk), ?_⟩
    obtain ⟨hy, hq⟩ := killConnection_of_lookup (m := { m with
      connMap := m.connMap.replace key conn', killq }) (AList.lookup_replace_self hmem)
    exact hq.imp_right fun hq => ⟨hq, hy⟩

/-- **Each iteration pops the front of the RX queue, or returns.** An iteration that yields no
packet found a connection entry with no connection, or one with no RST to yield that failed with
`NoData`, which leaves it with nothing to say: the entry is popped and no other connection changes.
The one entry pushed is the same key again, when an epoll update fails and kills its connection,
which then has an RST to yield. -/
theorem recvPktBody_next {now : Nat} {epollOk : VsockMuxer S → ConnMapKey → Bool}
    {m m' : VsockMuxer S} {pkt pkt' : VsockPacket}
    (h : recvPktBody now epollOk (m, pkt) = .next (m', pkt')) :
    ∃ key rest, m.rxq.q = .connRx key :: rest ∧ m.yields (.connRx key) = false ∧
      (∀ k, k ≠ key → m'.connMap.lookup k = m.connMap.lookup k) ∧
      (m'.rxq.q = rest ∨ (m'.rxq.q = rest ++ [.connRx key] ∧ m'.yields (.connRx key) = true)) := by
  simp only [recvPktBody] at h
  split at h
  · cases h
  · cases h
  rename_i key hpeek
  obtain ⟨rest, hq⟩ : ∃ rest, m.rxq.q = .connRx key :: rest := by
    rcases hq : m.rxq.q with _ | ⟨e, rest⟩
    · rw [MuxerRxQ.peek, hq] at hpeek
      cases hpeek
    · rw [MuxerRxQ.peek, hq, List.head?_cons, Option.some.injEq] at hpeek
      exact ⟨rest, by rw [hpeek]⟩
  refine ⟨key, rest, hq, ?_⟩
  rcases happ : m.applyConnMutation key now (epollOk m key) (connRecvPkt pkt now) with ⟨m₁, out⟩
  rw [happ] at h
  dsimp only at h
  cases out with
  | none =>
    obtain ⟨rfl, hnone⟩ := applyConnMutation_none happ
    cases h
    exact ⟨by simp [yields, hnone], fun _ _ => rfl, .inl (by simp [MuxerRxQ.pop, hq])⟩
  | some r =>
    obtain ⟨pkt₁, connRes, doPop⟩ := r
    obtain ⟨conn, hconn, hout, hmut⟩ := applyConnMutation_some happ
    rcases hrecv : conn.recvPkt pkt now with ⟨conn', pkt₂, res⟩
    simp only [connRecvPkt, hrecv] at hout hmut
    simp only [Prod.mk.injEq] at hout
    obtain ⟨rfl, rfl, rfl⟩ := hout
    cases res with
    | ok u => cases h
    | error e =>
      obtain ⟨-, hrx, hstate⟩ := conn.recvPkt_error hrecv
      have hnorst : conn.pendingRx.contains .rst = false := conn.contains_rst_of_recvPkt_error hrecv
      obtain ⟨hother, hq₁⟩ := hmut hstate hrx
      rw [hrx] at h
      cases h
      refine ⟨by simp [yields, hconn, hnorst], hother, ?_⟩
      rcases hq₁ with hq₁ | ⟨hq₁, hy⟩
      · exact .inl (by simp [MuxerRxQ.pop, hq₁, hq])
      · exact .inr ⟨by simp [MuxerRxQ.pop, hq₁, hq], hy⟩

/-- **`recv_pkt` terminates.** From every muxer state, whichever epoll updates fail, the loop
returns within one iteration more than the entries of the RX queue it starts from: at most the
queue it was given and a rebuilt one. The measure is the position of the first entry that ends
the loop: each iteration that goes on pops the front, and pushes at most an entry that ends it. -/
theorem recvPkt_terminates (m : VsockMuxer S) (pkt : VsockPacket) (now : Nat)
    (epollOk : VsockMuxer S → ConnMapKey → Bool) :
    ∃ r, m.recvPkt pkt now epollOk (m.rxq.q.length + muxerRxqSize + 1) = some r := by
  have hstep : ∀ s s' : VsockMuxer S × VsockPacket, True → recvPktBody now epollOk s = .next s' →
      True ∧ s'.1.rxq.q.findIdx s'.1.yields < s.1.rxq.q.findIdx s.1.yields := by
    rintro ⟨m₁, pkt₁⟩ ⟨m₂, pkt₂⟩ - hnext
    obtain ⟨key, rest, hq, hfront, hother, hq'⟩ := recvPktBody_next hnext
    refine ⟨trivial, ?_⟩
    show m₂.rxq.q.findIdx m₂.yields < m₁.rxq.q.findIdx m₁.yields
    rw [hq]
    refine Loop.findIdx_lt_of_pop hfront (fun y _ hy => ?_) ?_
    · cases y with
      | rstPkt _ _ => rfl
      | connRx k =>
        have hk : k ≠ key := by
          rintro rfl
          rw [hfront] at hy
          cases hy
        simpa [yields, hother k hk] using hy
    · rcases hq' with hq' | ⟨hq', hy⟩
      · exact .inl hq'
      · exact .inr ⟨_, hy, hq'⟩
  have hμ : (m.syncRxq, pkt).1.rxq.q.findIdx (m.syncRxq, pkt).1.yields <
      m.rxq.q.length + muxerRxqSize + 1 :=
    Nat.lt_succ_of_le (List.findIdx_le_length.trans (length_syncRxq m))
  obtain ⟨r, hr⟩ := Loop.run_of_measure_lt (fun s : VsockMuxer S × VsockPacket =>
    s.1.rxq.q.findIdx s.1.yields) hstep _ (m.syncRxq, pkt) trivial hμ
  exact ⟨r, hr⟩

end VsockMuxer

end Vsock
end Firecracker
