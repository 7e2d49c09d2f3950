import Firecracker.Dumbo.Connection
import Firecracker.Lib.Run

/-!
# Firecracker.Dumbo.RecvWindow

The receive window of a `Connection` can be overrun by one sequence number. `receive_segment`
accepts data only up to `local_rwnd_edge`, but accepts a `FIN` at `ack_to_send` with no window
check, and acknowledges it by advancing `ack_to_send` by one. When the window is full
(`local_rwnd_edge = ack_to_send`, for instance after a segment whose data fills it exactly) an
accepted `FIN` leaves `ack_to_send` one past `local_rwnd_edge`: `local_rwnd_edge - ack_to_send`
wraps to `2^32 - 1`, and `local_rwnd` advertises the largest window a segment can carry.
-/

namespace Firecracker
namespace Dumbo
namespace Connection

/-- A `FIN` at `ack_to_send`, on an established connection whose receive window is full, moves
`ack_to_send` past the window's edge: the window the connection then measures is `2^32 - 1`, and
the one it advertises is `u16::MAX`. -/
theorem receiveSegment_finAtFullWindow {c : Connection} (hrst : c.sendRst = none)
    (hreset : c.isReset = false) (hsyn : c.synackSent = true) (hest : c.isEstablished = true)
    (hnofin : c.finReceived = none) (hfull : c.localRwndEdge = c.ackToSend) {s : TcpSegment}
    (hflags : s.flagsAfterNs = TcpFlags.fin) (hseq : s.sequenceNumber = c.ackToSend)
    (hpay : s.payload = []) (bufLen : Nat) (now : BitVec 64) :
    let r := c.receiveSegment s bufLen now
    r.2 = .ok (none, 0) ∧ r.1.ackToSend = c.localRwndEdge + 1 ∧
      r.1.localRwndEdge = c.localRwndEdge ∧
      (r.1.localRwndEdge - r.1.ackToSend).toNat = 2 ^ 32 - 1 ∧ r.1.localRwnd = 0xffff := by
  have hpass : c.receiveSegment s bufLen now =
      ({ c with
          finReceived := some c.ackToSend
          ackToSend := c.ackToSend + 1
          pendingAck := true }, .ok (none, 0)) := by
    simp [receiveSegment, rstPending, hrst, hreset, TcpFlags.intersects, hflags, TcpFlags.fin,
      TcpFlags.rst, receiveHandshake, hsyn, hest, TcpFlags.syn, receiveAck, TcpFlags.ack,
      receivePayload, hpay, receiveData, receiveFin, isFinReceived, hnofin, hseq, enqueueAck]
  have hwrap : (c.localRwndEdge - (c.ackToSend + 1)).toNat = 2 ^ 32 - 1 := by
    rw [hfull]
    simp
  dsimp only
  rw [hpass]
  refine ⟨rfl, by rw [hfull], rfl, hwrap, ?_⟩
  simp only [localRwnd]
  rw [if_pos (by rw [gt_iff_lt, BitVec.lt_def, hwrap]; decide)]

/-- The connection of the witness: established, window full, no `FIN` received. -/
theorem receiveSegment_finAtFullWindow_full :
    let c : Connection :=
      { ackToSend := 2501, highestAckReceived := 1, firstNotSent := 1, localRwndEdge := 2501,
        remoteRwndEdge := 1001, rtoStart := 1, rtoPeriod := 1200, rtoCount := 0, rtoCountMax := 15,
        finReceived := none, sendFin := none, sendRst := none, mss := 536, pendingAck := true,
        dupAck := false, statusFlags := ⟨true, true, true, false, false, false⟩ }
    let s : TcpSegment := ⟨2501, 0, TcpFlags.fin, 1000, .ok none, []⟩
    let r := c.receiveSegment s 2500 2
    r.2 = .ok (none, 0) ∧ r.1.ackToSend = c.localRwndEdge + 1 ∧
      r.1.localRwndEdge = c.localRwndEdge ∧
      (r.1.localRwndEdge - r.1.ackToSend).toNat = 2 ^ 32 - 1 ∧ r.1.localRwnd = 0xffff :=
  receiveSegment_finAtFullWindow rfl rfl rfl rfl rfl rfl rfl rfl rfl 2500 2

/-- **A run that overruns the receive window.** A passive open with a receive window of 2500
bytes (the size MMDS uses), the `SYNACK`, the ACK that establishes the connection, then one
segment with 2500 bytes of data and the `FIN`: afterwards `local_rwnd_edge - ack_to_send` is
`2^32 - 1`, past `MAX_WINDOW_SIZE`, and the connection advertises a window of 65535 bytes. -/
theorem finAtFullWindow_counterexample :
    let syn : TcpSegment := ⟨0, 0, TcpFlags.syn, 1000, .ok none, []⟩
    let ops : List ConnOp :=
      [.writeNextSegment 100 0 none 0,
        .receiveSegment ⟨1, 1, TcpFlags.ack, 1000, .ok none, []⟩ 2500 1,
        .receiveSegment ⟨1, 1, TcpFlags.ack ||| TcpFlags.fin, 1000, .ok none,
          List.replicate 2500 0x41⟩ 2500 2]
    ∃ c, passiveOpen syn 2500 ⟨1200, by decide⟩ ⟨15, by decide⟩ 0 = .ok c ∧
      (Run.run step c ops).map (fun c' => ((c'.localRwndEdge - c'.ackToSend).toNat,
        c'.localRwnd)) = some (2 ^ 32 - 1, 0xffff) ∧
      maxWindowSize.toNat < 2 ^ 32 - 1 :=
  ⟨_, rfl, by decide +kernel, by decide⟩

end Connection
end Dumbo
end Firecracker
