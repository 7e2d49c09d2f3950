import Firecracker.Dumbo.Response

/-!
# Firecracker.Dumbo.Payload

Which bytes a data segment of `write_next_segment` carries. The caller passes a payload source
`(B, p)`: the bytes `B`, the first of which has sequence number `p`. The connection picks
`seq_to_send` (`first_not_sent`, or `highest_ack_received` for a retransmission), checks that it
lies at or after `p`, and bounds the segment by the end of `B`, the edge of the remote window and
our `FIN`. `write_incomplete_segment` then copies the payload from offset `0` of `B`, not from
offset `seq_to_send - p`: a segment that starts past `p` carries the first bytes of `B` under the
sequence numbers of later ones.

The length bounds hold: the payload fits in `mss - mss_reserved`, and it ends at or before the
edge of the remote window.
-/

namespace Firecracker
namespace Dumbo

open Wrapping

namespace Connection

variable {c : Connection} {bufLen : Nat} {mssReserved : BitVec 16} {now : BitVec 64}

theorem writeSegment_data {seq ack : BitVec 32} {flags : BitVec 8} {buf : List (BitVec 8)}
    {n : Nat} {c' : Connection} {seg : OutSegment}
    (h : c.writeSegment bufLen mssReserved seq ack flags (some (buf, n)) = (c', .ok seg)) :
    seg.sequenceNumber = seq ∧ seg.payload.length ≤ (c.mss - mssReserved).toNat := by
  unfold writeSegment at h
  dsimp only at h
  split at h
  · cases h
  · split at h
    next e hw => cases h
    next seg' hw =>
      cases h
      exact ⟨(writeIncompleteSegment_ok hw).1, writeIncompleteSegment_payload_le hw⟩

theorem sendData_segment {readBuf : List (BitVec 8)} {payloadSeq sts : BitVec 32} {rto : Bool}
    {ret : Connection × WriteResult} {seg : OutSegment}
    (h : c.sendData bufLen mssReserved readBuf payloadSeq now sts rto = .inl ret)
    (hret : ret.2 = .ok (some seg)) :
    seg.sequenceNumber = sts ∧ seqAtOrAfter sts payloadSeq = true ∧ seg.payload <+: readBuf ∧
      seg.payload.length ≤ (c.mss - mssReserved).toNat ∧
      seqAfter (sts + BitVec.ofNat 32 seg.payload.length) c.remoteRwndEdge = false := by
  rcases sendData_inl_cases h with
    ⟨e, rfl⟩ | ⟨hseq, -, hafter, c', res, hw, ⟨e, rfl, rfl⟩ | ⟨seg₀, rfl, rfl⟩⟩
  · cases hret
  · cases hret
  obtain ⟨seg', hseg', hpay, hnum⟩ := afterDataSegment_snd c' seg₀ sts rto now
  rw [hseg'] at hret
  cases hret
  obtain ⟨hpre, -, hle⟩ := writeSegment_payload hw
  obtain ⟨hseqn, hmss⟩ := writeSegment_data hw
  refine ⟨hnum.trans hseqn, hseq, hpay ▸ hpre, hpay ▸ hmss, ?_⟩
  rw [hpay]
  have hedge := dist_actualEnd_lt (c := c) (payloadSeq + BitVec.ofNat 32 readBuf.length)
  generalize c.actualEnd (payloadSeq + BitVec.ofNat 32 readBuf.length) = actualEnd at *
  have hle' : seg₀.payload.length ≤ dist sts actualEnd := hle
  have hend := (seqAfter_iff.mp hafter).2
  have hrest := dist_add_left hle'
  exact seqAfter_eq_false_of_dist (a := actualEnd) (by omega) hedge

theorem writeNextSegment_data {readBuf : List (BitVec 8)} {payloadSeq : BitVec 32}
    {seg : OutSegment}
    (h : (c.writeNextSegment bufLen mssReserved (some (readBuf, payloadSeq)) now).2 =
      .ok (some seg))
    (hpos : 0 < seg.payload.length) :
    ∃ c₁ : Connection, ∃ sts rto, c₁.mss = c.mss ∧ c₁.remoteRwndEdge = c.remoteRwndEdge ∧
      c₁.sendData bufLen mssReserved readBuf payloadSeq now sts rto =
        .inl (c.writeNextSegment bufLen mssReserved (some (readBuf, payloadSeq)) now) := by
  have hlen : writtenLen (c.writeNextSegment bufLen mssReserved (some (readBuf, payloadSeq))
      now).2 ≠ 0 := by
    rw [h]
    exact Nat.pos_iff_ne_zero.mp hpos
  rcases writeNextSegment_cases c bufLen mssReserved (some (readBuf, payloadSeq)) now with
    ⟨-, hzero⟩ | ⟨c₁, -, heq⟩ | ⟨readBuf', payloadSeq', c₁, sts, rto, hsrc, hframe, hmss, -, hd⟩
  · exact absurd hzero hlen
  · rw [heq] at hlen
    exact absurd writtenLen_writePendingControl hlen
  · cases hsrc
    exact ⟨c₁, sts, rto, hmss, congrArg SendState.remoteRwndEdge hframe, hd⟩

/-- **Which bytes a data segment carries.** For every connection and every payload source
`(B, p)`, a segment with payload that `write_next_segment` returns starts at or after `p`, its
payload fits in `mss - mss_reserved` and ends at or before the edge of the remote window; and the
payload is the first bytes of `B`, whatever sequence number the segment starts at. -/
theorem writeNextSegment_dataSegment {readBuf : List (BitVec 8)} {payloadSeq : BitVec 32}
    {seg : OutSegment}
    (h : (c.writeNextSegment bufLen mssReserved (some (readBuf, payloadSeq)) now).2 =
      .ok (some seg))
    (hpos : 0 < seg.payload.length) :
    seg.payload = readBuf.take seg.payload.length ∧
      seqAtOrAfter seg.sequenceNumber payloadSeq = true ∧
      seg.payload.length ≤ (c.mss - mssReserved).toNat ∧
      seqAfter (seg.sequenceNumber + BitVec.ofNat 32 seg.payload.length) c.remoteRwndEdge =
        false := by
  obtain ⟨c₁, sts, rto, hmss, hedge, hd⟩ := writeNextSegment_data h hpos
  obtain ⟨hseqn, hseq, hpre, hle, hwin⟩ := sendData_segment hd h
  rw [hmss, hedge] at *
  subst hseqn
  exact ⟨List.prefix_iff_eq_take.mp hpre, hseq, hle, hwin⟩

/-- The second data segment of an established connection whose caller passes the same payload
source `([1, 2, 3, 4], 8)` twice, into a buffer with room for two payload bytes: it starts at
sequence number `10` and carries the bytes `1, 2`. -/
theorem writeNextSegment_dataSegment_secondWrite :
    let c : Connection :=
      { ackToSend := 101, highestAckReceived := 8, firstNotSent := 10, localRwndEdge := 2601,
        remoteRwndEdge := 1008, rtoStart := 3, rtoPeriod := 1200, rtoCount := 0,
        rtoCountMax := 15, finReceived := none, sendFin := none, sendRst := none, mss := 536,
        pendingAck := false, dupAck := false,
        statusFlags := ⟨true, true, true, false, false, false⟩ }
    let seg : OutSegment :=
      { sequenceNumber := 10, ackNumber := 101, headerLen := 20, flagsAfterNs := TcpFlags.ack,
        windowSize := 2500, mssOption := none, payload := [1, 2] }
    (c.writeNextSegment 22 0 (some ([1, 2, 3, 4], 8)) 4).2 = .ok (some seg) ∧
      0 < seg.payload.length ∧
      (seg.payload = [1, 2, 3, 4].take seg.payload.length ∧
        seqAtOrAfter seg.sequenceNumber 8 = true ∧
        seg.payload.length ≤ (c.mss - 0).toNat ∧
        seqAfter (seg.sequenceNumber + BitVec.ofNat 32 seg.payload.length) c.remoteRwndEdge =
          false) := by
  intro c seg
  have hw : (c.writeNextSegment 22 0 (some ([1, 2, 3, 4], 8)) 4).2 = .ok (some seg) := by
    decide
  exact ⟨hw, by decide, writeNextSegment_dataSegment hw (by decide)⟩

/-- **A segment with the wrong bytes.** `passive_open` on a `SYN` (sequence number 100, window
1000, initial sequence number 7), the `SYNACK`, the ACK that establishes the connection, then two
calls of `write_next_segment` with the payload source `([1, 2, 3, 4], 8)` into a buffer with room
for two payload bytes. The first sends bytes `8, 9` with `1, 2`; the second starts at
`seq_to_send = 10` and again carries `1, 2`, where the source holds `3, 4` for `10, 11`. -/
theorem dataSegment_offset_counterexample :
    let syn : TcpSegment := ⟨100, 0, TcpFlags.syn, 1000, .ok none, []⟩
    let src : PayloadSource := some ([1, 2, 3, 4], 8)
    let ops : List ConnOp :=
      [.writeNextSegment 1500 0 none 1,
        .receiveSegment ⟨101, 8, TcpFlags.ack, 1000, .ok none, []⟩ 1500 2,
        .writeNextSegment 22 0 src 3]
    ∃ c, passiveOpen syn 2500 ⟨1200, by decide⟩ ⟨15, by decide⟩ 7 = .ok c ∧
      (Run.run step c ops).map (fun c' =>
        (c'.isEstablished, (c'.writeNextSegment 22 0 src 4).2.map fun seg =>
          seg.map fun seg => (seg.sequenceNumber, seg.payload,
            ([1, 2, 3, 4].drop (seg.sequenceNumber - 8).toNat).take seg.payload.length))) =
        some (true, .ok (some (10, [1, 2], [3, 4]))) :=
  ⟨_, rfl, rfl⟩

end Connection

end Dumbo
end Firecracker
