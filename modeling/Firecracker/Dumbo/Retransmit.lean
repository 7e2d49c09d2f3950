import Firecracker.Dumbo.Response

/-!
# Firecracker.Dumbo.Retransmit

An MMDS `Endpoint` never retransmits response bytes. After a duplicate ACK, or when the
retransmission timer expires, `Connection::write_next_segment` sends again from
`highest_ack_received`. It takes the bytes from the payload source it is handed, whose first byte
must lie at or before that sequence number. The endpoint hands it the response from
`response_seq` on, and `response_seq` is `first_not_sent`, past every unacknowledged byte. So the
connection fails with `PayloadMissingSeq`, the endpoint writes nothing, and the condition that
asked for the retransmission stays: the duplicate ACK stays pending, and a timeout counts toward
`rto_count_max` without restarting the timer.
-/

namespace Firecracker
namespace Dumbo

namespace Connection

variable {c : Connection} {bufLen : Nat} {mssReserved : BitVec 16} {now : BitVec 64}

theorem seqToSend_retransmit (hunacked : c.highestAckReceived ≠ c.firstNotSent)
    (hnofin : c.sendFin = none)
    (hretx : (c.dupAck = true ∧ c.rtoExpired now = false) ∨
      (c.rtoExpired now = true ∧ c.rtoCount + 1 < c.rtoCountMax)) :
    c.seqToSend bufLen mssReserved now =
      .inr ({ c with
        rtoCount := if c.rtoExpired now then c.rtoCount + 1 else c.rtoCount },
        c.highestAckReceived, c.rtoExpired now) := by
  unfold seqToSend
  rcases hretx with ⟨hdup, hexp⟩ | ⟨hexp, hcount⟩
  · rw [if_neg (by simp [hexp]), if_pos hdup, hexp]
    rfl
  · rw [if_pos (by simp [hunacked, hexp])]
    dsimp only
    rw [if_neg (by simpa using hcount), if_neg (by simp [hnofin]), hexp]
    rfl

theorem writeNextSegment_payloadMissingSeq (hreset : c.isReset = false)
    (hrst : c.sendRst = none) (hest : c.isEstablished = true) (hsynack : c.synackSent = true)
    {readBuf : List (BitVec 8)} {payloadSeq : BitVec 32}
    (hlen : readBuf.length ≤ maxWindowSize.toNat) {c₁ : Connection} {sts : BitVec 32}
    {rto : Bool} (hsts : c.seqToSend bufLen mssReserved now = .inr (c₁, sts, rto))
    (hmiss : seqAtOrAfter sts payloadSeq = false) :
    c.writeNextSegment bufLen mssReserved (some (readBuf, payloadSeq)) now =
      (c₁, .error .payloadMissingSeq) := by
  have hpending : c.synackPending = false := by
    simp [synackPending, hsynack]
  unfold writeNextSegment
  simp only [hreset, hrst, Option.isSome_none, hpending, hest, Bool.not_true,
    Bool.false_eq_true, if_false]
  rw [if_neg (by omega), hsts]
  simp [sendData, hmiss]

end Connection

namespace Endpoint

open Connection

variable {e : Endpoint} {bufLen : Nat} {mssReserved : BitVec 16} {now : BitVec 64}

theorem writeNextSegment_of_error {payloadSrc : PayloadSource}
    (hsrc : e.payloadSource = some payloadSrc) {c' : Connection} {err : WriteNextError}
    (hw : e.connection.writeNextSegment bufLen mssReserved payloadSrc now = (c', .error err)) :
    e.writeNextSegment bufLen mssReserved now = some ({ e with connection := c' }, none) := by
  unfold Endpoint.writeNextSegment
  rw [hsrc]
  dsimp only [Option.bind_some, bind, Option.bind]
  rw [hw]

/-- **Retransmissions of a response fail.** In every reachable state of an endpoint whose
responses are at most `MAX_WINDOW_SIZE` bytes long: when the connection is established, has
unacknowledged response bytes and no `FIN` of ours, and a duplicate ACK is pending or the
retransmission timer expired without reaching `rto_count_max`, then the connection's
`write_next_segment` on the response from `response_seq` fails with `PayloadMissingSeq`, and
`Endpoint::write_next_segment` writes nothing. The connection only counts the timeout, if there
was one: the duplicate ACK stays pending and the timer is not restarted, so the next write fails
the same way. -/
theorem retransmission_fails {respond : List (BitVec 8) → List (BitVec 8)}
    (hrespond : ∀ request, (respond request).length ≤ maxWindowSize.toNat)
    (hreach : Run.Reachable (step respond) Created e) (hreset : e.connection.isReset = false)
    (hrst : e.connection.sendRst = none) (hest : e.connection.isEstablished = true)
    (hresp : e.responseBuf ≠ [])
    (hunacked : e.connection.highestAckReceived ≠ e.connection.firstNotSent)
    (hnofin : e.connection.sendFin = none)
    (hretx : (e.connection.dupAck = true ∧ e.connection.rtoExpired now = false) ∨
      (e.connection.rtoExpired now = true ∧
        e.connection.rtoCount + 1 < e.connection.rtoCountMax))
    (bufLen : Nat) (mssReserved : BitVec 16) :
    let c' : Connection := { e.connection with
      rtoCount :=
        if e.connection.rtoExpired now then e.connection.rtoCount + 1
        else e.connection.rtoCount }
    e.connection.writeNextSegment bufLen mssReserved
        (some (e.responseBuf.drop e.responseOffset, e.responseSeq)) now =
      (c', .error .payloadMissingSeq) ∧
    e.writeNextSegment bufLen mssReserved now = some ({ e with connection := c' }, none) := by
  intro c'
  have hinv := reachable_inv hrespond hreach
  have hsrc : e.payloadSource = some (some (e.responseBuf.drop e.responseOffset, e.responseSeq)) := by
    rw [payloadSource_eq hinv, if_neg (by simpa using hresp)]
  have hmiss : seqAtOrAfter e.connection.highestAckReceived e.responseSeq = false := by
    rw [hinv.responseSeq_eq hnofin]
    cases hge : seqAtOrAfter e.connection.highestAckReceived e.connection.firstNotSent
    · rfl
    · exact absurd (hinv.send.eq_of_seqAtOrAfter hge) hunacked
  have hlen : (e.responseBuf.drop e.responseOffset).length ≤ maxWindowSize.toNat := by
    have := hinv.response_le
    simp only [List.length_drop]
    omega
  have hwrite : e.connection.writeNextSegment bufLen mssReserved
      (some (e.responseBuf.drop e.responseOffset, e.responseSeq)) now =
      (c', .error .payloadMissingSeq) :=
    writeNextSegment_payloadMissingSeq hreset hrst hest (hinv.send.established_synackSent hest)
      hlen (seqToSend_retransmit hunacked hnofin hretx) hmiss
  exact ⟨hwrite, writeNextSegment_of_error hsrc hwrite⟩

/-- The endpoint of an MMDS connection after a passive open (initial sequence number 100), the
`SYNACK`, a request `GET\n\n`, the two bytes of its response, and a duplicate ACK for the
`SYNACK`'s sequence number. -/
theorem retransmission_fails_afterDupAck :
    let e : Endpoint :=
      { receiveBuf := [], responseBuf := [79, 75], initialResponseSeq := 101, responseSeq := 103,
        connection :=
          { ackToSend := 6, highestAckReceived := 101, firstNotSent := 103, localRwndEdge := 2506,
            remoteRwndEdge := 1101, rtoStart := 3, rtoPeriod := 1200000000, rtoCount := 0,
            rtoCountMax := 15, finReceived := none, sendFin := none, sendRst := none, mss := 536,
            pendingAck := false, dupAck := true,
            statusFlags := ⟨true, true, true, false, false, false⟩ },
        lastSegmentReceivedTimestamp := 4, evictionThreshold := 40000000000,
        stopReceiving := false }
    let c' : Connection := { e.connection with
      rtoCount :=
        if e.connection.rtoExpired 5 then e.connection.rtoCount + 1 else e.connection.rtoCount }
    e.connection.writeNextSegment 1500 0 (some (e.responseBuf.drop e.responseOffset, e.responseSeq))
        5 = (c', .error .payloadMissingSeq) ∧
    e.writeNextSegment 1500 0 5 = some ({ e with connection := c' }, none) := by
  intro e c'
  have hreach : Run.Reachable (step fun _ => [79, 75]) Created e :=
    (Run.Reachable.init
      ⟨⟨0, 0, TcpFlags.syn, 1000, .ok none, []⟩, ⟨evictionThresholdDefault, by decide⟩,
        ⟨connectionRtoPeriod, by decide⟩, ⟨connectionRtoCountMax, by decide⟩, 100, 0, rfl⟩).run
      [.writeNextSegment 1500 0 1,
        .receiveSegment ⟨1, 101, TcpFlags.ack, 1000, .ok none, [71, 69, 84, 10, 10]⟩ 2,
        .writeNextSegment 1500 0 3, .receiveSegment ⟨6, 101, TcpFlags.ack, 1000, .ok none, []⟩ 4]
      rfl
  exact retransmission_fails (fun _ => by decide) hreach rfl rfl rfl (by decide) (by decide) rfl
    (.inl ⟨rfl, by decide⟩) 1500 0

/-- **A retransmission that does not go out.** MMDS opens a connection with defaults on a `SYN`
(initial sequence number 100), sends the `SYNACK`, receives the request `GET\n\n` with the ACK,
sends the two bytes of the response, then receives a duplicate ACK for 101. The connection is
established with bytes 101 and 102 unacknowledged and a duplicate ACK pending, yet the next
`write_next_segment` fails with `PayloadMissingSeq` and the endpoint writes nothing. -/
theorem retransmission_counterexample :
    let syn : TcpSegment := ⟨0, 0, TcpFlags.syn, 1000, .ok none, []⟩
    let ops : List EndpointOp :=
      [.writeNextSegment 1500 0 1,
        .receiveSegment ⟨1, 101, TcpFlags.ack, 1000, .ok none, [71, 69, 84, 10, 10]⟩ 2,
        .writeNextSegment 1500 0 3, .receiveSegment ⟨6, 101, TcpFlags.ack, 1000, .ok none, []⟩ 4]
    ∃ e, newWithDefaults syn 100 0 = .ok e ∧
      (Run.run (step fun _ => [79, 75]) e ops).map (fun e' =>
        (e'.connection.isEstablished, e'.connection.highestAckReceived,
          e'.connection.firstNotSent, e'.connection.dupAck,
          e'.payloadSource.map fun src => (e'.connection.writeNextSegment 1500 0 src 5).2,
          (e'.writeNextSegment 1500 0 5).map Prod.snd)) =
        some (true, 101, 103, true, some (.error .payloadMissingSeq), some none) :=
  ⟨_, rfl, rfl⟩

end Endpoint

end Dumbo
end Firecracker
