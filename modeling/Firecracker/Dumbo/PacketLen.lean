import Firecracker.Dumbo.HandlerMaps

/-!
# Firecracker.Dumbo.PacketLen

What the handler writes fits in the buffer it writes into. Every segment a connection writes comes
out of `write_incomplete_segment` into the same buffer, so its header and payload fit in it
(`Connection.writeNextSegment_fits`); the handler writes the IPv4 header in front, so every
packet `write_next_packet` reports is at most as long as its buffer
(`TcpIPv4Handler.writeNextPacket_len_le`). The `with_payload_len_unchecked` that follows, which
would panic on a longer packet, never does.

The handler also never changes its own address: only `set_local_ipv4_addr` does
(`TcpIPv4Handler.step_localIpv4Addr`).
-/

namespace Firecracker
namespace Dumbo

theorem writeIncompleteSegment_len_le {bufLen : Nat} {seqNumber ackNumber : BitVec 32}
    {flagsAfterNs : BitVec 8} {windowSize : BitVec 16} {mssOption : Option (BitVec 16)}
    {mssRemaining : BitVec 16} {payload : Option (List (BitVec 8) × Nat)} {seg : OutSegment}
    (h : writeIncompleteSegment bufLen seqNumber ackNumber flagsAfterNs windowSize mssOption
      mssRemaining payload = .ok seg) :
    seg.headerLen + seg.payload.length ≤ bufLen := by
  unfold writeIncompleteSegment at h
  split at h
  · contradiction
  dsimp only at h
  generalize (if mssOption.isSome = true then optionLenMss else 0) = optionsLen at h
  split at h
  · contradiction
  rename_i hfits
  rcases payload with _ | ⟨payloadBuf, maxPayloadBytes⟩
  · cases h
    simp only [List.length_nil]
    omega
  · dsimp only at h
    split at h
    · contradiction
    · cases h
      simp only [List.length_take]
      omega

namespace Connection

variable {c : Connection} {bufLen : Nat} {mssReserved : BitVec 16}

/-- A result of `write_next_segment` whose segment, if any, fits in `bufLen` bytes. -/
def Fits (bufLen : Nat) (r : WriteResult) : Prop :=
  ∀ seg, r = .ok (some seg) → seg.headerLen + seg.payload.length ≤ bufLen

theorem Fits.of_error {e : WriteNextError} : Fits bufLen (.error e) := fun _ h => by cases h

theorem Fits.of_none : Fits bufLen (.ok none) := fun _ h => by cases h

theorem writeSegment_len_le {seq ack : BitVec 32} {flags : BitVec 8}
    {payload : Option (List (BitVec 8) × Nat)} {seg : OutSegment}
    (h : (c.writeSegment bufLen mssReserved seq ack flags payload).2 = .ok seg) :
    seg.headerLen + seg.payload.length ≤ bufLen := by
  unfold writeSegment at h
  dsimp only at h
  generalize (if flags = TcpFlags.syn ||| TcpFlags.ack then some c.mss else none) = mssOption at h
  split at h
  · simp at h
  split at h
  · simp at h
  · rename_i segment hw
    have hseg : segment = seg := by simpa using h
    subst hseg
    exact writeIncompleteSegment_len_le hw

theorem writeControlSegment_len_le {seg : OutSegment}
    (h : (c.writeControlSegment bufLen mssReserved).2 = .ok seg) :
    seg.headerLen + seg.payload.length ≤ bufLen :=
  writeSegment_len_le h

theorem writeRst_fits : Fits bufLen (c.writeRst bufLen mssReserved).2 := by
  intro seg hseg
  unfold writeRst at hseg
  split at hseg
  · simp at hseg
  · rename_i segment hw
    simp only [Except.ok.injEq, Option.some.injEq] at hseg
    subst hseg
    exact writeControlSegment_len_le (by rw [hw])

theorem retransmitControl_fits (now : BitVec 64) :
    Fits bufLen (c.retransmitControl bufLen mssReserved now).2 := by
  intro seg hseg
  unfold retransmitControl at hseg
  split at hseg
  · simp at hseg
  · rename_i segment hw
    simp only [Except.ok.injEq, Option.some.injEq] at hseg
    subst hseg
    exact writeControlSegment_len_le (by rw [hw])

theorem afterDataSegment_fits {segment : OutSegment} {seqToSend : BitVec 32} {rtoTriggered : Bool}
    {now : BitVec 64} (h : segment.headerLen + segment.payload.length ≤ bufLen) :
    Fits bufLen (c.afterDataSegment segment seqToSend rtoTriggered now).2 := by
  intro seg hseg
  unfold afterDataSegment at hseg
  simp only [Except.ok.injEq, Option.some.injEq] at hseg
  subst hseg
  split <;> exact h

theorem sendData_fits {readBuf : List (BitVec 8)} {seqToSend payloadSeq : BitVec 32}
    {now : BitVec 64} {rtoTriggered : Bool} {ret : Connection × WriteResult}
    (h : c.sendData bufLen mssReserved readBuf payloadSeq now seqToSend rtoTriggered = .inl ret) :
    Fits bufLen ret.2 := by
  unfold sendData at h
  dsimp only at h
  split at h
  · cases h
    exact Fits.of_error
  split at h
  · cases h
    exact Fits.of_error
  split at h
  · split at h
    · cases h
      exact Fits.of_error
    · rename_i c' segment hw
      cases h
      exact afterDataSegment_fits (writeSegment_len_le (by rw [hw]))
  · cases h

theorem writePendingControl_fits : Fits bufLen (c.writePendingControl bufLen mssReserved).2 := by
  intro seg hseg
  unfold writePendingControl at hseg
  dsimp only at hseg
  split at hseg
  · split at hseg
    · simp at hseg
    · rename_i segment hw
      simp only [Except.ok.injEq, Option.some.injEq] at hseg
      subst hseg
      exact writeControlSegment_len_le (by rw [hw])
  · simp at hseg

theorem seqToSend_fits {now : BitVec 64} {ret : Connection × WriteResult}
    (h : c.seqToSend bufLen mssReserved now = .inl ret) : Fits bufLen ret.2 := by
  unfold seqToSend at h
  split at h
  · dsimp only at h
    split at h
    · cases h
      exact writeRst_fits
    split at h
    · cases h
      exact retransmitControl_fits now
    · cases h
  split at h <;> cases h

/-- **Every segment `write_next_segment` writes fits in the buffer**, on every path. -/
theorem writeNextSegment_fits (payloadSrc : PayloadSource) (now : BitVec 64) :
    Fits bufLen (c.writeNextSegment bufLen mssReserved payloadSrc now).2 := by
  unfold writeNextSegment
  split
  · exact Fits.of_error
  split
  · exact writeRst_fits
  split
  · intro seg hseg
    split at hseg
    · simp at hseg
    · rename_i segment hw
      simp only [Except.ok.injEq, Option.some.injEq] at hseg
      subst hseg
      exact writeControlSegment_len_le (by rw [hw])
  split
  · dsimp only
    split
    · split
      · exact writeRst_fits
      · exact retransmitControl_fits now
    · exact Fits.of_none
  split
  · split
    · exact Fits.of_error
    · split
      next ret hs => exact seqToSend_fits hs
      next c₁ sts rto hs =>
        split
        next ret hd => exact sendData_fits hd
        next c₂ hd => exact writePendingControl_fits
  · exact writePendingControl_fits

end Connection

namespace Endpoint

theorem writeNextSegment_len_le {e e' : Endpoint} {bufLen : Nat} {mssReserved : BitVec 16}
    {now : BitVec 64} {seg : OutSegment}
    (h : e.writeNextSegment bufLen mssReserved now = some (e', some seg)) :
    seg.headerLen + seg.payload.length ≤ bufLen := by
  unfold writeNextSegment at h
  cases hsrc : e.payloadSource with
  | none =>
    rw [hsrc] at h
    cases h
  | some payloadSrc =>
    rw [hsrc] at h
    dsimp only [bind, Option.bind] at h
    have hfits : Connection.Fits bufLen
        (e.connection.writeNextSegment bufLen mssReserved payloadSrc now).2 :=
      Connection.writeNextSegment_fits payloadSrc now
    generalize e.connection.writeNextSegment bufLen mssReserved payloadSrc now = p at h hfits
    obtain ⟨c, r⟩ := p
    rcases r with _ | _ | segment
    · cases h
    · cases h
    · cases h
      exact hfits _ rfl

end Endpoint

namespace TcpIPv4Handler

variable {h h' : TcpIPv4Handler}

theorem writeLoop_len_le {bufLen : Nat} {now : BitVec 64} :
    ∀ {h h' : TcpIPv4Handler} {tuples : List ConnectionTuple} {t : ConnectionTuple} {n : Nat}
      {d : Bool}, writeLoop bufLen now h tuples = some (h', some (t, n, d)) →
        n ≤ ipv4OptionsOffset + bufLen
  | _, _, [], _, _, _, hw => by cases hw
  | h, h', tuple :: rest, t, n, d, hw => by
    unfold writeLoop at hw
    split at hw
    · cases hw
    split at hw
    · cases hw
    · exact writeLoop_len_le hw
    · rename_i endpoint' segment hwrite
      cases hw
      have := Endpoint.writeNextSegment_len_le hwrite
      omega

/-- **Every packet `write_next_packet` reports fits in its buffer**: a queued `RST` or an
endpoint's segment, behind the 20 bytes of the IPv4 header. -/
theorem writeNextPacket_len_le {bufLen len : Nat} {now : BitVec 64} {ev : Handler.WriteEvent}
    (hw : h.writeNextPacket bufLen now = some (h', .ok (some len, ev))) : len ≤ bufLen := by
  unfold writeNextPacket at hw
  split at hw
  · cases hw
  rename_i hbuf
  split at hw
  · dsimp only at hw
    split at hw
    · cases hw
    · rename_i segment hseg
      cases hw
      have := writeIncompleteSegment_len_le hseg
      omega
  · split at hw
    · cases hw
    · cases hw
    · rename_i h₁ tuple n isDone hloop
      have := writeLoop_len_le hloop
      split at hw
      · cases hw
        omega
      · split at hw
        · cases hw
          omega
        · cases hw

/-! ### The handler's own address -/

@[simp] theorem localIpv4Addr_updateActive (tuple : ConnectionTuple) (status : NextSegmentStatus) :
    (h.updateActive tuple status).localIpv4Addr = h.localIpv4Addr := by
  obtain ⟨nt, act, heq, -⟩ := updateActive_eq (h := h) tuple status
  rw [heq]

@[simp] theorem localIpv4Addr_removeConnection (tuple : ConnectionTuple) :
    (h.removeConnection tuple).localIpv4Addr = h.localIpv4Addr := by
  obtain ⟨nt, heq, -⟩ := removeConnection_eq (h := h) tuple
  rw [heq]

@[simp] theorem localIpv4Addr_addConnection (tuple : ConnectionTuple) (endpoint : Endpoint) :
    (h.addConnection tuple endpoint).localIpv4Addr = h.localIpv4Addr := by
  obtain ⟨nt, act, b, hcheck, -⟩ :=
    checkNextSegmentStatus_eq (h := h) tuple endpoint.nextSegmentStatus
  unfold TcpIPv4Handler.addConnection
  rw [hcheck]

@[simp] theorem localIpv4Addr_enqueueRstConfig (tuple : ConnectionTuple) (cfg : RstConfig) :
    (h.enqueueRstConfig tuple cfg).localIpv4Addr = h.localIpv4Addr := by
  obtain ⟨q, heq, -⟩ := enqueueRstConfig_eq (h := h) tuple cfg
  rw [heq]

theorem localIpv4Addr_newConnection {tuple : ConnectionTuple} {s : TcpSegment} {isn : BitVec 32}
    {now : BitVec 64} {ev : Handler.RecvEvent} (hn : h.newConnection tuple s isn now = some (h', ev)) :
    h'.localIpv4Addr = h.localIpv4Addr := by
  unfold newConnection at hn
  split at hn
  · cases hn
    rfl
  split at hn
  · split at hn
    · split at hn
      · cases hn
        simp
      · cases hn
    · cases hn
      simp [enqueueRst]
  · cases hn
    simp

theorem localIpv4Addr_receivePacket {respond : List (BitVec 8) → List (BitVec 8)}
    {packet : Ipv4Packet} {isn : BitVec 32} {now : BitVec 64}
    {r : Except Handler.RecvError Handler.RecvEvent}
    (hr : h.receivePacket respond packet isn now = some (h', r)) :
    h'.localIpv4Addr = h.localIpv4Addr := by
  unfold receivePacket at hr
  split at hr
  · cases hr
    rfl
  split at hr
  · cases hr
    rfl
  dsimp only at hr
  split at hr
  · split at hr
    · cases hr
    split at hr <;> (cases hr; simp)
  · split at hr
    · obtain ⟨⟨h₁, ev⟩, hn, heq⟩ := Option.map_eq_some_iff.mp hr
      cases heq
      exact localIpv4Addr_newConnection hn
    split at hr <;> (cases hr; simp [enqueueRst])

theorem localIpv4Addr_writeNextPacket {bufLen : Nat} {now : BitVec 64}
    {r : Except Handler.WriteNextError (Option Nat × Handler.WriteEvent)}
    (hw : h.writeNextPacket bufLen now = some (h', r)) : h'.localIpv4Addr = h.localIpv4Addr := by
  unfold writeNextPacket at hw
  split at hw
  · cases hw
    rfl
  split at hw
  · dsimp only at hw
    split at hw <;> (cases hw; rfl)
  · split at hw
    · cases hw
    · obtain ⟨conns, rfl, -⟩ := writeLoop_eq (by assumption)
      cases hw
      rfl
    · rename_i h₁ tuple len isDone hloop
      obtain ⟨conns, rfl, -⟩ := writeLoop_eq hloop
      split at hw
      · cases hw
        simp
      · split at hw
        · cases hw
          simp
        · cases hw

theorem step_localIpv4Addr {respond : List (BitVec 8) → List (BitVec 8)} {op : HandlerOp}
    (hs : h.step respond op = some h') : h'.localIpv4Addr = h.localIpv4Addr := by
  cases op with
  | receivePacket packet isn now =>
    obtain ⟨⟨h₁, r⟩, hop, rfl⟩ := Option.map_eq_some_iff.mp hs
    exact localIpv4Addr_receivePacket hop
  | writeNextPacket bufLen now =>
    obtain ⟨⟨h₁, r⟩, hop, rfl⟩ := Option.map_eq_some_iff.mp hs
    exact localIpv4Addr_writeNextPacket hop

end TcpIPv4Handler

end Dumbo
end Firecracker
