import Firecracker.Dumbo.Endpoint
import Firecracker.Dumbo.SendWindow

/-!
# Firecracker.Dumbo.Response

The response bookkeeping of an `Endpoint` is consistent over every run: while no `FIN` of ours
exists, `response_seq` is the connection's `first_not_sent`; with no response pending it is
`initial_response_seq`; and it never lies past the end of `response_buf`, so `split_at` in
`write_next_segment` never panics (`Endpoint.Inv`, `Endpoint.reachable_inv`). Responses are
taken to be at most `MAX_WINDOW_SIZE` bytes long.

What carries it is one description of what a `write_next_segment` of the connection can do
(`Connection.WriteEffect`): write a control segment, or none, or fail, leaving `first_not_sent`
and `send_fin` alone; send our first `FIN`; or send a data segment from `seq_to_send`, a prefix of
the payload buffer, at or after the payload's first sequence number. Every fact the endpoint
needs about a write follows from it.
-/

namespace Firecracker
namespace Dumbo

open Wrapping

namespace SendState

variable {t : SendState}

theorem Inv.dist_firstNotSent_le (h : t.Inv) :
    dist t.highestAckReceived t.firstNotSent ≤ 65537 := by
  have hedge := h.edge_le
  have hsent := h.sent_le
  generalize (if t.finSent = true then 0 else 1) = k at hsent
  omega

theorem Inv.eq_of_seqAtOrAfter (h : t.Inv)
    (hge : seqAtOrAfter t.highestAckReceived t.firstNotSent = true) :
    t.highestAckReceived = t.firstNotSent := by
  have hle := h.dist_firstNotSent_le
  have hsum := dist_add_mod t.highestAckReceived t.firstNotSent t.highestAckReceived
  have hlt := dist_lt t.firstNotSent t.highestAckReceived
  rw [seqAtOrAfter_iff] at hge
  rw [dist_self] at hsum
  apply dist_eq_zero_iff.mp
  omega

end SendState

namespace Connection

variable {c : Connection} {bufLen : Nat} {mssReserved : BitVec 16} {now : BitVec 64}

/-- The part of the send side a response is tied to: `first_not_sent` and our `FIN`. -/
def sent (c : Connection) : BitVec 32 × Option (BitVec 32) := (c.firstNotSent, c.sendFin)

theorem sent_of_sendState {c' : Connection} (h : c'.sendState = c.sendState) : c'.sent = c.sent :=
  congrArg (fun t => (t.firstNotSent, t.sendFin)) h

/-- How many payload bytes a write put on the wire: those of the segment written, none when it
wrote no segment or failed. -/
def writtenLen : WriteResult → Nat
  | .ok (some segment) => segment.payload.length
  | _ => 0

/-! ### What a write does -/

/-- What one `write_next_segment` can do to `first_not_sent` and `send_fin`, and which payload
bytes it writes. -/
inductive WriteEffect (c : Connection) (payloadSrc : PayloadSource) :
    Connection × WriteResult → Prop
  /-- A control segment, no segment, or an error. -/
  | control {c' : Connection} {r : WriteResult} (hsent : c'.sent = c.sent)
      (hlen : writtenLen r = 0) : WriteEffect c payloadSrc (c', r)
  /-- Our first `FIN`, once every byte before it is acknowledged. -/
  | firstFin {c' : Connection} {r : WriteResult} (hfin : c.sendFin = some c.highestAckReceived)
      (hsent : c'.sent = (c.firstNotSent + 1, c.sendFin)) (hlen : writtenLen r = 0) :
      WriteEffect c payloadSrc (c', r)
  /-- A data segment from `seq_to_send`: a prefix of the payload buffer, which starts at or
  before `seq_to_send`. -/
  | data {c' : Connection} {readBuf : List (BitVec 8)} {payloadSeq sts : BitVec 32}
      {segment : OutSegment} (hsrc : payloadSrc = some (readBuf, payloadSeq))
      (hsts : sts = c.highestAckReceived ∨ sts = c.firstNotSent)
      (hseq : seqAtOrAfter sts payloadSeq = true) (hpre : segment.payload <+: readBuf)
      (hpos : 0 < segment.payload.length) (hlt : segment.payload.length < 1073725440)
      (hsend : c'.sendState = c.sendState.afterData sts segment.payload.length) :
      WriteEffect c payloadSrc (c', .ok (some segment))

theorem WriteEffect.of_control {payloadSrc : PayloadSource} {p : Connection × WriteResult}
    (hsent : p.1.sent = c.sent) (hlen : writtenLen p.2 = 0) : WriteEffect c payloadSrc p := by
  obtain ⟨c', r⟩ := p
  exact .control hsent hlen

theorem WriteEffect.of_sendState {payloadSrc : PayloadSource} {p : Connection × WriteResult}
    (h : p.1.sendState = c.sendState) (hlen : writtenLen p.2 = 0) : WriteEffect c payloadSrc p :=
  .of_control (sent_of_sendState h) hlen

theorem WriteEffect.transport {c₁ : Connection} {payloadSrc : PayloadSource}
    {p : Connection × WriteResult} (hframe : c₁.sendState = c.sendState)
    (h : WriteEffect c₁ payloadSrc p) : WriteEffect c payloadSrc p := by
  have hsent : c₁.sent = c.sent := sent_of_sendState hframe
  have har := congrArg SendState.highestAckReceived hframe
  have hfns := congrArg SendState.firstNotSent hframe
  have hfin := congrArg SendState.sendFin hframe
  simp only [sendState] at har hfns hfin
  cases h with
  | control hs hlen => exact .control (hs.trans hsent) hlen
  | firstFin hf hs hlen =>
    rw [har, hfin] at hf
    rw [hfns, hfin] at hs
    exact .firstFin hf hs hlen
  | data hsrc hsts hseq hpre hpos hlt hsend =>
    rw [har, hfns] at hsts
    rw [hframe] at hsend
    exact .data hsrc hsts hseq hpre hpos hlt hsend

theorem writeControlSegment_payload {c' : Connection} {segment : OutSegment}
    (h : c.writeControlSegment bufLen mssReserved = (c', .ok segment)) : segment.payload = [] := by
  unfold writeControlSegment writeSegment at h
  dsimp only at h
  split at h
  · cases h
  · split at h
    next e hw => cases h
    next seg hw =>
      cases h
      exact (writeIncompleteSegment_ok hw).2.2.2.2

theorem writtenLen_of_writeControlSegment {c' : Connection} {segment : OutSegment}
    (h : c.writeControlSegment bufLen mssReserved = (c', .ok segment)) :
    writtenLen (.ok (some segment)) = 0 := by
  simp only [writtenLen, writeControlSegment_payload h, List.length_nil]

theorem writtenLen_writeRst : writtenLen (c.writeRst bufLen mssReserved).2 = 0 := by
  unfold writeRst
  split
  · rfl
  · next c' seg heq => exact writtenLen_of_writeControlSegment heq

theorem writtenLen_retransmitControl :
    writtenLen (c.retransmitControl bufLen mssReserved now).2 = 0 := by
  unfold retransmitControl
  split
  · rfl
  · next c' seg heq => exact writtenLen_of_writeControlSegment heq

theorem seqToSend_inl_writtenLen {ret : Connection × WriteResult}
    (h : c.seqToSend bufLen mssReserved now = .inl ret) : writtenLen ret.2 = 0 := by
  rcases seqToSend_cases c bufLen mssReserved now with hc | hc | hc | hc | hc <;> rw [hc] at h <;>
    cases h
  · exact writtenLen_writeRst
  · exact writtenLen_retransmitControl

theorem afterDataSegment_snd (c : Connection) (seg : OutSegment) (sts : BitVec 32) (rto : Bool)
    (now : BitVec 64) :
    ∃ seg', (c.afterDataSegment seg sts rto now).2 = .ok (some seg') ∧
      seg'.payload = seg.payload ∧ seg'.sequenceNumber = seg.sequenceNumber := by
  unfold afterDataSegment
  dsimp only
  refine ⟨_, rfl, ?_⟩
  split <;> exact ⟨rfl, rfl⟩

theorem sendData_inl_effect {readBuf : List (BitVec 8)} {payloadSeq sts : BitVec 32} {rto : Bool}
    (hsts : sts = c.highestAckReceived ∨ sts = c.firstNotSent) {ret : Connection × WriteResult}
    (h : c.sendData bufLen mssReserved readBuf payloadSeq now sts rto = .inl ret) :
    WriteEffect c (some (readBuf, payloadSeq)) ret := by
  rcases sendData_inl_cases h with
    ⟨e, rfl⟩ | ⟨hseq, -, hafter, c', res, hw, ⟨e, rfl, rfl⟩ | ⟨seg, rfl, rfl⟩⟩
  · exact .control rfl rfl
  · exact .of_sendState (sendState_of_writeSegment hw) rfl
  obtain ⟨hpre, hpos, hle⟩ := writeSegment_payload hw
  have hlt : seg.payload.length < 1073725440 := by
    have hend := (seqAfter_iff.mp hafter).2
    unfold Wrapping.dist at hend
    omega
  obtain ⟨seg', hseg', hpay, -⟩ := afterDataSegment_snd c' seg sts rto now
  have hpair : c'.afterDataSegment seg sts rto now =
      ((c'.afterDataSegment seg sts rto now).1, .ok (some seg')) := by
    rw [← hseg']
  rw [hpair]
  refine .data rfl hsts hseq (hpay ▸ hpre) (hpay ▸ hpos) (hpay ▸ hlt) ?_
  rw [hpay, sendState_afterDataSegment, sendState_of_writeSegment hw]

theorem writePendingControl_effect {payloadSrc : PayloadSource} :
    WriteEffect c payloadSrc (c.writePendingControl bufLen mssReserved) := by
  unfold writePendingControl
  dsimp only
  split
  · split
    next c' e heq => exact .of_sendState (sendState_of_writeControlSegment heq) rfl
    next c' seg heq =>
      have hframe := sendState_of_writeControlSegment heq
      have hsent := sent_of_sendState hframe
      split
      · rename_i hfirst
        obtain ⟨-, hf⟩ := canSendFirstFin_iff.mp hfirst
        refine .firstFin hf ?_ (writtenLen_of_writeControlSegment heq)
        simp only [sent, setFlags, Prod.mk.injEq] at hsent ⊢
        rw [hsent.1, hsent.2]
        exact ⟨rfl, rfl⟩
      · exact .control hsent (writtenLen_of_writeControlSegment heq)
  · exact .control rfl rfl

theorem seqToSend_inr_mss {c' : Connection} {sts : BitVec 32} {rto : Bool}
    (h : c.seqToSend bufLen mssReserved now = .inr (c', sts, rto)) : c'.mss = c.mss := by
  rcases seqToSend_cases c bufLen mssReserved now with hc | hc | hc | hc | hc <;> rw [hc] at h <;>
    cases h <;> rfl

theorem writtenLen_writePendingControl :
    writtenLen (c.writePendingControl bufLen mssReserved).2 = 0 := by
  unfold writePendingControl
  dsimp only
  split
  · split
    next c' e heq => rfl
    next c' seg heq => exact writtenLen_of_writeControlSegment heq
  · rfl

theorem writeNextSegment_cases (c : Connection) (bufLen : Nat) (mssReserved : BitVec 16)
    (payloadSrc : PayloadSource) (now : BitVec 64) :
    ((c.writeNextSegment bufLen mssReserved payloadSrc now).1.sent = c.sent ∧
      writtenLen (c.writeNextSegment bufLen mssReserved payloadSrc now).2 = 0) ∨
    (∃ c₁ : Connection, c₁.sendState = c.sendState ∧
      c.writeNextSegment bufLen mssReserved payloadSrc now =
        c₁.writePendingControl bufLen mssReserved) ∨
    (∃ readBuf payloadSeq, ∃ c₁ : Connection, ∃ sts rto,
      payloadSrc = some (readBuf, payloadSeq) ∧ c₁.sendState = c.sendState ∧ c₁.mss = c.mss ∧
      (sts = c.highestAckReceived ∨ sts = c.firstNotSent) ∧
      c₁.sendData bufLen mssReserved readBuf payloadSeq now sts rto =
        .inl (c.writeNextSegment bufLen mssReserved payloadSrc now)) := by
  unfold writeNextSegment
  split
  · exact .inl ⟨rfl, rfl⟩
  split
  · exact .inl ⟨sent_of_sendState sendState_writeRst, writtenLen_writeRst⟩
  split
  · left
    split
    next c' e heq => exact ⟨sent_of_sendState (sendState_of_writeControlSegment heq), rfl⟩
    next c' seg heq =>
      have hsent := sent_of_sendState (sendState_of_writeControlSegment heq)
      exact ⟨hsent, writtenLen_of_writeControlSegment heq⟩
  split
  · left
    dsimp only
    split
    · split
      · exact ⟨sent_of_sendState (sendState_writeRst.trans sendState_reset), writtenLen_writeRst⟩
      · exact ⟨sent_of_sendState sendState_retransmitControl, writtenLen_retransmitControl⟩
    · exact ⟨rfl, rfl⟩
  split
  · split
    · exact .inl ⟨rfl, rfl⟩
    · split
      next ret hs => exact .inl ⟨sent_of_sendState (seqToSend_inl hs), seqToSend_inl_writtenLen hs⟩
      next c₁ sts rto hs =>
        obtain ⟨hframe, hsts⟩ := seqToSend_inr hs
        split
        next ret hd =>
          exact .inr (.inr ⟨_, _, c₁, sts, rto, rfl, hframe, seqToSend_inr_mss hs, hsts, hd⟩)
        next c₂ hd =>
          rw [sendData_inr hd]
          exact .inr (.inl ⟨c₁, hframe, rfl⟩)
  · exact .inr (.inl ⟨c, rfl, rfl⟩)

/-- **What `write_next_segment` does**, on every path through it. -/
theorem writeNextSegment_effect (payloadSrc : PayloadSource) :
    WriteEffect c payloadSrc (c.writeNextSegment bufLen mssReserved payloadSrc now) := by
  rcases writeNextSegment_cases c bufLen mssReserved payloadSrc now with
    ⟨hsent, hlen⟩ | ⟨c₁, hframe, heq⟩ |
      ⟨readBuf, payloadSeq, c₁, sts, rto, rfl, hframe, -, hsts, hd⟩
  · exact .of_control hsent hlen
  · rw [heq]
    exact writePendingControl_effect.transport hframe
  · exact (sendData_inl_effect (sts_of_sendState hframe hsts) hd).transport hframe

/-! ### Consequences for the send side -/

theorem writeNextSegment_sendFin (payloadSrc : PayloadSource) :
    (c.writeNextSegment bufLen mssReserved payloadSrc now).1.sendFin = c.sendFin := by
  have h : WriteEffect c payloadSrc (c.writeNextSegment bufLen mssReserved payloadSrc now) :=
    writeNextSegment_effect payloadSrc
  generalize c.writeNextSegment bufLen mssReserved payloadSrc now = p at h ⊢
  cases h with
  | control hsent => exact congrArg Prod.snd hsent
  | firstFin _ hsent => exact congrArg Prod.snd hsent
  | data _ _ _ _ _ _ hsend => exact congrArg SendState.sendFin hsend

theorem writtenLen_writeNextSegment_le (payloadSrc : PayloadSource) :
    writtenLen (c.writeNextSegment bufLen mssReserved payloadSrc now).2 ≤
      (payloadSrc.map fun src => src.1.length).getD 0 := by
  have h : WriteEffect c payloadSrc (c.writeNextSegment bufLen mssReserved payloadSrc now) :=
    writeNextSegment_effect payloadSrc
  generalize c.writeNextSegment bufLen mssReserved payloadSrc now = p at h ⊢
  cases h with
  | control _ hlen => simp [hlen]
  | firstFin _ _ hlen => simp [hlen]
  | data hsrc _ _ hpre =>
    subst hsrc
    exact hpre.length_le

theorem writeNextSegment_firstNotSent (hinv : c.sendState.Inv) (hfin : c.sendFin = none)
    {payloadSrc : PayloadSource}
    (hsrc : ∀ readBuf payloadSeq, payloadSrc = some (readBuf, payloadSeq) →
      payloadSeq = c.firstNotSent) :
    (c.writeNextSegment bufLen mssReserved payloadSrc now).1.firstNotSent =
      c.firstNotSent +
        BitVec.ofNat 32 (writtenLen (c.writeNextSegment bufLen mssReserved payloadSrc now).2) := by
  have h : WriteEffect c payloadSrc (c.writeNextSegment bufLen mssReserved payloadSrc now) :=
    writeNextSegment_effect payloadSrc
  generalize c.writeNextSegment bufLen mssReserved payloadSrc now = p at h ⊢
  cases h with
  | control hsent hlen =>
    rw [hlen, BitVec.add_zero]
    exact congrArg Prod.fst hsent
  | firstFin hf => rw [hfin] at hf; cases hf
  | @data c' readBuf payloadSeq sts segment hsrc' hsts hseq _ hpos hlt hsend =>
    rw [hsrc _ _ hsrc'] at hseq
    have hsts' : sts = c.firstNotSent := by
      rcases hsts with rfl | rfl
      · exact hinv.eq_of_seqAtOrAfter hseq
      · rfl
    subst hsts'
    have hafter : seqAfter (c.firstNotSent + BitVec.ofNat 32 segment.payload.length)
        c.firstNotSent = true := by
      rw [seqAfter_iff, dist_self_add, BitVec.toNat_ofNat, Nat.mod_eq_of_lt (by omega)]
      omega
    have hfns := congrArg SendState.firstNotSent hsend
    simp only [sendState, SendState.afterData, hfin, reduceCtorEq, if_false, hafter,
      if_true] at hfns
    exact hfns

/-! ### Consequences for the receive side -/

theorem updateRemoteRwndEdge_sent (ack : BitVec 32) (ws : BitVec 16) (flags : BitVec 16) :
    (c.updateRemoteRwndEdge ack ws flags).1.sent = c.sent := by
  unfold updateRemoteRwndEdge
  dsimp only
  split_ifs <;> rfl

theorem receiveAck_inr_sent {s : TcpSegment} {c' : Connection} {flags : BitVec 16}
    (h : c.receiveAck s now = .inr (c', flags)) : c'.sent = c.sent := by
  unfold receiveAck at h
  split at h
  · dsimp only at h
    split at h
    · unfold receiveValidAck at h
      dsimp only at h
      split at h
      · split at h
        · cases h
        · have hc' : _ = c' := congrArg Prod.fst (Sum.inr.inj h)
          rw [← hc', updateRemoteRwndEdge_sent]
          rfl
      · have hc' : _ = c' := congrArg Prod.fst (Sum.inr.inj h)
        rw [← hc', updateRemoteRwndEdge_sent]
        exact congrArg (fun t : SendState => (t.firstNotSent, t.sendFin))
          (sendState_ackProgress _)
    split at h
    · cases h
    · cases h
      rfl
  · cases h
    rfl

theorem receiveSegment_sent (s : TcpSegment) (bufLen : Nat) :
    (c.receiveSegment s bufLen now).1.sent = c.sent := by
  unfold receiveSegment
  split
  · rfl
  split
  · dsimp only
    split <;> rfl
  split
  next ret hh =>
    rcases receiveHandshake_inl hh with hsame | ⟨-, hclear⟩
    · exact sent_of_sendState hsame
    · exact congrArg (fun t : SendState => (t.firstNotSent, t.sendFin)) hclear
  next c₁ hh =>
    obtain rfl := receiveHandshake_inr hh
    split
    next ret ha => exact sent_of_sendState (receiveAck_inl ha)
    next c₂ flags ha =>
      have h₂ := receiveAck_inr_sent ha
      split
      · exact h₂
      · exact (sent_of_sendState (sendState_receivePayload _ _ _)).trans h₂

theorem sent_advanceLocalRwndEdge (value : BitVec 32) :
    (c.advanceLocalRwndEdge value).sent = c.sent :=
  sent_of_sendState (sendState_advanceLocalRwndEdge value)

@[simp] theorem firstNotSent_advanceLocalRwndEdge (value : BitVec 32) :
    (c.advanceLocalRwndEdge value).firstNotSent = c.firstNotSent :=
  congrArg Prod.fst (sent_advanceLocalRwndEdge value)

@[simp] theorem sendFin_advanceLocalRwndEdge (value : BitVec 32) :
    (c.advanceLocalRwndEdge value).sendFin = c.sendFin :=
  congrArg Prod.snd (sent_advanceLocalRwndEdge value)

theorem sent_reset : c.reset.sent = c.sent := sent_of_sendState sendState_reset

theorem close_sendFin_eq_none (h : c.close.sendFin = none) : c.close = c := by
  unfold close at h ⊢
  split
  · rename_i hnone
    simp [hnone] at h
  · rfl

end Connection

/-! ### The endpoint -/

namespace Endpoint

open Connection

structure Inv (e : Endpoint) : Prop where
  send : e.connection.sendState.Inv
  responseSeq_eq : e.connection.sendFin = none → e.responseSeq = e.connection.firstNotSent
  responseSeq_initial : e.responseBuf = [] → e.responseSeq = e.initialResponseSeq
  offset_le : e.responseOffset ≤ e.responseBuf.length
  response_le : e.responseBuf.length ≤ maxWindowSize.toNat

variable {e e' : Endpoint}

theorem Inv.withConnection (h : e.Inv) {c : Connection} (hsend : c.sendState.Inv)
    (hsent : c.sent = e.connection.sent) : ({ e with connection := c } : Endpoint).Inv := by
  have hfns : c.firstNotSent = e.connection.firstNotSent := congrArg Prod.fst hsent
  have hfin : c.sendFin = e.connection.sendFin := congrArg Prod.snd hsent
  refine ⟨hsend, ?_, h.responseSeq_initial, h.offset_le, h.response_le⟩
  intro hnone
  rw [hfns]
  exact h.responseSeq_eq (hfin ▸ hnone)

theorem Inv.congr (h : e.Inv) (hc : e'.connection = e.connection)
    (hb : e'.responseBuf = e.responseBuf) (hs : e'.responseSeq = e.responseSeq)
    (hi : e'.initialResponseSeq = e.initialResponseSeq) : e'.Inv := by
  have hoff : e'.responseOffset = e.responseOffset := by
    simp only [responseOffset, hs, hi]
  refine ⟨?_, ?_, ?_, ?_, ?_⟩
  · rw [hc]
    exact h.send
  · rw [hc, hs]
    exact h.responseSeq_eq
  · rw [hb, hs, hi]
    exact h.responseSeq_initial
  · rw [hoff, hb]
    exact h.offset_le
  · rw [hb]
    exact h.response_le

theorem Inv.close (h : e.Inv) : ({ e with connection := e.connection.close } : Endpoint).Inv := by
  refine ⟨close_inv h.send, ?_, h.responseSeq_initial, h.offset_le, h.response_le⟩
  intro hnone
  have hclose := close_sendFin_eq_none hnone
  rw [hclose] at hnone ⊢
  exact h.responseSeq_eq hnone

theorem Inv.clearAckedResponse (h : e.Inv) : e.clearAckedResponse.Inv := by
  unfold Endpoint.clearAckedResponse
  split
  · rename_i hack
    simp only [Bool.and_eq_true, Bool.not_eq_true', List.isEmpty_eq_false_iff, beq_iff_eq]
      at hack
    obtain ⟨-, hhar⟩ := hack
    refine ⟨h.send, ?_, fun _ => rfl, by simp [responseOffset], by simp⟩
    intro hnone
    show e.connection.highestAckReceived = e.connection.firstNotSent
    have hL := h.response_le
    have hoff := h.offset_le
    have hd := h.send.dist_firstNotSent_le
    have hsum := dist_add_mod e.initialResponseSeq e.connection.highestAckReceived
      e.connection.firstNotSent
    have hI : dist e.initialResponseSeq e.connection.highestAckReceived =
        e.responseBuf.length := by
      rw [hhar, dist_self_add, BitVec.toNat_ofNat, Nat.mod_eq_of_lt (by simp at hL; omega)]
    have hF : dist e.initialResponseSeq e.connection.firstNotSent = e.responseOffset := by
      rw [← h.responseSeq_eq hnone]
      rfl
    simp only [sendState, maxWindowSize_toNat] at hd hL
    apply dist_eq_zero_iff.mp
    omega
  · exact h

section Respond

variable {respond : List (BitVec 8) → List (BitVec 8)}
  (hrespond : ∀ request, (respond request).length ≤ maxWindowSize.toNat)
include hrespond

theorem Inv.takeRequest (h : e.Inv) (hempty : e.responseBuf = [])
    (ht : e.takeRequest respond = some e') : e'.Inv := by
  unfold Endpoint.takeRequest at ht
  split at ht
  · split at ht
    · dsimp only at ht
      split at ht
      · cases ht
        have hinit := h.responseSeq_initial hempty
        refine ⟨?_, ?_, fun _ => hinit, ?_, hrespond _⟩
        · rw [sendState_advanceLocalRwndEdge]
          exact h.send
        · intro hnone
          simp only [firstNotSent_advanceLocalRwndEdge, sendFin_advanceLocalRwndEdge] at hnone ⊢
          exact h.responseSeq_eq hnone
        · simp [responseOffset, hinit]
      · cases ht
    · cases ht
      exact h
  · cases ht
    exact h

theorem Inv.afterReceive (h : e.Inv) (ht : e.afterReceive respond = some e') : e'.Inv := by
  unfold Endpoint.afterReceive at ht
  split at ht
  · rename_i hempty
    split at ht
    · cases ht
    · rename_i e₁ htake
      have h₁ := h.takeRequest hrespond (List.isEmpty_iff.mp hempty) htake
      split at ht
      · cases ht
        exact (h₁.withConnection (by rw [sendState_reset]; exact h₁.send) sent_reset).congr
          rfl rfl rfl rfl
      · cases ht
        unfold closeIfDone
        split
        · exact h₁.close
        · exact h₁
  · cases ht
    unfold closeIfDone
    split
    · exact h.close
    · exact h

theorem Inv.receiveSegment (h : e.Inv) {s : TcpSegment} {now : BitVec 64}
    (ht : e.receiveSegment respond s now = some e') : e'.Inv := by
  unfold Endpoint.receiveSegment at ht
  split at ht
  · cases ht
    exact h
  dsimp only at ht
  have hsend : (e.connection.receiveSegment s (rcvBufMaxSize - e.receiveBuf.length)
      now).1.sendState.Inv := receiveSegment_inv h.send s _
  have hsent : (e.connection.receiveSegment s (rcvBufMaxSize - e.receiveBuf.length)
      now).1.sent = e.connection.sent := receiveSegment_sent s _
  generalize e.connection.receiveSegment s (rcvBufMaxSize - e.receiveBuf.length) now = r
    at ht hsend hsent
  obtain ⟨c, res⟩ := r
  have hc : ({ e with connection := c } : Endpoint).Inv := h.withConnection hsend hsent
  rcases res with _ | ⟨value, status⟩
  · cases ht
    exact hc.congr rfl rfl rfl rfl
  · dsimp only at ht
    split at ht
    · cases ht
      exact hc.congr rfl rfl rfl rfl
    · refine Inv.afterReceive hrespond ?_ ht
      apply Inv.clearAckedResponse
      exact hc.congr rfl rfl rfl rfl

end Respond

theorem payloadSource_eq (h : e.Inv) :
    e.payloadSource =
      some (if e.responseBuf.isEmpty then none
        else some (e.responseBuf.drop e.responseOffset, e.responseSeq)) := by
  unfold payloadSource
  split
  · rfl
  · rw [if_neg (by have := h.offset_le; omega)]

theorem writeNextSegment_state {bufLen : Nat} {mssReserved : BitVec 16} {now : BitVec 64}
    {payloadSrc : PayloadSource} (hsrc : e.payloadSource = some payloadSrc) :
    (e.writeNextSegment bufLen mssReserved now).map Prod.fst =
      some { e with
        connection := (e.connection.writeNextSegment bufLen mssReserved payloadSrc now).1
        responseSeq := e.responseSeq + BitVec.ofNat 32
          (writtenLen (e.connection.writeNextSegment bufLen mssReserved payloadSrc now).2) } := by
  unfold Endpoint.writeNextSegment
  rw [hsrc]
  dsimp only [Option.bind_some, bind, Option.bind]
  generalize e.connection.writeNextSegment bufLen mssReserved payloadSrc now = p
  obtain ⟨c, r⟩ := p
  rcases r with _ | _ | seg
  · simp [writtenLen]
  · simp [writtenLen]
  · rfl

theorem Inv.writeNextSegment (h : e.Inv) {bufLen : Nat} {mssReserved : BitVec 16}
    {now : BitVec 64} (hw : (e.writeNextSegment bufLen mssReserved now).map Prod.fst = some e') :
    e'.Inv := by
  set payloadSrc : PayloadSource := if e.responseBuf.isEmpty then none
    else some (e.responseBuf.drop e.responseOffset, e.responseSeq) with hsrc
  rw [writeNextSegment_state (payloadSource_eq h)] at hw
  cases hw
  have hlen : writtenLen (e.connection.writeNextSegment bufLen mssReserved payloadSrc now).2 ≤
      (payloadSrc.map fun src => src.1.length).getD 0 := writtenLen_writeNextSegment_le payloadSrc
  have hfin : (e.connection.writeNextSegment bufLen mssReserved payloadSrc now).1.sendFin =
      e.connection.sendFin := writeNextSegment_sendFin payloadSrc
  have hfns : e.connection.sendFin = none →
      (e.connection.writeNextSegment bufLen mssReserved payloadSrc now).1.firstNotSent =
        e.connection.firstNotSent + BitVec.ofNat 32
          (writtenLen (e.connection.writeNextSegment bufLen mssReserved payloadSrc now).2) := by
    intro hnone
    refine writeNextSegment_firstNotSent h.send hnone ?_
    intro readBuf payloadSeq hs
    rw [hsrc] at hs
    split at hs
    · cases hs
    · cases hs
      exact h.responseSeq_eq hnone
  generalize writtenLen (e.connection.writeNextSegment bufLen mssReserved payloadSrc now).2 = w
    at hlen hfns ⊢
  have hw : e.responseOffset + w ≤ e.responseBuf.length := by
    have hoff := h.offset_le
    rw [hsrc] at hlen
    split at hlen
    · rename_i hempty
      simp only [Option.map_none, Option.getD_none] at hlen
      rw [List.isEmpty_iff.mp hempty] at hoff ⊢
      simp only [List.length_nil] at hoff ⊢
      omega
    · simp only [Option.map_some, Option.getD_some, List.length_drop] at hlen
      omega
  have hL := h.response_le
  simp only [maxWindowSize_toNat] at hL
  refine ⟨writeNextSegment_inv h.send payloadSrc, ?_, ?_, ?_, h.response_le⟩
  · intro hnone
    rw [hfin] at hnone
    rw [hfns hnone, h.responseSeq_eq hnone]
  · intro hempty
    have hoff := h.offset_le
    rw [hempty] at hw
    simp only [List.length_nil] at hw
    have hw0 : w = 0 := by omega
    rw [hw0, BitVec.add_zero]
    exact h.responseSeq_initial hempty
  · show dist e.initialResponseSeq (e.responseSeq + BitVec.ofNat 32 w) ≤ e.responseBuf.length
    have hsum := dist_add_mod e.initialResponseSeq e.responseSeq
      (e.responseSeq + BitVec.ofNat 32 w)
    have hoff : dist e.initialResponseSeq e.responseSeq = e.responseOffset := rfl
    rw [dist_self_add, BitVec.toNat_ofNat, hoff] at hsum
    have hw₁ : w % 2 ^ 32 = w := Nat.mod_eq_of_lt (by omega)
    have hw₂ : (e.responseOffset + w) % 2 ^ 32 = e.responseOffset + w :=
      Nat.mod_eq_of_lt (by omega)
    rw [hsum, hw₁, hw₂]
    exact hw

theorem Inv.writeNextSegment_isSome (h : e.Inv) (bufLen : Nat) (mssReserved : BitVec 16)
    (now : BitVec 64) : (e.writeNextSegment bufLen mssReserved now).isSome := by
  have hmap : ((e.writeNextSegment bufLen mssReserved now).map Prod.fst).isSome := by
    rw [writeNextSegment_state (payloadSource_eq h)]
    rfl
  simpa using hmap

theorem new_inv {segment : TcpSegment} {evictionThreshold : {t : BitVec 64 // t ≠ 0}}
    {connectionRtoPeriod : {p : BitVec 64 // p ≠ 0}}
    {connectionRtoCountMax : {m : BitVec 16 // m ≠ 0}} {isn : BitVec 32} {now : BitVec 64}
    (h : new segment evictionThreshold connectionRtoPeriod connectionRtoCountMax isn now = .ok e) :
    e.Inv := by
  unfold new at h
  split at h
  · cases h
  · rename_i c hopen
    cases h
    exact ⟨passiveOpen_sendInv hopen, fun _ => rfl, fun _ => rfl, by simp [responseOffset],
      by simp⟩

section Respond

variable {respond : List (BitVec 8) → List (BitVec 8)}
  (hrespond : ∀ request, (respond request).length ≤ maxWindowSize.toNat)
include hrespond

theorem step_inv (h : e.Inv) {op : EndpointOp} (hs : step respond e op = some e') : e'.Inv := by
  cases op with
  | receiveSegment s now => exact h.receiveSegment hrespond hs
  | writeNextSegment bufLen mssReserved now => exact h.writeNextSegment hs

/-- **The response bookkeeping holds in every reachable state** of an endpoint whose responses
are at most `MAX_WINDOW_SIZE` bytes long. -/
theorem reachable_inv (h : Run.Reachable (step respond) Created e) : e.Inv :=
  Run.Reachable.inv (fun _ _ _ hi hs => step_inv hrespond hi hs)
    (fun _ ⟨_, _, _, _, _, _, ho⟩ => new_inv ho) h

end Respond

end Endpoint

end Dumbo
end Firecracker
