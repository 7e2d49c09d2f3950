import Firecracker.Dumbo.Connection
import Firecracker.Lib.Run

/-!
# Firecracker.Dumbo.SendWindow

The send side of a `Connection` stays consistent over every run: `first_not_sent` is at or after
`highest_ack_received`; once `close` fixed the sequence number `f` of our `FIN`,
`first_not_sent` is at most `f + 1`, and it is `f + 1` exactly when `FIN_SENT` is set; and the
status flags form the chains `ESTABLISHED → SYNACK_SENT → SYN_RECEIVED` and
`FIN_ACKED → FIN_SENT → ESTABLISHED`.

The invariant that carries this measures the send side from `highest_ack_received`
(`SendState.Inv`): the right edge of the remote window lies at most `2^16` ahead of it (the window
field has 16 bits and there is no window scaling), data is only sent up to that edge, and the
`FIN` takes one sequence number past it. All offsets then stay far below `MAX_WINDOW_SIZE`, so
every `seq_after` and `seq_at_or_after` the connection evaluates on them is a comparison of
natural numbers.
-/

namespace Firecracker
namespace Dumbo

open Wrapping

/-- The fields of a connection its send side consists of. -/
structure SendState where
  highestAckReceived : BitVec 32
  firstNotSent : BitVec 32
  remoteRwndEdge : BitVec 32
  sendFin : Option (BitVec 32)
  synReceived : Bool
  synackSent : Bool
  established : Bool
  finSent : Bool
  finAcked : Bool

theorem dist_one (a : BitVec 32) : dist a (a + 1) = 1 := by
  simp

theorem dist_succ (b a : BitVec 32) : dist b (a + 1) = (dist b a + 1) % 2 ^ 32 := by
  rw [dist_add_mod b a (a + 1), dist_one]

namespace SendState

/-- The send-side invariant, in distances ahead of `highest_ack_received`. -/
structure Inv (t : SendState) : Prop where
  edge_le : dist t.highestAckReceived (t.remoteRwndEdge + 1) ≤ 65537
  sent_le : dist t.highestAckReceived t.firstNotSent + (if t.finSent then 0 else 1) ≤
    dist t.highestAckReceived (t.remoteRwndEdge + 1)
  fin : ∀ f, t.sendFin = some f →
    if t.finSent then t.firstNotSent = f + 1
    else dist t.highestAckReceived t.firstNotSent ≤ dist t.highestAckReceived f ∧
      dist t.highestAckReceived f + 1 ≤ dist t.highestAckReceived (t.remoteRwndEdge + 1)
  finSent_sendFin : t.finSent = true → t.sendFin.isSome = true
  established_synackSent : t.established = true → t.synackSent = true
  synackSent_synReceived : t.synackSent = true → t.synReceived = true
  finAcked_finSent : t.finAcked = true → t.finSent = true
  finSent_established : t.finSent = true → t.established = true

variable {t : SendState}

theorem Inv.clearSynackSent (h : t.Inv) (he : t.established = false) :
    { t with synackSent := false }.Inv where
  edge_le := h.edge_le
  sent_le := h.sent_le
  fin := h.fin
  finSent_sendFin := h.finSent_sendFin
  established_synackSent := by simp [he]
  synackSent_synReceived := by simp
  finAcked_finSent := h.finAcked_finSent
  finSent_established := h.finSent_established

theorem Inv.setSynackSent (h : t.Inv) (hr : t.synReceived = true) :
    { t with synackSent := true }.Inv where
  edge_le := h.edge_le
  sent_le := h.sent_le
  fin := h.fin
  finSent_sendFin := h.finSent_sendFin
  established_synackSent := by simp
  synackSent_synReceived := fun _ => hr
  finAcked_finSent := h.finAcked_finSent
  finSent_established := h.finSent_established

theorem Inv.close (h : t.Inv) (hnone : t.sendFin = none) :
    { t with sendFin := some t.firstNotSent }.Inv := by
  have hfs : t.finSent = false := by
    cases hfs : t.finSent
    · rfl
    · simpa [hnone] using h.finSent_sendFin hfs
  have hsent := h.sent_le
  simp only [hfs, Bool.false_eq_true, if_false] at hsent
  refine ⟨h.edge_le, h.sent_le, ?_, ?_, h.established_synackSent, h.synackSent_synReceived,
    h.finAcked_finSent, h.finSent_established⟩
  · rintro f ⟨⟩
    simp only [hfs, Bool.false_eq_true, if_false]
    omega
  · simp

theorem Inv.ack (h : t.Inv) {ack : BitVec 32} (h₁ : dist t.highestAckReceived ack < 1073725440)
    (h₂ : dist ack t.firstNotSent < 1073725440) :
    { t with
      highestAckReceived := ack
      established := t.established || t.synackSent
      finAcked := t.finAcked || (t.finSent && ack == t.firstNotSent) }.Inv := by
  have hF := dist_add_mod t.highestAckReceived ack t.firstNotSent
  have hG := dist_add_mod t.highestAckReceived ack (t.remoteRwndEdge + 1)
  have hG' := dist_lt ack (t.remoteRwndEdge + 1)
  have hedge := h.edge_le
  have hsent := h.sent_le
  refine ⟨?_, ?_, ?_, h.finSent_sendFin, ?_, h.synackSent_synReceived, ?_, ?_⟩
  · dsimp only
    omega
  · dsimp only
    generalize (if t.finSent = true then 0 else 1) = k at hsent ⊢
    omega
  · intro f hf
    have hfin := h.fin f hf
    dsimp only
    split
    · simp_all
    · rename_i hfs
      simp only [hfs, Bool.false_eq_true, if_false] at hfin hsent
      have hφ := dist_add_mod t.highestAckReceived ack f
      have hφ' := dist_lt ack f
      omega
  · intro hest
    cases hs : t.synackSent
    · have := h.established_synackSent
      simp_all
    · rfl
  · intro hacked
    cases hfs : t.finSent
    · have := h.finAcked_finSent
      simp_all
    · rfl
  · intro hfs
    simp [h.finSent_established hfs]

theorem Inv.remoteEdge (h : t.Inv) (ws : BitVec 16)
    (hafter : seqAfter (t.highestAckReceived + ws.setWidth 32) t.remoteRwndEdge = true) :
    { t with remoteRwndEdge := t.highestAckReceived + ws.setWidth 32 }.Inv := by
  have hw : (ws.setWidth 32).toNat < 65536 := by
    have := ws.isLt
    simp only [BitVec.toNat_setWidth]
    omega
  have hnew : dist t.highestAckReceived (t.highestAckReceived + ws.setWidth 32 + 1) =
      (ws.setWidth 32).toNat + 1 := by
    rw [dist_succ, dist_self_add, Nat.mod_eq_of_lt (by omega)]
  have hR := dist_add_mod t.highestAckReceived t.remoteRwndEdge
    (t.highestAckReceived + ws.setWidth 32)
  have hG := dist_succ t.highestAckReceived t.remoteRwndEdge
  have hRlt := dist_lt t.highestAckReceived t.remoteRwndEdge
  rw [dist_self_add] at hR
  rw [seqAfter_iff] at hafter
  have hedge := h.edge_le
  have hsent := h.sent_le
  refine ⟨?_, ?_, ?_, h.finSent_sendFin, h.established_synackSent, h.synackSent_synReceived,
    h.finAcked_finSent, h.finSent_established⟩
  · dsimp only
    omega
  · dsimp only
    generalize (if t.finSent = true then 0 else 1) = k at hsent ⊢
    omega
  · intro f hf
    have hfin := h.fin f hf
    dsimp only
    split
    · simp_all
    · rename_i hfs
      simp only [hfs, Bool.false_eq_true, if_false] at hfin
      omega

theorem Inv.firstFin (h : t.Inv) (hfs : t.finSent = false)
    (hf : t.sendFin = some t.highestAckReceived) (hest : t.established = true) :
    { t with firstNotSent := t.firstNotSent + 1, finSent := true }.Inv := by
  have hfin := h.fin _ hf
  simp only [hfs, Bool.false_eq_true, if_false, dist_self] at hfin
  have hfns : t.firstNotSent = t.highestAckReceived :=
    (dist_eq_zero_iff.mp (by omega)).symm
  refine ⟨h.edge_le, ?_, ?_, by simp [hf], h.established_synackSent,
    h.synackSent_synReceived, fun _ => rfl, fun _ => hest⟩
  · simp only [hfns, dist_one, if_true]
    omega
  · intro f hf'
    rw [hf] at hf'
    cases hf'
    simp [hfns]

/-- The send side after a data segment of `L` bytes from `seq_to_send`: `first_not_sent` moves to
its end (one further when the segment ends at our `FIN` and carries it) if that lies after it. -/
def afterData (t : SendState) (sts : BitVec 32) (L : Nat) : SendState :=
  let fsa := sts + BitVec.ofNat 32 L
  let fsa' := if t.sendFin = some fsa then fsa + 1 else fsa
  { t with
    firstNotSent := if seqAfter fsa' t.firstNotSent then fsa' else t.firstNotSent
    finSent := t.finSent || decide (t.sendFin = some fsa) }

theorem Inv.dataBounds (h : t.Inv) {sts ae : BitVec 32} {L : Nat}
    (hsts : sts = t.highestAckReceived ∨ sts = t.firstNotSent)
    (hae : dist ae t.remoteRwndEdge < 1073725440) (hafter : seqAfter ae sts = true)
    (hL : L ≤ dist sts ae) :
    dist t.highestAckReceived (sts + BitVec.ofNat 32 L) = dist t.highestAckReceived sts + L ∧
      dist t.highestAckReceived sts + L ≤ dist t.highestAckReceived ae ∧
      dist t.highestAckReceived ae + 1 ≤ dist t.highestAckReceived (t.remoteRwndEdge + 1) := by
  have hedge := h.edge_le
  have hsent := h.sent_le
  have hs : dist t.highestAckReceived sts ≤ dist t.highestAckReceived t.firstNotSent := by
    rcases hsts with rfl | rfl <;> simp
  rw [seqAfter_iff] at hafter
  have ha := dist_add_mod t.highestAckReceived sts ae
  have hR := dist_add_mod t.highestAckReceived ae t.remoteRwndEdge
  have hG := dist_succ t.highestAckReceived t.remoteRwndEdge
  have hRlt := dist_lt t.highestAckReceived t.remoteRwndEdge
  have hfsa := dist_add_mod t.highestAckReceived sts (sts + BitVec.ofNat 32 L)
  rw [dist_self_add, BitVec.toNat_ofNat] at hfsa
  generalize (if t.finSent = true then 0 else 1) = k at hsent
  omega

theorem Inv.dataFin (h : t.Inv) {ae f : BitVec 32} (hf : t.sendFin = some f)
    (hpast : seqAfter ae f = false)
    (ha : dist t.highestAckReceived ae + 1 ≤ dist t.highestAckReceived (t.remoteRwndEdge + 1)) :
    dist t.highestAckReceived ae ≤ dist t.highestAckReceived f ∧
      dist t.highestAckReceived f + 1 ≤ dist t.highestAckReceived (t.remoteRwndEdge + 1) ∧
      if t.finSent then dist t.highestAckReceived t.firstNotSent = dist t.highestAckReceived f + 1
      else dist t.highestAckReceived t.firstNotSent ≤ dist t.highestAckReceived f := by
  have hfin := h.fin f hf
  have hedge := h.edge_le
  have hsent := h.sent_le
  have hx := dist_add_mod t.highestAckReceived f ae
  have hxlt := dist_lt f ae
  have hψlt := dist_lt t.highestAckReceived f
  have hpast' : ¬(0 < dist f ae ∧ dist f ae < 1073725440) := by
    rw [← seqAfter_iff, hpast]
    simp
  cases hfs : t.finSent
  · simp only [hfs, Bool.false_eq_true, if_false] at hfin hsent ⊢
    omega
  · simp only [hfs, if_true] at hfin hsent ⊢
    have hF := dist_succ t.highestAckReceived f
    rw [← hfin] at hF
    omega

theorem Inv.afterData (h : t.Inv) (hest : t.established = true) {sts ae : BitVec 32} {L : Nat}
    (hsts : sts = t.highestAckReceived ∨ sts = t.firstNotSent)
    (hae : dist ae t.remoteRwndEdge < 1073725440)
    (hpast : ∀ f, t.sendFin = some f → seqAfter ae f = false)
    (hafter : seqAfter ae sts = true) (hL : L ≤ dist sts ae) :
    (t.afterData sts L).Inv := by
  unfold SendState.afterData
  dsimp only
  obtain ⟨hoff, hle, haG⟩ := h.dataBounds hsts hae hafter hL
  generalize hfsa : sts + BitVec.ofNat 32 L = fsa at hoff ⊢
  generalize hfsa' : (if t.sendFin = some fsa then fsa + 1 else fsa) = fsa'
  have hedge := h.edge_le
  have hsent := h.sent_le
  have hF : dist t.highestAckReceived t.firstNotSent < 1073725440 := by
    split at hsent <;> omega
  by_cases hw : t.sendFin = some fsa
  · obtain ⟨hψ, hψG, hfs⟩ := h.dataFin hw (hpast _ hw) haG
    rw [if_pos hw] at hfsa'
    subst hfsa'
    have hd : dist t.highestAckReceived (fsa + 1) = dist t.highestAckReceived fsa + 1 := by
      rw [dist_succ, Nat.mod_eq_of_lt (by omega)]
    have hflag : (t.finSent || decide (t.sendFin = some fsa)) = true := by
      simp [hw]
    rw [hflag]
    cases hfs' : t.finSent
    · simp only [hfs', Bool.false_eq_true, if_false] at hfs
      have hnew : seqAfter (fsa + 1) t.firstNotSent = true :=
        (seqAfter_iff_dist_lt (by omega) hF).2 (by omega)
      rw [if_pos hnew]
      refine ⟨hedge, ?_, ?_, by simp [hw], h.established_synackSent, h.synackSent_synReceived,
        fun _ => rfl, fun _ => hest⟩
      · dsimp only
        rw [if_pos rfl]
        omega
      · intro f hf
        rw [hw] at hf
        cases hf
        rfl
    · simp only [hfs', if_true] at hfs
      have hold : seqAfter (fsa + 1) t.firstNotSent = false := by
        rw [← Bool.not_eq_true, seqAfter_iff_dist_lt (by omega) hF]
        omega
      rw [if_neg (by simp only [Bool.not_eq_true]; exact hold)]
      exact ⟨hedge, by simpa [hfs'] using hsent, by simpa [hfs'] using h.fin,
        by simp [hw], h.established_synackSent, h.synackSent_synReceived, fun _ => rfl,
        fun _ => hest⟩
  · rw [if_neg hw] at hfsa'
    subst hfsa'
    have hflag : (t.finSent || decide (t.sendFin = some fsa)) = t.finSent := by
      simp [hw]
    rw [hflag]
    have hfin' : ∀ f, t.sendFin = some f → dist t.highestAckReceived fsa ≤ dist t.highestAckReceived f ∧
        (t.finSent = true → dist t.highestAckReceived t.firstNotSent =
          dist t.highestAckReceived f + 1) := by
      intro f hf
      obtain ⟨hψ, -, hfs⟩ := h.dataFin hf (hpast _ hf) haG
      refine ⟨by omega, fun hfs' => ?_⟩
      simpa [hfs'] using hfs
    split
    · rename_i hnew
      rw [seqAfter_iff_dist_lt (by omega) hF] at hnew
      refine ⟨hedge, ?_, ?_, h.finSent_sendFin, h.established_synackSent,
        h.synackSent_synReceived, h.finAcked_finSent, h.finSent_established⟩
      · dsimp only
        split at hsent <;> split <;> omega
      · intro f hf
        obtain ⟨hψ, hfs⟩ := hfin' f hf
        have hfin := h.fin f hf
        dsimp only
        split
        · rename_i hfs'
          have := hfs hfs'
          omega
        · rename_i hfs'
          simp only [hfs', Bool.false_eq_true, if_false] at hfin
          omega
    · exact h

end SendState

namespace Connection

variable (c : Connection)

def sendState : SendState :=
  ⟨c.highestAckReceived, c.firstNotSent, c.remoteRwndEdge, c.sendFin, c.synReceived,
    c.synackSent, c.isEstablished, c.finSent, c.finAcked⟩

variable {c} {bufLen : Nat} {mssReserved : BitVec 16} {now : BitVec 64}

theorem sts_of_sendState {c₁ : Connection} {sts : BitVec 32} (hframe : c₁.sendState = c.sendState)
    (hsts : sts = c.highestAckReceived ∨ sts = c.firstNotSent) :
    sts = c₁.highestAckReceived ∨ sts = c₁.firstNotSent := by
  have h₁ := congrArg SendState.highestAckReceived hframe
  have h₂ := congrArg SendState.firstNotSent hframe
  simp only [sendState] at h₁ h₂
  rw [h₁, h₂]
  exact hsts

/-! ### What leaves the send side alone -/

@[simp] theorem sendState_setFlags_reset : (c.setFlags .reset).sendState = c.sendState := rfl

theorem sendState_writeSegment (seq ack : BitVec 32) (flags : BitVec 8)
    (payload : Option (List (BitVec 8) × Nat)) :
    (c.writeSegment bufLen mssReserved seq ack flags payload).1.sendState = c.sendState := by
  unfold writeSegment
  dsimp only
  split
  · rfl
  · split
    · rfl
    · split <;> rfl

theorem sendState_of_writeSegment {seq ack : BitVec 32} {flags : BitVec 8}
    {payload : Option (List (BitVec 8) × Nat)} {c' : Connection}
    {r : Except WriteNextError OutSegment}
    (h : c.writeSegment bufLen mssReserved seq ack flags payload = (c', r)) :
    c'.sendState = c.sendState := by
  have hc : (c.writeSegment bufLen mssReserved seq ack flags payload).1.sendState =
      c.sendState := sendState_writeSegment _ _ _ _
  rw [h] at hc
  exact hc

theorem sendState_writeControlSegment :
    (c.writeControlSegment bufLen mssReserved).1.sendState = c.sendState :=
  sendState_writeSegment _ _ _ _

theorem sendState_of_writeControlSegment {c' : Connection}
    {r : Except WriteNextError OutSegment}
    (h : c.writeControlSegment bufLen mssReserved = (c', r)) : c'.sendState = c.sendState := by
  have hc : (c.writeControlSegment bufLen mssReserved).1.sendState = c.sendState :=
    sendState_writeControlSegment
  rw [h] at hc
  exact hc

theorem sendState_writeRst : (c.writeRst bufLen mssReserved).1.sendState = c.sendState := by
  unfold writeRst
  split
  next c' e heq => exact sendState_of_writeControlSegment heq
  next c' seg heq =>
    have hc := sendState_of_writeControlSegment heq
    exact hc

theorem sendState_retransmitControl :
    (c.retransmitControl bufLen mssReserved now).1.sendState = c.sendState := by
  unfold retransmitControl
  split
  next c' e heq => exact sendState_of_writeControlSegment heq
  next c' seg heq =>
    have hc := sendState_of_writeControlSegment heq
    exact hc

theorem sendState_reset : c.reset.sendState = c.sendState := by
  unfold reset
  split <;> rfl

theorem sendState_resetForSegmentHelper (s : TcpSegment) (flags : BitVec 16) :
    (c.resetForSegmentHelper s flags).1.sendState = c.sendState := by
  unfold resetForSegmentHelper resetForSegment
  split <;> rfl

theorem writeSegment_payload {seq ack : BitVec 32} {flags : BitVec 8} {buf : List (BitVec 8)}
    {n : Nat} {c' : Connection} {seg : OutSegment}
    (h : c.writeSegment bufLen mssReserved seq ack flags (some (buf, n)) = (c', .ok seg)) :
    seg.payload <+: buf ∧ 0 < seg.payload.length ∧ seg.payload.length ≤ n := by
  unfold writeSegment at h
  dsimp only at h
  split at h
  · cases h
  · split at h
    next e hw => cases h
    next seg' hw =>
      cases h
      exact (writeIncompleteSegment_ok hw).2.2.2.2

/-! ### `write_next_segment` -/

theorem seqToSend_cases (c : Connection) (bufLen : Nat) (mssReserved : BitVec 16) (now : BitVec 64) :
    c.seqToSend bufLen mssReserved now =
        .inl (({ c with rtoCount := c.rtoCount + 1 } : Connection).reset.writeRst bufLen mssReserved) ∨
      c.seqToSend bufLen mssReserved now =
        .inl (({ c with rtoCount := c.rtoCount + 1 } : Connection).retransmitControl bufLen mssReserved now) ∨
      c.seqToSend bufLen mssReserved now =
        .inr ({ c with rtoCount := c.rtoCount + 1 }, c.highestAckReceived, true) ∨
      c.seqToSend bufLen mssReserved now = .inr (c, c.highestAckReceived, false) ∨
      c.seqToSend bufLen mssReserved now = .inr (c, c.firstNotSent, false) := by
  unfold seqToSend
  split
  · dsimp only
    split
    · exact .inl rfl
    · split
      · exact .inr (.inl rfl)
      · exact .inr (.inr (.inl rfl))
  · split
    · exact .inr (.inr (.inr (.inl rfl)))
    · exact .inr (.inr (.inr (.inr rfl)))

theorem seqToSend_inl {ret : Connection × WriteResult}
    (h : c.seqToSend bufLen mssReserved now = .inl ret) : ret.1.sendState = c.sendState := by
  rcases seqToSend_cases c bufLen mssReserved now with hc | hc | hc | hc | hc <;> rw [hc] at h <;>
    cases h
  · exact sendState_writeRst.trans sendState_reset
  · exact sendState_retransmitControl

theorem seqToSend_inr {c' : Connection} {sts : BitVec 32} {rto : Bool}
    (h : c.seqToSend bufLen mssReserved now = .inr (c', sts, rto)) :
    c'.sendState = c.sendState ∧ (sts = c.highestAckReceived ∨ sts = c.firstNotSent) := by
  rcases seqToSend_cases c bufLen mssReserved now with hc | hc | hc | hc | hc <;> rw [hc] at h <;>
    cases h
  · exact ⟨rfl, .inl rfl⟩
  · exact ⟨rfl, .inl rfl⟩
  · exact ⟨rfl, .inr rfl⟩

theorem sendState_afterDataSegment (seg : OutSegment) (sts : BitVec 32) (rto : Bool) :
    (c.afterDataSegment seg sts rto now).1.sendState =
      c.sendState.afterData sts seg.payload.length := by
  unfold afterDataSegment SendState.afterData
  dsimp only
  simp only [setFlags, sendState, finSent, flagsIntersect, isEstablished, finAcked, synackSent,
    synReceived]
  split_ifs <;> simp_all

theorem sendData_inr {readBuf : List (BitVec 8)} {payloadSeq sts : BitVec 32} {rto : Bool}
    {c' : Connection}
    (h : c.sendData bufLen mssReserved readBuf payloadSeq now sts rto = .inr c') : c' = c := by
  unfold sendData at h
  dsimp only at h
  split at h
  · cases h
  split at h
  · cases h
  split at h
  · split at h <;> cases h
  · cases h
    rfl

theorem sendData_inl_cases {readBuf : List (BitVec 8)} {payloadSeq sts : BitVec 32} {rto : Bool}
    {ret : Connection × WriteResult}
    (h : c.sendData bufLen mssReserved readBuf payloadSeq now sts rto = .inl ret) :
    (∃ e, ret = (c, .error e)) ∨
      seqAtOrAfter sts payloadSeq = true ∧
        c.passesFin (c.actualEnd (payloadSeq + BitVec.ofNat 32 readBuf.length)) = false ∧
        seqAfter (c.actualEnd (payloadSeq + BitVec.ofNat 32 readBuf.length)) sts = true ∧
        ∃ c' res, c.writeSegment bufLen mssReserved sts c.ackToSend TcpFlags.ack
            (some (readBuf, (c.actualEnd (payloadSeq + BitVec.ofNat 32 readBuf.length) - sts).toNat)) =
              (c', res) ∧
          ((∃ e, res = .error e ∧ ret = (c', .error e)) ∨
            ∃ seg, res = .ok seg ∧ ret = c'.afterDataSegment seg sts rto now) := by
  unfold sendData at h
  dsimp only at h
  split at h
  · cases h
    exact .inl ⟨_, rfl⟩
  rename_i hseq
  split at h
  · cases h
    exact .inl ⟨_, rfl⟩
  rename_i hfin
  split at h
  · rename_i hafter
    refine .inr ⟨by simpa using hseq, by simpa using hfin, hafter, ?_⟩
    split at h
    next c' e hw =>
      cases h
      exact ⟨c', _, hw, .inl ⟨e, rfl, rfl⟩⟩
    next c' seg hw =>
      cases h
      exact ⟨c', _, hw, .inr ⟨seg, rfl, rfl⟩⟩
  · cases h

theorem dist_actualEnd_lt (payloadEnd : BitVec 32) :
    dist (c.actualEnd payloadEnd) c.remoteRwndEdge < 1073725440 := by
  unfold actualEnd
  split
  · rename_i hpe
    exact seqAtOrAfter_iff.mp hpe
  · simp

theorem sendData_inl_inv (hinv : c.sendState.Inv) (hest : c.isEstablished = true)
    {readBuf : List (BitVec 8)} {payloadSeq sts : BitVec 32} {rto : Bool}
    (hsts : sts = c.highestAckReceived ∨ sts = c.firstNotSent) {ret : Connection × WriteResult}
    (h : c.sendData bufLen mssReserved readBuf payloadSeq now sts rto = .inl ret) :
    ret.1.sendState.Inv := by
  rcases sendData_inl_cases h with
    ⟨e, rfl⟩ | ⟨-, hpast, hafter, c', res, hw, ⟨e, rfl, rfl⟩ | ⟨seg, rfl, rfl⟩⟩
  · exact hinv
  · rw [sendState_of_writeSegment hw]
    exact hinv
  have hedge := dist_actualEnd_lt (c := c) (payloadSeq + BitVec.ofNat 32 readBuf.length)
  have hpast' : ∀ f, c.sendState.sendFin = some f →
      seqAfter (c.actualEnd (payloadSeq + BitVec.ofNat 32 readBuf.length)) f = false := by
    intro f hf
    have hf' : c.sendFin = some f := hf
    simpa [passesFin, hf'] using hpast
  obtain ⟨-, -, hlen⟩ := writeSegment_payload hw
  rw [sendState_afterDataSegment, sendState_of_writeSegment hw]
  exact hinv.afterData hest hsts hedge hpast' hafter hlen

theorem canSendFirstFin_iff :
    c.canSendFirstFin = true ↔ c.finSent = false ∧ c.sendFin = some c.highestAckReceived := by
  unfold canSendFirstFin
  cases c.sendFin <;> simp

theorem writePendingControl_inv (hinv : c.sendState.Inv) (hest : c.isEstablished = true) :
    (c.writePendingControl bufLen mssReserved).1.sendState.Inv := by
  unfold writePendingControl
  dsimp only
  split
  · split
    next c' e heq =>
      rw [sendState_of_writeControlSegment heq]
      exact hinv
    next c' seg heq =>
      have hframe := sendState_of_writeControlSegment heq
      split
      · rename_i hfin
        obtain ⟨hfs, hf⟩ := canSendFirstFin_iff.mp hfin
        have hnew : (({ c' with firstNotSent := c'.firstNotSent + 1 } : Connection).setFlags
            .finSent).sendState =
            { c'.sendState with firstNotSent := c'.sendState.firstNotSent + 1, finSent := true } :=
          rfl
        rw [hnew, hframe]
        exact hinv.firstFin hfs hf hest
      · rw [hframe]
        exact hinv
  · exact hinv

theorem writeNextSegment_inv (hinv : c.sendState.Inv) (payloadSrc : PayloadSource) :
    (c.writeNextSegment bufLen mssReserved payloadSrc now).1.sendState.Inv := by
  unfold writeNextSegment
  split
  · exact hinv
  split
  · rw [sendState_writeRst]
    exact hinv
  split
  · rename_i hpending
    split
    next c' e heq =>
      rw [sendState_of_writeControlSegment heq]
      exact hinv
    next c' seg heq =>
      have hnew : ({ c'.setFlags .synackSent with rtoStart := now } : Connection).sendState =
          { c'.sendState with synackSent := true } := rfl
      rw [hnew, sendState_of_writeControlSegment heq]
      simp only [synackPending, Bool.and_eq_true, Bool.not_eq_eq_eq_not, Bool.not_true] at hpending
      exact hinv.setSynackSent hpending.1
  split
  · dsimp only
    split
    · split
      · rw [sendState_writeRst, sendState_reset]
        exact hinv
      · rw [sendState_retransmitControl]
        exact hinv
    · exact hinv
  rename_i hest
  simp only [Bool.not_eq_true', Bool.not_eq_false] at hest
  split
  · split
    · exact hinv
    · split
      next ret hs => rw [seqToSend_inl hs]; exact hinv
      next c₁ sts rto hs =>
        obtain ⟨hframe, hsts⟩ := seqToSend_inr hs
        have hinv₁ : c₁.sendState.Inv := hframe ▸ hinv
        have hest₁ : c₁.isEstablished = true := by
          have := congrArg SendState.established hframe
          simpa [sendState, hest] using this
        have hsts₁ := sts_of_sendState hframe hsts
        split
        next ret hd => exact sendData_inl_inv hinv₁ hest₁ hsts₁ hd
        next c₂ hd =>
          rw [sendData_inr hd]
          exact writePendingControl_inv hinv₁ hest₁
  · exact writePendingControl_inv hinv hest

/-! ### `receive_segment` -/

theorem receiveHandshake_inl {s : TcpSegment} {ret : Connection × RecvResult}
    (h : c.receiveHandshake s = .inl ret) :
    ret.1.sendState = c.sendState ∨
      (c.isEstablished = false ∧ ret.1.sendState = { c.sendState with synackSent := false }) := by
  unfold receiveHandshake at h
  split at h
  · split at h <;> cases h
    · exact .inl rfl
    · exact .inl (sendState_resetForSegmentHelper _ _)
  split at h
  · rename_i hest
    simp only [Bool.not_eq_true'] at hest
    split at h
    · cases h
      exact .inr ⟨hest, rfl⟩
    split at h
    · cases h
      exact .inl (sendState_resetForSegmentHelper _ _)
    · cases h
  split at h
  · cases h
    exact .inl (sendState_resetForSegmentHelper _ _)
  · cases h

theorem receiveHandshake_inr {s : TcpSegment} {c' : Connection}
    (h : c.receiveHandshake s = .inr c') : c' = c := by
  unfold receiveHandshake at h
  split at h
  · split at h <;> cases h
  split at h
  · split at h
    · cases h
    split at h
    · cases h
    · cases h
      rfl
  split at h
  · cases h
  · cases h
    rfl

theorem updateRemoteRwndEdge_inv (hinv : c.sendState.Inv) {ack : BitVec 32}
    (hack : c.highestAckReceived = ack) (ws : BitVec 16) (flags : BitVec 16) :
    (c.updateRemoteRwndEdge ack ws flags).1.sendState.Inv := by
  unfold updateRemoteRwndEdge
  split
  · dsimp only
    split
    · rename_i hafter
      subst hack
      exact hinv.remoteEdge ws hafter
    · split <;> exact hinv
  · exact hinv

theorem ackProgress_highestAckReceived (ack : BitVec 32) :
    (c.ackProgress ack now).highestAckReceived = ack := by
  unfold ackProgress
  dsimp only
  split_ifs <;> rfl

theorem sendState_ackProgress (ack : BitVec 32) :
    (c.ackProgress ack now).sendState =
      { c.sendState with
        highestAckReceived := ack
        established := c.isEstablished || c.synackSent
        finAcked := c.finAcked || (c.finSent && ack == c.firstNotSent) } := by
  unfold ackProgress
  dsimp only
  split_ifs with h₁ h₂ h₂ <;>
    simp only [sendState, setFlags, isEstablished, synackSent, synReceived, finSent, finAcked,
      flagsIntersect, ConnStatusFlags.get_set_self, ne_eq, reduceCtorEq, not_false_eq_true,
      ConnStatusFlags.get_set_of_ne, SendState.mk.injEq, true_and] at h₁ h₂ ⊢ <;>
    cases hE : c.statusFlags.get .established <;> simp_all

theorem receiveValidAck_inv (hinv : c.sendState.Inv) {s : TcpSegment} {ack : BitVec 32}
    (h₁ : seqAtOrAfter ack c.highestAckReceived = true)
    (h₂ : seqAtOrAfter c.firstNotSent ack = true) {c' : Connection} {flags : BitVec 16}
    (h : c.receiveValidAck s ack now = .inr (c', flags)) : c'.sendState.Inv := by
  unfold receiveValidAck at h
  dsimp only at h
  split at h
  · rename_i hdup
    have hack : c.highestAckReceived = ack := by
      simp only [Bool.and_eq_true, beq_iff_eq] at hdup
      exact hdup.1.symm
    split at h
    · cases h
    · have hc' : _ = c' := congrArg Prod.fst (Sum.inr.inj h)
      rw [← hc']
      refine updateRemoteRwndEdge_inv ?_ ?_ _ _
      · exact hinv
      · exact hack
  · have hc' : _ = c' := congrArg Prod.fst (Sum.inr.inj h)
    rw [← hc']
    refine updateRemoteRwndEdge_inv ?_ (ackProgress_highestAckReceived _) _ _
    rw [sendState_ackProgress]
    exact hinv.ack (seqAtOrAfter_iff.mp h₁) (seqAtOrAfter_iff.mp h₂)

theorem receiveAck_inl {s : TcpSegment} {ret : Connection × RecvResult}
    (h : c.receiveAck s now = .inl ret) : ret.1.sendState = c.sendState := by
  unfold receiveAck at h
  split at h
  · dsimp only at h
    split at h
    · unfold receiveValidAck at h
      dsimp only at h
      split at h
      · split at h
        · cases h
          exact sendState_resetForSegmentHelper _ _
        · cases h
      · cases h
    split at h
    · cases h
      exact sendState_resetForSegmentHelper _ _
    · cases h
  · cases h

theorem receiveAck_inv (hinv : c.sendState.Inv) {s : TcpSegment} {c' : Connection}
    {flags : BitVec 16} (h : c.receiveAck s now = .inr (c', flags)) : c'.sendState.Inv := by
  unfold receiveAck at h
  split at h
  · dsimp only at h
    split at h
    · rename_i hvalid
      simp only [Bool.and_eq_true] at hvalid
      exact receiveValidAck_inv hinv hvalid.1 hvalid.2 h
    split at h
    · cases h
    · cases h
      exact hinv
  · cases h
    exact hinv

theorem sendState_receivePayload (s : TcpSegment) (bufLen : Nat) (flags : BitVec 16) :
    (c.receivePayload s bufLen flags).1.sendState = c.sendState := by
  unfold receivePayload
  dsimp only
  split
  · rfl
  split
  next ret hd =>
    unfold receiveData at hd
    dsimp only at hd
    split at hd
    · split at hd
      · cases hd
        rfl
      split at hd
      · cases hd
        rfl
      split at hd
      · cases hd
        rfl
      · cases hd
    · cases hd
  next c₁ e hd =>
    have h₁ : c₁.sendState = c.sendState := by
      unfold receiveData at hd
      dsimp only at hd
      split at hd
      · split at hd
        · cases hd
        split at hd
        · cases hd
        split at hd
        · cases hd
        · cases hd
          rfl
      · cases hd
        rfl
    have h₂ : (c₁.receiveFin s flags e).1.sendState = c₁.sendState := by
      unfold receiveFin
      split
      · dsimp only
        split <;> rfl
      · rfl
    split
    · split
      · exact h₂.trans h₁
      · exact h₂.trans h₁
    · exact h₂.trans h₁

theorem receiveSegment_inv (hinv : c.sendState.Inv) (s : TcpSegment) (bufLen : Nat) :
    (c.receiveSegment s bufLen now).1.sendState.Inv := by
  unfold receiveSegment
  split
  · exact hinv
  split
  · dsimp only
    split
    · exact hinv
    · exact hinv
  split
  next ret hh =>
    rcases receiveHandshake_inl hh with hsame | ⟨hest, hclear⟩
    · rw [hsame]
      exact hinv
    · rw [hclear]
      exact hinv.clearSynackSent hest
  next c₁ hh =>
    obtain rfl := receiveHandshake_inr hh
    split
    next ret ha =>
      rw [receiveAck_inl ha]
      exact hinv
    next c₂ flags ha =>
      have hinv₂ := receiveAck_inv hinv ha
      split
      · exact hinv₂
      · rw [sendState_receivePayload]
        exact hinv₂

/-! ### Runs -/

theorem close_inv (hinv : c.sendState.Inv) : c.close.sendState.Inv := by
  unfold close
  split
  · rename_i hnone
    exact hinv.close (Option.isNone_iff_eq_none.mp hnone)
  · exact hinv

theorem sendState_advanceLocalRwndEdge (value : BitVec 32) :
    (c.advanceLocalRwndEdge value).sendState = c.sendState := by
  unfold advanceLocalRwndEdge enqueueAck
  dsimp only
  split_ifs <;>
    simp only [sendState, isEstablished, synReceived, synackSent, finSent, finAcked, flagsIntersect]

theorem step_sendInv {c' : Connection} {op : ConnOp} (hinv : c.sendState.Inv)
    (h : c.step op = some c') : c'.sendState.Inv := by
  cases op with
  | receiveSegment s bufLen now =>
    cases h
    exact receiveSegment_inv hinv s bufLen
  | writeNextSegment bufLen mssReserved payloadSrc now =>
    cases h
    exact writeNextSegment_inv hinv payloadSrc
  | close =>
    cases h
    exact close_inv hinv
  | reset =>
    cases h
    rw [sendState_reset]
    exact hinv
  | advanceLocalRwndEdge value =>
    cases h
    rw [sendState_advanceLocalRwndEdge]
    exact hinv

theorem passiveOpen_sendInv {segment : TcpSegment} {localRwndSize : BitVec 32}
    {rtoPeriod : {p : BitVec 64 // p ≠ 0}} {rtoCountMax : {m : BitVec 16 // m ≠ 0}}
    {isn : BitVec 32} (h : passiveOpen segment localRwndSize rtoPeriod rtoCountMax isn = .ok c) :
    c.sendState.Inv := by
  unfold passiveOpen at h
  split at h
  · cases h
  split at h
  · cases h
  cases h
  have hw : (segment.windowSize.setWidth 32).toNat < 65536 := by
    have := segment.windowSize.isLt
    simp only [BitVec.toNat_setWidth]
    omega
  have hedge : dist isn (isn + 1 + segment.windowSize.setWidth 32 + 1) =
      (segment.windowSize.setWidth 32).toNat + 2 := by
    have hone : (1 : BitVec 32).toNat = 1 := rfl
    rw [add_assoc, add_assoc, dist_self_add]
    simp only [BitVec.toNat_add]
    omega
  refine ⟨?_, ?_, ?_, ?_, ?_, fun _ => rfl, ?_, ?_⟩
  · show dist isn (isn + 1 + segment.windowSize.setWidth 32 + 1) ≤ 65537
    omega
  · show dist isn (isn + 1) + 1 ≤ dist isn (isn + 1 + segment.windowSize.setWidth 32 + 1)
    rw [dist_one]
    omega
  · rintro f ⟨⟩
  all_goals
    intro hflag
    cases hflag

/-- **The send side of a connection stays consistent.** In every state a run of calls reaches
from a connection that `passive_open` created: `first_not_sent` is at or after
`highest_ack_received`; once our `FIN` has the sequence number `f`, `first_not_sent` is at or
before `f + 1`, and equal to it exactly when `FIN_SENT` is set; and the status flags form the
chains `ESTABLISHED → SYNACK_SENT → SYN_RECEIVED` and `FIN_ACKED → FIN_SENT → ESTABLISHED`. -/
theorem sendSide_consistent {c : Connection} (h : Run.Reachable step Opened c) :
    seqAtOrAfter c.firstNotSent c.highestAckReceived = true ∧
    (∀ f, c.sendFin = some f →
      seqAtOrAfter (f + 1) c.firstNotSent = true ∧ (c.finSent = true ↔ c.firstNotSent = f + 1)) ∧
    (c.isEstablished = true → c.synackSent = true) ∧ (c.synackSent = true → c.synReceived = true) ∧
    (c.finAcked = true → c.finSent = true) ∧ (c.finSent = true → c.isEstablished = true) := by
  have hinv : c.sendState.Inv :=
    Run.Reachable.inv (fun _ _ _ hi hs => step_sendInv hi hs)
      (fun _ ⟨_, _, _, _, _, ho⟩ => passiveOpen_sendInv ho) h
  have hedge := hinv.edge_le
  have hsent := hinv.sent_le
  simp only [sendState] at hedge hsent
  refine ⟨?_, ?_, hinv.established_synackSent, hinv.synackSent_synReceived,
    hinv.finAcked_finSent, hinv.finSent_established⟩
  · rw [seqAtOrAfter_iff]
    generalize (if c.finSent = true then 0 else 1) = k at hsent
    omega
  · intro f hf
    have hfin := hinv.fin f hf
    cases hfs : c.finSent
    · simp only [sendState, hfs, Bool.false_eq_true, if_false] at hfin hsent
      have h₁ := dist_add_mod c.highestAckReceived c.firstNotSent (f + 1)
      have h₂ := dist_succ c.highestAckReceived f
      have h₃ := dist_lt c.firstNotSent (f + 1)
      refine ⟨seqAtOrAfter_iff.mpr (by omega), ?_⟩
      simp only [Bool.false_eq_true, false_iff]
      intro heq
      rw [← heq] at h₂
      omega
    · simp only [sendState, hfs, if_true] at hfin
      simp [hfin, seqAtOrAfter_iff]

/-- A passive open for a `SYN` from sequence number 100 with initial sequence number 7, then: the
`SYNACK` written, the guest's ACK of it received, `close`, and the `FIN` written. -/
theorem sendSide_consistent_finSent :
    let c₀ : Connection :=
      { ackToSend := 101, highestAckReceived := 7, firstNotSent := 8, localRwndEdge := 2601,
        remoteRwndEdge := 1008, rtoStart := 0, rtoPeriod := 1200, rtoCount := 0, rtoCountMax := 15,
        finReceived := none, sendFin := none, sendRst := none, mss := 536, pendingAck := false,
        dupAck := false, statusFlags := ⟨true, false, false, false, false, false⟩ }
    let c : Connection :=
      (((c₀.writeNextSegment 100 0 none 0).1.receiveSegment ⟨101, 8, TcpFlags.ack, 1000, .ok none, []⟩
        100 1).1.close.writeNextSegment 100 0 none 2).1
    Run.Reachable step Opened c ∧ c.sendFin = some 8 ∧ c.finSent = true ∧
    (seqAtOrAfter c.firstNotSent c.highestAckReceived = true ∧
    (∀ f, c.sendFin = some f →
      seqAtOrAfter (f + 1) c.firstNotSent = true ∧ (c.finSent = true ↔ c.firstNotSent = f + 1)) ∧
    (c.isEstablished = true → c.synackSent = true) ∧ (c.synackSent = true → c.synReceived = true) ∧
    (c.finAcked = true → c.finSent = true) ∧ (c.finSent = true → c.isEstablished = true)) := by
  intro c₀ c
  have hopen : Run.Reachable step Opened c₀ :=
    .init ⟨⟨100, 0, TcpFlags.syn, 1000, .ok none, []⟩, 2500, ⟨1200, by decide⟩, ⟨15, by decide⟩,
      7, rfl⟩
  have hrun : Run.Reachable step Opened c :=
    .step (.step (.step (.step hopen (a := .writeNextSegment 100 0 none 0) rfl)
      (a := .receiveSegment ⟨101, 8, TcpFlags.ack, 1000, .ok none, []⟩ 100 1) rfl)
      (a := .close) rfl) (a := .writeNextSegment 100 0 none 2) rfl
  exact ⟨hrun, by decide, by decide, sendSide_consistent hrun⟩

end Connection

end Dumbo
end Firecracker
