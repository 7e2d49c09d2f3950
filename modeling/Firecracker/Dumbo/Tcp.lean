import Firecracker.Lib.Wrapping

/-!
# Firecracker.Dumbo.Tcp

What a dumbo `Connection` uses from `dumbo::tcp` and `dumbo::pdu::tcp`: the sequence number
relations `seq_after` and `seq_at_or_after` relative to `MAX_WINDOW_SIZE`, `RstConfig`, the TCP
header flags, the fields of an incoming `TcpSegment` a connection reads, and
`TcpSegment::write_incomplete_segment`, which writes an outgoing segment into a buffer of a given
length.

An incoming segment is its parsed view: sequence and acknowledgement numbers, the flags byte after
`NS`, the window, the payload, and what `parse_mss_option_unchecked` returns for its options. An
outgoing segment is the header fields and payload `write_incomplete_segment` writes; ports and the
checksum are added later by `finalize`.
-/

namespace Firecracker
namespace Dumbo

/-- `MAX_WINDOW_SIZE`: the largest possible window size (with window scaling). -/
def maxWindowSize : BitVec 32 := 1073725440

/-- `MSS_DEFAULT`: the MSS used when the handshake carries no MSS option. -/
def mssDefault : BitVec 16 := 536

/-- `seq_after(a, b)`: `a` comes after `b` in sequence space, within `MAX_WINDOW_SIZE`. -/
def seqAfter (a b : BitVec 32) : Bool := a != b && decide (a - b < maxWindowSize)

def seqAtOrAfter (a b : BitVec 32) : Bool := decide (a - b < maxWindowSize)

@[simp] theorem maxWindowSize_toNat : maxWindowSize.toNat = 1073725440 := rfl

theorem seqAtOrAfter_iff {a b : BitVec 32} :
    seqAtOrAfter a b = true ↔ Wrapping.dist b a < 1073725440 := by
  simp [seqAtOrAfter, Wrapping.sub_lt_iff_dist]

theorem seqAfter_iff {a b : BitVec 32} :
    seqAfter a b = true ↔ 0 < Wrapping.dist b a ∧ Wrapping.dist b a < 1073725440 := by
  have hne : a ≠ b ↔ 0 < Wrapping.dist b a := by
    rw [Nat.pos_iff_ne_zero, Ne, Ne, Wrapping.dist_eq_zero_iff, eq_comm]
  simp [seqAfter, Wrapping.sub_lt_iff_dist, hne]

theorem seqAfter_iff_dist_lt {b x y : BitVec 32} (hx : Wrapping.dist b x < 1073725440)
    (hy : Wrapping.dist b y < 1073725440) :
    seqAfter x y = true ↔ Wrapping.dist b y < Wrapping.dist b x := by
  have h := Wrapping.dist_add_mod b y x
  have h' := Wrapping.dist_lt y x
  rw [seqAfter_iff]
  omega

theorem seqAfter_eq_false_of_dist {x a b : BitVec 32} (hxa : Wrapping.dist x a < 1073725440)
    (hab : Wrapping.dist a b < 1073725440) : seqAfter x b = false := by
  have hxb := Wrapping.dist_add_mod x a b
  have hturn := Wrapping.dist_add_mod b x b
  have hbx := Wrapping.dist_lt b x
  rw [Wrapping.dist_self] at hturn
  cases hs : seqAfter x b
  · rfl
  · have := seqAfter_iff.mp hs
    omega

inductive NextSegmentStatus
  | available
  | nothing
  | timeout (t : BitVec 64)
  deriving DecidableEq, Repr

/-! ### Segments -/

namespace TcpFlags

def cwr : BitVec 8 := 0x80
def ece : BitVec 8 := 0x40
def urg : BitVec 8 := 0x20
def ack : BitVec 8 := 0x10
def psh : BitVec 8 := 0x08
def rst : BitVec 8 := 0x04
def syn : BitVec 8 := 0x02
def fin : BitVec 8 := 0x01

def intersects (a b : BitVec 8) : Bool := a &&& b != 0

end TcpFlags

inductive TcpError
  | checksum
  | emptyPayload
  | headerLen
  | mssOption
  | mssRemaining
  | sliceTooShort
  deriving DecidableEq, Repr

/-- The fields of an incoming `TcpSegment` that a connection reads; `mssOption` is the result
of `parse_mss_option_unchecked(header_len())`. -/
structure TcpSegment where
  sequenceNumber : BitVec 32
  ackNumber : BitVec 32
  flagsAfterNs : BitVec 8
  windowSize : BitVec 16
  mssOption : Except TcpError (Option (BitVec 16))
  payload : List (BitVec 8)

/-- `RstConfig`: the sequence and acknowledgement numbers of an outgoing `RST`. -/
inductive RstConfig
  | seq (n : BitVec 32)
  | ack (n : BitVec 32)
  deriving DecidableEq, Repr

namespace RstConfig

def new (s : TcpSegment) : RstConfig :=
  if TcpFlags.intersects s.flagsAfterNs TcpFlags.ack then .seq s.ackNumber
  else .ack (s.sequenceNumber + BitVec.ofNat 32 s.payload.length)

def seqAckTcpFlags : RstConfig → BitVec 32 × BitVec 32 × BitVec 8
  | .seq n => (n, 0, TcpFlags.rst)
  | .ack n => (0, n, TcpFlags.rst ||| TcpFlags.ack)

end RstConfig

structure OutSegment where
  sequenceNumber : BitVec 32
  ackNumber : BitVec 32
  headerLen : Nat
  flagsAfterNs : BitVec 8
  windowSize : BitVec 16
  mssOption : Option (BitVec 16)
  payload : List (BitVec 8)
  deriving DecidableEq, Repr

/-- `OPTIONS_OFFSET`: the length of a header without options. -/
def optionsOffset : Nat := 20

def optionLenMss : Nat := 4

/-- `TcpSegment::write_incomplete_segment` into a buffer of `bufLen` bytes. A payload
`(payload_buf, max_payload_bytes)` contributes its first bytes, as many as fit in the buffer, in
`mss_remaining` and in `max_payload_bytes`; it is read from offset `0` of `payload_buf`. -/
def writeIncompleteSegment (bufLen : Nat) (seqNumber ackNumber : BitVec 32)
    (flagsAfterNs : BitVec 8) (windowSize : BitVec 16) (mssOption : Option (BitVec 16))
    (mssRemaining : BitVec 16) (payload : Option (List (BitVec 8) × Nat)) :
    Except TcpError OutSegment :=
  if mssOption.isSome ∧ mssRemaining.toNat < optionLenMss then .error .mssRemaining
  else
    let optionsLen := if mssOption.isSome then optionLenMss else 0
    let mssLeft := mssRemaining.toNat - optionsLen
    let segmentLen := optionsOffset + optionsLen
    if bufLen < segmentLen then .error .sliceTooShort
    else
      let header : List (BitVec 8) → OutSegment := fun bytes =>
        { sequenceNumber := seqNumber, ackNumber := ackNumber, headerLen := segmentLen,
          flagsAfterNs, windowSize, mssOption, payload := bytes }
      match payload with
      | none => .ok (header [])
      | some (payloadBuf, maxPayloadBytes) =>
        let leftToRead := min payloadBuf.length maxPayloadBytes
        let roomForPayload := min (min (bufLen - segmentLen) mssLeft) leftToRead
        if roomForPayload = 0 then .error .emptyPayload
        else .ok (header (payloadBuf.take roomForPayload))

theorem writeIncompleteSegment_ok {bufLen : Nat} {seqNumber ackNumber : BitVec 32}
    {flagsAfterNs : BitVec 8} {windowSize : BitVec 16} {mssOption : Option (BitVec 16)}
    {mssRemaining : BitVec 16} {payload : Option (List (BitVec 8) × Nat)} {seg : OutSegment}
    (h : writeIncompleteSegment bufLen seqNumber ackNumber flagsAfterNs windowSize mssOption
      mssRemaining payload = .ok seg) :
    seg.sequenceNumber = seqNumber ∧ seg.ackNumber = ackNumber ∧
      seg.flagsAfterNs = flagsAfterNs ∧ seg.windowSize = windowSize ∧
      match payload with
      | none => seg.payload = []
      | some (payloadBuf, maxPayloadBytes) =>
        seg.payload <+: payloadBuf ∧ 0 < seg.payload.length ∧
          seg.payload.length ≤ maxPayloadBytes := by
  unfold writeIncompleteSegment at h
  split at h
  · contradiction
  dsimp only at h
  generalize (if mssOption.isSome = true then optionLenMss else 0) = optionsLen at h
  split at h
  · contradiction
  rcases payload with _ | ⟨payloadBuf, maxPayloadBytes⟩
  · cases h
    exact ⟨rfl, rfl, rfl, rfl, rfl⟩
  · dsimp only at h
    split at h
    · contradiction
    · rename_i hroom
      cases h
      refine ⟨rfl, rfl, rfl, rfl, List.take_prefix _ _, ?_, ?_⟩
      · simp only [List.length_take]
        omega
      · simp only [List.length_take]
        omega

theorem writeIncompleteSegment_payload_le {bufLen : Nat} {seqNumber ackNumber : BitVec 32}
    {flagsAfterNs : BitVec 8} {windowSize : BitVec 16} {mssOption : Option (BitVec 16)}
    {mssRemaining : BitVec 16} {payload : Option (List (BitVec 8) × Nat)} {seg : OutSegment}
    (h : writeIncompleteSegment bufLen seqNumber ackNumber flagsAfterNs windowSize mssOption
      mssRemaining payload = .ok seg) :
    seg.payload.length ≤ mssRemaining.toNat := by
  unfold writeIncompleteSegment at h
  split at h
  · contradiction
  dsimp only at h
  generalize (if mssOption.isSome = true then optionLenMss else 0) = optionsLen at h
  split at h
  · contradiction
  rcases payload with _ | ⟨payloadBuf, maxPayloadBytes⟩
  · cases h
    exact Nat.zero_le _
  · dsimp only at h
    split at h
    · contradiction
    · cases h
      simp only [List.length_take]
      omega

end Dumbo
end Firecracker
