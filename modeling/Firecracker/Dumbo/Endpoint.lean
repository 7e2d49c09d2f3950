import Firecracker.Dumbo.Connection

/-!
# Firecracker.Dumbo.Endpoint

The MMDS `Endpoint`: an HTTP server on one dumbo `Connection`. Incoming bytes collect in a receive
buffer of `RCV_BUF_MAX_SIZE` bytes, whose size is the connection's receive window. Once the buffer
holds a request (up to an empty line), the endpoint answers it into `response_buf` and frees the
request's bytes, advancing the receive window by as many. The response is sent from
`response_seq`, the sequence number of the next response byte to send; `initial_response_seq` is
that of its first byte. The response is dropped once the peer acknowledged its last byte.

Time is an input: `now` is what `timestamp_cycles()` returns. The request parser and the
application callback are one function `respond` from the bytes of a request to those of its
response. A `none` result is a panic: the assertion on the response's length, or `split_at` at an
offset past the end of `response_buf`.
-/

namespace Firecracker
namespace Dumbo

/-- `RCV_BUF_MAX_SIZE`: one plus the size of the largest request accepted. -/
def rcvBufMaxSize : Nat := 2500

def evictionThresholdDefault : BitVec 64 := 40000000000

def connectionRtoPeriod : BitVec 64 := 1200000000

def connectionRtoCountMax : BitVec 16 := 15

/-- `Endpoint`. `receiveBuf` holds the bytes of `receive_buf` before `receive_buf_left`; the
bytes after it are never read before they are written. -/
structure Endpoint where
  receiveBuf : List (BitVec 8)
  responseBuf : List (BitVec 8)
  initialResponseSeq : BitVec 32
  responseSeq : BitVec 32
  connection : Connection
  lastSegmentReceivedTimestamp : BitVec 64
  evictionThreshold : BitVec 64
  stopReceiving : Bool

/-- The end of the first request in `b`, the index past an empty line: the loop of
`receive_segment` looks for a `\n` followed by `\n`, or by `\r\n`. -/
def requestEnd : List (BitVec 8) → Option Nat
  | [] => none
  | [_] => none
  | b₀ :: b₁ :: rest =>
    if b₀ = 10 ∧ b₁ = 10 then some 2
    else if b₀ = 10 ∧ b₁ = 13 ∧ rest.head? = some 10 then some 3
    else (requestEnd (b₁ :: rest)).map (· + 1)

example : requestEnd [71, 69, 84, 10, 13, 10, 88] = some 6 := by decide

theorem requestEnd_le : ∀ {b : List (BitVec 8)} {n : Nat}, requestEnd b = some n → n ≤ b.length
  | [], _, h => by cases h
  | [_], _, h => by cases h
  | b₀ :: b₁ :: rest, n, h => by
    simp only [requestEnd] at h
    split_ifs at h with h₂ h₃
    · cases h
      simp
    · cases h
      obtain ⟨-, -, hhead⟩ := h₃
      cases rest with
      | nil => cases hhead
      | cons b₂ rest => simp
    · obtain ⟨m, hm, rfl⟩ := Option.map_eq_some_iff.mp h
      have := requestEnd_le hm
      simp only [List.length_cons] at this ⊢
      omega

namespace Endpoint

/-- `Endpoint::new`: the connection a passive open of `segment` creates, with a receive window
of `RCV_BUF_MAX_SIZE` bytes, and no response; `now` is the time of creation. The assertion
`RCV_BUF_MAX_SIZE <= MAX_WINDOW_SIZE` holds. -/
def new (segment : TcpSegment) (evictionThreshold : {t : BitVec 64 // t ≠ 0})
    (connectionRtoPeriod : {p : BitVec 64 // p ≠ 0})
    (connectionRtoCountMax : {m : BitVec 16 // m ≠ 0}) (isn : BitVec 32) (now : BitVec 64) :
    Except PassiveOpenError Endpoint :=
  match Connection.passiveOpen segment (BitVec.ofNat 32 rcvBufMaxSize) connectionRtoPeriod
      connectionRtoCountMax isn with
  | .error e => .error e
  | .ok connection =>
    .ok { receiveBuf := [], responseBuf := [], responseSeq := connection.firstNotSent,
          initialResponseSeq := connection.firstNotSent, connection,
          lastSegmentReceivedTimestamp := now, evictionThreshold := evictionThreshold.1,
          stopReceiving := false }

def newWithDefaults (segment : TcpSegment) (isn : BitVec 32) (now : BitVec 64) :
    Except PassiveOpenError Endpoint :=
  new segment ⟨evictionThresholdDefault, by decide⟩ ⟨connectionRtoPeriod, by decide⟩
    ⟨connectionRtoCountMax, by decide⟩ isn now

variable (e : Endpoint)

/-- Drop the response once the ACK for its last byte arrived; the next one starts there. -/
def clearAckedResponse : Endpoint :=
  if !e.responseBuf.isEmpty &&
      e.connection.highestAckReceived ==
        e.initialResponseSeq + BitVec.ofNat 32 e.responseBuf.length then
    { e with
      responseSeq := e.connection.highestAckReceived
      initialResponseSeq := e.connection.highestAckReceived
      responseBuf := [] }
  else e

/-- Answer the first request in the receive buffer, if it holds one: the response goes to the
empty `response_buf`, the request's bytes leave the buffer, and the receive window advances by
as many. `none` is the panic of `assert!(response_buf.len() < u32::MAX)`. -/
def takeRequest (respond : List (BitVec 8) → List (BitVec 8)) : Option Endpoint :=
  if e.receiveBuf.length > 2 then
    match requestEnd e.receiveBuf with
    | some reqEnd =>
      let response := respond (e.receiveBuf.take reqEnd)
      if response.length < 2 ^ 32 - 1 then
        some { e with
          responseBuf := response
          receiveBuf := e.receiveBuf.drop reqEnd
          connection := e.connection.advanceLocalRwndEdge (BitVec.ofNat 32 reqEnd) }
      else none
    | none => some e
  else some e

/-- Close the connection after the peer's `FIN`, once no response is left to send. -/
def closeIfDone : Endpoint :=
  if e.connection.isFinReceived && e.responseBuf.isEmpty then
    { e with connection := e.connection.close }
  else e

/-- The end of `receive_segment`: with no response pending, answer the next request; a full
buffer that holds no request resets the connection. -/
def afterReceive (respond : List (BitVec 8) → List (BitVec 8)) : Option Endpoint :=
  if e.responseBuf.isEmpty then
    match e.takeRequest respond with
    | none => none
    | some e =>
      if e.receiveBuf.length = rcvBufMaxSize then
        some { e with connection := e.connection.reset, stopReceiving := true }
      else some e.closeIfDone
  else some e.closeIfDone

/-- `Endpoint::receive_segment` of `s` at time `now`. The connection writes the payload into the
free part of the receive buffer, `receive_buf[receive_buf_left..]`. -/
def receiveSegment (respond : List (BitVec 8) → List (BitVec 8)) (s : TcpSegment)
    (now : BitVec 64) : Option Endpoint :=
  if e.stopReceiving then some e
  else
    let e := { e with lastSegmentReceivedTimestamp := now }
    match e.connection.receiveSegment s (rcvBufMaxSize - e.receiveBuf.length) now with
    | (c, .error _) => some { e with connection := c }
    | (c, .ok (value, status)) =>
      if status &&& RecvStatusFlags.connResetting != 0 then
        some { e with connection := c, stopReceiving := true }
      else
        let receiveBuf :=
          match value with
          | some len => e.receiveBuf ++ s.payload.take len
          | none => e.receiveBuf
        ({ e with connection := c, receiveBuf } : Endpoint).clearAckedResponse.afterReceive
          respond

def responseOffset : Nat := (e.responseSeq - e.initialResponseSeq).toNat

/-- `tcp_payload_src`: the response from `response_seq` on, or nothing with no response; `none`
is the panic of `split_at` at an offset past the end of `response_buf`. -/
def payloadSource : Option PayloadSource :=
  if e.responseBuf.isEmpty then some none
  else if e.responseBuf.length < e.responseOffset then none
  else some (some (e.responseBuf.drop e.responseOffset, e.responseSeq))

/-- `Endpoint::write_next_segment` into a buffer of `bufLen` bytes at time `now`: the segment
written, if any; `response_seq` advances past its payload. An error of the connection writes
nothing. -/
def writeNextSegment (bufLen : Nat) (mssReserved : BitVec 16) (now : BitVec 64) :
    Option (Endpoint × Option OutSegment) := do
  let payloadSrc ← e.payloadSource
  match e.connection.writeNextSegment bufLen mssReserved payloadSrc now with
  | (c, .ok (some segment)) =>
    some ({ e with
      connection := c
      responseSeq := e.responseSeq + BitVec.ofNat 32 segment.payload.length }, some segment)
  | (c, .ok none) => some ({ e with connection := c }, none)
  | (c, .error _) => some ({ e with connection := c }, none)

def isDone : Bool := e.connection.isDone

/-- `is_evictable`: no segment arrived for longer than the eviction threshold. -/
def isEvictable (now : BitVec 64) : Bool :=
  decide (now - e.lastSegmentReceivedTimestamp > e.evictionThreshold)

def nextSegmentStatus : NextSegmentStatus :=
  let canSendNewData :=
    !e.responseBuf.isEmpty && seqAfter e.connection.remoteRwndEdge e.connection.firstNotSent
  if canSendNewData || e.connection.dupAckPending then .available
  else e.connection.controlSegmentOrTimeoutStatus

end Endpoint

/-! ### Runs -/

inductive EndpointOp
  | receiveSegment (s : TcpSegment) (now : BitVec 64)
  | writeNextSegment (bufLen : Nat) (mssReserved : BitVec 16) (now : BitVec 64)

namespace Endpoint

def step (respond : List (BitVec 8) → List (BitVec 8)) (e : Endpoint) :
    EndpointOp → Option Endpoint
  | .receiveSegment s now => e.receiveSegment respond s now
  | .writeNextSegment bufLen mssReserved now =>
    (e.writeNextSegment bufLen mssReserved now).map Prod.fst

def Created (e : Endpoint) : Prop :=
  ∃ (segment : TcpSegment) (evictionThreshold : {t : BitVec 64 // t ≠ 0})
    (connectionRtoPeriod : {p : BitVec 64 // p ≠ 0})
    (connectionRtoCountMax : {m : BitVec 16 // m ≠ 0}) (isn : BitVec 32) (now : BitVec 64),
    new segment evictionThreshold connectionRtoPeriod connectionRtoCountMax isn now = .ok e

end Endpoint

end Dumbo
end Firecracker
