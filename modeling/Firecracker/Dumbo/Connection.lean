import Firecracker.Dumbo.Tcp

/-!
# Firecracker.Dumbo.Connection

`dumbo::tcp::connection`: the minimalist TCP connection behind MMDS, which only opens passively.
A connection is a record of sequence numbers, timers and status flags; `receive_segment`,
`write_next_segment`, `close`, `reset` and `advance_local_rwnd_edge` map a connection to the
updated connection and to what the source returns.

A `&mut self` method that fails after it changed fields (a retransmission counted before a write
that fails, an ACK processed before a payload too large for the buffer) returns the changed
connection with its error, as the source leaves it.

The long methods are cut at the places where the source returns early: each piece returns `.inl`
with what the method returns there, or `.inr` with the state it goes on with. The random initial
sequence number of `passive_open` (`xor_pseudo_rng_u32()`) is a parameter, and a buffer is its
length: `receive_segment` copies the payload of the segment, `write_next_segment` returns the
segment it writes.
-/

namespace Firecracker
namespace Dumbo

inductive ConnStatusFlag
  | synReceived
  | synackSent
  | established
  | finSent
  | finAcked
  | reset
  deriving DecidableEq, Repr

structure ConnStatusFlags where
  synReceived : Bool
  synackSent : Bool
  established : Bool
  finSent : Bool
  finAcked : Bool
  reset : Bool
  deriving DecidableEq, Repr

namespace ConnStatusFlags

def get (f : ConnStatusFlags) : ConnStatusFlag → Bool
  | .synReceived => f.synReceived
  | .synackSent => f.synackSent
  | .established => f.established
  | .finSent => f.finSent
  | .finAcked => f.finAcked
  | .reset => f.reset

/-- `insert` (`b = true`) or `remove` (`b = false`) one flag. -/
def set (f : ConnStatusFlags) : ConnStatusFlag → Bool → ConnStatusFlags
  | .synReceived, b => { f with synReceived := b }
  | .synackSent, b => { f with synackSent := b }
  | .established, b => { f with established := b }
  | .finSent, b => { f with finSent := b }
  | .finAcked, b => { f with finAcked := b }
  | .reset, b => { f with reset := b }

@[simp] theorem get_set_self (f : ConnStatusFlags) (flag : ConnStatusFlag) (b : Bool) :
    (f.set flag b).get flag = b := by
  cases flag <;> rfl

@[simp] theorem get_set_of_ne (f : ConnStatusFlags) {flag flag' : ConnStatusFlag} (b : Bool)
    (h : flag' ≠ flag) : (f.set flag b).get flag' = f.get flag' := by
  cases flag <;> cases flag' <;> first | rfl | exact absurd rfl h

end ConnStatusFlags

namespace RecvStatusFlags

def invalidAck : BitVec 16 := 1
def dupAck : BitVec 16 := 1 <<< 1
def segmentBeyondRwnd : BitVec 16 := 1 <<< 2
def unexpectedSeq : BitVec 16 := 1 <<< 3
def remoteRwndEdge : BitVec 16 := 1 <<< 4
def dataBeyondFin : BitVec 16 := 1 <<< 5
def resetReceived : BitVec 16 := 1 <<< 6
def invalidRst : BitVec 16 := 1 <<< 7
def invalidSegment : BitVec 16 := 1 <<< 8
def connResetting : BitVec 16 := 1 <<< 9
def invalidFin : BitVec 16 := 1 <<< 10

end RecvStatusFlags

inductive PassiveOpenError
  | invalidSyn
  | mssOption
  deriving DecidableEq, Repr

inductive RecvError
  | bufferTooSmall
  | connectionReset
  deriving DecidableEq, Repr

inductive WriteNextError
  | connectionReset
  | dataAfterFin
  | mssRemaining
  | payloadBufTooLarge
  | payloadMissingSeq
  | tcpSegment (e : TcpError)
  deriving DecidableEq, Repr

/-- `PayloadSource`: the bytes to send and the sequence number of the first of them. -/
abbrev PayloadSource := Option (List (BitVec 8) × BitVec 32)

/-- What `receive_segment` returns: how many bytes it copied, and the unusual conditions. -/
abbrev RecvResult := Except RecvError (Option Nat × BitVec 16)

abbrev WriteResult := Except WriteNextError (Option OutSegment)

structure Connection where
  ackToSend : BitVec 32
  highestAckReceived : BitVec 32
  firstNotSent : BitVec 32
  localRwndEdge : BitVec 32
  remoteRwndEdge : BitVec 32
  rtoStart : BitVec 64
  rtoPeriod : BitVec 64
  rtoCount : BitVec 16
  rtoCountMax : BitVec 16
  finReceived : Option (BitVec 32)
  sendFin : Option (BitVec 32)
  sendRst : Option RstConfig
  mss : BitVec 16
  pendingAck : Bool
  dupAck : Bool
  statusFlags : ConnStatusFlags

def parseMssOption (segment : TcpSegment) : Except PassiveOpenError (BitVec 16) :=
  match segment.mssOption with
  | .ok (some value) => .ok value
  | .ok none => .ok mssDefault
  | .error _ => .error .mssOption

/-- `is_valid_syn`: exactly the `SYN` flag, and no payload. -/
def isValidSyn (segment : TcpSegment) : Bool :=
  segment.flagsAfterNs == TcpFlags.syn && segment.payload.length == 0

namespace Connection

/-- `Connection::passive_open`, with `isn` the initial sequence number it draws. -/
def passiveOpen (segment : TcpSegment) (localRwndSize : BitVec 32)
    (rtoPeriod : {p : BitVec 64 // p ≠ 0}) (rtoCountMax : {m : BitVec 16 // m ≠ 0})
    (isn : BitVec 32) : Except PassiveOpenError Connection :=
  if !isValidSyn segment then .error .invalidSyn
  else
    match parseMssOption segment with
    | .error e => .error e
    | .ok mss =>
      let ackToSend := segment.sequenceNumber + 1
      let firstNotSent := isn + 1
      let remoteRwndEdge := firstNotSent + segment.windowSize.setWidth 32
      .ok { ackToSend, highestAckReceived := isn, firstNotSent,
            localRwndEdge := ackToSend + localRwndSize, remoteRwndEdge, rtoStart := 0,
            rtoPeriod := rtoPeriod.1, rtoCount := 0, rtoCountMax := rtoCountMax.1,
            finReceived := none, sendFin := none, sendRst := none, mss, pendingAck := false,
            dupAck := false,
            statusFlags := ⟨true, false, false, false, false, false⟩ }

variable (c : Connection)

def flagsIntersect (flag : ConnStatusFlag) : Bool := c.statusFlags.get flag

def setFlags (flag : ConnStatusFlag) : Connection :=
  { c with statusFlags := c.statusFlags.set flag true }

def clearFlags (flag : ConnStatusFlag) : Connection :=
  { c with statusFlags := c.statusFlags.set flag false }

def synReceived : Bool := c.flagsIntersect .synReceived

def synackSent : Bool := c.flagsIntersect .synackSent

def synackPending : Bool := c.synReceived && !c.synackSent

def isReset : Bool := c.flagsIntersect .reset

def finSent : Bool := c.flagsIntersect .finSent

def finAcked : Bool := c.flagsIntersect .finAcked

def isEstablished : Bool := c.flagsIntersect .established

/-- The method `fin_received()`: a `FIN` has been received. -/
def isFinReceived : Bool := c.finReceived.isSome

def rstPending : Bool := c.sendRst.isSome

/-- `is_same_syn`: a retransmission of the `SYN` that opened the connection. -/
def isSameSyn (segment : TcpSegment) : Bool :=
  if !isValidSyn segment || c.ackToSend != segment.sequenceNumber + 1 then false
  else
    match parseMssOption segment with
    | .ok mss => mss == c.mss
    | .error _ => false

def resetForSegment (s : TcpSegment) : Connection :=
  if !c.rstPending then { c with sendRst := some (RstConfig.new s) } else c

/-- `rto_expired`; `now - rto_start` wraps as `u64` does in a release build. -/
def rtoExpired (now : BitVec 64) : Bool := decide (c.rtoPeriod ≤ now - c.rtoStart)

/-- `can_send_first_fin`: every byte before our `FIN` is acknowledged and no `FIN` was sent. -/
def canSendFirstFin : Bool :=
  !c.finSent &&
    match c.sendFin with
    | some finSeq => finSeq == c.highestAckReceived
    | none => false

/-- `local_rwnd`: the window written to an outgoing segment, capped at `u16::MAX`. -/
def localRwnd : BitVec 16 :=
  let rwnd := c.localRwndEdge - c.ackToSend
  if rwnd > 0xffff then 0xffff else rwnd.setWidth 16

def remoteWindowSize (windowSize : BitVec 16) : BitVec 32 := windowSize.setWidth 32

def computeRemoteRwndEdge (ack : BitVec 32) (windowSize : BitVec 16) : BitVec 32 :=
  ack + remoteWindowSize windowSize

def enqueueAck : Connection := { c with pendingAck := true }

/-- `close`: the `FIN` takes the first sequence number not sent yet. -/
def close : Connection :=
  if c.sendFin.isNone then { c with sendFin := some c.firstNotSent } else c

def makeRstConfig : RstConfig :=
  if c.isEstablished then .seq c.firstNotSent else .ack c.ackToSend

def reset : Connection :=
  if !c.rstPending then { c with sendRst := some c.makeRstConfig } else c

def isDone : Bool := c.isReset || (c.isFinReceived && c.flagsIntersect .finSent)

/-- `advance_local_rwnd_edge`: the sum `v + current_w` wraps as `Wrapping<u32>` does. -/
def advanceLocalRwndEdge (value : BitVec 32) : Connection :=
  let v := value
  let maxW := maxWindowSize
  let currentW := c.localRwndEdge - c.ackToSend
  let c := if currentW = 0 then c.enqueueAck else c
  if v + currentW > maxW then { c with localRwndEdge := c.ackToSend + maxW }
  else { c with localRwndEdge := c.localRwndEdge + v }

def dupAckPending : Bool := c.dupAck

def controlSegmentOrTimeoutStatus : NextSegmentStatus :=
  if c.synackPending || c.rstPending || c.canSendFirstFin || c.pendingAck then .available
  else if c.highestAckReceived != c.firstNotSent then .timeout (c.rtoStart + c.rtoPeriod)
  else .nothing

/-! ### `receive_segment` -/

def resetForSegmentHelper (s : TcpSegment) (flags : BitVec 16) : Connection × RecvResult :=
  (c.resetForSegment s, .ok (none, RecvStatusFlags.connResetting ||| flags))

/-- The checks of `receive_segment` that depend on how far the handshake went. -/
def receiveHandshake (s : TcpSegment) : (Connection × RecvResult) ⊕ Connection :=
  if !c.synackSent then
    if c.isSameSyn s then .inl (c, .ok (none, 0))
    else .inl (c.resetForSegmentHelper s RecvStatusFlags.invalidSegment)
  else if !c.isEstablished then
    if c.isSameSyn s then .inl (c.clearFlags .synackSent, .ok (none, 0))
    else if TcpFlags.intersects s.flagsAfterNs TcpFlags.syn then
      .inl (c.resetForSegmentHelper s RecvStatusFlags.invalidSegment)
    else .inr c
  else if TcpFlags.intersects s.flagsAfterNs TcpFlags.syn then
    .inl (c.resetForSegmentHelper s RecvStatusFlags.invalidSegment)
  else .inr c

/-- The look for remote receive window updates in `receive_segment`. -/
def updateRemoteRwndEdge (ack : BitVec 32) (windowSize : BitVec 16) (flags : BitVec 16) :
    Connection × BitVec 16 :=
  if c.isEstablished then
    let edge := computeRemoteRwndEdge ack windowSize
    if seqAfter edge c.remoteRwndEdge then ({ c with remoteRwndEdge := edge }, flags)
    else if edge != c.remoteRwndEdge then (c, flags ||| RecvStatusFlags.remoteRwndEdge)
    else (c, flags)
  else (c, flags)

/-- An ACK that makes progress: it moves `highest_ack_received` and restarts the timer, completes
the handshake after our `SYNACK`, and acknowledges our `FIN` when it covers it. -/
def ackProgress (ack : BitVec 32) (now : BitVec 64) : Connection :=
  let c := { c with highestAckReceived := ack, rtoStart := now }
  let c := if !c.isEstablished && c.synackSent then c.setFlags .established else c
  if c.finSent && ack == c.firstNotSent then c.setFlags .finAcked else c

/-- A valid ACK in `receive_segment`: a duplicate one, or one that makes progress. -/
def receiveValidAck (s : TcpSegment) (ack : BitVec 32) (now : BitVec 64) :
    (Connection × RecvResult) ⊕ (Connection × BitVec 16) :=
  let c := { c with rtoCount := 0 }
  if ack == c.highestAckReceived && ack != c.firstNotSent then
    if !c.isEstablished then .inl (c.resetForSegmentHelper s RecvStatusFlags.invalidAck)
    else
      .inr (({ c with dupAck := true } : Connection).updateRemoteRwndEdge ack s.windowSize
        RecvStatusFlags.dupAck)
  else .inr ((c.ackProgress ack now).updateRemoteRwndEdge ack s.windowSize 0)

def receiveAck (s : TcpSegment) (now : BitVec 64) :
    (Connection × RecvResult) ⊕ (Connection × BitVec 16) :=
  if TcpFlags.intersects s.flagsAfterNs TcpFlags.ack then
    let ack := s.ackNumber
    if seqAtOrAfter ack c.highestAckReceived && seqAtOrAfter c.firstNotSent ack then
      c.receiveValidAck s ack now
    else if !c.isEstablished then
      .inl (c.resetForSegmentHelper s RecvStatusFlags.invalidAck)
    else .inr (c, RecvStatusFlags.invalidAck)
  else .inr (c, 0)

/-- The `DATA_BEYOND_FIN` check: data ending at `dataEndSeq` lies past the peer's `FIN`. -/
def beyondFin (dataEndSeq : BitVec 32) : Bool :=
  match c.finReceived with
  | some finSeq => !seqAtOrAfter finSeq dataEndSeq
  | none => false

/-- The payload part of `receive_segment`; `.inr` carries whether to enqueue an ACK. -/
def receiveData (s : TcpSegment) (flags : BitVec 16) :
    (Connection × RecvResult) ⊕ (Connection × Bool) :=
  let payloadLen := s.payload.length
  if payloadLen > 0 then
    let dataEndSeq := s.sequenceNumber + BitVec.ofNat 32 payloadLen
    if c.beyondFin dataEndSeq then .inl (c, .ok (none, flags ||| RecvStatusFlags.dataBeyondFin))
    else if !seqAtOrAfter c.localRwndEdge dataEndSeq then
      .inl (c, .ok (none, flags ||| RecvStatusFlags.segmentBeyondRwnd))
    else if s.sequenceNumber != c.ackToSend then
      .inl (c.enqueueAck, .ok (none, flags ||| RecvStatusFlags.unexpectedSeq))
    else .inr ({ c with ackToSend := dataEndSeq }, true)
  else .inr (c, false)

/-- The `FIN` part of `receive_segment`: a `FIN` is accepted only at the next expected sequence
number, and it is acknowledged by advancing `ack_to_send` past it. -/
def receiveFin (s : TcpSegment) (flags : BitVec 16) (enqueueAck : Bool) :
    Connection × BitVec 16 × Bool :=
  if TcpFlags.intersects s.flagsAfterNs TcpFlags.fin && !c.isFinReceived then
    let finSeq := s.sequenceNumber + BitVec.ofNat 32 s.payload.length
    if finSeq == c.ackToSend then
      ({ c with finReceived := some finSeq, ackToSend := c.ackToSend + 1 }, flags, true)
    else (c, flags ||| RecvStatusFlags.invalidFin, enqueueAck)
  else (c, flags, enqueueAck)

/-- `receive_segment` on an established connection, from the payload on. -/
def receivePayload (s : TcpSegment) (bufLen : Nat) (flags : BitVec 16) :
    Connection × RecvResult :=
  let payloadLen := s.payload.length
  if payloadLen > bufLen then (c, .error .bufferTooSmall)
  else
    match c.receiveData s flags with
    | .inl ret => ret
    | .inr (c, enqueueAck) =>
      let (c, flags, enqueueAck) := c.receiveFin s flags enqueueAck
      if enqueueAck then
        if payloadLen > 0 then (c.enqueueAck, .ok (some payloadLen, flags))
        else (c.enqueueAck, .ok (none, flags))
      else (c, .ok (none, flags))

/-- `Connection::receive_segment` of `s` into a buffer of `bufLen` bytes. -/
def receiveSegment (s : TcpSegment) (bufLen : Nat) (now : BitVec 64) :
    Connection × RecvResult :=
  if c.rstPending || c.isReset then (c, .error .connectionReset)
  else if TcpFlags.intersects s.flagsAfterNs TcpFlags.rst then
    let seq := s.sequenceNumber
    if seqAtOrAfter seq c.ackToSend && seqAfter c.localRwndEdge seq then
      (c.setFlags .reset, .ok (none, RecvStatusFlags.resetReceived))
    else (c, .ok (none, RecvStatusFlags.invalidRst))
  else
    match c.receiveHandshake s with
    | .inl ret => ret
    | .inr c =>
      match c.receiveAck s now with
      | .inl ret => ret
      | .inr (c, flags) =>
        if !c.isEstablished then (c, .ok (none, flags)) else c.receivePayload s bufLen flags

/-! ### `write_next_segment` -/

/-- `write_segment` into a buffer of `bufLen` bytes; the MSS option goes on `SYNACK`s. -/
def writeSegment (bufLen : Nat) (mssReserved : BitVec 16) (seq ack : BitVec 32)
    (flagsAfterNs : BitVec 8) (payload : Option (List (BitVec 8) × Nat)) :
    Connection × Except WriteNextError OutSegment :=
  let mssOption := if flagsAfterNs = TcpFlags.syn ||| TcpFlags.ack then some c.mss else none
  if c.mss < mssReserved then (c, .error .mssRemaining)
  else
    match writeIncompleteSegment bufLen seq ack flagsAfterNs c.localRwnd mssOption
        (c.mss - mssReserved) payload with
    | .error e => (c, .error (.tcpSegment e))
    | .ok segment =>
      (if TcpFlags.intersects flagsAfterNs TcpFlags.ack then { c with pendingAck := false } else c,
        .ok segment)

/-- The sequence number, ACK number and flags of the next control segment: a pending `RST`, a
`SYNACK`, or an ACK that carries our `FIN` once every byte before it is acknowledged. -/
def controlHeader : BitVec 32 × BitVec 32 × BitVec 8 :=
  match c.sendRst with
  | some cfg => cfg.seqAckTcpFlags
  | none =>
    if !c.isEstablished then (c.firstNotSent - 1, c.ackToSend, TcpFlags.syn ||| TcpFlags.ack)
    else
      match c.sendFin with
      | some finSeq =>
        if !c.finAcked && seqAtOrAfter c.highestAckReceived finSeq then
          (finSeq, c.ackToSend, TcpFlags.ack ||| TcpFlags.fin)
        else (c.highestAckReceived, c.ackToSend, TcpFlags.ack)
      | none => (c.highestAckReceived, c.ackToSend, TcpFlags.ack)

def writeControlSegment (bufLen : Nat) (mssReserved : BitVec 16) :
    Connection × Except WriteNextError OutSegment :=
  let header := c.controlHeader
  c.writeSegment bufLen mssReserved header.1 header.2.1 header.2.2 none

/-- The `RST` branch of `write_next_segment`: write the pending `RST`, then mark the connection
reset. -/
def writeRst (bufLen : Nat) (mssReserved : BitVec 16) : Connection × WriteResult :=
  match c.writeControlSegment bufLen mssReserved with
  | (c, .error e) => (c, .error e)
  | (c, .ok segment) => (c.setFlags .reset, .ok (some segment))

/-- A control segment written on a retransmission timeout, which restarts the timer. -/
def retransmitControl (bufLen : Nat) (mssReserved : BitVec 16) (now : BitVec 64) :
    Connection × WriteResult :=
  match c.writeControlSegment bufLen mssReserved with
  | (c, .error e) => (c, .error e)
  | (c, .ok segment) => ({ c with rtoStart := now }, .ok (some segment))

/-- The choice of `seq_to_send` in `write_next_segment`: the oldest unacknowledged byte after a
timeout or a duplicate ACK, else the first byte not sent. The third component is
`rto_triggered`. After too many timeouts the connection resets; the source then calls
`write_next_segment` again, which (with `RESET` still clear) writes the pending `RST`. -/
def seqToSend (bufLen : Nat) (mssReserved : BitVec 16) (now : BitVec 64) :
    (Connection × WriteResult) ⊕ (Connection × BitVec 32 × Bool) :=
  if c.highestAckReceived != c.firstNotSent && c.rtoExpired now then
    let c := { c with rtoCount := c.rtoCount + 1 }
    if c.rtoCount ≥ c.rtoCountMax then .inl (c.reset.writeRst bufLen mssReserved)
    else if c.sendFin = some c.highestAckReceived then
      .inl (c.retransmitControl bufLen mssReserved now)
    else .inr (c, c.highestAckReceived, true)
  else if c.dupAck then .inr (c, c.highestAckReceived, false)
  else .inr (c, c.firstNotSent, false)

/-- What follows a data segment that was written: the `FIN` flag on the last data byte, the timer,
and `first_not_sent`. -/
def afterDataSegment (segment : OutSegment) (seqToSend : BitVec 32) (rtoTriggered : Bool)
    (now : BitVec 64) : Connection × WriteResult :=
  let c := { c with dupAck := false }
  let firstSeqAfter := seqToSend + BitVec.ofNat 32 segment.payload.length
  let withFin := c.sendFin = some firstSeqAfter
  let segment :=
    if withFin then { segment with flagsAfterNs := TcpFlags.ack ||| TcpFlags.fin } else segment
  let firstSeqAfter := if withFin then firstSeqAfter + 1 else firstSeqAfter
  let c := if withFin then c.setFlags .finSent else c
  let c := if rtoTriggered || c.firstNotSent == c.highestAckReceived then
    { c with rtoStart := now } else c
  let c := if seqAfter firstSeqAfter c.firstNotSent then { c with firstNotSent := firstSeqAfter }
    else c
  (c, .ok (some segment))

/-- `actual_end`: data can be sent up to the end of the payload buffer, and no further than the
edge of the remote window. -/
def actualEnd (payloadEnd : BitVec 32) : BitVec 32 :=
  if seqAtOrAfter c.remoteRwndEdge payloadEnd then payloadEnd else c.remoteRwndEdge

/-- The `DataAfterFin` check: data up to `actualEnd` would pass our `FIN`. -/
def passesFin (actualEnd : BitVec 32) : Bool :=
  match c.sendFin with
  | some finSeq => seqAfter actualEnd finSeq
  | none => false

/-- The data segment of `write_next_segment`, from `seq_to_send` on; `.inr` when the bounds leave
no sequence number to send. -/
def sendData (bufLen : Nat) (mssReserved : BitVec 16) (readBuf : List (BitVec 8))
    (payloadSeq : BitVec 32) (now : BitVec 64) (seqToSend : BitVec 32) (rtoTriggered : Bool) :
    (Connection × WriteResult) ⊕ Connection :=
  let payloadEnd := payloadSeq + BitVec.ofNat 32 readBuf.length
  if !seqAtOrAfter seqToSend payloadSeq then .inl (c, .error .payloadMissingSeq)
  else
    let actualEnd := c.actualEnd payloadEnd
    if c.passesFin actualEnd then .inl (c, .error .dataAfterFin)
    else if seqAfter actualEnd seqToSend then
      let maxPayloadLen := (actualEnd - seqToSend).toNat
      match c.writeSegment bufLen mssReserved seqToSend c.ackToSend TcpFlags.ack
          (some (readBuf, maxPayloadLen)) with
      | (c, .error e) => .inl (c, .error e)
      | (c, .ok segment) => .inl (c.afterDataSegment segment seqToSend rtoTriggered now)
    else .inr c

/-- The end of `write_next_segment`: a control segment if an ACK is pending or the first `FIN`
can go. -/
def writePendingControl (bufLen : Nat) (mssReserved : BitVec 16) : Connection × WriteResult :=
  let sendFirstFin := c.canSendFirstFin
  if c.pendingAck || sendFirstFin then
    match c.writeControlSegment bufLen mssReserved with
    | (c, .error e) => (c, .error e)
    | (c, .ok segment) =>
      (if sendFirstFin then ({ c with firstNotSent := c.firstNotSent + 1 }).setFlags .finSent
        else c, .ok (some segment))
  else (c, .ok none)

/-- `Connection::write_next_segment` into a buffer of `bufLen` bytes. -/
def writeNextSegment (bufLen : Nat) (mssReserved : BitVec 16) (payloadSrc : PayloadSource)
    (now : BitVec 64) : Connection × WriteResult :=
  if c.isReset then (c, .error .connectionReset)
  else if c.sendRst.isSome then c.writeRst bufLen mssReserved
  else if c.synackPending then
    match c.writeControlSegment bufLen mssReserved with
    | (c, .error e) => (c, .error e)
    | (c, .ok segment) => ({ c.setFlags .synackSent with rtoStart := now }, .ok (some segment))
  else if !c.isEstablished then
    if c.rtoExpired now then
      let c := { c with rtoCount := c.rtoCount + 1 }
      if c.rtoCount ≥ c.rtoCountMax then c.reset.writeRst bufLen mssReserved
      else c.retransmitControl bufLen mssReserved now
    else (c, .ok none)
  else
    match payloadSrc with
    | some (readBuf, payloadSeq) =>
      if readBuf.length > maxWindowSize.toNat then (c, .error .payloadBufTooLarge)
      else
        match c.seqToSend bufLen mssReserved now with
        | .inl ret => ret
        | .inr (c, seqToSend, rtoTriggered) =>
          match c.sendData bufLen mssReserved readBuf payloadSeq now seqToSend rtoTriggered with
          | .inl ret => ret
          | .inr c => c.writePendingControl bufLen mssReserved
    | none => c.writePendingControl bufLen mssReserved

theorem writeNextSegment_of_reset (hreset : c.isReset = false) (bufLen : Nat)
    (mssReserved : BitVec 16) (payloadSrc : PayloadSource) (now : BitVec 64) :
    c.reset.writeNextSegment bufLen mssReserved payloadSrc now =
      c.reset.writeRst bufLen mssReserved := by
  have hflags : c.reset.isReset = false := by
    unfold reset
    split <;> exact hreset
  have hrst : c.reset.sendRst.isSome = true := by
    unfold reset rstPending
    split
    · rfl
    · rename_i h
      simpa [Option.isSome_iff_ne_none] using h
  simp only [writeNextSegment, hflags, hrst, if_true, Bool.false_eq_true, if_false]

end Connection

/-! ### Runs -/

inductive ConnOp
  | receiveSegment (s : TcpSegment) (bufLen : Nat) (now : BitVec 64)
  | writeNextSegment (bufLen : Nat) (mssReserved : BitVec 16) (payloadSrc : PayloadSource)
      (now : BitVec 64)
  | close
  | reset
  | advanceLocalRwndEdge (value : BitVec 32)

namespace Connection

def step (c : Connection) : ConnOp → Option Connection
  | .receiveSegment s bufLen now => some (c.receiveSegment s bufLen now).1
  | .writeNextSegment bufLen mssReserved payloadSrc now =>
    some (c.writeNextSegment bufLen mssReserved payloadSrc now).1
  | .close => some c.close
  | .reset => some c.reset
  | .advanceLocalRwndEdge value => some (c.advanceLocalRwndEdge value)

def Opened (c : Connection) : Prop :=
  ∃ (segment : TcpSegment) (localRwndSize : BitVec 32) (rtoPeriod : {p : BitVec 64 // p ≠ 0})
    (rtoCountMax : {m : BitVec 16 // m ≠ 0}) (isn : BitVec 32),
    passiveOpen segment localRwndSize rtoPeriod rtoCountMax isn = .ok c

end Connection

end Dumbo
end Firecracker
