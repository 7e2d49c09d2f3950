import Firecracker.Dumbo.Endpoint
import Mathlib.Data.List.AList

/-!
# Firecracker.Dumbo.Handler

`TcpIPv4Handler`, the TCP listener in front of the MMDS endpoints. It keeps the endpoints by
connection tuple (`connections`), the tuples that can send at once (`active_connections`), the
closest retransmission timeout and its tuple (`next_timeout`), and a queue of `RST`s to send
(`rst_queue`).

The `HashMap` of endpoints is an `AList`, whose keys are distinct by construction, and the
`HashSet` of active tuples is a list without repetitions. Iterating either goes in list order,
one of the orders the hash tables may use. `timestamp_cycles()` is the input `now`, and the
initial sequence number a passive open draws is the input `isn`. A `none` result is a panic: an
`unwrap` or an index on a tuple that is no key of `connections`, or a panic of an endpoint.
-/

namespace Firecracker
namespace Dumbo

/-- What `TcpSegment::from_bytes` reads of a segment for the handler: its ports and the segment
itself. -/
structure TcpPacket where
  sourcePort : BitVec 16
  destinationPort : BitVec 16
  segment : TcpSegment

/-- An incoming `IPv4Packet`: its source address, and its payload parsed as a TCP segment. -/
structure Ipv4Packet where
  sourceAddress : BitVec 32
  payload : Except TcpError TcpPacket

/-- `ConnectionTuple`: the remote address and port, which identify a connection. -/
structure ConnectionTuple where
  remoteAddr : BitVec 32
  remotePort : BitVec 16
  deriving DecidableEq, Repr

/-- `OPTIONS_OFFSET` of `pdu::ipv4`: the length of an IPv4 header without options. -/
def ipv4OptionsOffset : Nat := 20

namespace Handler

inductive RecvEvent
  | endpointDone
  | failedNewConnection
  | newConnectionSuccessful
  | newConnectionDropped
  | newConnectionReplacing
  | nothing
  | unexpectedSegment
  deriving DecidableEq, Repr

inductive WriteEvent
  | endpointDone
  | nothing
  deriving DecidableEq, Repr

inductive RecvError
  | invalidPort
  | tcpSegment (e : TcpError)
  deriving DecidableEq, Repr

/-- `handler::WriteNextError`; the IPv4 header writer only fails on a buffer that is too short. -/
inductive WriteNextError
  | ipv4PacketSliceTooShort
  | tcpSegment (e : TcpError)
  deriving DecidableEq, Repr

end Handler

structure TcpIPv4Handler where
  localIpv4Addr : BitVec 32
  localPort : BitVec 16
  connections : AList fun _ : ConnectionTuple => Endpoint
  maxConnections : Nat
  activeConnections : List ConnectionTuple
  nextTimeout : Option (BitVec 64 × ConnectionTuple)
  rstQueue : List (ConnectionTuple × RstConfig)
  maxPendingResets : Nat

namespace TcpIPv4Handler

open Handler

def new (localIpv4Addr : BitVec 32) (localPort : BitVec 16) (maxConnections : {n : Nat // n ≠ 0})
    (maxPendingResets : {n : Nat // n ≠ 0}) : TcpIPv4Handler :=
  { localIpv4Addr, localPort, connections := ∅, maxConnections := maxConnections.1,
    activeConnections := [], nextTimeout := none, rstQueue := [],
    maxPendingResets := maxPendingResets.1 }

variable (h : TcpIPv4Handler)

/-- `check_timeout`: remember `value` for `tuple` if it comes before the timeout remembered. -/
def checkTimeout (value : BitVec 64) (tuple : ConnectionTuple) : TcpIPv4Handler :=
  match h.nextTimeout with
  | some (t, _) => if t > value then { h with nextTimeout := some (value, tuple) } else h
  | none => { h with nextTimeout := some (value, tuple) }

def nextTimeoutStep (acc : Option (BitVec 64 × ConnectionTuple)) (tuple : ConnectionTuple)
    (endpoint : Endpoint) : Option (BitVec 64 × ConnectionTuple) :=
  match endpoint.nextSegmentStatus with
  | .timeout value =>
    match acc with
    | some (t, _) => if t > value then some (value, tuple) else acc
    | none => some (value, tuple)
  | _ => acc

/-- `find_next_timeout`: the closest timeout of all endpoints. -/
def findNextTimeout : TcpIPv4Handler :=
  { h with nextTimeout := h.connections.foldl nextTimeoutStep none }

/-- The timeout is recomputed when it belonged to `tuple`. -/
def refreshTimeoutOf (tuple : ConnectionTuple) : TcpIPv4Handler :=
  match h.nextTimeout with
  | some (_, timeoutTuple) => if tuple = timeoutTuple then h.findNextTimeout else h
  | none => h

/-- `check_next_segment_status`: whether `tuple` is now an active connection. -/
def checkNextSegmentStatus (tuple : ConnectionTuple) (status : NextSegmentStatus) :
    TcpIPv4Handler × Bool :=
  let h := h.refreshTimeoutOf tuple
  match status with
  | .available => ({ h with activeConnections := h.activeConnections.insert tuple }, true)
  | .timeout value => (h.checkTimeout value tuple, false)
  | .nothing => (h, false)

/-- A tuple whose endpoint cannot send at once leaves the active connections. -/
def updateActive (tuple : ConnectionTuple) (status : NextSegmentStatus) : TcpIPv4Handler :=
  match h.checkNextSegmentStatus tuple status with
  | (h, true) => h
  | (h, false) => { h with activeConnections := h.activeConnections.erase tuple }

def addConnection (tuple : ConnectionTuple) (endpoint : Endpoint) : TcpIPv4Handler :=
  let h := (h.checkNextSegmentStatus tuple endpoint.nextSegmentStatus).1
  { h with connections := h.connections.insert tuple endpoint }

def removeConnection (tuple : ConnectionTuple) : TcpIPv4Handler :=
  let h := { h with
    activeConnections := h.activeConnections.erase tuple
    connections := h.connections.erase tuple }
  h.refreshTimeoutOf tuple

/-- `find_evictable_connection`: the first endpoint that is evictable at `now`. -/
def findEvictableConnection (now : BitVec 64) : Option ConnectionTuple :=
  (h.connections.entries.find? fun entry => entry.2.isEvictable now).map Sigma.fst

def enqueueRstConfig (tuple : ConnectionTuple) (cfg : RstConfig) : TcpIPv4Handler :=
  if h.rstQueue.length < h.maxPendingResets then { h with rstQueue := h.rstQueue ++ [(tuple, cfg)] }
  else h

def enqueueRst (tuple : ConnectionTuple) (s : TcpSegment) : TcpIPv4Handler :=
  h.enqueueRstConfig tuple (RstConfig.new s)

/-- A `SYN` for a tuple with no endpoint: a new endpoint, if there is room or one can be evicted
to make room. -/
def newConnection (tuple : ConnectionTuple) (s : TcpSegment) (isn : BitVec 32) (now : BitVec 64) :
    Option (TcpIPv4Handler × RecvEvent) :=
  match Endpoint.newWithDefaults s isn now with
  | .error _ => some (h, .failedNewConnection)
  | .ok endpoint =>
    if h.connections.keys.length ≥ h.maxConnections then
      match h.findEvictableConnection now with
      | some evictTuple =>
        match h.connections.lookup evictTuple with
        | some evicted =>
          let h := h.enqueueRstConfig evictTuple evicted.connection.makeRstConfig
          some ((h.removeConnection evictTuple).addConnection tuple endpoint,
            .newConnectionReplacing)
        | none => none
      | none => some (h.enqueueRst tuple s, .newConnectionDropped)
    else some (h.addConnection tuple endpoint, .newConnectionSuccessful)

/-- `receive_packet` with the callback `respond`; `isn` and `now` are what a new endpoint draws
and reads. -/
def receivePacket (respond : List (BitVec 8) → List (BitVec 8)) (packet : Ipv4Packet)
    (isn : BitVec 32) (now : BitVec 64) :
    Option (TcpIPv4Handler × Except Handler.RecvError RecvEvent) :=
  match packet.payload with
  | .error e => some (h, .error (.tcpSegment e))
  | .ok tcp =>
    if tcp.destinationPort != h.localPort then some (h, .error .invalidPort)
    else
      let tuple : ConnectionTuple := ⟨packet.sourceAddress, tcp.sourcePort⟩
      match h.connections.lookup tuple with
      | some endpoint =>
        match endpoint.receiveSegment respond tcp.segment now with
        | none => none
        | some endpoint =>
          let h := { h with connections := h.connections.replace tuple endpoint }
          if endpoint.isDone then some (h.removeConnection tuple, .ok .endpointDone)
          else some (h.updateActive tuple endpoint.nextSegmentStatus, .ok .nothing)
      | none =>
        if tcp.segment.flagsAfterNs = TcpFlags.syn then
          (h.newConnection tuple tcp.segment isn now).map fun r => (r.1, .ok r.2)
        else if !TcpFlags.intersects tcp.segment.flagsAfterNs TcpFlags.rst then
          some (h.enqueueRst tuple tcp.segment, .ok .unexpectedSegment)
        else some (h, .ok .unexpectedSegment)

/-- The loop of `write_next_packet` over `tuples`: the first endpoint that writes a segment,
with the packet's length and whether the endpoint is done. Every endpoint asked keeps the
state its write leaves. -/
def writeLoop (bufLen : Nat) (now : BitVec 64) : TcpIPv4Handler → List ConnectionTuple →
    Option (TcpIPv4Handler × Option (ConnectionTuple × Nat × Bool))
  | h, [] => some (h, none)
  | h, tuple :: rest =>
    match h.connections.lookup tuple with
    | none => none
    | some endpoint =>
      match endpoint.writeNextSegment bufLen 0 now with
      | none => none
      | some (endpoint, none) =>
        ({ h with connections := h.connections.replace tuple endpoint } : TcpIPv4Handler).writeLoop
          bufLen now rest
      | some (endpoint, some segment) =>
        some ({ h with connections := h.connections.replace tuple endpoint },
          some (tuple, ipv4OptionsOffset + segment.headerLen + segment.payload.length,
            endpoint.isDone))

/-- `write_next_packet` into a buffer of `bufLen` bytes: a queued `RST` first, else a segment of
the first active endpoint, or of the one with the closest timeout, that writes one. -/
def writeNextPacket (bufLen : Nat) (now : BitVec 64) :
    Option (TcpIPv4Handler × Except Handler.WriteNextError (Option Nat × WriteEvent)) :=
  if bufLen < ipv4OptionsOffset then some (h, .error .ipv4PacketSliceTooShort)
  else
    match h.rstQueue.getLast? with
    | some (_, rstCfg) =>
      let h := { h with rstQueue := h.rstQueue.dropLast }
      let header := rstCfg.seqAckTcpFlags
      match writeIncompleteSegment (bufLen - ipv4OptionsOffset) header.1 header.2.1 header.2.2
          10000 none 0 none with
      | .error e => some (h, .error (.tcpSegment e))
      | .ok segment =>
        some (h, .ok (some (ipv4OptionsOffset + segment.headerLen + segment.payload.length),
          .nothing))
    | none =>
      match h.writeLoop (bufLen - ipv4OptionsOffset) now
          (h.activeConnections ++ (h.nextTimeout.map Prod.snd).toList) with
      | none => none
      | some (h, none) => some (h, .ok (none, .nothing))
      | some (h, some (tuple, len, isDone)) =>
        if isDone then some (h.removeConnection tuple, .ok (some len, .endpointDone))
        else
          match h.connections.lookup tuple with
          | some endpoint =>
            some (h.updateActive tuple endpoint.nextSegmentStatus, .ok (some len, .nothing))
          | none => none

def nextSegmentStatus : NextSegmentStatus :=
  if !h.activeConnections.isEmpty || !h.rstQueue.isEmpty then .available
  else
    match h.nextTimeout with
    | some (value, _) => .timeout value
    | none => .nothing

end TcpIPv4Handler

/-! ### Runs -/

inductive HandlerOp
  | receivePacket (packet : Ipv4Packet) (isn : BitVec 32) (now : BitVec 64)
  | writeNextPacket (bufLen : Nat) (now : BitVec 64)

namespace TcpIPv4Handler

def step (respond : List (BitVec 8) → List (BitVec 8)) (h : TcpIPv4Handler) :
    HandlerOp → Option TcpIPv4Handler
  | .receivePacket packet isn now => (h.receivePacket respond packet isn now).map Prod.fst
  | .writeNextPacket bufLen now => (h.writeNextPacket bufLen now).map Prod.fst

def Created (h : TcpIPv4Handler) : Prop :=
  ∃ (localIpv4Addr : BitVec 32) (localPort : BitVec 16) (maxConnections : {n : Nat // n ≠ 0})
    (maxPendingResets : {n : Nat // n ≠ 0}),
    h = new localIpv4Addr localPort maxConnections maxPendingResets

end TcpIPv4Handler

end Dumbo
end Firecracker
