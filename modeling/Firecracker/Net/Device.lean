import Firecracker.Net.Rx
import Firecracker.Net.IoVec
import Firecracker.Mmds.Ns
import Firecracker.Lib.Loop
import Firecracker.Lib.Run

/-!
# Firecracker.Net.Device

`devices/src/virtio/net/device.rs`: the activated net device between the guest's two queues, the
host's tap and the MMDS network stack, and the handlers of its events.

On the receive side the device holds one frame at a time, `rx_frame_buf[..rx_bytes_read]`.
`process_rx` reads frames, the stack's first and then the tap's (`read_from_mmds_or_tap`), and
hands each to `rate_limited_rx_single_frame`; a frame that the rate limiter holds back or that no
chain of the RX queue takes stays in the buffer as the deferred frame (`rx_deferred_frame`), and is
retried before anything else is read (`handle_deferred_frame`). On the transmit side `process_tx`
pops the guest's chains, charges each to the TX rate limiter, and gives the frame to
`write_to_mmds_or_tap`, which hands the frames the stack claims to `detour_frame` and writes the
others to the tap; when the stack took a frame it may have an answer, so `process_rx` runs after.

The tap is the list of frames waiting to be read, and its `EAGAIN` the empty list; what the device
writes to it is logged. Metrics, logging, the interrupt after `prepare_kick` and the MAC spoofing
check (metrics only) are left out. The current time of the rate limiters (`now`), the cycle
counter of the MMDS stack (`cycles`), the initial sequence numbers of the connections the stack
opens (`isn`, one for each chain of a pass) and the iterations a handler's loops may make (`fuel`;
a guest can keep them going) are inputs of each event. A `none` result is a panic or a loop out of
fuel.

* `rx_frames_conserved`: over every run from a device with no deferred frame, whatever the events
  and however they interleave, the frames delivered to the guest are the frames read from the
  stack and the tap, in order, with no frame lost or repeated, except the deferred frame, which is
  the last one read. The reason is that `process_rx`, the only reader, runs only when no frame is
  deferred: from a tap event, after a deferred frame went through, and from `process_tx` only when
  it found no frame deferred.
* `tap_never_sees_mmds_frames`: over every run, no frame the device writes to the tap holds an ARP
  request for the MMDS address, or an IPv4 packet to it.
-/

namespace Firecracker

open Virtio Mmds Dumbo

namespace Net

def vnetHdrLen : Nat := 12

/-- `frame_hdr_len()`: the VNET header and `FRAME_HEADER_MAX_LEN`. -/
def frameHdrLen : Nat := vnetHdrLen + frameHeaderMaxLen

/-- `net::Error`, the variants the modelled functions return; `io` is the tap's `EAGAIN`. -/
inductive Error
  | vnetHeaderMissing
  | io
  deriving DecidableEq, Repr

/-- `frame_bytes_from_buf`: the frame after the VNET header. -/
def frameBytesFromBuf (buf : List (BitVec 8)) : Except Error (List (BitVec 8)) :=
  if buf.length < vnetHdrLen then .error .vnetHeaderMissing else .ok (buf.drop vnetHdrLen)

/-- What the device does, in order: a frame read into `rx_frame_buf` and a frame delivered to the
guest, the accesses of the RX delivery, the pops and `add_used`s of the TX queue (with whether
`add_used` returned `Ok`), and the frames written to the tap or handed to the MMDS stack. -/
inductive Access
  | received (frame : List (BitVec 8))
  | delivered (frame : List (BitVec 8))
  | rx (a : RxAccess)
  | txPop (head : BitVec 16)
  | txUndoPop (head : BitVec 16)
  | txAddUsed (head : BitVec 16) (ok : Bool)
  | tapWrite (frame : List (BitVec 8))
  | mmds (frame : List (BitVec 8))
  deriving DecidableEq, Repr

end Net

/-- The activated `Net` device: its two queues and the guest memory, the two rate limiters,
`rx_deferred_frame`, `rx_bytes_read` and `rx_frame_buf`, the frames waiting on the tap, and the
MMDS stack if one is configured. -/
structure Net where
  rxQueue : Queue
  txQueue : Queue
  mem : GuestMemoryMmap
  rxRateLimiter : RateLimiter
  txRateLimiter : RateLimiter
  rxDeferredFrame : Bool
  rxBytesRead : Nat
  rxFrameBuf : List (BitVec 8)
  tap : List (List (BitVec 8))
  mmdsNs : Option MmdsNetworkStack

namespace Net

/-- `rx_frame_buf[..rx_bytes_read]`, the frame the receive side holds. -/
def rxFrame (s : Net) : List (BitVec 8) := s.rxFrameBuf.take s.rxBytesRead

/-- `signal_used_queue`: `prepare_kick`; the interrupt is not modelled. -/
def signalUsedQueue (q : Queue) (mem : GuestMemoryMmap) : Option Queue :=
  (q.prepareKick mem).map Prod.snd

/-! ## Receiving -/

/-- `read_tap`: the next frame on the tap, cut to the buffer as a `read` of it is, into the front of
`rx_frame_buf`; `EAGAIN` when no frame is waiting. -/
def readTap (s : Net) : Net × Except Error Nat :=
  match s.tap with
  | [] => (s, .error .io)
  | frame :: tap =>
    let count := min frame.length s.rxFrameBuf.length
    ({ s with tap, rxFrameBuf := frame.take count ++ s.rxFrameBuf.drop count }, .ok count)

/-- `read_from_mmds_or_tap`: the stack's next frame, written after the VNET header of
`rx_frame_buf`, which is then zeroed (`init_vnet_hdr`); the tap's when the stack has none. -/
def readFromMmdsOrTap (s : Net) (cycles : BitVec 64) : Option (Net × Except Error Nat) :=
  match s.mmdsNs with
  | none => some s.readTap
  | some ns =>
    match frameBytesFromBuf s.rxFrameBuf with
    | .error e => some (s, .error e)
    | .ok buf =>
      match ns.writeNextFrame buf cycles with
      | none => none
      | some (ns, buf, some len) =>
        some ({ s with mmdsNs := some ns, rxFrameBuf := List.replicate vnetHdrLen 0 ++ buf },
          .ok (vnetHdrLen + len))
      | some (ns, buf, none) =>
        some (readTap { s with mmdsNs := some ns, rxFrameBuf := s.rxFrameBuf.take vnetHdrLen ++ buf })

/-- One iteration of the `loop` of `process_rx`, on the device and what the pass has done. -/
def processRxBody (now : Nat) (cycles : BitVec 64) :
    Net × List Access → Loop.Step (Net × List Access) (Option (Net × List Access))
  | (s, log) =>
    match s.readFromMmdsOrTap cycles with
    | none => .done none
    | some (s, .ok count) =>
      let s := { s with rxBytesRead := count }
      let log := log ++ [.received s.rxFrame]
      match rateLimitedRxSingleFrame s.rxRateLimiter s.rxQueue s.mem s.rxFrame now with
      | none => .done none
      | some (true, rxRateLimiter, rxQueue, mem, rxLog) =>
        .next ({ s with rxRateLimiter, rxQueue, mem }, log ++ rxLog.map .rx ++ [.delivered s.rxFrame])
      | some (false, rxRateLimiter, rxQueue, mem, rxLog) =>
        .done (some ({ s with rxRateLimiter, rxQueue, mem, rxDeferredFrame := true },
          log ++ rxLog.map .rx))
    | some (s, .error .io) => .done (some (s, log))
    | some (s, .error .vnetHeaderMissing) => .next (s, log)

/-- `process_rx`: at most `fuel` iterations of its loop, then `signal_used_queue`. -/
def processRx (s : Net) (fuel now : Nat) (cycles : BitVec 64) : Option (Net × List Access) :=
  match Loop.run (processRxBody now cycles) fuel (s, []) with
  | some (some (s, log)) => (signalUsedQueue s.rxQueue s.mem).map fun rxQueue => ({ s with rxQueue }, log)
  | _ => none

/-- `handle_deferred_frame`: the deferred frame first, then the rest of the tap. -/
def handleDeferredFrame (s : Net) (fuel now : Nat) (cycles : BitVec 64) :
    Option (Net × List Access) :=
  match rateLimitedRxSingleFrame s.rxRateLimiter s.rxQueue s.mem s.rxFrame now with
  | none => none
  | some (true, rxRateLimiter, rxQueue, mem, rxLog) =>
    ({ s with rxRateLimiter, rxQueue, mem, rxDeferredFrame := false }.processRx fuel now cycles).map
      fun (r : Net × List Access) => (r.1, rxLog.map Access.rx ++ Access.delivered s.rxFrame :: r.2)
  | some (false, rxRateLimiter, rxQueue, mem, rxLog) =>
    (signalUsedQueue rxQueue mem).map fun rxQueue => ({ s with rxRateLimiter, rxQueue, mem }, rxLog.map .rx)

def resumeRx (s : Net) (fuel now : Nat) (cycles : BitVec 64) : Option (Net × List Access) :=
  if s.rxDeferredFrame then s.handleDeferredFrame fuel now cycles else some (s, [])

/-! ## Transmitting -/

section Transmit

variable (respond : List (BitVec 8) → List (BitVec 8))
  (segmentOf : List (BitVec 8) → Except TcpError TcpPacket)

/-- `write_to_mmds_or_tap`: the stack and the rate limiter afterwards, what the call did, and
whether the stack consumed the frame. The headers are read into `tx_frame_headers`; a frame the
stack claims on them is read whole after its VNET header (an `unwrap`) and detoured, and its
tokens given back; any other goes to the tap. -/
def writeToMmdsOrTap (mmdsNs : Option MmdsNetworkStack) (rateLimiter : RateLimiter)
    (mem : GuestMemoryMmap) (frameIovec : IoVecBuffer) (isn : BitVec 32) (cycles : BitVec 64) :
    Option (Option MmdsNetworkStack × RateLimiter × List Access × Except Error Bool) :=
  match frameIovec.readAt mem (List.replicate frameHdrLen 0) 0 with
  | none => none
  | some (_, none) => some (mmdsNs, rateLimiter, [], .error .vnetHeaderMissing)
  | some (headers, some headerLen) =>
    match frameBytesFromBuf (headers.take headerLen) with
    | .error e => some (mmdsNs, rateLimiter, [], .error e)
    | .ok headers =>
      let toTap := some (mmdsNs, rateLimiter, [.tapWrite (IoVecBuffer.contents mem frameIovec.vecs)], .ok false)
      match mmdsNs with
      | some ns =>
        if ns.isMmdsFrame headers then
          match frameIovec.readAt mem (List.replicate (frameIovec.len - vnetHdrLen) 0) vnetHdrLen with
          | some (frame, some _) =>
            (ns.detourFrame respond segmentOf isn cycles frame).map fun r =>
              (some r.1, rateLimiterReplenishOp rateLimiter frameIovec.len, [.mmds frame], .ok true)
          | _ => none
        else toTap
      | none => toTap

/-- The end of an iteration of `process_tx`: `add_used` of the chain, whose failure ends the call
with an error. -/
def txAddUsed (s : Net) (head : BitVec 16) (processRxForMmds : Bool) (k : Nat) (log : List Access) :
    Loop.Step (Net × Bool × Nat × List Access) (Option (Net × Bool × List Access × Bool)) :=
  match s.txQueue.addUsed s.mem head 0 with
  | (txQueue, mem, .ok ()) => .next ({ s with txQueue, mem }, processRxForMmds, k, log ++ [.txAddUsed head true])
  | (txQueue, mem, .error _) =>
    .done (some ({ s with txQueue, mem }, processRxForMmds, log ++ [.txAddUsed head false], false))

/-- One iteration of the `while let` loop of `process_tx`, on the device, `process_rx_for_mmds`, the
number of chains popped and what the pass has done; it leaves with whether no `add_used` failed. -/
def processTxBody (isn : Nat → BitVec 32) (now : Nat) (cycles : BitVec 64) :
    Net × Bool × Nat × List Access →
      Loop.Step (Net × Bool × Nat × List Access) (Option (Net × Bool × List Access × Bool))
  | (s, processRxForMmds, k, log) =>
    match s.txQueue.popOrEnableNotification s.mem with
    | none => .done none
    | some (none, txQueue, mem) => .done (some ({ s with txQueue, mem }, processRxForMmds, log, true))
    | some (some head, txQueue, mem) =>
      let s := { s with txQueue, mem }
      let log := log ++ [.txPop head.index]
      match IoVecBuffer.fromDescriptorChain s.mem head with
      | .error _ => txAddUsed s head.index processRxForMmds (k + 1) log
      | .ok buffer =>
        match rateLimiterConsumeOp s.txRateLimiter buffer.len now with
        | (false, txRateLimiter) =>
          .done (some ({ s with txRateLimiter, txQueue := s.txQueue.undoPop }, processRxForMmds,
            log ++ [.txUndoPop head.index], true))
        | (true, txRateLimiter) =>
          match writeToMmdsOrTap respond segmentOf s.mmdsNs txRateLimiter s.mem buffer (isn k) cycles with
          | none => .done none
          | some (mmdsNs, txRateLimiter, out, consumed) =>
            let consumed := match consumed with
              | .ok b => b
              | .error _ => false
            txAddUsed { s with mmdsNs, txRateLimiter } head.index
              (processRxForMmds || (consumed && !s.rxDeferredFrame)) (k + 1) (log ++ out)

/-- `process_tx`: at most `fuel` iterations of its loop, `signal_used_queue`, and `process_rx` when
the stack consumed a frame. -/
def processTx (s : Net) (fuel now : Nat) (cycles : BitVec 64) (isn : Nat → BitVec 32) :
    Option (Net × List Access) :=
  match Loop.run (processTxBody respond segmentOf isn now cycles) fuel (s, false, 0, []) with
  | some (some (s, processRxForMmds, log, true)) =>
    match signalUsedQueue s.txQueue s.mem with
    | none => none
    | some txQueue =>
      if processRxForMmds then
        ({ s with txQueue }.processRx fuel now cycles).map fun (r : Net × List Access) => (r.1, log ++ r.2)
      else some ({ s with txQueue }, log)
  | some (some (s, _, log, false)) => some (s, log)
  | _ => none

end Transmit

/-! ## The events -/

/-- `process_rx_queue_event`, with the queue's event read. -/
def processRxQueueEvent (s : Net) (fuel now : Nat) (cycles : BitVec 64) : Option (Net × List Access) :=
  if s.rxRateLimiter.isBlocked then some (s, []) else s.resumeRx fuel now cycles

/-- `process_tap_rx_event`: nothing while a deferred frame waits for an empty queue or the limiter
is blocked; the deferred frame first. -/
def processTapRxEvent (s : Net) (fuel now : Nat) (cycles : BitVec 64) : Option (Net × List Access) :=
  match s.rxQueue.isEmpty s.mem with
  | none => none
  | some empty =>
    if empty && s.rxDeferredFrame then some (s, [])
    else if s.rxRateLimiter.isBlocked then some (s, [])
    else if s.rxDeferredFrame then s.handleDeferredFrame fuel now cycles
    else s.processRx fuel now cycles

def processRxRateLimiterEvent (s : Net) (fuel now : Nat) (cycles : BitVec 64) :
    Option (Net × List Access) :=
  match s.rxRateLimiter.eventHandler with
  | .ok rxRateLimiter => { s with rxRateLimiter }.resumeRx fuel now cycles
  | .error _ => some (s, [])

section Events

variable (respond : List (BitVec 8) → List (BitVec 8))
  (segmentOf : List (BitVec 8) → Except TcpError TcpPacket)

/-- `process_tx_queue_event`, with the queue's event read. -/
def processTxQueueEvent (s : Net) (fuel now : Nat) (cycles : BitVec 64) (isn : Nat → BitVec 32) :
    Option (Net × List Access) :=
  if !s.txRateLimiter.isBlocked then s.processTx respond segmentOf fuel now cycles isn
  else some (s, [])

def processTxRateLimiterEvent (s : Net) (fuel now : Nat) (cycles : BitVec 64)
    (isn : Nat → BitVec 32) : Option (Net × List Access) :=
  match s.txRateLimiter.eventHandler with
  | .ok txRateLimiter => { s with txRateLimiter }.processTx respond segmentOf fuel now cycles isn
  | .error _ => some (s, [])

/-- `process_virtio_queues`: `resume_rx`, then `process_tx`. -/
def processVirtioQueues (s : Net) (fuel now : Nat) (cycles : BitVec 64) (isn : Nat → BitVec 32) :
    Option (Net × List Access) :=
  match s.resumeRx fuel now cycles with
  | none => none
  | some (s, log) =>
    (s.processTx respond segmentOf fuel now cycles isn).map fun (r : Net × List Access) => (r.1, log ++ r.2)

end Events

/-- What happens to the device: one of its handlers runs, or its environment acts. -/
inductive Event where
  | rxQueue (fuel now : Nat) (cycles : BitVec 64)
  | tapRx (fuel now : Nat) (cycles : BitVec 64)
  | txQueue (fuel now : Nat) (cycles : BitVec 64) (isn : Nat → BitVec 32)
  | rxRateLimiter (fuel now : Nat) (cycles : BitVec 64)
  | txRateLimiter (fuel now : Nat) (cycles : BitVec 64) (isn : Nat → BitVec 32)
  | virtioQueues (fuel now : Nat) (cycles : BitVec 64) (isn : Nat → BitVec 32)
  /-- The host sends a frame to the tap. -/
  | tapReceives (frame : List (BitVec 8))
  | rxTimerFires
  | txTimerFires
  | guestWrites (addr : BitVec 64) (data : List (BitVec 8))

/-- One event; `none` when a handler panics or runs out of fuel. -/
def step (respond : List (BitVec 8) → List (BitVec 8))
    (segmentOf : List (BitVec 8) → Except TcpError TcpPacket) (s : Net) :
    Event → Option (Net × List Access)
  | .rxQueue fuel now cycles => s.processRxQueueEvent fuel now cycles
  | .tapRx fuel now cycles => s.processTapRxEvent fuel now cycles
  | .txQueue fuel now cycles isn => s.processTxQueueEvent respond segmentOf fuel now cycles isn
  | .rxRateLimiter fuel now cycles => s.processRxRateLimiterEvent fuel now cycles
  | .txRateLimiter fuel now cycles isn => s.processTxRateLimiterEvent respond segmentOf fuel now cycles isn
  | .virtioQueues fuel now cycles isn => s.processVirtioQueues respond segmentOf fuel now cycles isn
  | .tapReceives frame => some ({ s with tap := s.tap ++ [frame] }, [])
  | .rxTimerFires => some ({ s with rxRateLimiter.timerFd := s.rxRateLimiter.timerFd.fire }, [])
  | .txTimerFires => some ({ s with txRateLimiter.timerFd := s.txRateLimiter.timerFd.fire }, [])
  | .guestWrites addr data =>
    match s.mem.store addr data with
    | some mem => some ({ s with mem }, [])
    | none => some (s, [])

/-- The bytes of `sampleNet`'s memory that are not zero: descriptor 0 of the TX queue's table at
`0x4000` is a 26-byte buffer at `0x7000`, which the available ring at `0x5000` offers; the buffer
holds a VNET header and an Ethernet header from `06:00:00:00:00:01`, broadcast, of an IPv6
frame. -/
def sampleBytes : List (BitVec 64 × BitVec 8) :=
  [(0x4001, 0x70), (0x4008, 26), (0x5002, 1),
   (0x700c, 0xff), (0x700d, 0xff), (0x700e, 0xff), (0x700f, 0xff), (0x7010, 0xff), (0x7011, 0xff),
   (0x7012, 0x06), (0x7017, 0x01), (0x7018, 0x86), (0x7019, 0xdd)]

/-- A device with the default MMDS stack, no rate limiting, an RX queue of four descriptors that
offers nothing, a TX queue with one chain, and a three-byte frame waiting on the tap. -/
def sampleNet : Net :=
  { rxQueue := { maxSize := 4, size := 4, ready := true, descTable := 0x1000, availRing := 0x2000,
                 usedRing := 0x3000, nextAvail := 0, nextUsed := 0, usesNotifSuppression := false,
                 numAdded := 0 }
    txQueue := { maxSize := 4, size := 4, ready := true, descTable := 0x4000, availRing := 0x5000,
                 usedRing := 0x6000, nextAvail := 0, nextUsed := 0, usesNotifSuppression := false,
                 numAdded := 0 }
    mem := ⟨[⟨0, 0x10000⟩], fun a => (sampleBytes.lookup a).getD 0⟩
    rxRateLimiter := RateLimiter.new 0 0 0 0 0 0 0
    txRateLimiter := RateLimiter.new 0 0 0 0 0 0 0
    rxDeferredFrame := false, rxBytesRead := 0, rxFrameBuf := List.replicate 16 0
    tap := [[1, 2, 3]], mmdsNs := some (MmdsNetworkStack.newWithDefaults none) }

/-! ## The receive side keeps its frames -/

def Access.inFrames : Access → List (List (BitVec 8))
  | .received frame => [frame]
  | _ => []

def Access.outFrames : Access → List (List (BitVec 8))
  | .delivered frame => [frame]
  | _ => []

/-- The frames the receive side holds back: the deferred frame, if there is one. -/
def held (s : Net) : List (List (BitVec 8)) := if s.rxDeferredFrame then [s.rxFrame] else []

/-- From `s` to what a handler returns, the receive side keeps its frames in order: what it held
and then read is what it delivered and then holds. -/
def Conserves (s : Net) (r : Net × List Access) : Prop :=
  s.held ++ r.2.flatMap Access.inFrames = r.2.flatMap Access.outFrames ++ r.1.held

@[simp] theorem inFrames_map_rx (l : List RxAccess) : (l.map Access.rx).flatMap Access.inFrames = [] := by
  simp [List.flatMap_map, Access.inFrames]

@[simp] theorem outFrames_map_rx (l : List RxAccess) :
    (l.map Access.rx).flatMap Access.outFrames = [] := by
  simp [List.flatMap_map, Access.outFrames]

theorem held_of_not_deferred {s : Net} (h : s.rxDeferredFrame = false) : s.held = [] := by
  simp [held, h]

theorem Conserves.of_held {s s' : Net} (h : s'.held = s.held) : Conserves s (s', []) := by
  simp [Conserves, h]

theorem Conserves.trans {s₀ s₁ s₂ : Net} {log₁ log₂ : List Access} (h₁ : Conserves s₀ (s₁, log₁))
    (h₂ : Conserves s₁ (s₂, log₂)) : Conserves s₀ (s₂, log₁ ++ log₂) := by
  unfold Conserves at *
  simp only [List.flatMap_append, ← List.append_assoc, h₁]
  simp only [List.append_assoc, h₂]

theorem Conserves.of_held_eq {s s' : Net} {r : Net × List Access} (h : s'.held = s.held)
    (hc : Conserves s' r) : Conserves s r := by
  unfold Conserves at *
  rw [← h, hc]

section Receive

variable {now : Nat} {cycles : BitVec 64}

theorem readTap_rxDeferredFrame {s s' : Net} {r : Except Error Nat} (h : s.readTap = (s', r)) :
    s'.rxDeferredFrame = s.rxDeferredFrame := by
  unfold readTap at h
  split at h <;> cases h <;> rfl

theorem readFromMmdsOrTap_rxDeferredFrame {s s' : Net} {r : Except Error Nat}
    (h : s.readFromMmdsOrTap cycles = some (s', r)) : s'.rxDeferredFrame = s.rxDeferredFrame := by
  unfold readFromMmdsOrTap at h
  split at h
  · exact readTap_rxDeferredFrame (Option.some.inj h)
  split at h
  · cases h
    rfl
  split at h
  · cases h
  · cases h
    rfl
  · have hread := readTap_rxDeferredFrame (Option.some.inj h)
    exact hread

/-- What holds between the iterations of `process_rx`: no frame is deferred, and every frame read
was delivered. -/
def RxIdle (p : Net × List Access) : Prop :=
  p.1.rxDeferredFrame = false ∧ p.2.flatMap Access.inFrames = p.2.flatMap Access.outFrames

/-- What `process_rx`'s loop leaves with: every frame read was delivered, but the one it holds. -/
def RxSettled (o : Option (Net × List Access)) : Prop :=
  ∀ r, o = some r → r.2.flatMap Access.inFrames = r.2.flatMap Access.outFrames ++ r.1.held

theorem processRxBody_sat {p : Net × List Access} (hp : RxIdle p) :
    (processRxBody now cycles p).Sat RxIdle RxSettled := by
  obtain ⟨s, log⟩ := p
  obtain ⟨hdef, hlog⟩ := hp
  rw [processRxBody]
  split
  · rintro r ⟨⟩
  · rename_i s₁ count hread
    have hdef₁ : s₁.rxDeferredFrame = false := (readFromMmdsOrTap_rxDeferredFrame hread).trans hdef
    dsimp only
    split
    · rintro r ⟨⟩
    · exact ⟨hdef₁, by simp [hlog, Access.inFrames, Access.outFrames]⟩
    · rintro r ⟨⟩
      simp [hlog, held, rxFrame, Access.inFrames, Access.outFrames]
  · rename_i s₁ hread
    rintro r ⟨⟩
    simp [hlog, held_of_not_deferred ((readFromMmdsOrTap_rxDeferredFrame hread).trans hdef)]
  · rename_i s₁ hread
    exact ⟨(readFromMmdsOrTap_rxDeferredFrame hread).trans hdef, hlog⟩

theorem processRx_settled {s : Net} {fuel : Nat} {r : Net × List Access}
    (hdef : s.rxDeferredFrame = false) (h : s.processRx fuel now cycles = some r) :
    r.2.flatMap Access.inFrames = r.2.flatMap Access.outFrames ++ r.1.held := by
  unfold processRx at h
  split at h
  · rename_i s₁ log hrun
    obtain ⟨rxQueue, -, rfl⟩ := Option.map_eq_some_iff.mp h
    exact Loop.run_sat (fun p hp => processRxBody_sat hp) ⟨hdef, rfl⟩ hrun (s₁, log) rfl
  · cases h

theorem processRx_conserves {s : Net} {fuel : Nat} {r : Net × List Access}
    (hdef : s.rxDeferredFrame = false) (h : s.processRx fuel now cycles = some r) : Conserves s r := by
  unfold Conserves
  rw [held_of_not_deferred hdef, List.nil_append]
  exact processRx_settled hdef h

theorem handleDeferredFrame_conserves {s : Net} {fuel : Nat} {r : Net × List Access}
    (hdef : s.rxDeferredFrame = true) (h : s.handleDeferredFrame fuel now cycles = some r) :
    Conserves s r := by
  unfold handleDeferredFrame at h
  split at h
  · cases h
  · obtain ⟨r', hrx, rfl⟩ := Option.map_eq_some_iff.mp h
    have hsettled := processRx_settled rfl hrx
    simp [Conserves, held, hdef, hsettled, Access.inFrames, Access.outFrames]
  · obtain ⟨rxQueue, -, rfl⟩ := Option.map_eq_some_iff.mp h
    simp [Conserves, held, hdef, rxFrame]

theorem resumeRx_conserves {s : Net} {fuel : Nat} {r : Net × List Access}
    (h : s.resumeRx fuel now cycles = some r) : Conserves s r := by
  unfold resumeRx at h
  split at h
  · exact handleDeferredFrame_conserves (by assumption) h
  · cases h
    exact Conserves.of_held rfl

end Receive

/-! ### The transmit side reads no frame -/

section Transmit

variable {respond : List (BitVec 8) → List (BitVec 8)}
  {segmentOf : List (BitVec 8) → Except TcpError TcpPacket} {now : Nat} {cycles : BitVec 64}

theorem writeToMmdsOrTap_cases {mmdsNs mmdsNs' : Option MmdsNetworkStack} {rl rl' : RateLimiter}
    {mem : GuestMemoryMmap} {b : IoVecBuffer} {isn : BitVec 32} {out : List Access}
    {res : Except Error Bool}
    (h : writeToMmdsOrTap respond segmentOf mmdsNs rl mem b isn cycles = some (mmdsNs', rl', out, res)) :
    (mmdsNs' = mmdsNs ∧ rl' = rl ∧ out = [] ∧ ∃ e, res = .error e) ∨
    (mmdsNs' = mmdsNs ∧ rl' = rl ∧ out = [.tapWrite (IoVecBuffer.contents mem b.vecs)] ∧
      res = .ok false) ∨
    (∃ ns frame r, mmdsNs = some ns ∧ ns.detourFrame respond segmentOf isn cycles frame = some r ∧
      mmdsNs' = some r.1 ∧ rl' = rateLimiterReplenishOp rl b.len ∧ out = [.mmds frame] ∧
      res = .ok true) := by
  unfold writeToMmdsOrTap at h
  split at h
  · cases h
  · cases h
    exact .inl ⟨rfl, rfl, rfl, _, rfl⟩
  split at h
  · cases h
    exact .inl ⟨rfl, rfl, rfl, _, rfl⟩
  dsimp only at h
  split at h
  · rename_i ns
    split at h
    · split at h
      · obtain ⟨r, hd, hr⟩ := Option.map_eq_some_iff.mp h
        simp only [Prod.mk.injEq] at hr
        obtain ⟨rfl, rfl, rfl, rfl⟩ := hr
        exact .inr (.inr ⟨ns, _, r, rfl, hd, rfl, rfl, rfl, rfl⟩)
      · cases h
    · cases h
      exact .inr (.inl ⟨rfl, rfl, rfl, rfl⟩)
  · cases h
    exact .inr (.inl ⟨rfl, rfl, rfl, rfl⟩)

theorem writeToMmdsOrTap_frames {mmdsNs mmdsNs' : Option MmdsNetworkStack} {rl rl' : RateLimiter}
    {mem : GuestMemoryMmap} {b : IoVecBuffer} {isn : BitVec 32} {out : List Access}
    {res : Except Error Bool}
    (h : writeToMmdsOrTap respond segmentOf mmdsNs rl mem b isn cycles = some (mmdsNs', rl', out, res)) :
    out.flatMap Access.inFrames = [] ∧ out.flatMap Access.outFrames = [] := by
  rcases writeToMmdsOrTap_cases h with ⟨-, -, rfl, -⟩ | ⟨-, -, rfl, -⟩ | ⟨_, _, _, -, -, -, -, rfl, -⟩ <;>
    simp [Access.inFrames, Access.outFrames]

/-- What a pass of `process_tx` keeps from the state `s` it started in: the frame the receive
side holds, a log with no frame read or delivered, and `process_rx_for_mmds` set only if no frame
was deferred. -/
structure TxKeeps (s s' : Net) (processRxForMmds : Bool) (log : List Access) : Prop where
  rxDeferredFrame : s'.rxDeferredFrame = s.rxDeferredFrame
  rxFrame : s'.rxFrame = s.rxFrame
  inFrames : log.flatMap Access.inFrames = []
  outFrames : log.flatMap Access.outFrames = []
  processRx : processRxForMmds = true → s.rxDeferredFrame = false

theorem TxKeeps.init (s : Net) : TxKeeps s s false [] := ⟨rfl, rfl, rfl, rfl, nofun⟩

theorem TxKeeps.held_eq {s s' : Net} {b : Bool} {log : List Access} (hk : TxKeeps s s' b log) :
    s'.held = s.held := by
  simp [held, hk.rxDeferredFrame, hk.rxFrame]

theorem TxKeeps.conserves {s s' : Net} {b : Bool} {log : List Access} (hk : TxKeeps s s' b log) :
    Conserves s (s', log) := by
  simp [Conserves, hk.inFrames, hk.outFrames, hk.held_eq]

theorem TxKeeps.update {s s' t : Net} {b : Bool} {log : List Access} (hk : TxKeeps s s' b log)
    (hdef : t.rxDeferredFrame = s'.rxDeferredFrame) (hframe : t.rxFrame = s'.rxFrame) :
    TxKeeps s t b log :=
  ⟨hdef.trans hk.rxDeferredFrame, hframe.trans hk.rxFrame, hk.inFrames, hk.outFrames, hk.processRx⟩

theorem TxKeeps.step {s s' s'' : Net} {b : Bool} {log : List Access} (hk : TxKeeps s s' b log)
    (hdef : s''.rxDeferredFrame = s'.rxDeferredFrame) (hframe : s''.rxFrame = s'.rxFrame)
    (out : List Access) (hin : out.flatMap Access.inFrames = [])
    (hout : out.flatMap Access.outFrames = []) : TxKeeps s s'' b (log ++ out) :=
  ⟨hdef.trans hk.rxDeferredFrame, hframe.trans hk.rxFrame, by simp [hk.inFrames, hin],
    by simp [hk.outFrames, hout], hk.processRx⟩

theorem txAddUsed_sat {s s' : Net} {head : BitVec 16} {b : Bool} {k : Nat} {log : List Access}
    (hk : TxKeeps s s' b log) :
    (txAddUsed s' head b k log).Sat (fun p => TxKeeps s p.1 p.2.1 p.2.2.2)
      (fun o => ∀ r, o = some r → TxKeeps s r.1 r.2.1 r.2.2.1) := by
  unfold txAddUsed
  split
  · refine hk.step ?_ ?_ [.txAddUsed head true] ?_ ?_ <;> simp [rxFrame, Access.inFrames, Access.outFrames]
  · rintro r ⟨⟩
    refine hk.step ?_ ?_ [.txAddUsed head false] ?_ ?_ <;> simp [rxFrame, Access.inFrames, Access.outFrames]

theorem processTxBody_sat {isn : Nat → BitVec 32} {s : Net} {p : Net × Bool × Nat × List Access}
    (hp : TxKeeps s p.1 p.2.1 p.2.2.2) :
    (processTxBody respond segmentOf isn now cycles p).Sat (fun p => TxKeeps s p.1 p.2.1 p.2.2.2)
      (fun o => ∀ r, o = some r → TxKeeps s r.1 r.2.1 r.2.2.1) := by
  obtain ⟨s', b, k, log⟩ := p
  rw [processTxBody]
  split
  · rintro r ⟨⟩
  · rintro r ⟨⟩
    exact hp.update (t := { s' with txQueue := _, mem := _ }) rfl rfl
  · dsimp only
    rename_i head txQueue mem _
    have hpop : TxKeeps s { s' with txQueue, mem } b (log ++ [.txPop head.index]) := by
      refine hp.step ?_ ?_ _ ?_ ?_ <;> simp [rxFrame, Access.inFrames, Access.outFrames]
    split
    · exact txAddUsed_sat hpop
    · split
      · rintro r ⟨⟩
        refine hpop.step ?_ ?_ [.txUndoPop head.index] ?_ ?_ <;>
          simp [rxFrame, Access.inFrames, Access.outFrames]
      · split
        · rintro r ⟨⟩
        · rename_i hw
          obtain ⟨hin, hout⟩ := writeToMmdsOrTap_frames hw
          refine txAddUsed_sat ⟨hp.rxDeferredFrame, hp.rxFrame, ?_, ?_, ?_⟩
          · rw [List.flatMap_append, hpop.inFrames, hin, List.append_nil]
          · rw [List.flatMap_append, hpop.outFrames, hout, List.append_nil]
          · intro hflag
            simp only [Bool.or_eq_true, Bool.and_eq_true, Bool.not_eq_true'] at hflag
            rcases hflag with hflag | ⟨-, hdef⟩
            · exact hp.processRx hflag
            · exact hp.rxDeferredFrame.symm.trans hdef

theorem processTx_conserves {s : Net} {fuel : Nat} {isn : Nat → BitVec 32} {r : Net × List Access}
    (h : s.processTx respond segmentOf fuel now cycles isn = some r) : Conserves s r := by
  unfold processTx at h
  split at h
  · rename_i s₁ b log hrun
    have hk : TxKeeps s s₁ b log :=
      Loop.run_sat (fun p hp => processTxBody_sat hp) (TxKeeps.init s) hrun _ rfl
    split at h
    · cases h
    · rename_i txQueue hsig
      split at h
      · obtain ⟨r', hrx, rfl⟩ := Option.map_eq_some_iff.mp h
        have hk' : TxKeeps s { s₁ with txQueue } b log := hk.update rfl rfl
        have hdef : s.rxDeferredFrame = false := hk.processRx (by assumption)
        exact hk'.conserves.trans (processRx_conserves (hk'.rxDeferredFrame.trans hdef) hrx)
      · cases h
        exact (hk.update (t := { s₁ with txQueue }) rfl rfl).conserves
  · rename_i s₁ b log hrun
    cases h
    exact (Loop.run_sat (fun p hp => processTxBody_sat hp) (TxKeeps.init s) hrun _ rfl).conserves
  · cases h

end Transmit

/-! ### Every run -/

section Run

variable {respond : List (BitVec 8) → List (BitVec 8)}
  {segmentOf : List (BitVec 8) → Except TcpError TcpPacket}

theorem step_conserves {s : Net} {e : Event} {r : Net × List Access}
    (h : s.step respond segmentOf e = some r) : Conserves s r := by
  cases e with
  | rxQueue fuel now cycles =>
    simp only [step, processRxQueueEvent] at h
    split at h
    · cases h
      exact .of_held rfl
    · exact resumeRx_conserves h
  | tapRx fuel now cycles =>
    simp only [step, processTapRxEvent] at h
    split at h
    · cases h
    split at h
    · cases h
      exact .of_held rfl
    split at h
    · cases h
      exact .of_held rfl
    split at h
    · exact handleDeferredFrame_conserves (by assumption) h
    · exact processRx_conserves (by simpa using (by assumption : ¬s.rxDeferredFrame = true)) h
  | txQueue fuel now cycles isn =>
    simp only [step, processTxQueueEvent] at h
    split at h
    · exact processTx_conserves h
    · cases h
      exact .of_held rfl
  | rxRateLimiter fuel now cycles =>
    simp only [step, processRxRateLimiterEvent] at h
    split at h
    · exact (resumeRx_conserves h).of_held_eq rfl
    · cases h
      exact .of_held rfl
  | txRateLimiter fuel now cycles isn =>
    simp only [step, processTxRateLimiterEvent] at h
    split at h
    · exact (processTx_conserves h).of_held_eq rfl
    · cases h
      exact .of_held rfl
  | virtioQueues fuel now cycles isn =>
    simp only [step, processVirtioQueues] at h
    split at h
    · cases h
    · rename_i s₁ log hres
      obtain ⟨r', htx, rfl⟩ := Option.map_eq_some_iff.mp h
      exact (resumeRx_conserves hres).trans (processTx_conserves htx)
  | tapReceives frame =>
    cases h
    exact .of_held rfl
  | rxTimerFires =>
    cases h
    exact .of_held rfl
  | txTimerFires =>
    cases h
    exact .of_held rfl
  | guestWrites addr data =>
    simp only [step] at h
    split at h <;>
    · cases h
      exact .of_held rfl

/-- **No frame lost, repeated or reordered on the way to the guest.** Along every run of a device
that starts with no deferred frame, whatever events come and in whatever order, the frames the
device has delivered to the guest, followed by the frame it holds deferred if any, are exactly
the frames it has read from the MMDS stack and from the tap, in the order it read them. -/
theorem rx_frames_conserved {s : Net} {log : List Access}
    (hreach : Run.Reachable (Run.logged (step respond segmentOf))
      (fun p => p.1.rxDeferredFrame = false ∧ p.2 = []) (s, log)) :
    log.flatMap Access.inFrames = log.flatMap Access.outFrames ++ s.held := by
  refine Run.Reachable.inv
    (I := fun p : Net × List Access => p.2.flatMap Access.inFrames = p.2.flatMap Access.outFrames ++ p.1.held)
    ?_ ?_ hreach
  · rintro ⟨s, log⟩ e ⟨s', log'⟩ hinv hstep
    obtain ⟨out, hout, rfl⟩ := Run.logged_eq_some.mp hstep
    have hc := step_conserves hout
    unfold Conserves at hc
    simp only [List.flatMap_append] at hinv ⊢
    rw [hinv, List.append_assoc, hc, List.append_assoc]
  · rintro ⟨s, log⟩ ⟨hdef, rfl⟩
    simp [held_of_not_deferred hdef]

/-- The tap event on `sampleNet`: the frame read finds no chain and stays deferred. -/
theorem rx_frames_conserved_sampleNet :
    ∃ s log, Run.run (Run.logged (step (fun _ => []) (fun _ => .error .sliceTooShort)))
        (sampleNet, []) [.tapRx 4 0 0] = some (s, log) ∧
      log.flatMap Access.inFrames = log.flatMap Access.outFrames ++ s.held := by
  have hreach : Run.Reachable (Run.logged (step (fun _ => []) (fun _ => .error .sliceTooShort)))
      (fun p => p.1.rxDeferredFrame = false ∧ p.2 = []) _ :=
    (Run.Reachable.init (s := (sampleNet, [])) ⟨rfl, rfl⟩).run [.tapRx 4 0 0] rfl
  exact ⟨_, _, rfl, rx_frames_conserved hreach⟩

example : ∃ s, Run.run (Run.logged (step (fun _ => []) (fun _ => .error .sliceTooShort)))
    (sampleNet, []) [.tapRx 4 0 0] = some (s, [.received [1, 2, 3]]) ∧ s.held = [[1, 2, 3]] :=
  ⟨_, rfl, rfl⟩

end Run

/-! ## No frame for the MMDS goes to the tap -/

def Access.tapFrames : Access → List (List (BitVec 8))
  | .tapWrite frame => [frame]
  | _ => []

/-- An Ethernet frame for the MMDS at `addr`: an ARP request for it, or an IPv4 packet to it that
`from_bytes` accepts. -/
def ForMmds (addr : BitVec 32) (frame : List (BitVec 8)) : Prop :=
  (∃ arp, Ethernet.ethertype frame = Ethernet.ethertypeArp ∧
      Arp.requestFromBytes (Ethernet.payload frame) = .ok arp ∧ Arp.tpa arp = addr) ∨
    (∃ ip, Ethernet.ethertype frame = Ethernet.ethertypeIpv4 ∧
      Ipv4.fromBytes (Ethernet.payload frame) false = .ok ip ∧ Ipv4.destinationAddress ip = addr)

theorem ForMmds.isMmdsFrame {ns : MmdsNetworkStack} {frame : List (BitVec 8)}
    (h : ForMmds ns.ipv4Addr frame) : ns.isMmdsFrame frame = true := by
  rcases h with ⟨arp, hty, hreq, htpa⟩ | ⟨ip, hty, hip, hdst⟩
  · exact MmdsNetworkStack.isMmdsFrame_of_arpRequest hty hreq htpa
  · exact MmdsNetworkStack.isMmdsFrame_of_ipv4 hty hip hdst

def mmdsAddr (s : Net) : Option (BitVec 32) := s.mmdsNs.map (·.ipv4Addr)

/-- No frame of `log` written to the tap is, after its VNET header, for the MMDS at `a`. -/
def TapClean (a : Option (BitVec 32)) (log : List Access) : Prop :=
  ∀ addr, a = some addr → ∀ frame ∈ log.flatMap Access.tapFrames, ¬ ForMmds addr (frame.drop vnetHdrLen)

/-- From `s` to what a handler returns, the MMDS address stays and no frame for it goes to the
tap. -/
def Isolates (s : Net) (r : Net × List Access) : Prop :=
  r.1.mmdsAddr = s.mmdsAddr ∧ TapClean s.mmdsAddr r.2

section Isolation

variable {a : Option (BitVec 32)} {l l₁ l₂ : List Access}

theorem TapClean.append (h₁ : TapClean a l₁) (h₂ : TapClean a l₂) : TapClean a (l₁ ++ l₂) := by
  intro addr ha frame hf
  rw [List.flatMap_append, List.mem_append] at hf
  exact hf.elim (h₁ addr ha frame) (h₂ addr ha frame)

theorem TapClean.of_nil (h : l.flatMap Access.tapFrames = []) : TapClean a l := by
  intro addr _ frame hf
  rw [h] at hf
  cases hf

@[simp] theorem tapFrames_map_rx (l : List RxAccess) : (l.map Access.rx).flatMap Access.tapFrames = [] := by
  simp [List.flatMap_map, Access.tapFrames]

theorem Isolates.of_eq {s s' : Net} (h : s'.mmdsNs = s.mmdsNs) : Isolates s (s', []) :=
  ⟨by simp [mmdsAddr, h], .of_nil rfl⟩

theorem Isolates.trans {s₀ s₁ s₂ : Net} {log₁ log₂ : List Access} (h₁ : Isolates s₀ (s₁, log₁))
    (h₂ : Isolates s₁ (s₂, log₂)) : Isolates s₀ (s₂, log₁ ++ log₂) :=
  ⟨h₂.1.trans h₁.1, h₁.2.append (h₁.1 ▸ h₂.2)⟩

theorem Isolates.of_mmdsNs_eq {s s' : Net} {r : Net × List Access} (h : s'.mmdsNs = s.mmdsNs)
    (hi : Isolates s' r) : Isolates s r := by
  unfold Isolates mmdsAddr at *
  rw [← h]
  exact hi

end Isolation

section Tap

variable {respond : List (BitVec 8) → List (BitVec 8)}
  {segmentOf : List (BitVec 8) → Except TcpError TcpPacket} {cycles : BitVec 64}

theorem isMmdsFrame_headers (ns : MmdsNetworkStack) (c : List (BitVec 8)) {n : Nat}
    (hn : n = min frameHdrLen c.length) :
    ns.isMmdsFrame ((c.take n).drop vnetHdrLen) = ns.isMmdsFrame (c.drop vnetHdrLen) := by
  have hwindow : (c.take n).drop vnetHdrLen = (c.drop vnetHdrLen).take frameHeaderMaxLen := by
    rw [List.drop_take, List.take_eq_take_iff, List.length_drop, hn]
    unfold frameHdrLen
    omega
  rw [hwindow, MmdsNetworkStack.isMmdsFrame_take le_rfl]

theorem writeToMmdsOrTap_tap {ns : MmdsNetworkStack} {mmdsNs' : Option MmdsNetworkStack}
    {rl rl' : RateLimiter} {mem : GuestMemoryMmap} {b : IoVecBuffer} {isn : BitVec 32}
    {out : List Access} {res : Except Error Bool}
    (hlen : b.len = (b.vecs.map fun v => v.2.toNat).sum)
    (h : writeToMmdsOrTap respond segmentOf (some ns) rl mem b isn cycles = some (mmdsNs', rl', out, res))
    {frame : List (BitVec 8)} (hframe : frame ∈ out.flatMap Access.tapFrames) :
    ns.isMmdsFrame (frame.drop vnetHdrLen) = false := by
  unfold writeToMmdsOrTap at h
  split at h
  · cases h
  · cases h
    simp at hframe
  rename_i headers headerLen hread
  split at h
  · cases h
    simp at hframe
  rename_i hdrs hbytes
  dsimp only at h
  split at h
  · split at h
    · obtain ⟨r, -, hr⟩ := Option.map_eq_some_iff.mp h
      simp only [Prod.mk.injEq] at hr
      obtain ⟨-, -, rfl, -⟩ := hr
      simp [Access.tapFrames] at hframe
    · cases h
  rename_i hnot
  cases h
  simp only [Access.tapFrames, List.flatMap_cons, List.flatMap_nil, List.append_nil,
    List.mem_singleton] at hframe
  subst hframe
  have hpos : 0 < b.len := by
    by_contra hzero
    rw [IoVecBuffer.readAt, if_pos (by omega)] at hread
    cases hread
  have hc : (IoVecBuffer.contents mem b.vecs).length = b.len := by
    rw [IoVecBuffer.length_contents, hlen]
  rw [IoVecBuffer.readAt_of_lt mem hlen _ hpos] at hread
  simp only [Option.some.injEq, Prod.mk.injEq, List.drop_zero, List.length_replicate,
    Nat.sub_zero] at hread
  obtain ⟨rfl, rfl⟩ := hread
  rw [List.take_left' (by rw [List.length_take, hc]; omega)] at hbytes
  unfold frameBytesFromBuf at hbytes
  split at hbytes
  · cases hbytes
  cases hbytes
  rw [← isMmdsFrame_headers ns _ (by rw [hc])]
  simpa using hnot

end Tap

/-! ### Every handler keeps the tap clean -/

section Handlers

variable {respond : List (BitVec 8) → List (BitVec 8)}
  {segmentOf : List (BitVec 8) → Except TcpError TcpPacket} {now : Nat} {cycles : BitVec 64}

theorem writeToMmdsOrTap_isolates {mmdsNs mmdsNs' : Option MmdsNetworkStack} {rl rl' : RateLimiter}
    {mem : GuestMemoryMmap} {b : IoVecBuffer} {isn : BitVec 32} {out : List Access}
    {res : Except Error Bool} (hlen : b.len = (b.vecs.map fun v => v.2.toNat).sum)
    (h : writeToMmdsOrTap respond segmentOf mmdsNs rl mem b isn cycles = some (mmdsNs', rl', out, res)) :
    mmdsNs'.map (·.ipv4Addr) = mmdsNs.map (·.ipv4Addr) ∧ TapClean (mmdsNs.map (·.ipv4Addr)) out := by
  rcases writeToMmdsOrTap_cases h with ⟨rfl, -, rfl, -⟩ | ⟨rfl, -, rfl, -⟩ |
    ⟨ns, frame, r, rfl, hd, rfl, -, rfl, -⟩
  · exact ⟨rfl, .of_nil rfl⟩
  · refine ⟨rfl, ?_⟩
    intro addr haddr frame hframe hfor
    obtain ⟨ns, rfl, rfl⟩ := Option.map_eq_some_iff.mp haddr
    have hnot := writeToMmdsOrTap_tap hlen h hframe
    rw [hfor.isMmdsFrame] at hnot
    cases hnot
  · have hm : MmdsNetworkStack.HandlerMoves respond ns r.1 := MmdsNetworkStack.detourFrame_moves hd
    have hip : r.1.ipv4Addr = ns.ipv4Addr := hm.1
    exact ⟨by simp [hip], .of_nil (by simp [Access.tapFrames])⟩

theorem readTap_mmdsNs {s s' : Net} {r : Except Error Nat} (h : s.readTap = (s', r)) :
    s'.mmdsNs = s.mmdsNs := by
  unfold readTap at h
  split at h <;> cases h <;> rfl

theorem readFromMmdsOrTap_mmdsAddr {s s' : Net} {r : Except Error Nat}
    (h : s.readFromMmdsOrTap cycles = some (s', r)) : s'.mmdsAddr = s.mmdsAddr := by
  unfold readFromMmdsOrTap at h
  split at h
  · simp [mmdsAddr, readTap_mmdsNs (Option.some.inj h)]
  rename_i ns hns
  split at h
  · cases h
    rfl
  split at h
  · cases h
  · rename_i ns' buf len hw
    cases h
    have hm : MmdsNetworkStack.HandlerMoves (fun _ => []) ns (ns', buf, some len).1 :=
      MmdsNetworkStack.writeNextFrame_moves hw
    have hip : ns'.ipv4Addr = ns.ipv4Addr := hm.1
    simp [mmdsAddr, hns, hip]
  · rename_i ns' buf hw
    have hm : MmdsNetworkStack.HandlerMoves (fun _ => []) ns (ns', buf, none).1 :=
      MmdsNetworkStack.writeNextFrame_moves hw
    have hip : ns'.ipv4Addr = ns.ipv4Addr := hm.1
    have hrd := readTap_mmdsNs (Option.some.inj h)
    simp [mmdsAddr, hns, hrd, hip]

theorem processRxBody_isolates {a : Option (BitVec 32)} {p : Net × List Access}
    (hp : p.1.mmdsAddr = a ∧ p.2.flatMap Access.tapFrames = []) :
    (processRxBody now cycles p).Sat (fun p => p.1.mmdsAddr = a ∧ p.2.flatMap Access.tapFrames = [])
      (fun o => ∀ r, o = some r → r.1.mmdsAddr = a ∧ r.2.flatMap Access.tapFrames = []) := by
  obtain ⟨s, log⟩ := p
  obtain ⟨haddr, hlog⟩ := hp
  rw [processRxBody]
  split
  · rintro r ⟨⟩
  · rename_i s₁ count hread
    have haddr₁ : s₁.mmdsAddr = a := (readFromMmdsOrTap_mmdsAddr hread).trans haddr
    dsimp only
    split
    · rintro r ⟨⟩
    · exact ⟨haddr₁, by simp [hlog, Access.tapFrames]⟩
    · rintro r ⟨⟩
      exact ⟨haddr₁, by simp [hlog, Access.tapFrames]⟩
  · rintro r ⟨⟩
    exact ⟨(readFromMmdsOrTap_mmdsAddr (by assumption)).trans haddr, hlog⟩
  · exact ⟨(readFromMmdsOrTap_mmdsAddr (by assumption)).trans haddr, hlog⟩

theorem processRx_isolates {s : Net} {fuel : Nat} {r : Net × List Access}
    (h : s.processRx fuel now cycles = some r) : Isolates s r := by
  unfold processRx at h
  split at h
  · rename_i s₁ log hrun
    obtain ⟨rxQueue, -, rfl⟩ := Option.map_eq_some_iff.mp h
    obtain ⟨haddr, htap⟩ :=
      Loop.run_sat (fun p hp => processRxBody_isolates hp) ⟨rfl, rfl⟩ hrun (s₁, log) rfl
    exact ⟨haddr, .of_nil htap⟩
  · cases h

theorem handleDeferredFrame_isolates {s : Net} {fuel : Nat} {r : Net × List Access}
    (h : s.handleDeferredFrame fuel now cycles = some r) : Isolates s r := by
  unfold handleDeferredFrame at h
  split at h
  · cases h
  · obtain ⟨r', hrx, rfl⟩ := Option.map_eq_some_iff.mp h
    have hi := processRx_isolates hrx
    exact ⟨hi.1, (TapClean.of_nil (by simp)).append hi.2⟩
  · obtain ⟨rxQueue, -, rfl⟩ := Option.map_eq_some_iff.mp h
    exact ⟨rfl, .of_nil (by simp)⟩

theorem resumeRx_isolates {s : Net} {fuel : Nat} {r : Net × List Access}
    (h : s.resumeRx fuel now cycles = some r) : Isolates s r := by
  unfold resumeRx at h
  split at h
  · exact handleDeferredFrame_isolates h
  · cases h
    exact .of_eq rfl

/-- What a pass of `process_tx` keeps: the MMDS address of the state `s` it started in, and a log
whose tap writes hold nothing for it. -/
def TxIsolates (s s' : Net) (log : List Access) : Prop :=
  s'.mmdsAddr = s.mmdsAddr ∧ TapClean s.mmdsAddr log

theorem txAddUsed_isolates {s s' : Net} {head : BitVec 16} {b : Bool} {k : Nat} {log : List Access}
    (hi : TxIsolates s s' log) :
    (txAddUsed s' head b k log).Sat (fun p => TxIsolates s p.1 p.2.2.2)
      (fun o => ∀ r, o = some r → TxIsolates s r.1 r.2.2.1) := by
  unfold txAddUsed
  split
  · exact ⟨hi.1, hi.2.append (.of_nil (by simp [Access.tapFrames]))⟩
  · rintro r ⟨⟩
    exact ⟨hi.1, hi.2.append (.of_nil (by simp [Access.tapFrames]))⟩

theorem processTxBody_isolates {isn : Nat → BitVec 32} {s : Net} {p : Net × Bool × Nat × List Access}
    (hp : TxIsolates s p.1 p.2.2.2) :
    (processTxBody respond segmentOf isn now cycles p).Sat (fun p => TxIsolates s p.1 p.2.2.2)
      (fun o => ∀ r, o = some r → TxIsolates s r.1 r.2.2.1) := by
  obtain ⟨s', b, k, log⟩ := p
  rw [processTxBody]
  split
  · rintro r ⟨⟩
  · rintro r ⟨⟩
    exact hp
  · dsimp only
    rename_i head txQueue mem _
    have hpop : TxIsolates s { s' with txQueue, mem } (log ++ [.txPop head.index]) :=
      ⟨hp.1, hp.2.append (.of_nil (by simp [Access.tapFrames]))⟩
    split
    · exact txAddUsed_isolates hpop
    · rename_i buffer hbuf
      split
      · rintro r ⟨⟩
        exact ⟨hp.1, hpop.2.append (.of_nil (by simp [Access.tapFrames]))⟩
      · split
        · rintro r ⟨⟩
        · rename_i hw
          obtain ⟨haddr, hclean⟩ := writeToMmdsOrTap_isolates (IoVecBuffer.fromDescriptorChain_len hbuf) hw
          refine txAddUsed_isolates ⟨?_, hpop.2.append ?_⟩
          · exact haddr.trans hp.1
          · exact hp.1 ▸ hclean

theorem processTx_isolates {s : Net} {fuel : Nat} {isn : Nat → BitVec 32} {r : Net × List Access}
    (h : s.processTx respond segmentOf fuel now cycles isn = some r) : Isolates s r := by
  unfold processTx at h
  split at h
  · rename_i s₁ b log hrun
    obtain ⟨haddr, hclean⟩ : TxIsolates s s₁ log :=
      Loop.run_sat (fun p hp => processTxBody_isolates hp) ⟨rfl, .of_nil rfl⟩ hrun _ rfl
    split at h
    · cases h
    · split at h
      · obtain ⟨r', hrx, rfl⟩ := Option.map_eq_some_iff.mp h
        rename_i txQueue _ _
        have hi : Isolates s ({ s₁ with txQueue }, log) := ⟨haddr, hclean⟩
        exact hi.trans (processRx_isolates hrx)
      · cases h
        exact ⟨haddr, hclean⟩
  · rename_i s₁ b log hrun
    cases h
    exact Loop.run_sat (fun p hp => processTxBody_isolates hp) ⟨rfl, .of_nil rfl⟩ hrun _ rfl
  · cases h

end Handlers

/-! ### Every run -/

section RunIsolation

variable {respond : List (BitVec 8) → List (BitVec 8)}
  {segmentOf : List (BitVec 8) → Except TcpError TcpPacket}

theorem step_isolates {s : Net} {e : Event} {r : Net × List Access}
    (h : s.step respond segmentOf e = some r) : Isolates s r := by
  cases e with
  | rxQueue fuel now cycles =>
    simp only [step, processRxQueueEvent] at h
    split at h
    · cases h
      exact .of_eq rfl
    · exact resumeRx_isolates h
  | tapRx fuel now cycles =>
    simp only [step, processTapRxEvent] at h
    split at h
    · cases h
    split at h
    · cases h
      exact .of_eq rfl
    split at h
    · cases h
      exact .of_eq rfl
    split at h
    · exact handleDeferredFrame_isolates h
    · exact processRx_isolates h
  | txQueue fuel now cycles isn =>
    simp only [step, processTxQueueEvent] at h
    split at h
    · exact processTx_isolates h
    · cases h
      exact .of_eq rfl
  | rxRateLimiter fuel now cycles =>
    simp only [step, processRxRateLimiterEvent] at h
    split at h
    · exact (resumeRx_isolates h).of_mmdsNs_eq rfl
    · cases h
      exact .of_eq rfl
  | txRateLimiter fuel now cycles isn =>
    simp only [step, processTxRateLimiterEvent] at h
    split at h
    · exact (processTx_isolates h).of_mmdsNs_eq rfl
    · cases h
      exact .of_eq rfl
  | virtioQueues fuel now cycles isn =>
    simp only [step, processVirtioQueues] at h
    split at h
    · cases h
    · rename_i s₁ log hres
      obtain ⟨r', htx, rfl⟩ := Option.map_eq_some_iff.mp h
      exact (resumeRx_isolates hres).trans (processTx_isolates htx)
  | tapReceives frame =>
    cases h
    exact .of_eq rfl
  | rxTimerFires =>
    cases h
    exact .of_eq rfl
  | txTimerFires =>
    cases h
    exact .of_eq rfl
  | guestWrites addr data =>
    simp only [step] at h
    split at h <;>
    · cases h
      exact .of_eq rfl

/-- **No frame for the MMDS leaves through the tap.** Along every run of a device whose MMDS
stack serves `addr`, whatever the guest sends, the host delivers and the order of the events,
the stack keeps serving `addr`, and no frame the device writes to the tap holds, after its VNET
header, an ARP request for `addr` or an IPv4 packet to `addr`. -/
theorem tap_never_sees_mmds_frames {s : Net} {log : List Access} {addr : BitVec 32}
    (hreach : Run.Reachable (Run.logged (step respond segmentOf))
      (fun p => p.1.mmdsAddr = some addr ∧ p.2 = []) (s, log)) :
    s.mmdsAddr = some addr ∧
      ∀ frame, Access.tapWrite frame ∈ log → ¬ ForMmds addr (frame.drop vnetHdrLen) := by
  have hinv : s.mmdsAddr = some addr ∧ TapClean (some addr) log := by
    refine Run.Reachable.inv
      (I := fun p : Net × List Access => p.1.mmdsAddr = some addr ∧ TapClean (some addr) p.2)
      ?_ ?_ hreach
    · rintro ⟨s, log⟩ e ⟨s', log'⟩ ⟨haddr, hclean⟩ hstep
      obtain ⟨out, hout, rfl⟩ := Run.logged_eq_some.mp hstep
      obtain ⟨haddr', hclean'⟩ := step_isolates hout
      exact ⟨haddr'.trans haddr, hclean.append (haddr ▸ hclean')⟩
    · rintro ⟨s, log⟩ ⟨haddr, rfl⟩
      exact ⟨haddr, .of_nil rfl⟩
  refine ⟨hinv.1, fun frame hmem => hinv.2 addr rfl frame ?_⟩
  exact List.mem_flatMap.mpr ⟨_, hmem, List.mem_singleton_self _⟩

/-- The TX event on `sampleNet`: its one frame, not for the MMDS, goes to the tap. The chain walk
is by well-founded recursion, so the run is evaluated by the kernel. -/
theorem tap_never_sees_mmds_frames_sampleNet :
    ∃ s log, Run.run (Run.logged (step (fun _ => []) (fun _ => .error .sliceTooShort)))
        (sampleNet, []) [.txQueue 4 0 0 (fun _ => 0)] = some (s, log) ∧
      s.mmdsAddr = some defaultIpv4Addr ∧
      ∀ frame, Access.tapWrite frame ∈ log → ¬ ForMmds defaultIpv4Addr (frame.drop vnetHdrLen) := by
  obtain ⟨⟨s, log⟩, hrun⟩ := Option.isSome_iff_exists.mp
    (show (Run.run (Run.logged (step (fun _ => []) (fun _ => .error .sliceTooShort)))
        (sampleNet, []) [.txQueue 4 0 0 (fun _ => 0)]).isSome = true by decide +kernel)
  have hreach : Run.Reachable (Run.logged (step (fun _ => []) (fun _ => .error .sliceTooShort)))
      (fun p => p.1.mmdsAddr = some defaultIpv4Addr ∧ p.2 = []) (s, log) :=
    (Run.Reachable.init (s := (sampleNet, [])) ⟨rfl, rfl⟩).run _ hrun
  exact ⟨s, log, hrun, tap_never_sees_mmds_frames hreach⟩

example : (Run.run (Run.logged (step (fun _ => []) (fun _ => .error .sliceTooShort)))
      (sampleNet, []) [.txQueue 4 0 0 (fun _ => 0)]).map (·.2) =
    some [.txPop 0, .tapWrite (List.replicate 12 0 ++
      [0xff, 0xff, 0xff, 0xff, 0xff, 0xff, 0x06, 0, 0, 0, 0, 0x01, 0x86, 0xdd]), .txAddUsed 0 true] := by
  decide +kernel

end RunIsolation

end Net

end Firecracker
