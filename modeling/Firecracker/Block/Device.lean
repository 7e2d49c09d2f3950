import Firecracker.Block.Engine
import Firecracker.Lib.Loop
import Firecracker.Lib.Run

/-!
# Firecracker.Block.Device

`devices/src/virtio/block/device.rs` and `event_handler.rs`: the activated block device and the
handlers of its events. `process_queue` pops descriptor chains until the queue is empty, the rate
limiter throttles a request, or the file engine refuses one; `process_async_completion_queue`
finishes the requests whose completions the asynchronous engine has popped.

The device's environment acts between the handlers (`Event`): the kernel completes an operation it
was handed, the rate limiter's timer fires, the guest writes its memory. The current time and what
the host file gives a synchronous request are inputs of each handler, and so is the number of
iterations the loop of `process_queue` is allowed: a guest can keep the loop going (its used ring
may overlap the available ring), so a pass that does not end within its fuel aborts the step.

Each handler returns the device afterwards and what it did (`Access`), in order. Metrics,
logging and interrupts are not modelled.
-/

namespace Firecracker

open Virtio Block

/-- The activated `Block` device: its queue and the guest memory, the rate limiter, the disk's
size in sectors and its ID, the file engine, and `is_io_engine_throttled`. -/
structure Block where
  queue : Queue
  mem : GuestMemoryMmap
  rateLimiter : RateLimiter
  nsectors : BitVec 64
  imageId : List (BitVec 8)
  fileEngine : FileEngine
  isIoEngineThrottled : Bool

namespace Block

/-- `add_used_descriptor`: a failed `add_used` is logged and ignored; `prepare_kick` reads
`used_event` with an unwrap. -/
def addUsedDescriptor (queue : Queue) (index : BitVec 16) (len : BitVec 32)
    (mem : GuestMemoryMmap) : Option (Queue × GuestMemoryMmap) :=
  let (queue, mem, _) := queue.addUsed mem index len
  (queue.prepareKick mem).map fun r => (r.2, mem)

/-- The end of an iteration of `process_queue`: what it does with the result of a chain. -/
def afterProcessing (s : Block) (log : List Access) (head : BitVec 16) :
    ProcessingResult → Loop.Step (Block × List Access) (Option (Block × List Access))
  | .submitted => .next (s, log)
  | .throttled =>
    .done (some ({ s with queue := s.queue.undoPop, isIoEngineThrottled := true },
      log ++ [.undoPop head]))
  | .executed finished =>
    match addUsedDescriptor s.queue head finished.numBytesToMem s.mem with
    | some (queue, mem) => .next ({ s with queue, mem }, log ++ [.addUsed head])
    | none => .done none

/-- What a pass records of a request handed to the file engine: it was executed or submitted, unless
the engine refused it. -/
def processedAccess (request : Request) (head : BitVec 16) : ProcessingResult → List Access
  | .throttled => []
  | _ => [.processed head request.type request.dataLen]

/-- One iteration of the `while let` loop of `process_queue`, on the device and what the pass has
done; it leaves the loop with `none` when the queue panics. -/
def processQueueBody (now : Nat) (io : SyncIo) :
    Block × List Access → Loop.Step (Block × List Access) (Option (Block × List Access))
  | (s, log) =>
    match s.queue.popOrEnableNotification s.mem with
    | none => .done none
    | some (none, queue, mem) => .done (some ({ s with queue, mem }, log))
    | some (some head, queue, mem) =>
      let s := { s with queue, mem }
      let log := log ++ [.pop head.index]
      match Request.parse head s.mem s.nsectors with
      | .ok request =>
        let (throttled, rateLimiter, charged) := request.rateLimit s.rateLimiter now
        let s := { s with rateLimiter }
        if throttled then
          .done (some ({ s with queue := s.queue.undoPop }, log ++ charged ++ [.undoPop head.index]))
        else
          let (result, fileEngine, mem) :=
            request.process s.fileEngine s.imageId head.index s.mem io
          afterProcessing { s with fileEngine, mem }
            (log ++ charged ++ processedAccess request head.index result) head.index result
      | .error _ => afterProcessing s log head.index (.executed ⟨0, head.index⟩)

def kickSubmissionQueue (s : Block) : Block :=
  match s.fileEngine with
  | .async ring => { s with fileEngine := .async ring.submit }
  | .sync => s

/-- `process_queue`: at most `fuel` iterations of its loop, then the kick of the submission queue;
`none` when the queue panics or the fuel runs out. -/
def processQueue (s : Block) (fuel now : Nat) (io : SyncIo) : Option (Block × List Access) :=
  match Loop.run (processQueueBody now io) fuel (s, []) with
  | some (some (s, log)) => some (s.kickSubmissionQueue, log)
  | _ => none

/-- One iteration of the loop of `process_async_completion_queue`, on the ring, the queue, guest
memory and what the loop has done. -/
def completionBody :
    IoUring PendingRequest × Queue × GuestMemoryMmap × List Access →
      Loop.Step (IoUring PendingRequest × Queue × GuestMemoryMmap × List Access)
        (Option (IoUring PendingRequest × Queue × GuestMemoryMmap × List Access))
  | (ring, queue, mem, log) =>
    match ring.pop with
    | (none, ring) => .done (some (ring, queue, mem, log))
    | (some (pending, res), ring) =>
      let res : Except IoErr (BitVec 32) :=
        match res with
        | .ok count => .ok (BitVec.ofNat 32 count)
        | .error _ => .error .fileEngine
      let (finished, mem) := pending.finish mem res
      match addUsedDescriptor queue finished.descIdx finished.numBytesToMem mem with
      | some (queue, mem) => .next (ring, queue, mem, log ++ [.addUsed finished.descIdx])
      | none => .done none

/-- `process_async_completion_queue`: every completion entry, one iteration each. -/
def processAsyncCompletionQueue (s : Block) : Option (Block × List Access) :=
  match s.fileEngine with
  | .sync => some (s, [])
  | .async ring =>
    match Loop.run completionBody (ring.cqes.length + 1) (ring, s.queue, s.mem, []) with
    | some (some (ring, queue, mem, log)) => some ({ s with fileEngine := .async ring, queue, mem }, log)
    | _ => none

/-! ## The events -/

def processQueueEvent (s : Block) (fuel now : Nat) (io : SyncIo) : Option (Block × List Access) :=
  if s.rateLimiter.isBlocked then some (s, [])
  else if s.isIoEngineThrottled then some (s, [])
  else s.processQueue fuel now io

def processRateLimiterEvent (s : Block) (fuel now : Nat) (io : SyncIo) :
    Option (Block × List Access) :=
  match s.rateLimiter.eventHandler with
  | .ok rateLimiter => { s with rateLimiter }.processQueue fuel now io
  | .error _ => some (s, [])

/-- `process_async_completion_event`, with the engine's completion event read: the completions,
then the queue again if the engine had refused a request. -/
def processAsyncCompletionEvent (s : Block) (fuel now : Nat) (io : SyncIo) :
    Option (Block × List Access) :=
  match s.fileEngine with
  | .sync => some (s, [])
  | .async _ =>
    match s.processAsyncCompletionQueue with
    | none => none
    | some (s, log) =>
      if s.isIoEngineThrottled then
        ({ s with isIoEngineThrottled := false }.processQueue fuel now io).map
          fun (r : Block × List Access) => (r.1, log ++ r.2)
      else some (s, log)

/-- What happens to the device: one of its handlers runs, or its environment acts. -/
inductive Event where
  | queue (fuel now : Nat) (io : SyncIo)
  | rateLimiter (fuel now : Nat) (io : SyncIo)
  | asyncCompletion (fuel now : Nat) (io : SyncIo)
  /-- The kernel completes the `i`-th operation it was handed. -/
  | kernelCompletes (i : Nat) (res : Except Int Nat)
  | timerFires
  | guestWrites (addr : BitVec 64) (data : List (BitVec 8))

/-- One event; `none` when a handler panics or runs out of fuel, or when the kernel is said to
complete an operation it does not hold. -/
def step (s : Block) : Event → Option (Block × List Access)
  | .queue fuel now io => s.processQueueEvent fuel now io
  | .rateLimiter fuel now io => s.processRateLimiterEvent fuel now io
  | .asyncCompletion fuel now io => s.processAsyncCompletionEvent fuel now io
  | .kernelCompletes i res =>
    match s.fileEngine with
    | .async ring => (ring.complete i res).map fun ring => ({ s with fileEngine := .async ring }, [])
    | .sync => none
  | .timerFires => some ({ s with rateLimiter.timerFd := s.rateLimiter.timerFd.fire }, [])
  | .guestWrites addr data =>
    match s.mem.store addr data with
    | some mem => some ({ s with mem }, [])
    | none => some (s, [])

/-! ## A device with two flush requests -/

def twoFlushesBytes : List (BitVec 64 × BitVec 8) :=
  [(0x1001, 0x40), (0x1008, 0x10), (0x100c, 1), (0x100e, 1), (0x1011, 0x50), (0x1018, 1),
   (0x101c, 2), (0x1021, 0x40), (0x1028, 0x10), (0x102c, 1), (0x102e, 3), (0x1030, 1),
   (0x1031, 0x50), (0x1038, 1), (0x103c, 2), (0x2002, 2), (0x2006, 2), (0x4000, 4)]

/-- Guest memory whose descriptor table at `0x1000` holds two chains, heads `0` and `2`: each a
request header at `0x4000` asking for a flush, then a status descriptor (`0x5000`, `0x5001`). The
available ring at `0x2000` offers both. -/
def twoFlushesMem : GuestMemoryMmap := ⟨[⟨0, 0x10000⟩], fun a => (twoFlushesBytes.lookup a).getD 0⟩

/-- An idle device over `twoFlushesMem` with a queue of four descriptors, an `Ops` bucket of 10
tokens refilled in a second, and an asynchronous engine whose completion queue has one entry. -/
def twoFlushes : Block :=
  { queue := { maxSize := 4, size := 4, ready := true, descTable := 0x1000, availRing := 0x2000,
               usedRing := 0x3000, nextAvail := 0, nextUsed := 0, usesNotifSuppression := false,
               numAdded := 0 }
    mem := twoFlushesMem
    rateLimiter := RateLimiter.new 0 0 0 10 0 1000 0
    nsectors := 8, imageId := [], fileEngine := .async (IoUring.new 1 1), isIoEngineThrottled := false }

end Block

end Firecracker
