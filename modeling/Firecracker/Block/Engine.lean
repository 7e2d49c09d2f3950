import Firecracker.Block.Request
import Firecracker.RateLimiter.Basic
import Firecracker.IoUring
import Firecracker.Virtio.Chain

/-!
# Firecracker.Block.Engine

`devices/src/virtio/block/request.rs` and `block/io`: what happens to a parsed request. It is
charged to the rate limiter (`Request::rate_limit`), then `Request::process` hands it to the file
engine: the synchronous engine executes it at once, the asynchronous one pushes it onto its
`IoUring` with a `PendingRequest` as user data, to be finished when its completion is popped.
`PendingRequest::finish` writes the status byte and gives the head index and the length for the
used ring.

The host file is not modelled: what a synchronous read, write or flush returns is an input
(`SyncIo`), and the bytes it moves are not modelled, so a transfer leaves guest memory as it is.
Both functions that matter for the device's bookkeeping also return the ghost record of what they
did (`Access`): the tokens taken from and returned to a bucket of the rate limiter.
-/

namespace Firecracker
namespace Block

open Virtio GuestMemoryMmap

def virtioBlkSOk : BitVec 32 := 0
def virtioBlkSIoerr : BitVec 32 := 1
def virtioBlkSUnsupp : BitVec 32 := 2

/-- What the device did, recorded for the proofs: a descriptor head popped, put back with
`undo_pop`, or handed to `add_used`; tokens taken from or returned to a bucket; and a request
executed or submitted to the file engine. -/
inductive Access where
  | pop (head : BitVec 16)
  | undoPop (head : BitVec 16)
  | addUsed (head : BitVec 16)
  | take (tokenType : TokenType) (tokens : Nat)
  | give (tokenType : TokenType) (tokens : Nat)
  | processed (head : BitVec 16) (type : RequestType) (dataLen : BitVec 32)
  deriving DecidableEq, Repr

/-! ## Finishing a request -/

inductive IoErr where
  | getId (err : GuestMemoryError)
  | partialTransfer (completed expected : BitVec 32)
  | fileEngine
  deriving DecidableEq, Repr

inductive Status where
  | ok (numBytesToMem : BitVec 32)
  | ioErr (numBytesToMem : BitVec 32) (err : IoErr)
  | unsupported (op : BitVec 32)
  deriving DecidableEq, Repr

def Status.fromData (dataLen transferredDataLen : BitVec 32) (dataToMem : Bool) : Status :=
  let numBytesToMem := if dataToMem then transferredDataLen else 0
  if transferredDataLen = dataLen then .ok numBytesToMem
  else .ioErr numBytesToMem (.partialTransfer transferredDataLen dataLen)

structure PendingRequest where
  type : RequestType
  dataLen : BitVec 32
  statusAddr : BitVec 64
  descIdx : BitVec 16
  deriving DecidableEq, Repr

structure FinishedRequest where
  numBytesToMem : BitVec 32
  descIdx : BitVec 16
  deriving DecidableEq, Repr

namespace PendingRequest

/-- `write_status_and_finish`: the status byte, and one byte more for the used ring when it could
be written. -/
def writeStatusAndFinish (p : PendingRequest) (status : Status) (mem : GuestMemoryMmap) :
    FinishedRequest × GuestMemoryMmap :=
  let (numBytesToMem, statusCode) : BitVec 32 × BitVec 32 :=
    match status with
    | .ok numBytesToMem => (numBytesToMem, virtioBlkSOk)
    | .ioErr numBytesToMem _ => (numBytesToMem, virtioBlkSIoerr)
    | .unsupported _ => (0, virtioBlkSUnsupp)
  match mem.writeObj p.statusAddr [statusCode.setWidth 8] with
  | (mem', .ok ()) => (⟨numBytesToMem + 1, p.descIdx⟩, mem')
  | (mem', .error _) => (⟨0, p.descIdx⟩, mem')

def finish (p : PendingRequest) (mem : GuestMemoryMmap) (res : Except IoErr (BitVec 32)) :
    FinishedRequest × GuestMemoryMmap :=
  let status :=
    match res, p.type with
    | .ok transferred, .in => Status.fromData p.dataLen transferred true
    | .ok transferred, .out => Status.fromData p.dataLen transferred false
    | .ok _, .flush => .ok 0
    | .ok transferred, .getDeviceId => Status.fromData p.dataLen transferred true
    | _, .unsupported op => .unsupported op
    | .error err, _ => .ioErr 0 err
  p.writeStatusAndFinish status mem

end PendingRequest

/-! ## The file engine -/

/-- `FileEngine<PendingRequest>`: the asynchronous engine is its ring. -/
inductive FileEngine where
  | async (ring : IoUring PendingRequest)
  | sync
  deriving DecidableEq, Repr

/-- What the host file gives a synchronous read, write or flush: the count of bytes, or an error. -/
abbrev SyncIo := Request → Except Unit (BitVec 32)

inductive ProcessingResult where
  | submitted
  | throttled
  | executed (finished : FinishedRequest)
  deriving DecidableEq, Repr

namespace Request

/-- `Request::rate_limit`: whether the request is throttled. One `Ops` token, and `data_len`
`Bytes` tokens for a transfer; the `Ops` token goes back when the bytes cannot be taken. -/
def rateLimit (r : Request) (rl : RateLimiter) (now : Nat) :
    Bool × RateLimiter × List Access :=
  let (opsOk, rl₁) := rl.consume 1 .ops now
  if !opsOk then (true, rl₁, [])
  else
    let opsTaken := if (rl.bucket .ops).isSome then [Access.take .ops 1] else []
    if r.type = .in ∨ r.type = .out then
      let (bytesOk, rl₂) := rl₁.consume r.dataLen.toNat .bytes now
      if !bytesOk then
        (true, rl₂.manualReplenish 1 .ops,
          opsTaken ++ if (rl₂.bucket .ops).isSome then [Access.give .ops 1] else [])
      else
        (false, rl₂,
          opsTaken ++ if (rl₁.bucket .bytes).isSome then [.take .bytes r.dataLen.toNat] else [])
    else (false, rl₁, opsTaken)

def toPendingRequest (r : Request) (descIdx : BitVec 16) : PendingRequest :=
  ⟨r.type, r.dataLen, r.statusAddr, descIdx⟩

/-- The asynchronous engine: `push_read`, `push_write` and `push_flush`. A transfer first takes
the guest range it needs (`get_slice`); a refused push brings the user data back with the
error. -/
def pushAsync (r : Request) (ring : IoUring PendingRequest) (mem : GuestMemoryMmap)
    (pending : PendingRequest) :
    Except (PendingRequest × Option IoUring.Error) (IoUring PendingRequest) :=
  if (r.type = .in ∨ r.type = .out) ∧ !mem.getSlice r.dataAddr r.dataLen.toNat then
    .error (pending, none)
  else
    match ring.push pending with
    | .ok ring' => .ok ring'
    | .error (e, userData) => .error (userData, some e)

/-- `Request::process`: the result, the file engine and guest memory afterwards. -/
def process (r : Request) (engine : FileEngine) (imageId : List (BitVec 8)) (descIdx : BitVec 16)
    (mem : GuestMemoryMmap) (io : SyncIo) : ProcessingResult × FileEngine × GuestMemoryMmap :=
  let pending := r.toPendingRequest descIdx
  match r.type with
  | .getDeviceId =>
    let (res, mem) : Except IoErr (BitVec 32) × GuestMemoryMmap :=
      match mem.writeSlice r.dataAddr imageId with
      | (mem', .ok ()) => (.ok virtioBlkIdBytes, mem')
      | (mem', .error e) => (.error (.getId e), mem')
    let (finished, mem) := pending.finish mem res
    (.executed finished, engine, mem)
  | .unsupported _ =>
    let (finished, mem) := pending.finish mem (.ok 0)
    (.executed finished, engine, mem)
  | _ =>
    match engine with
    | .sync =>
      match io r with
      | .ok count =>
        let (finished, mem) := pending.finish mem (.ok count)
        (.executed finished, engine, mem)
      | .error () =>
        let (finished, mem) := pending.finish mem (.error .fileEngine)
        (.executed finished, engine, mem)
    | .async ring =>
      match r.pushAsync ring mem pending with
      | .ok ring' => (.submitted, .async ring', mem)
      | .error (userData, err) =>
        if (err.map IoUring.Error.isThrottlingErr).getD false then (.throttled, engine, mem)
        else
          let (finished, mem) := userData.finish mem (.error .fileEngine)
          (.executed finished, engine, mem)

/-! ### What `rate_limit` and `process` can do -/

variable {r : Request} {rl : RateLimiter} {now : Nat}

theorem rateLimit_charged_subset :
    (r.rateLimit rl now).2.2 ⊆ [.take .ops 1, .give .ops 1, .take .bytes r.dataLen.toNat] := by
  unfold rateLimit
  dsimp only
  split
  · exact List.nil_subset _
  split
  · split <;> split <;> split <;> simp
  · split <;> simp

variable {engine engine' : FileEngine} {imageId : List (BitVec 8)} {descIdx : BitVec 16}
  {mem mem' : GuestMemoryMmap} {io : SyncIo} {res : ProcessingResult}

end Request

end Block
end Firecracker
