import Firecracker.Block.Device

/-!
# Firecracker.Block.Charging

What the block device charges the rate limiter for its requests. `Request::rate_limit` takes one
`Ops` token, and `data_len` `Bytes` tokens for a transfer, before the request reaches the file
engine; a request the limiter refuses is put back with `undo_pop`, its `Ops` token given back when
the `Bytes` could not be taken.

The file engine can still refuse a request that the limiter let through: the asynchronous engine's
ring is full (`FullCQueue`, or a full submission queue). `process_queue` then puts the chain back
with `undo_pop` too and stops, but nothing gives the tokens back. The pass has charged a request it
neither executed nor submitted (`processQueue_engineThrottled_charges`), and the chain is charged
again when it is popped once more (`chargedTwice_counterexample`).

A request the `Bytes` bucket refuses gets its `Ops` token back through `force_replenish`, which
returns it to the one-time burst only while the burst lasts: the last burst token goes to a full
budget instead, and is lost (`rateLimit_throttled_burst`).
-/

namespace Firecracker
namespace Block

open Virtio

/-! ## The charges of a log -/

/-- The tokens of type `t` an access takes from the buckets, negative when it gives them back. -/
def Access.charge (t : TokenType) : Access → Int
  | .take t' n => if t' = t then n else 0
  | .give t' n => if t' = t then -n else 0
  | _ => 0

/-- The tokens of type `t` a log takes, net of those it gives back. -/
def netCharge (t : TokenType) (log : List Access) : Int := (log.map (Access.charge t)).sum

def Access.isProcessed : Access → Bool
  | .processed _ _ _ => true
  | _ => false

/-- The requests a log executed or submitted to the file engine. -/
def requestsProcessed (log : List Access) : Nat := log.countP Access.isProcessed

@[simp] theorem netCharge_nil (t : TokenType) : netCharge t [] = 0 := rfl

@[simp] theorem netCharge_append (t : TokenType) (as bs : List Access) :
    netCharge t (as ++ bs) = netCharge t as + netCharge t bs := by
  simp [netCharge]

@[simp] theorem netCharge_cons (t : TokenType) (a : Access) (as : List Access) :
    netCharge t (a :: as) = a.charge t + netCharge t as := by
  simp [netCharge]

@[simp] theorem requestsProcessed_append (as bs : List Access) :
    requestsProcessed (as ++ bs) = requestsProcessed as + requestsProcessed bs :=
  List.countP_append

/-! ## What `rate_limit` charges -/

variable {r : Request} {rl : RateLimiter} {now : Nat}

theorem rateLimit_netCharge_ops (h : (r.rateLimit rl now).1 = false) :
    netCharge .ops (r.rateLimit rl now).2.2 = if (rl.bucket .ops).isSome then 1 else 0 := by
  unfold Request.rateLimit at h ⊢
  rcases hops : rl.consume 1 .ops now with ⟨opsOk, rl₁⟩
  simp only [hops] at h ⊢
  cases opsOk
  · simp at h
  by_cases htype : r.type = .in ∨ r.type = .out
  · rcases hbytes : rl₁.consume r.dataLen.toNat .bytes now with ⟨bytesOk, rl₂⟩
    cases bytesOk
    · simp [htype, hbytes] at h
    · simp only [htype, if_true, Bool.not_true, Bool.false_eq_true, if_false]
      split <;> split <;> simp [Access.charge]
  · simp only [htype, if_false, Bool.not_true, Bool.false_eq_true]
    split <;> simp [Access.charge]

theorem requestsProcessed_rateLimit : requestsProcessed (r.rateLimit rl now).2.2 = 0 := by
  unfold requestsProcessed
  rw [List.countP_eq_zero]
  intro a ha
  rcases List.mem_cons.1 (Request.rateLimit_charged_subset ha) with rfl | ha
  · simp [Access.isProcessed]
  rcases List.mem_cons.1 ha with rfl | ha
  · simp [Access.isProcessed]
  rcases List.mem_cons.1 ha with rfl | ha
  · simp [Access.isProcessed]
  · cases ha

/-! ## A request refused by the file engine -/

/-- A flush, or a transfer whose guest range is in one region, reaches the ring's `push`. -/
def ReachesPush (r : Request) (mem : GuestMemoryMmap) : Prop :=
  r.type = .flush ∨ ((r.type = .in ∨ r.type = .out) ∧ mem.getSlice r.dataAddr r.dataLen.toNat = true)

theorem process_fullRing {ring : IoUring PendingRequest} {imageId : List (BitVec 8)}
    {descIdx : BitVec 16} {mem : GuestMemoryMmap} {io : SyncIo} (hfull : ring.cqCount ≤ ring.numOps)
    (hreach : ReachesPush r mem) :
    r.process (.async ring) imageId descIdx mem io = (.throttled, .async ring, mem) := by
  have hpush : r.pushAsync ring mem (r.toPendingRequest descIdx) =
      .error (r.toPendingRequest descIdx, some .fullCQueue) := by
    unfold Request.pushAsync
    rw [if_neg, IoUring.push_full hfull]
    rcases hreach with h | ⟨_, h⟩ <;> simp [h]
  unfold Request.process
  rcases hreach with h | ⟨h | h, -⟩ <;> simp [h, hpush, IoUring.Error.isThrottlingErr]

variable {s : Block} {ring : IoUring PendingRequest} {head : DescriptorChain} {queue : Queue}
  {mem : GuestMemoryMmap} {request : Request} {io : SyncIo}

theorem processQueue_engineThrottled (hengine : s.fileEngine = .async ring)
    (hfull : ring.cqCount ≤ ring.numOps)
    (hpop : s.queue.popOrEnableNotification s.mem = some (some head, queue, mem))
    (hparse : Request.parse head mem s.nsectors = .ok request) (hreach : ReachesPush request mem)
    (hpass : (request.rateLimit s.rateLimiter now).1 = false) (fuel : Nat) :
    s.processQueue (fuel + 1) now io =
      some ({ s with queue := queue.undoPop, mem, rateLimiter := (request.rateLimit s.rateLimiter now).2.1,
                     fileEngine := .async ring.submit, isIoEngineThrottled := true },
        .pop head.index :: ((request.rateLimit s.rateLimiter now).2.2 ++ [.undoPop head.index])) := by
  have hbody : processQueueBody now io (s, []) =
      .done (some ({ s with queue := queue.undoPop, mem,
                            rateLimiter := (request.rateLimit s.rateLimiter now).2.1,
                            isIoEngineThrottled := true },
        .pop head.index :: ((request.rateLimit s.rateLimiter now).2.2 ++ [.undoPop head.index]))) := by
    simp only [processQueueBody, hpop, hparse, hpass, Bool.false_eq_true, if_false, hengine,
      process_fullRing hfull hreach, afterProcessing, processedAccess]
    simp [← hengine]
  unfold processQueue
  rw [Loop.run_succ_of_done hbody]
  simp [kickSubmissionQueue, hengine]

/-- **A request charged without being processed.** A pass of `process_queue` on an asynchronous
engine whose ring is full, whose first chain is a flush or a transfer the limiter lets through,
when there is an `Ops` bucket: the chain is put back with `undo_pop` and the engine marked
throttled, having executed and submitted no request, yet the pass took one `Ops` token and gave
none back. -/
theorem processQueue_engineThrottled_charges (hengine : s.fileEngine = .async ring)
    (hfull : ring.cqCount ≤ ring.numOps)
    (hpop : s.queue.popOrEnableNotification s.mem = some (some head, queue, mem))
    (hparse : Request.parse head mem s.nsectors = .ok request) (hreach : ReachesPush request mem)
    (hpass : (request.rateLimit s.rateLimiter now).1 = false)
    (hops : (s.rateLimiter.bucket .ops).isSome = true) (fuel : Nat) :
    ∃ s' log, s.processQueue (fuel + 1) now io = some (s', log) ∧ s'.queue = queue.undoPop ∧
      s'.isIoEngineThrottled = true ∧ requestsProcessed log = 0 ∧ netCharge .ops log = 1 := by
  refine ⟨_, _, processQueue_engineThrottled hengine hfull hpop hparse hreach hpass fuel, rfl, rfl,
    ?_, ?_⟩
  · have hcharged : requestsProcessed (request.rateLimit s.rateLimiter now).2.2 = 0 :=
      requestsProcessed_rateLimit
    rw [← List.singleton_append, requestsProcessed_append, requestsProcessed_append, hcharged]
    rfl
  · rw [netCharge_cons, netCharge_append, rateLimit_netCharge_ops hpass, hops]
    simp [Access.charge]

/-- The second flush of `twoFlushes` popped while the ring holds the first. -/
theorem processQueue_engineThrottled_charges_fullRing :
    ∃ s' log, Block.processQueue { twoFlushes with
          queue := { twoFlushes.queue with nextAvail := 1 }
          fileEngine := .async { IoUring.new 1 1 with inFlight := [⟨.flush, 0, 0x5000, 0⟩], numOps := 1 } }
        1 0 (fun _ => .ok 0) = some (s', log) ∧
      s'.queue = Queue.undoPop { twoFlushes.queue with nextAvail := 2 } ∧
      s'.isIoEngineThrottled = true ∧ requestsProcessed log = 0 ∧ netCharge .ops log = 1 :=
  processQueue_engineThrottled_charges rfl (by decide) rfl rfl (.inl rfl) rfl rfl 0

/-- **Charged twice.** From `twoFlushes`: the queue event submits the first flush and charges the
second, which the full ring refuses; the kernel completes the first; the completion event finishes
it and processes the queue again, which charges the second flush once more and submits it. Two
requests were processed, three `Ops` tokens taken, and seven are left. -/
theorem chargedTwice_counterexample :
    ∃ s hist, Run.run (Run.logged step) (twoFlushes, [])
        [.queue 4 0 (fun _ => .ok 0), .kernelCompletes 0 (.ok 0), .asyncCompletion 4 0 (fun _ => .ok 0)] =
        some (s, hist) ∧
      hist = [.pop 0, .take .ops 1, .processed 0 .flush 0, .pop 2, .take .ops 1, .undoPop 2,
        .addUsed 0, .pop 2, .take .ops 1, .processed 2 .flush 0] ∧
      requestsProcessed hist = 2 ∧ netCharge .ops hist = 3 ∧
      s.rateLimiter.ops.map TokenBucket.budget = some 7 :=
  ⟨_, _, rfl, by decide, by decide, by decide, by decide⟩

/-! ## A refused transfer that keeps the `Ops` token

The undo of `rate_limit` gives the `Ops` token back with `force_replenish`, which credits the
one-time burst only while the burst is not exhausted. A transfer paid for with the last burst token
and refused by the `Bytes` bucket has its token returned to the budget, which is full while there
is a burst, so the token is lost (`rateLimit_throttled_burst`).
-/

theorem TokenBucket.reduce_of_burst {b : TokenBucket} {tokens now : Nat}
    (hburst : 0 < b.oneTimeBurst) (hcover : tokens ≤ b.oneTimeBurst) :
    b.reduce tokens now =
      (.success, { b with oneTimeBurst := b.oneTimeBurst - tokens, lastUpdate := now }) := by
  simp [TokenBucket.reduce, hburst, hcover]

variable {rl : RateLimiter} {b : TokenBucket}

theorem consume_ops_of_burst (hactive : rl.timerActive = false) (hops : rl.ops = some b)
    (hburst : 0 < b.oneTimeBurst) :
    rl.consume 1 .ops now =
      (true, { rl with ops := some { b with oneTimeBurst := b.oneTimeBurst - 1, lastUpdate := now } }) := by
  unfold RateLimiter.consume
  rw [if_neg (by simp [hactive])]
  simp only [RateLimiter.bucket, hops]
  rw [TokenBucket.reduce_of_burst hburst hburst]
  rfl

@[simp] theorem consume_bytes_ops (tokens : Nat) : (rl.consume tokens .bytes now).2.ops = rl.ops := by
  unfold RateLimiter.consume
  split
  · rfl
  split
  · rfl
  · dsimp only
    split <;> (try split) <;> rfl

/-- **The burst token is lost.** A transfer whose `Ops` token is the last of the one-time burst
and whose bytes the `Bytes` bucket refuses is throttled, yet the `Ops` bucket keeps no burst: the
token went back to a budget that was full. -/
theorem rateLimit_throttled_burst (hxfer : r.type = .in ∨ r.type = .out)
    (hactive : rl.timerActive = false) (hops : rl.ops = some b) (hburst : b.oneTimeBurst = 1)
    (hfull : b.budget = b.size)
    (hbytes : ((rl.consume 1 .ops now).2.consume r.dataLen.toNat .bytes now).1 = false) :
    (r.rateLimit rl now).1 = true ∧
      (r.rateLimit rl now).2.1.ops = some { b with oneTimeBurst := 0, lastUpdate := now } := by
  have hconsume : rl.consume 1 .ops now =
      (true, { rl with ops := some { b with oneTimeBurst := b.oneTimeBurst - 1, lastUpdate := now } }) :=
    consume_ops_of_burst hactive hops (by omega)
  rw [hconsume] at hbytes
  unfold Request.rateLimit
  rw [hconsume]
  simp only [Bool.not_true, Bool.false_eq_true, if_false, hxfer, if_true]
  rcases hrl : ({ rl with ops := some { b with oneTimeBurst := b.oneTimeBurst - 1, lastUpdate := now } } :
      RateLimiter).consume r.dataLen.toNat .bytes now with ⟨bytesOk, rl₂⟩
  rw [hrl] at hbytes
  cases hbytes
  have hops₂ : rl₂.ops = some { b with oneTimeBurst := 0, lastUpdate := now } := by
    have hkeep : (({ rl with ops := some { b with oneTimeBurst := b.oneTimeBurst - 1, lastUpdate := now } } :
        RateLimiter).consume r.dataLen.toNat .bytes now).2.ops =
          some { b with oneTimeBurst := b.oneTimeBurst - 1, lastUpdate := now } :=
      consume_bytes_ops _
    rw [hrl, hburst] at hkeep
    exact hkeep
  refine ⟨rfl, ?_⟩
  simp only [Bool.not_false, if_true, RateLimiter.manualReplenish, RateLimiter.bucket, hops₂,
    TokenBucket.forceReplenish, lt_irrefl, if_false, RateLimiter.setBucket]
  simp [hfull]

/-- A limiter of ten bytes and ten operations a second, with a one-time burst of two operations:
a read of eight bytes takes the first burst token and eight bytes; a read of five bytes then takes
the last burst token, and the three bytes left refuse it. -/
theorem rateLimit_throttled_burst_twoReads :
    ∃ b, ((⟨.in, 8, 0, 0, 0⟩ : Request).rateLimit (RateLimiter.new 10 0 1000 10 2 1000 0) 0).2.1.ops =
        some b ∧ b.oneTimeBurst = 1 ∧
      ((⟨.in, 5, 0, 0, 0⟩ : Request).rateLimit
          ((⟨.in, 8, 0, 0, 0⟩ : Request).rateLimit (RateLimiter.new 10 0 1000 10 2 1000 0) 0).2.1 0).1 =
        true ∧
      ((⟨.in, 5, 0, 0, 0⟩ : Request).rateLimit
          ((⟨.in, 8, 0, 0, 0⟩ : Request).rateLimit (RateLimiter.new 10 0 1000 10 2 1000 0) 0).2.1 0).2.1.ops =
        some { b with oneTimeBurst := 0, lastUpdate := 0 } :=
  ⟨_, rfl, rfl, rateLimit_throttled_burst (.inl rfl) rfl rfl rfl rfl (by decide)⟩

end Block
end Firecracker
