import Firecracker.Virtio.Chain
import Firecracker.RateLimiter.Basic
import Firecracker.Lib.Ledger

/-!
# Firecracker.Net.Rx

`devices/src/virtio/net/device.rs`: delivering the frame read from the tap,
`rx_frame_buf[..rx_bytes_read]`, to the guest. `do_write_frame_to_guest` pops a chain from the RX
queue, writes the frame into its descriptors (`write_to_descriptor_chain`) and adds the chain to
the used ring, with the frame's length as used length when the whole frame went in and `0`
otherwise. `write_frame_to_guest` tries again after a chain that could not take the frame, at most
`actual_size()` times, and gives up at an empty queue or a failed `add_used`.

Guest memory is written with `vm-memory`'s `write_slice`: `try_access` copies the bytes from the
address on as long as they lie in guest memory, so a write that runs out of guest memory part way
is a `PartialBuffer` error after the bytes before the gap were written. The writes go to the memory
the descriptors are read from, so each `next_descriptor` reads memory as the write before it left
it.

The device's accesses form a log (`RxAccess`). `Fills` says what it is for a chain to receive a
frame, and `writeToDescriptorChain_ok_iff` that it is what `Ok` from `write_to_descriptor_chain`
means. `Delivery` reads the log of a call as the attempts it made; `writeFrameToGuest_delivery`:
every call that returns makes such a log, pops at most `actual_size()` chains, and gives every
chain it pops back to the used ring once, unless that chain's `add_used` failed, which ends the
call with `false` whatever the chain received.
-/

namespace Firecracker

namespace Net

open Virtio GuestMemoryMmap

inductive FrontendError
  | addUsed
  | descriptorChainTooSmall
  | emptyQueue
  | guestMemory (err : GuestMemoryError)
  | readOnlyDescriptor
  deriving DecidableEq, Repr

/-- What RX delivery does to the guest, in order: pop a chain, write a slice at an address, add a
chain to the used ring (with whether `add_used` returned `Ok`). -/
inductive RxAccess
  | pop (head : DescriptorChain)
  | write (addr : BitVec 64) (data : List (BitVec 8))
  | addUsed (index : BitVec 16) (len : BitVec 32) (ok : Bool)
  deriving DecidableEq, Repr

/-! ## The model -/

/-- `write_to_descriptor_chain` from `descriptor` on, with the part of the frame still to write
(`chunk`): the memory afterwards, the writes, and the result. The `while let` loop follows
`next_descriptor`, whose `ttl` falls at each step. -/
def writeToDescriptorChain (mem : GuestMemoryMmap) (chunk : List (BitVec 8))
    (descriptor : DescriptorChain) : GuestMemoryMmap × List RxAccess × Except FrontendError Unit :=
  if !descriptor.isWriteOnly then (mem, [], .error .readOnlyDescriptor)
  else
    let len := min chunk.length descriptor.len.toNat
    let w := RxAccess.write descriptor.addr (chunk.take len)
    match mem.writeSlice descriptor.addr (chunk.take len) with
    | (mem, .error err) => (mem, [w], .error (.guestMemory err))
    | (mem, .ok ()) =>
      if (chunk.drop len).isEmpty then (mem, [w], .ok ())
      else
        match _hnext : descriptor.nextDescriptor mem with
        | none => (mem, [w], .error .descriptorChainTooSmall)
        | some next =>
          match writeToDescriptorChain mem (chunk.drop len) next with
          | (mem, ws, result) => (mem, w :: ws, result)
termination_by descriptor.ttl.toNat
decreasing_by exact DescriptorChain.ttl_nextDescriptor_lt _hnext

/-- The used length `do_write_frame_to_guest` gives a chain: `rx_bytes_read as u32` after a write
that succeeded, `0` after one that failed. -/
def usedLen (frame : List (BitVec 8)) : Except FrontendError Unit → BitVec 32
  | .ok () => BitVec.ofNat 32 frame.length
  | .error _ => 0

/-- The log of one attempt: the pop of `head`, the writes into its chain, and its `add_used`. -/
def attempt (head : DescriptorChain) (writes : List RxAccess) (len : BitVec 32) (ok : Bool) :
    List RxAccess :=
  .pop head :: writes ++ [.addUsed head.index len ok]

/-- `do_write_frame_to_guest`, `none` where `pop_or_enable_notification` panics. -/
def doWriteFrameToGuest (q : Queue) (mem : GuestMemoryMmap) (frame : List (BitVec 8)) :
    Option (Queue × GuestMemoryMmap × List RxAccess × Except FrontendError Unit) :=
  match q.popOrEnableNotification mem with
  | none => none
  | some (none, q, mem) => some (q, mem, [], .error .emptyQueue)
  | some (some head, q, mem) =>
    match writeToDescriptorChain mem frame head with
    | (mem, writes, result) =>
      match q.addUsed mem head.index (usedLen frame result) with
      | (q, mem, .error _) => some (q, mem, attempt head writes (usedLen frame result) false, .error .addUsed)
      | (q, mem, .ok ()) => some (q, mem, attempt head writes (usedLen frame result) true, result)

/-- The `for` loop of `write_frame_to_guest` with `n` iterations left: whether the frame was
delivered, the queue, the memory and the log. -/
def writeFrameToGuestLoop (frame : List (BitVec 8)) :
    Nat → Queue → GuestMemoryMmap → Option (Bool × Queue × GuestMemoryMmap × List RxAccess)
  | 0, q, mem => some (false, q, mem, [])
  | n + 1, q, mem =>
    match doWriteFrameToGuest q mem frame with
    | none => none
    | some (q, mem, log, .ok ()) => some (true, q, mem, log)
    | some (q, mem, log, .error .emptyQueue) => some (false, q, mem, log)
    | some (q, mem, log, .error .addUsed) => some (false, q, mem, log)
    | some (q, mem, log, .error _) =>
      match writeFrameToGuestLoop frame n q mem with
      | none => none
      | some (ok, q, mem, log') => some (ok, q, mem, log ++ log')

/-- `write_frame_to_guest`: `actual_size()` iterations at most. -/
def writeFrameToGuest (q : Queue) (mem : GuestMemoryMmap) (frame : List (BitVec 8)) :
    Option (Bool × Queue × GuestMemoryMmap × List RxAccess) :=
  writeFrameToGuestLoop frame q.actualSize.toNat q mem

/-- `rate_limiter_consume_op`: one op, then `size` bytes; the op is given back when the bytes are
not there. -/
def rateLimiterConsumeOp (rl : RateLimiter) (size now : Nat) : Bool × RateLimiter :=
  match rl.consume 1 .ops now with
  | (false, rl) => (false, rl)
  | (true, rl) =>
    match rl.consume size .bytes now with
    | (false, rl) => (false, rl.manualReplenish 1 .ops)
    | (true, rl) => (true, rl)

def rateLimiterReplenishOp (rl : RateLimiter) (size : Nat) : RateLimiter :=
  (rl.manualReplenish 1 .ops).manualReplenish size .bytes

/-- `rate_limited_rx_single_frame`: the frame is delivered only if the limiter lets it through, and
the tokens are given back when the delivery fails. -/
def rateLimitedRxSingleFrame (rl : RateLimiter) (q : Queue) (mem : GuestMemoryMmap)
    (frame : List (BitVec 8)) (now : Nat) :
    Option (Bool × RateLimiter × Queue × GuestMemoryMmap × List RxAccess) :=
  match rateLimiterConsumeOp rl frame.length now with
  | (false, rl) => some (false, rl, q, mem, [])
  | (true, rl) =>
    match writeFrameToGuest q mem frame with
    | none => none
    | some (success, q, mem, log) =>
      some (success, if success then rl else rateLimiterReplenishOp rl frame.length, q, mem, log)

/-! ## What a chain receiving a frame is -/

/-- The chain from `d` on receives `chunk` with the writes `ws`, taking guest memory from `mem` to
`mem'`: each descriptor is write-only and is filled up to its length before the next, which is
read from memory as the write before it left it; the last one takes what is left. -/
inductive Fills :
    GuestMemoryMmap → List (BitVec 8) → DescriptorChain → List RxAccess → GuestMemoryMmap → Prop
  | last {mem mem' : GuestMemoryMmap} {chunk : List (BitVec 8)} {d : DescriptorChain} :
      d.isWriteOnly = true → chunk.length ≤ d.len.toNat → mem.writeSlice d.addr chunk = (mem', .ok ()) →
      Fills mem chunk d [.write d.addr chunk] mem'
  | next {mem mem₁ mem' : GuestMemoryMmap} {chunk : List (BitVec 8)} {d d' : DescriptorChain}
      {ws : List RxAccess} :
      d.isWriteOnly = true → d.len.toNat < chunk.length →
      mem.writeSlice d.addr (chunk.take d.len.toNat) = (mem₁, .ok ()) → d.nextDescriptor mem₁ = some d' →
      Fills mem₁ (chunk.drop d.len.toNat) d' ws mem' →
      Fills mem chunk d (.write d.addr (chunk.take d.len.toNat) :: ws) mem'

def RxAccess.written : RxAccess → List (BitVec 8)
  | .write _ data => data
  | _ => []

theorem Fills.written_eq {mem mem' : GuestMemoryMmap} {chunk : List (BitVec 8)} {d : DescriptorChain}
    {ws : List RxAccess} (h : Fills mem chunk d ws mem') : ws.flatMap RxAccess.written = chunk := by
  induction h with
  | last => simp [RxAccess.written]
  | next _ _ _ _ _ ih => simp [RxAccess.written, ih]

/-! ## `write_to_descriptor_chain`, branch by branch -/

section chain

variable {mem mem₁ : GuestMemoryMmap} {chunk : List (BitVec 8)} {d d' : DescriptorChain}

theorem writeToDescriptorChain_readOnly (h : d.isWriteOnly = false) :
    writeToDescriptorChain mem chunk d = (mem, [], .error .readOnlyDescriptor) := by
  rw [writeToDescriptorChain]
  simp [h]

theorem writeToDescriptorChain_writeError (hw : d.isWriteOnly = true) {err : GuestMemoryError}
    (hs : mem.writeSlice d.addr (chunk.take (min chunk.length d.len.toNat)) = (mem₁, .error err)) :
    writeToDescriptorChain mem chunk d =
      (mem₁, [.write d.addr (chunk.take (min chunk.length d.len.toNat))], .error (.guestMemory err)) := by
  rw [writeToDescriptorChain]
  simp [hw, hs]

theorem writeToDescriptorChain_done (hw : d.isWriteOnly = true) (hle : chunk.length ≤ d.len.toNat)
    (hs : mem.writeSlice d.addr chunk = (mem₁, .ok ())) :
    writeToDescriptorChain mem chunk d = (mem₁, [.write d.addr chunk], .ok ()) := by
  have hmin : min chunk.length d.len.toNat = chunk.length := min_eq_left hle
  rw [writeToDescriptorChain]
  simp [hw, hmin, hs]

theorem writeToDescriptorChain_tooSmall (hw : d.isWriteOnly = true) (hlt : d.len.toNat < chunk.length)
    (hs : mem.writeSlice d.addr (chunk.take d.len.toNat) = (mem₁, .ok ()))
    (hn : d.nextDescriptor mem₁ = none) :
    writeToDescriptorChain mem chunk d =
      (mem₁, [.write d.addr (chunk.take d.len.toNat)], .error .descriptorChainTooSmall) := by
  have hmin : min chunk.length d.len.toNat = d.len.toNat := min_eq_right hlt.le
  rw [writeToDescriptorChain]
  simp only [hw, hmin, hs, Bool.not_true, Bool.false_eq_true, if_false]
  rw [if_neg (by simp; omega)]
  split
  · rfl
  · rename_i next hnext
    rw [hn] at hnext
    cases hnext

theorem writeToDescriptorChain_next (hw : d.isWriteOnly = true) (hlt : d.len.toNat < chunk.length)
    (hs : mem.writeSlice d.addr (chunk.take d.len.toNat) = (mem₁, .ok ()))
    (hn : d.nextDescriptor mem₁ = some d') :
    writeToDescriptorChain mem chunk d =
      let r := writeToDescriptorChain mem₁ (chunk.drop d.len.toNat) d'
      (r.1, .write d.addr (chunk.take d.len.toNat) :: r.2.1, r.2.2) := by
  have hmin : min chunk.length d.len.toNat = d.len.toNat := min_eq_right hlt.le
  rw [writeToDescriptorChain]
  simp only [hw, hmin, hs, Bool.not_true, Bool.false_eq_true, if_false]
  rw [if_neg (by simp; omega)]
  split
  · rename_i hnext
    rw [hn] at hnext
    cases hnext
  · rename_i next hnext
    rw [hn] at hnext
    cases hnext
    rfl

theorem writeToDescriptorChain_induction
    {motive : GuestMemoryMmap → List (BitVec 8) → DescriptorChain → Prop}
    (readOnly : ∀ mem chunk d, d.isWriteOnly = false → motive mem chunk d)
    (writeError : ∀ mem chunk d mem₁ (err : GuestMemoryError), d.isWriteOnly = true →
      mem.writeSlice d.addr (chunk.take (min chunk.length d.len.toNat)) = (mem₁, .error err) →
      motive mem chunk d)
    (done : ∀ mem chunk d mem₁, d.isWriteOnly = true → chunk.length ≤ d.len.toNat →
      mem.writeSlice d.addr chunk = (mem₁, .ok ()) → motive mem chunk d)
    (tooSmall : ∀ mem chunk d mem₁, d.isWriteOnly = true → d.len.toNat < chunk.length →
      mem.writeSlice d.addr (chunk.take d.len.toNat) = (mem₁, .ok ()) →
      d.nextDescriptor mem₁ = none → motive mem chunk d)
    (next : ∀ mem chunk d mem₁ d', d.isWriteOnly = true → d.len.toNat < chunk.length →
      mem.writeSlice d.addr (chunk.take d.len.toNat) = (mem₁, .ok ()) →
      d.nextDescriptor mem₁ = some d' → motive mem₁ (chunk.drop d.len.toNat) d' →
      motive mem chunk d)
    (mem : GuestMemoryMmap) (chunk : List (BitVec 8)) (d : DescriptorChain) : motive mem chunk d := by
  induction mem, chunk, d using writeToDescriptorChain.induct with
  | case1 mem chunk d hro => exact readOnly mem chunk d (by simpa using hro)
  | case2 mem chunk d hw len mem₁ err =>
    rename_i hs
    exact writeError mem chunk d mem₁ err (by simpa using hw) hs
  | case3 mem chunk d hw len mem₁ hs =>
    rename_i hdone
    simp only [len] at hs hdone
    have hle : chunk.length ≤ d.len.toNat := by simp at hdone; omega
    rw [min_eq_left hle, List.take_of_length_le le_rfl] at hs
    exact done mem chunk d mem₁ (by simpa using hw) hle hs
  | case4 mem chunk d hw len mem₁ hs hmore =>
    rename_i hn
    simp only [len] at hs hmore
    have hlt : d.len.toNat < chunk.length := by simp at hmore; omega
    rw [min_eq_right hlt.le] at hs
    exact tooSmall mem chunk d mem₁ (by simpa using hw) hlt hs hn
  | case5 mem chunk d hw len mem₁ hs hmore d' hn mem₂ ws result hrec =>
    rename_i ih
    simp only [len] at hs hmore ih
    have hlt : d.len.toNat < chunk.length := by simp at hmore; omega
    rw [min_eq_right hlt.le] at hs ih
    exact next mem chunk d mem₁ d' (by simpa using hw) hlt hs hn ih

/-- **`Ok` is receiving the chunk.** `write_to_descriptor_chain` returns `Ok` exactly when the chain
receives the chunk in the sense of `Fills`, with the writes it made. -/
theorem writeToDescriptorChain_ok_iff {mem' : GuestMemoryMmap} {ws : List RxAccess} :
    writeToDescriptorChain mem chunk d = (mem', ws, .ok ()) ↔ Fills mem chunk d ws mem' := by
  constructor
  · intro h
    induction mem, chunk, d using writeToDescriptorChain_induction generalizing mem' ws with
    | readOnly mem chunk d hro =>
      rw [writeToDescriptorChain_readOnly hro] at h
      cases h
    | writeError mem chunk d mem₁ err hw hs =>
      rw [writeToDescriptorChain_writeError hw hs] at h
      cases h
    | done mem chunk d mem₁ hw hle hs =>
      rw [writeToDescriptorChain_done hw hle hs] at h
      cases h
      exact .last hw hle hs
    | tooSmall mem chunk d mem₁ hw hlt hs hn =>
      rw [writeToDescriptorChain_tooSmall hw hlt hs hn] at h
      cases h
    | next mem chunk d mem₁ d' hw hlt hs hn ih =>
      rcases hrec : writeToDescriptorChain mem₁ (chunk.drop d.len.toNat) d' with ⟨mem₂, ws', r⟩
      rw [writeToDescriptorChain_next hw hlt hs hn, hrec] at h
      cases h
      exact .next hw hlt hs hn (ih hrec)
  · intro h
    induction h with
    | last hw hle hs => exact writeToDescriptorChain_done hw hle hs
    | next hw hlt hs hn _ ih => rw [writeToDescriptorChain_next hw hlt hs hn, ih]

theorem writeToDescriptorChain_shape (mem : GuestMemoryMmap) (chunk : List (BitVec 8))
    (d : DescriptorChain) :
    (∀ a ∈ (writeToDescriptorChain mem chunk d).2.1, ∃ addr data, a = .write addr data) ∧
      (writeToDescriptorChain mem chunk d).2.2 ≠ .error .emptyQueue ∧
      (writeToDescriptorChain mem chunk d).2.2 ≠ .error .addUsed := by
  induction mem, chunk, d using writeToDescriptorChain_induction with
  | readOnly mem chunk d hro =>
    rw [writeToDescriptorChain_readOnly hro]
    simp
  | writeError mem chunk d mem₁ err hw hs =>
    rw [writeToDescriptorChain_writeError hw hs]
    simp
  | done mem chunk d mem₁ hw hle hs =>
    rw [writeToDescriptorChain_done hw hle hs]
    simp
  | tooSmall mem chunk d mem₁ hw hlt hs hn =>
    rw [writeToDescriptorChain_tooSmall hw hlt hs hn]
    simp
  | next mem chunk d mem₁ d' hw hlt hs hn ih =>
    rw [writeToDescriptorChain_next hw hlt hs hn]
    obtain ⟨hws, hempty, hadd⟩ := ih
    refine ⟨?_, hempty, hadd⟩
    intro a ha
    rcases List.mem_cons.1 ha with rfl | ha
    · exact ⟨_, _, rfl⟩
    · exact hws a ha

end chain

/-! ## One attempt -/

/-- The chain at `head`, written with the frame in guest memory as it was at its pop, made the
writes `ws` and returned `result`. -/
def Attempted (frame : List (BitVec 8)) (head : DescriptorChain) (ws : List RxAccess)
    (result : Except FrontendError Unit) : Prop :=
  ∃ mem mem', writeToDescriptorChain mem frame head = (mem', ws, result)

section attempt

variable {frame : List (BitVec 8)} {head : DescriptorChain} {ws : List RxAccess}
  {result : Except FrontendError Unit}

theorem Attempted.writes (h : Attempted frame head ws result) :
    ∀ a ∈ ws, ∃ addr data, a = .write addr data := by
  obtain ⟨mem, mem', hw⟩ := h
  have hshape := (writeToDescriptorChain_shape mem frame head).1
  rw [hw] at hshape
  exact hshape

theorem Attempted.result_ne (h : Attempted frame head ws result) :
    result ≠ .error .emptyQueue ∧ result ≠ .error .addUsed := by
  obtain ⟨mem, mem', hw⟩ := h
  have hshape := (writeToDescriptorChain_shape mem frame head).2
  rw [hw] at hshape
  exact hshape

theorem Attempted.fills (h : Attempted frame head ws (.ok ())) :
    ∃ mem mem', Fills mem frame head ws mem' := by
  obtain ⟨mem, mem', hw⟩ := h
  exact ⟨mem, mem', writeToDescriptorChain_ok_iff.1 hw⟩

end attempt

/-- **One attempt.** `do_write_frame_to_guest` either finds the queue empty and does nothing, or
pops one chain, writes to it, and calls `add_used` once on its head with the used length of its
result; a failed `add_used` makes the result `AddUsed`. -/
theorem doWriteFrameToGuest_cases {q q' : Queue} {mem mem' : GuestMemoryMmap}
    {frame : List (BitVec 8)} {log : List RxAccess} {r : Except FrontendError Unit}
    (h : doWriteFrameToGuest q mem frame = some (q', mem', log, r)) :
    (r = .error .emptyQueue ∧ log = []) ∨
      ∃ head ws result, Attempted frame head ws result ∧
        ((r = .error .addUsed ∧ log = attempt head ws (usedLen frame result) false) ∨
          (r = result ∧ log = attempt head ws (usedLen frame result) true)) := by
  unfold doWriteFrameToGuest at h
  rcases hpop : q.popOrEnableNotification mem with _ | ⟨_ | head, q₁, mem₁⟩
  · rw [hpop] at h
    cases h
  · rw [hpop] at h
    cases h
    exact .inl ⟨rfl, rfl⟩
  rw [hpop] at h
  rcases hw : writeToDescriptorChain mem₁ frame head with ⟨mem₂, ws, result⟩
  have hatt : Attempted frame head ws result := ⟨mem₁, mem₂, hw⟩
  simp only [hw] at h
  rcases hadd : q₁.addUsed mem₂ head.index (usedLen frame result) with ⟨q₃, mem₃, _ | ⟨⟩⟩
  · simp only [hadd, Option.some.injEq, Prod.mk.injEq] at h
    obtain ⟨-, -, rfl, rfl⟩ := h
    exact .inr ⟨head, ws, result, hatt, .inl ⟨rfl, rfl⟩⟩
  · simp only [hadd, Option.some.injEq, Prod.mk.injEq] at h
    obtain ⟨-, -, rfl, rfl⟩ := h
    exact .inr ⟨head, ws, result, hatt, .inr ⟨rfl, rfl⟩⟩

theorem doWriteFrameToGuest_eq_none {q : Queue} {mem : GuestMemoryMmap} {frame : List (BitVec 8)} :
    doWriteFrameToGuest q mem frame = none ↔ q.popOrEnableNotification mem = none := by
  unfold doWriteFrameToGuest
  rcases hpop : q.popOrEnableNotification mem with _ | ⟨_ | head, q₁, mem₁⟩
  · simp
  · simp
  dsimp only
  split <;> simp

/-! ## A call -/

def RxAccess.isPop : RxAccess → Bool
  | .pop _ => true
  | _ => false

def pops (log : List RxAccess) : Nat := log.countP RxAccess.isPop

/-- What an access does to the chains outstanding: a pop takes its head, and an `add_used` that
returned `Ok` gives it back. -/
def RxAccess.op : RxAccess → Ledger.Op (BitVec 16)
  | .pop head => .take head.index
  | .addUsed index _ true => .give index
  | _ => .other

def outstanding (log : List RxAccess) : Option (List (BitVec 16)) :=
  Ledger.settle [] (log.map RxAccess.op)

/-- What a call of `write_frame_to_guest` did, read off its log: attempts at chains that did not
take the frame, each added to the used ring with used length `0`, and then how the call ended. -/
inductive Delivery (frame : List (BitVec 8)) : Bool → List RxAccess → Prop
  /-- No chain was left to try: the queue was empty, or `actual_size()` attempts were made. -/
  | exhausted : Delivery frame false []
  /-- The chain received the frame and was added to the used ring with the frame's length. -/
  | delivered {head : DescriptorChain} {ws : List RxAccess} :
      (∃ mem mem', Fills mem frame head ws mem') →
      Delivery frame true (attempt head ws (BitVec.ofNat 32 frame.length) true)
  /-- The chain's `add_used` failed, whatever the chain received. -/
  | addUsedFailed {head : DescriptorChain} {ws : List RxAccess} {result : Except FrontendError Unit} :
      Attempted frame head ws result → Delivery frame false (attempt head ws (usedLen frame result) false)
  /-- The chain did not take the frame and was added with used length `0`; the call went on. -/
  | retry {head : DescriptorChain} {ws : List RxAccess} {e : FrontendError} {ok : Bool}
      {log : List RxAccess} :
      Attempted frame head ws (.error e) → Delivery frame ok log →
      Delivery frame ok (attempt head ws 0 true ++ log)

section delivery

variable {frame : List (BitVec 8)} {head : DescriptorChain} {ws : List RxAccess}

theorem pops_append (log log' : List RxAccess) : pops (log ++ log') = pops log + pops log' :=
  List.countP_append

theorem pops_attempt (hws : ∀ a ∈ ws, ∃ addr data, a = .write addr data) (len : BitVec 32)
    (ok : Bool) : pops (attempt head ws len ok) = 1 := by
  have hnone : ws.countP RxAccess.isPop = 0 := by
    rw [List.countP_eq_zero]
    intro a ha
    obtain ⟨addr, data, rfl⟩ := hws a ha
    simp [RxAccess.isPop]
  simp [pops, attempt, List.countP_cons, hnone, RxAccess.isPop]

theorem settle_attempt (hws : ∀ a ∈ ws, ∃ addr data, a = .write addr data) (len : BitVec 32)
    (ok : Bool) (out : List (BitVec 16)) :
    Ledger.settle out ((attempt head ws len ok).map RxAccess.op) =
      some (if ok then out else head.index :: out) := by
  have hother : Ledger.settle (head.index :: out) (ws.map RxAccess.op) = some (head.index :: out) := by
    refine Ledger.settle_of_other fun op hop => ?_
    obtain ⟨a, ha, rfl⟩ := List.mem_map.1 hop
    obtain ⟨addr, data, rfl⟩ := hws a ha
    rfl
  rw [attempt, List.map_append, List.map_cons]
  change Ledger.settle (head.index :: out)
    (ws.map RxAccess.op ++ [RxAccess.op (.addUsed head.index len ok)]) = _
  rw [Ledger.settle_append, hother, Option.bind_some]
  cases ok
  · rfl
  · exact Ledger.settle_give_cons out head.index

theorem Delivery.settle {ok : Bool} {log : List RxAccess} (h : Delivery frame ok log)
    (out : List (BitVec 16)) :
    Ledger.settle out (log.map RxAccess.op) = some out ∨
      ok = false ∧ ∃ index, Ledger.settle out (log.map RxAccess.op) = some (index :: out) := by
  induction h with
  | exhausted => exact .inl rfl
  | delivered hfill =>
    obtain ⟨mem, mem', hfill⟩ := hfill
    have hatt : Attempted frame _ _ (.ok ()) := ⟨mem, mem', writeToDescriptorChain_ok_iff.2 hfill⟩
    exact .inl (settle_attempt hatt.writes _ _ out)
  | addUsedFailed hatt => exact .inr ⟨rfl, _, settle_attempt hatt.writes _ _ out⟩
  | retry hatt _ ih =>
    rw [List.map_append, Ledger.settle_append, settle_attempt hatt.writes, if_pos rfl,
      Option.bind_some]
    exact ih

theorem Delivery.outstanding {ok : Bool} {log : List RxAccess} (h : Delivery frame ok log) :
    outstanding log = some [] ∨ ok = false ∧ ∃ index, outstanding log = some [index] :=
  h.settle []

end delivery

/-! ## The loop -/

section loop

variable {frame : List (BitVec 8)} {n : Nat} {q q₁ : Queue} {mem mem₁ : GuestMemoryMmap}
  {log₁ : List RxAccess}

theorem writeFrameToGuestLoop_ok (hdo : doWriteFrameToGuest q mem frame = some (q₁, mem₁, log₁, .ok ())) :
    writeFrameToGuestLoop frame (n + 1) q mem = some (true, q₁, mem₁, log₁) := by
  simp [writeFrameToGuestLoop, hdo]

theorem writeFrameToGuestLoop_stop {e : FrontendError}
    (hdo : doWriteFrameToGuest q mem frame = some (q₁, mem₁, log₁, .error e))
    (he : e = .emptyQueue ∨ e = .addUsed) :
    writeFrameToGuestLoop frame (n + 1) q mem = some (false, q₁, mem₁, log₁) := by
  rcases he with rfl | rfl <;> simp [writeFrameToGuestLoop, hdo]

theorem writeFrameToGuestLoop_retry {e : FrontendError}
    (hdo : doWriteFrameToGuest q mem frame = some (q₁, mem₁, log₁, .error e))
    (hempty : e ≠ .emptyQueue) (hadd : e ≠ .addUsed) :
    writeFrameToGuestLoop frame (n + 1) q mem =
      (writeFrameToGuestLoop frame n q₁ mem₁).map fun r => (r.1, r.2.1, r.2.2.1, log₁ ++ r.2.2.2) := by
  simp only [writeFrameToGuestLoop, hdo]
  cases e
  case emptyQueue => exact absurd rfl hempty
  case addUsed => exact absurd rfl hadd
  all_goals rcases writeFrameToGuestLoop frame n q₁ mem₁ with _ | ⟨ok, q₂, mem₂, log₂⟩ <;> rfl

/-- **The run of the loop.** With `n` iterations left, a loop that returns pops at most `n` chains
and leaves a log that reads as a delivery. By induction on `n`; each iteration is one of the cases
of `doWriteFrameToGuest_cases`. -/
theorem writeFrameToGuestLoop_delivery :
    ∀ {n : Nat} {q : Queue} {mem : GuestMemoryMmap} {ok : Bool} {q' : Queue}
      {mem' : GuestMemoryMmap} {log : List RxAccess},
      writeFrameToGuestLoop frame n q mem = some (ok, q', mem', log) →
      pops log ≤ n ∧ Delivery frame ok log
  | 0, q, mem, ok, q', mem', log, h => by
    simp only [writeFrameToGuestLoop, Option.some.injEq, Prod.mk.injEq] at h
    obtain ⟨rfl, -, -, rfl⟩ := h
    exact ⟨le_rfl, .exhausted⟩
  | n + 1, q, mem, ok, q', mem', log, h => by
    rcases hdo : doWriteFrameToGuest q mem frame with _ | ⟨q₁, mem₁, log₁, r⟩
    · simp [writeFrameToGuestLoop, hdo] at h
    rcases doWriteFrameToGuest_cases hdo with ⟨rfl, rfl⟩ | ⟨head, ws, result, hatt, hcase⟩
    · rw [writeFrameToGuestLoop_stop hdo (.inl rfl)] at h
      cases h
      exact ⟨Nat.zero_le _, .exhausted⟩
    have hpops : ∀ len ok, pops (attempt head ws len ok) = 1 := pops_attempt hatt.writes
    rcases hcase with ⟨rfl, rfl⟩ | ⟨rfl, rfl⟩
    · rw [writeFrameToGuestLoop_stop hdo (.inr rfl)] at h
      cases h
      exact ⟨by rw [hpops]; omega, .addUsedFailed hatt⟩
    rcases r with e | ⟨⟩
    · obtain ⟨hempty, hadd⟩ := hatt.result_ne
      rw [writeFrameToGuestLoop_retry hdo (fun he => hempty (he ▸ rfl)) (fun he => hadd (he ▸ rfl))] at h
      rcases hrest : writeFrameToGuestLoop frame n q₁ mem₁ with _ | ⟨ok₂, q₂, mem₂, log₂⟩
      · rw [hrest] at h
        cases h
      simp only [hrest, Option.map_some, Option.some.injEq, Prod.mk.injEq] at h
      obtain ⟨rfl, -, -, rfl⟩ := h
      obtain ⟨hle, hdel⟩ := writeFrameToGuestLoop_delivery hrest
      exact ⟨by rw [pops_append, hpops]; omega, .retry hatt hdel⟩
    · rw [writeFrameToGuestLoop_ok hdo] at h
      cases h
      exact ⟨by rw [hpops]; omega, .delivered hatt.fills⟩

end loop

/-- **RX delivery.** For every queue and guest memory, whatever chains the driver offers (read-only
descriptors, addresses outside guest memory, too little space, descriptors that the frame itself
overwrites) and every frame: a call of `write_frame_to_guest` that returns has popped at most
`actual_size()` chains, and its log is a delivery: chains that did not take the frame, each added
to the used ring with used length `0`, and then either nothing more, or a chain that received the
whole frame (its bytes in order into its write-only descriptors, each filled up to its length
before the next) added with the frame's length and the call returning `true`, or a chain whose
`add_used` failed, with the call returning `false`. Every chain popped is given back to the used
ring, but that last one. -/
theorem writeFrameToGuest_delivery {q : Queue} {mem : GuestMemoryMmap} {frame : List (BitVec 8)}
    {ok : Bool} {q' : Queue} {mem' : GuestMemoryMmap} {log : List RxAccess}
    (h : writeFrameToGuest q mem frame = some (ok, q', mem', log)) :
    pops log ≤ q.actualSize.toNat ∧ Delivery frame ok log ∧
      (outstanding log = some [] ∨ ok = false ∧ ∃ index, outstanding log = some [index]) := by
  obtain ⟨hpops, hdel⟩ := writeFrameToGuestLoop_delivery h
  exact ⟨hpops, hdel, hdel.outstanding⟩

theorem rateLimitedRxSingleFrame_cases {rl rl' : RateLimiter} {q q' : Queue}
    {mem mem' : GuestMemoryMmap} {frame : List (BitVec 8)} {now : Nat} {ok : Bool}
    {log : List RxAccess} (h : rateLimitedRxSingleFrame rl q mem frame now = some (ok, rl', q', mem', log)) :
    (ok = false ∧ q' = q ∧ mem' = mem ∧ log = []) ∨
      writeFrameToGuest q mem frame = some (ok, q', mem', log) := by
  unfold rateLimitedRxSingleFrame at h
  rcases hc : rateLimiterConsumeOp rl frame.length now with ⟨_ | _, rl₁⟩
  · simp only [hc, Option.some.injEq, Prod.mk.injEq] at h
    obtain ⟨rfl, -, rfl, rfl, rfl⟩ := h
    exact .inl ⟨rfl, rfl, rfl, rfl⟩
  rcases hw : writeFrameToGuest q mem frame with _ | ⟨ok₁, q₁, mem₁, log₁⟩
  · simp [hc, hw] at h
  simp only [hc, hw, Option.some.injEq, Prod.mk.injEq] at h
  obtain ⟨rfl, -, rfl, rfl, rfl⟩ := h
  exact .inr rfl

/-! ## A queue of one chain -/

/-- The bytes of guest memory that are not zero: the descriptor table at `0` holds one write-only
descriptor of `4` bytes at `0x80`, and the available ring at `0x100` offers it. -/
def oneChainBytes : List (BitVec 64 × BitVec 8) := [(0x000, 0x80), (0x008, 4), (0x00c, 2), (0x102, 1)]

/-- An RX queue of size one, with its used ring at `0x200`. -/
def oneChainQueue : Queue :=
  { maxSize := 1, size := 1, ready := true, descTable := 0, availRing := 0x100, usedRing := 0x200,
    nextAvail := 0, nextUsed := 0, usesNotifSuppression := false, numAdded := 0 }

def oneChainHead : DescriptorChain := ⟨0, 1, 1, 0, 0x80, 4, 2, 0⟩

def oneChainMem : GuestMemoryMmap := ⟨[⟨0, 0x1000⟩], fun a => (oneChainBytes.lookup a).getD 0⟩

theorem writeFrameToGuest_delivery_oneChain :
    ∃ q' mem', writeFrameToGuest oneChainQueue oneChainMem [0xab] =
        some (true, q', mem', attempt oneChainHead [.write 0x80 [0xab]] 1 true) ∧
      pops (attempt oneChainHead [.write 0x80 [0xab]] 1 true) ≤ oneChainQueue.actualSize.toNat ∧
      Delivery [0xab] true (attempt oneChainHead [.write 0x80 [0xab]] 1 true) ∧
      (outstanding (attempt oneChainHead [.write 0x80 [0xab]] 1 true) = some [] ∨
        true = false ∧ ∃ index, outstanding (attempt oneChainHead [.write 0x80 [0xab]] 1 true) = some [index]) := by
  have hpop : oneChainQueue.popOrEnableNotification oneChainMem =
      some (some oneChainHead, { oneChainQueue with nextAvail := 1 }, oneChainMem) := by rfl
  have hw : writeToDescriptorChain oneChainMem [0xab] oneChainHead =
      (oneChainMem.writeBytes 0x80 [0xab], [.write 0x80 [0xab]], .ok ()) := by
    rw [writeToDescriptorChain]
    rfl
  obtain ⟨q₁, mem₁, hadd⟩ : ∃ q₁ mem₁, ({ oneChainQueue with nextAvail := 1 } : Queue).addUsed
      (oneChainMem.writeBytes 0x80 [0xab]) oneChainHead.index (BitVec.ofNat 32 [(0xab : BitVec 8)].length) =
      (q₁, mem₁, .ok ()) := ⟨_, _, rfl⟩
  dsimp only at hadd
  have hsize : oneChainQueue.actualSize.toNat = 1 := by decide
  have hrun : writeFrameToGuest oneChainQueue oneChainMem [0xab] =
      some (true, q₁, mem₁, attempt oneChainHead [.write 0x80 [0xab]] 1 true) := by
    simp only [writeFrameToGuest, hsize, writeFrameToGuestLoop, doWriteFrameToGuest, hpop, hw, usedLen,
      hadd]
    rfl
  exact ⟨q₁, mem₁, hrun, writeFrameToGuest_delivery hrun⟩

/-- The same queue in guest memory with a hole at `0x200..0x208`: `is_valid` accepts it, since it
checks only the last byte of the used ring, but the used ring's first element lies in the hole. -/
def usedRingGapMem : GuestMemoryMmap :=
  ⟨[⟨0, 0x200⟩, ⟨0x208, 0xf8⟩], fun a => (oneChainBytes.lookup a).getD 0⟩

/-- **A chain that received the frame, and `false`.** On a queue that passed `is_valid`, the one
chain popped receives the whole frame, but `add_used` cannot write its used element:
`write_frame_to_guest` returns `false`, and the chain stays popped without being added to the used
ring. -/
theorem writeFrameToGuest_addUsed_fails :
    oneChainQueue.isValid usedRingGapMem = some true ∧
      (∃ q' mem', writeFrameToGuest oneChainQueue usedRingGapMem [0xab] =
        some (false, q', mem', attempt oneChainHead [.write 0x80 [0xab]] 1 false)) ∧
      (∃ mem', Fills usedRingGapMem [0xab] oneChainHead [.write 0x80 [0xab]] mem') ∧
      outstanding (attempt oneChainHead [.write 0x80 [0xab]] 1 false) = some [oneChainHead.index] := by
  have hpop : oneChainQueue.popOrEnableNotification usedRingGapMem =
      some (some oneChainHead, { oneChainQueue with nextAvail := 1 }, usedRingGapMem) := by rfl
  have hs : usedRingGapMem.writeSlice 0x80 [0xab] = (usedRingGapMem.writeBytes 0x80 [0xab], .ok ()) := by
    rfl
  have hw : writeToDescriptorChain usedRingGapMem [0xab] oneChainHead =
      (usedRingGapMem.writeBytes 0x80 [0xab], [.write 0x80 [0xab]], .ok ()) :=
    writeToDescriptorChain_done rfl (by decide) hs
  have hadd : ({ oneChainQueue with nextAvail := 1 } : Queue).addUsed
      (usedRingGapMem.writeBytes 0x80 [0xab]) oneChainHead.index (BitVec.ofNat 32 [(0xab : BitVec 8)].length) =
      ({ oneChainQueue with nextAvail := 1 }, usedRingGapMem.writeBytes 0x80 [0xab], .error (.usedRing (.invalidGuestAddress 0x204))) := by
    rfl
  dsimp only at hadd
  have hsize : oneChainQueue.actualSize.toNat = 1 := by decide
  refine ⟨by decide +kernel, ⟨{ oneChainQueue with nextAvail := 1 }, usedRingGapMem.writeBytes 0x80 [0xab], ?_⟩,
    ⟨_, .last rfl (by decide) hs⟩, by decide⟩
  simp only [writeFrameToGuest, hsize, writeFrameToGuestLoop, doWriteFrameToGuest, hpop, hw, usedLen, hadd]
  rfl

end Net
end Firecracker
