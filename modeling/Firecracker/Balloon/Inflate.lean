import Firecracker.Virtio.Queue
import Firecracker.Lib.Loop
import Firecracker.Lib.Ledger
import Firecracker.Balloon.Compact

/-!
# Firecracker.Balloon.Inflate

`devices/src/virtio/balloon/device.rs`: `Balloon::process_inflate`, which takes the pages the
guest gives up. Each descriptor of the inflate queue holds page frame numbers, one `u32` each. An
inner loop pops descriptors, reads their numbers into `pfn_buffer` and acknowledges each with
`add_used`; it gives a descriptor back with `undo_pop` when its numbers do not fit in the buffer.
After the inner loop the numbers read are compacted into ranges, and each range goes to
`remove_range`. The outer loop starts again while the inner one popped something.

A descriptor that is readable and holds whole `u32` values, but more of them than
`MAX_PAGES_IN_DESC`, is skipped with `continue`: it is popped and never given back.

`pfn_buffer[..pfn_buffer_idx]` is the list `pfns`: a cell of the buffer is read only after the loop
writes it, so the cells past `pfn_buffer_idx` are left out, and so is the in-place sort of
`compact_page_frame_numbers`. The write past the end of the buffer panics, as the index is checked.
`remove_range` zeroes the pages of a range that lies in one region of guest memory: `madvise`
with `MADV_DONTNEED`, after an `mmap` over the range for a restored guest, whose failures the host
does not cause and which are not modelled. Its errors are logged and ignored. The outcome of
`trigger_irq` is an input.

The loops are run with fuel: a guest can overlap the used ring with the available ring. A panic,
or a loop that does not end within its fuel, is `none`.
-/

namespace Firecracker
namespace Balloon

open Virtio GuestMemoryMmap

def maxPagesInDesc : Nat := 256
def maxPageCompactBuffer : Nat := 2048
def sizeOfU32 : Nat := 4
def virtioBalloonPfnShift : Nat := 12

inductive BalloonError where
  | malformedDescriptor
  | queue (e : QueueError)
  | interruptError
  deriving DecidableEq, Repr

/-- What `process_inflate` does that the guest or the host sees, in order. -/
inductive Access where
  | pop (head : DescriptorChain)
  | undoPop (head : BitVec 16)
  | addUsed (head : BitVec 16)
  | readPfn (pfn : BitVec 32)
  | removeRange (pfn rangeLen : BitVec 32)
  deriving DecidableEq, Repr

/-- `remove_range` on the range `[guest_address, guest_address + range_len)`. -/
def removeRange (m : GuestMemoryMmap) (guestAddress rangeLen : BitVec 64) : GuestMemoryMmap :=
  match m.regions.find? fun r =>
      decide (r.start ≤ guestAddress) && decide (guestAddress.toNat < r.start.toNat + r.len) with
  | none => m
  | some region =>
    if (guestAddress + rangeLen).toNat > region.start.toNat + region.len then m
    else
      { m with
        bytes := fun a =>
          if guestAddress ≤ a ∧ a.toNat < guestAddress.toNat + rangeLen.toNat then 0 else m.bytes a }

/-- The inflate queue and guest memory, with the locals of `process_inflate`: the numbers in
`pfn_buffer[..pfn_buffer_idx]`, `needs_interrupt`, `valid_descs_found`, and what the call did. -/
structure Inflate where
  queue : Queue
  mem : GuestMemoryMmap
  pfns : List (BitVec 32)
  needsInterrupt : Bool
  validDescsFound : Bool
  log : List Access

/-- The loop over `(0..len).step_by(SIZE_OF_U32)`: each `index` reads one number at
`head.addr + index` into the buffer. -/
def readPfns (addr : BitVec 64) : List Nat → Inflate → Option (Inflate × Except BalloonError Unit)
  | [], s => some (s, .ok ())
  | index :: indices, s =>
    match checkedAdd addr (BitVec.ofNat 64 index) with
    | none => some (s, .error .malformedDescriptor)
    | some a =>
      match s.mem.readObj a 4 with
      | none => some (s, .error .malformedDescriptor)
      | some bytes =>
        let pfn := u32OfLe bytes
        if s.pfns.length < maxPageCompactBuffer then
          readPfns addr indices { s with pfns := s.pfns ++ [pfn], log := s.log ++ [.readPfn pfn] }
        else none

/-- Acknowledge the receipt of the descriptor: `add_used` with length `0`. -/
def acknowledge (s : Inflate) (head : BitVec 16) :
    Loop.Step Inflate (Option (Inflate × Except BalloonError Unit)) :=
  match s.queue.addUsed s.mem head 0 with
  | (queue, mem, .ok ()) =>
    .next { s with queue, mem, needsInterrupt := true, log := s.log ++ [.addUsed head] }
  | (queue, mem, .error e) => .done (some ({ s with queue, mem }, .error (.queue e)))

/-- One iteration of the inner loop, `while let Some(head) = queue.pop(mem)`; it leaves the loop with
the state and `Ok` to compact, or with an error `process_inflate` returns. -/
def inflateBody (s : Inflate) : Loop.Step Inflate (Option (Inflate × Except BalloonError Unit)) :=
  match s.queue.pop s.mem with
  | none => .done none
  | some (none, queue) => .done (some ({ s with queue }, .ok ()))
  | some (some head, queue) =>
    let s := { s with queue, validDescsFound := true, log := s.log ++ [.pop head] }
    let len := head.len.toNat
    if !head.isWriteOnly && len % sizeOfU32 == 0 then
      if len > maxPagesInDesc * sizeOfU32 then .next s
      else if maxPageCompactBuffer - s.pfns.length < len / sizeOfU32 then
        .done (some ({ s with queue := s.queue.undoPop, log := s.log ++ [.undoPop head.index] },
          .ok ()))
      else
        match readPfns head.addr (List.range' 0 ((len + 3) / sizeOfU32) sizeOfU32) s with
        | none => .done none
        | some (s, .error e) => .done (some (s, .error e))
        | some (s, .ok ()) => acknowledge s head.index
    else acknowledge s head.index

def removeRanges : List (BitVec 32 × BitVec 32) → Inflate → Inflate
  | [], s => s
  | (pfn, rangeLen) :: ranges, s =>
    let guestAddr := pfn.setWidth 64 <<< virtioBalloonPfnShift
    removeRanges ranges
      { s with mem := removeRange s.mem guestAddr (rangeLen.setWidth 64 <<< virtioBalloonPfnShift)
               log := s.log ++ [.removeRange pfn rangeLen] }

/-- One iteration of the outer loop, `while valid_descs_found`, whose inner loop runs on the same
fuel. -/
def compactBody (fuel : Nat) (s : Inflate) :
    Loop.Step Inflate (Option (Inflate × Except BalloonError Unit)) :=
  if !s.validDescsFound then .done (some (s, .ok ()))
  else
    match Loop.run inflateBody fuel { s with validDescsFound := false } with
    | some (some (s, .ok ())) =>
      .next (removeRanges (compactPageFrameNumbers s.pfns) { s with pfns := [] })
    | some (some (s, .error e)) => .done (some (s, .error e))
    | _ => .done none

/-- `process_inflate`: the queue and memory afterwards, what it did, and its result. -/
def processInflate (queue : Queue) (mem : GuestMemoryMmap) (fuel : Nat) (irqOk : Bool) :
    Option (Inflate × Except BalloonError Unit) :=
  match Loop.run (compactBody fuel) fuel ⟨queue, mem, [], false, true, []⟩ with
  | some (some (s, .ok ())) =>
    if s.needsInterrupt && !irqOk then some (s, .error .interruptError) else some (s, .ok ())
  | some (some (s, .error e)) => some (s, .error e)
  | _ => none

/-! ## Reading a descriptor -/

theorem readPfns_spec (addr : BitVec 64) (indices : List Nat) (s : Inflate)
    (h : s.pfns.length + indices.length ≤ maxPageCompactBuffer) :
    ∃ ps r, ps.length ≤ indices.length ∧
      readPfns addr indices s = some ({ s with pfns := s.pfns ++ ps, log := s.log ++ ps.map .readPfn }, r) := by
  induction indices generalizing s with
  | nil => exact ⟨[], .ok (), le_rfl, by simp [readPfns]⟩
  | cons index indices ih =>
    simp only [List.length_cons] at h
    unfold readPfns
    split
    · exact ⟨[], .error .malformedDescriptor, by simp, by simp⟩
    split
    · exact ⟨[], .error .malformedDescriptor, by simp, by simp⟩
    rename_i bytes _
    rw [if_pos (by omega)]
    obtain ⟨ps, r, hlen, hrun⟩ :=
      ih { s with pfns := s.pfns ++ [u32OfLe bytes], log := s.log ++ [.readPfn (u32OfLe bytes)] }
        (by simp only [List.length_append, List.length_singleton]; omega)
    refine ⟨u32OfLe bytes :: ps, r, by simp [hlen], ?_⟩
    rw [hrun]
    simp

/-! ## The heads given back -/

/-- What an entry of the log does to the heads `process_inflate` holds. -/
def Access.op : Access → Ledger.Op (BitVec 16)
  | .pop head => .take head.index
  | .undoPop head => .undo head
  | .addUsed head => .give head
  | .readPfn _ | .removeRange _ _ => .other

def outstanding (log : List Access) : Option (List (BitVec 16)) :=
  Ledger.settle [] (log.map Access.op)

/-- A descriptor the inner loop skips: readable, of whole `u32` values, and more of them than
`MAX_PAGES_IN_DESC`. -/
def isSkipped (head : DescriptorChain) : Bool :=
  !head.isWriteOnly && head.len.toNat % sizeOfU32 == 0 &&
    decide (head.len.toNat > maxPagesInDesc * sizeOfU32)

def skippedHeads (log : List Access) : List (BitVec 16) :=
  log.filterMap fun
    | .pop head => if isSkipped head then some head.index else none
    | _ => none

/-- The heads outstanding after `log` are, up to order, `extra` and the skipped heads. -/
def Accounted (extra : List (BitVec 16)) (log : List Access) : Prop :=
  ∃ out, outstanding log = some out ∧ out.Perm (extra ++ skippedHeads log)

section accounting

variable {extra : List (BitVec 16)} {log mid : List Access} {head : DescriptorChain}

theorem outstanding_append (log log' : List Access) :
    outstanding (log ++ log') = (outstanding log).bind fun out => Ledger.settle out (log'.map Access.op) := by
  rw [outstanding, List.map_append, Ledger.settle_append]
  rfl

@[simp] theorem skippedHeads_append (log log' : List Access) :
    skippedHeads (log ++ log') = skippedHeads log ++ skippedHeads log' :=
  List.filterMap_append

theorem skippedHeads_of_other (hmid : ∀ a ∈ mid, a.op = .other) : skippedHeads mid = [] := by
  rw [skippedHeads, List.filterMap_eq_nil_iff]
  intro a ha
  cases a with
  | pop head => cases hmid _ ha
  | _ => rfl

theorem skippedHeads_pop_of_skipped (hskip : isSkipped head = true) :
    skippedHeads [.pop head] = [head.index] := by
  simp [skippedHeads, hskip]

theorem skippedHeads_pop_of_not_skipped (hskip : isSkipped head = false) :
    skippedHeads [.pop head] = [] := by
  simp [skippedHeads, hskip]

theorem Accounted.pop_skip (ha : Accounted extra log) (hskip : isSkipped head = true) :
    Accounted extra (log ++ [.pop head]) := by
  obtain ⟨out, hout, hperm⟩ := ha
  refine ⟨head.index :: out, by simp [outstanding_append, hout, Access.op], ?_⟩
  rw [skippedHeads_append, skippedHeads_pop_of_skipped hskip, ← List.append_assoc]
  exact (hperm.cons _).trans (List.perm_append_singleton _ _).symm

theorem Accounted.pop_undo (ha : Accounted extra log) (hskip : isSkipped head = false) :
    Accounted extra (log ++ [.pop head] ++ [.undoPop head.index]) := by
  obtain ⟨out, hout, hperm⟩ := ha
  refine ⟨out, ?_, ?_⟩
  · rw [outstanding_append, outstanding_append, hout]
    simp [Access.op, Ledger.settle]
  · have hundo : skippedHeads [.undoPop head.index] = [] := rfl
    rwa [skippedHeads_append, skippedHeads_append, skippedHeads_pop_of_not_skipped hskip, hundo,
      List.append_nil, List.append_nil]

theorem Accounted.pop_held (ha : Accounted extra log) (hskip : isSkipped head = false)
    (hmid : ∀ a ∈ mid, a.op = .other) :
    Accounted (head.index :: extra) (log ++ [.pop head] ++ mid) := by
  obtain ⟨out, hout, hperm⟩ := ha
  refine ⟨head.index :: out, ?_, ?_⟩
  · rw [outstanding_append, outstanding_append, hout, Option.bind_some, List.map_singleton, Access.op,
      Ledger.settle_take, Option.bind_some, Ledger.settle_of_other (by simpa using hmid)]
  · rw [skippedHeads_append, skippedHeads_append, skippedHeads_pop_of_not_skipped hskip,
      skippedHeads_of_other hmid, List.append_nil, List.append_nil, List.cons_append]
    exact hperm.cons _

theorem Accounted.give {i : BitVec 16} (ha : Accounted (i :: extra) log) :
    Accounted extra (log ++ [.addUsed i]) := by
  obtain ⟨out, hout, hperm⟩ := ha
  have hmem : i ∈ out := hperm.symm.subset List.mem_cons_self
  refine ⟨out.erase i, ?_, ?_⟩
  · simp [outstanding_append, hout, Access.op, Ledger.settle, hmem]
  · have herase := (hperm.erase i).trans (by rw [List.cons_append, List.erase_cons_head])
    simpa [skippedHeads] using herase

theorem Accounted.append_other (ha : Accounted extra log) (hmid : ∀ a ∈ mid, a.op = .other) :
    Accounted extra (log ++ mid) := by
  obtain ⟨out, hout, hperm⟩ := ha
  refine ⟨out, ?_, ?_⟩
  · rw [outstanding_append, hout, Option.bind_some, Ledger.settle_of_other (by simpa using hmid)]
  · rwa [skippedHeads_append, skippedHeads_of_other hmid, List.append_nil]

end accounting

/-! ## The pages removed -/

def Access.range? : Access → Option (BitVec 32 × BitVec 32)
  | .removeRange pfn rangeLen => some (pfn, rangeLen)
  | _ => none

def removedRanges (log : List Access) : List (BitVec 32 × BitVec 32) := log.filterMap Access.range?

/-- Every number read is in the buffer or in a range already removed. -/
def Tracked (pfns : List (BitVec 32)) (log : List Access) : Prop :=
  ∀ pfn, .readPfn pfn ∈ log → pfn ∈ pfns ∨ Covers (removedRanges log) pfn.toNat

section tracked

variable {pfns : List (BitVec 32)} {log mid : List Access}

@[simp] theorem removedRanges_append (log log' : List Access) :
    removedRanges (log ++ log') = removedRanges log ++ removedRanges log' :=
  List.filterMap_append

theorem Tracked.append (ht : Tracked pfns log) (hmid : ∀ pfn, .readPfn pfn ∉ mid) :
    Tracked pfns (log ++ mid) := by
  intro pfn hpfn
  rcases List.mem_append.1 hpfn with hpfn | hpfn
  · rcases ht pfn hpfn with hbuf | hcov
    · exact .inl hbuf
    · exact .inr (by rw [removedRanges_append]; exact covers_append.2 (.inl hcov))
  · exact absurd hpfn (hmid pfn)

theorem Tracked.reads (ht : Tracked pfns log) (ps : List (BitVec 32)) :
    Tracked (pfns ++ ps) (log ++ ps.map .readPfn) := by
  intro pfn hpfn
  have hnone : removedRanges (ps.map .readPfn) = [] := by simp [removedRanges, Access.range?]
  rcases List.mem_append.1 hpfn with hpfn | hpfn
  · rcases ht pfn hpfn with hbuf | hcov
    · exact .inl (List.mem_append_left _ hbuf)
    · exact .inr (by rwa [removedRanges_append, hnone, List.append_nil])
  · obtain ⟨p, hp, heq⟩ := List.mem_map.1 hpfn
    cases heq
    exact .inl (List.mem_append_right _ hp)

theorem Tracked.compact (ht : Tracked pfns log) (hlen : pfns.length < 2 ^ 32) :
    Tracked [] (log ++ (compactPageFrameNumbers pfns).map fun p => .removeRange p.1 p.2) := by
  have hranges : removedRanges ((compactPageFrameNumbers pfns).map fun p => .removeRange p.1 p.2) =
      compactPageFrameNumbers pfns := by
    rw [removedRanges, List.filterMap_map]
    exact List.filterMap_some
  intro pfn hpfn
  rw [removedRanges_append, hranges, covers_append]
  rcases List.mem_append.1 hpfn with hpfn | hpfn
  · rcases ht pfn hpfn with hbuf | hcov
    · exact .inr (.inr (((compactPageFrameNumbers_canonical hlen).2 _).2 ⟨pfn, hbuf, rfl⟩))
    · exact .inr (.inl hcov)
  · simp at hpfn

end tracked

/-! ## The loops -/

/-- What holds between iterations of either loop: the buffer is within its bounds, the heads
outstanding are the skipped ones, and every number read is in the buffer or removed. -/
structure Inflate.Inv (s : Inflate) : Prop where
  pfns_le : s.pfns.length ≤ maxPageCompactBuffer
  accounted : Accounted [] s.log
  tracked : Tracked s.pfns s.log

/-- What the inner loop leaves with: the invariant on `Ok`; on an error, the head being processed
is outstanding as well. -/
def InnerEnds : Option (Inflate × Except BalloonError Unit) → Prop
  | some (s, .ok ()) => s.Inv
  | some (s, .error _) => ∃ head, Accounted [head] s.log
  | none => True

theorem acknowledge_sat {s : Inflate} {i : BitVec 16} (hacc : Accounted [i] s.log)
    (hpfns : s.pfns.length ≤ maxPageCompactBuffer) (ht : Tracked s.pfns s.log) :
    (acknowledge s i).Sat Inflate.Inv InnerEnds := by
  unfold acknowledge
  split
  · exact ⟨hpfns, hacc.give, ht.append (by simp)⟩
  · exact ⟨i, hacc⟩

/-- **The buffer is never indexed past its end.** The numbers of a descriptor the inner loop reads,
one for each `u32` of its length, fit in what is left of the buffer. -/
theorem readPfns_fits {pfns : List (BitVec 32)} {len : Nat}
    (hpfns : pfns.length ≤ maxPageCompactBuffer) (hwhole : len % sizeOfU32 = 0)
    (hfit : ¬maxPageCompactBuffer - pfns.length < len / sizeOfU32) :
    pfns.length + (List.range' 0 ((len + 3) / sizeOfU32) sizeOfU32).length ≤ maxPageCompactBuffer := by
  rw [List.length_range']
  simp only [sizeOfU32] at *
  omega

/-- **One iteration of the inner loop** keeps the invariant, or leaves with what `InnerEnds` says:
a skipped descriptor joins the skipped heads, any other is given back or held on an error. -/
theorem inflateBody_sat {s : Inflate} (hs : s.Inv) : (inflateBody s).Sat Inflate.Inv InnerEnds := by
  unfold inflateBody
  split
  · trivial
  · exact ⟨hs.pfns_le, hs.accounted, hs.tracked⟩
  rename_i head queue _
  dsimp only
  have ht : Tracked s.pfns (s.log ++ [.pop head]) := hs.tracked.append (by simp)
  split
  · rename_i hwhole
    split
    · rename_i hlen
      have hskip : isSkipped head = true := by simp [isSkipped, hwhole, hlen]
      exact ⟨hs.pfns_le, hs.accounted.pop_skip hskip, ht⟩
    rename_i hlen
    have hskip : isSkipped head = false := by simp [isSkipped, hwhole, hlen]
    split
    · exact ⟨hs.pfns_le, hs.accounted.pop_undo hskip, ht.append (by simp)⟩
    rename_i hfit
    have hwhole' : head.len.toNat % sizeOfU32 = 0 := (by simpa using hwhole : _ ∧ _).2
    have hfits := readPfns_fits hs.pfns_le hwhole' hfit
    obtain ⟨ps, r, hps, hread⟩ := readPfns_spec head.addr _
      { s with queue, validDescsFound := true, log := s.log ++ [.pop head] } hfits
    rw [hread]
    have hheld : Accounted [head.index] (s.log ++ [.pop head] ++ ps.map .readPfn) :=
      hs.accounted.pop_held hskip (by simp [Access.op])
    cases r with
    | error e => exact ⟨head.index, hheld⟩
    | ok u =>
      have hlen' : (s.pfns ++ ps).length ≤ maxPageCompactBuffer := by
        rw [List.length_append]
        omega
      exact acknowledge_sat hheld hlen' (ht.reads ps)
  · rename_i hwhole
    have hskip : isSkipped head = false := by simp_all [isSkipped]
    have hheld : Accounted [head.index] (s.log ++ [.pop head] ++ []) :=
      hs.accounted.pop_held hskip (by simp)
    rw [List.append_nil] at hheld
    exact acknowledge_sat hheld hs.pfns_le ht

theorem removeRanges_eq (ranges : List (BitVec 32 × BitVec 32)) (s : Inflate) :
    ∃ mem, removeRanges ranges s =
      { s with mem, log := s.log ++ ranges.map fun p => .removeRange p.1 p.2 } := by
  induction ranges generalizing s with
  | nil => exact ⟨s.mem, by simp [removeRanges]⟩
  | cons range ranges ih =>
    obtain ⟨pfn, rangeLen⟩ := range
    obtain ⟨mem, hmem⟩ := ih { s with
      mem := removeRange s.mem (pfn.setWidth 64 <<< virtioBalloonPfnShift)
        (rangeLen.setWidth 64 <<< virtioBalloonPfnShift)
      log := s.log ++ [.removeRange pfn rangeLen] }
    refine ⟨mem, ?_⟩
    rw [removeRanges, hmem]
    simp

/-- What the outer loop leaves with: on `Ok` the invariant with an empty buffer. -/
def OuterEnds : Option (Inflate × Except BalloonError Unit) → Prop
  | some (s, .ok ()) => s.Inv ∧ s.pfns = []
  | some (s, .error _) => ∃ head, Accounted [head] s.log
  | none => True

/-- **One iteration of the outer loop** runs the inner loop from the invariant and compacts what
it read into the ranges it removes, which empties the buffer. -/
theorem compactBody_sat (fuel : Nat) {s : Inflate} (hs : s.Inv ∧ s.pfns = []) :
    (compactBody fuel s).Sat (fun s => s.Inv ∧ s.pfns = []) OuterEnds := by
  unfold compactBody
  split
  · exact hs
  have hinner : ∀ r, Loop.run inflateBody fuel { s with validDescsFound := false } = some r →
      InnerEnds r := fun r hrun =>
    Loop.run_sat (fun _ hs => inflateBody_sat hs) (⟨hs.1.pfns_le, hs.1.accounted, hs.1.tracked⟩ :
      Inflate.Inv { s with validDescsFound := false }) hrun
  split
  · rename_i s' hrun
    have hs' : s'.Inv := hinner _ hrun
    obtain ⟨mem, hrem⟩ := removeRanges_eq (compactPageFrameNumbers s'.pfns) { s' with pfns := [] }
    have hlen : s'.pfns.length < 2 ^ 32 := by
      have := hs'.pfns_le
      simp only [maxPageCompactBuffer] at this
      omega
    rw [hrem]
    have hother : ∀ a ∈ (compactPageFrameNumbers s'.pfns).map (fun p => Access.removeRange p.1 p.2),
        a.op = .other := by
      intro a ha
      obtain ⟨p, -, rfl⟩ := List.mem_map.1 ha
      rfl
    exact ⟨⟨by simp, hs'.accounted.append_other hother, hs'.tracked.compact hlen⟩, rfl⟩
  · rename_i s' e hrun
    exact hinner _ hrun
  · trivial

theorem processInflate_cases {queue : Queue} {mem : GuestMemoryMmap} {fuel : Nat} {irqOk : Bool}
    {s : Inflate} {r : Except BalloonError Unit} (h : processInflate queue mem fuel irqOk = some (s, r)) :
    (s.Inv ∧ s.pfns = [] ∧ (r = .ok () ∨ r = .error .interruptError)) ∨
      (r ≠ .ok () ∧ ∃ head, Accounted [head] s.log) := by
  have hinit : Inflate.Inv ⟨queue, mem, [], false, true, []⟩ ∧ ([] : List (BitVec 32)) = [] :=
    ⟨⟨by simp, ⟨[], rfl, by simp [skippedHeads]⟩, fun _ h => by simp at h⟩, rfl⟩
  have houter : ∀ r, Loop.run (compactBody fuel) fuel ⟨queue, mem, [], false, true, []⟩ = some r →
      OuterEnds r := fun _ hrun => Loop.run_sat (fun _ hs => compactBody_sat fuel hs) hinit hrun
  unfold processInflate at h
  split at h
  · rename_i s' hrun
    obtain ⟨hs', hpfns⟩ : OuterEnds (some (s', .ok ())) := houter _ hrun
    refine .inl ?_
    split at h <;> cases h
    · exact ⟨hs', hpfns, .inr rfl⟩
    · exact ⟨hs', hpfns, .inl rfl⟩
  · rename_i s' e hrun
    cases h
    exact .inr ⟨nofun, houter _ hrun⟩
  · cases h

/-- **Inflation on `Ok`.** Every head `process_inflate` pops, except those of the descriptors it
skips, is given back exactly once, and every number it reads lies in a range it passed to
`remove_range`. -/
theorem processInflate_ok {queue : Queue} {mem : GuestMemoryMmap} {fuel : Nat} {irqOk : Bool}
    {s : Inflate} (h : processInflate queue mem fuel irqOk = some (s, .ok ())) :
    Accounted [] s.log ∧ ∀ pfn, .readPfn pfn ∈ s.log → Covers (removedRanges s.log) pfn.toNat := by
  rcases processInflate_cases h with ⟨hs, hpfns, -⟩ | ⟨hne, -⟩
  · refine ⟨hs.accounted, fun pfn hpfn => ?_⟩
    rcases hs.tracked pfn hpfn with hbuf | hcov
    · rw [hpfns] at hbuf
      cases hbuf
    · exact hcov
  · exact absurd rfl hne

/-- **A skipped descriptor is never given back.** Whatever `process_inflate` returns, the head of
every descriptor it skipped is still outstanding: neither `undo_pop` nor `add_used` matched it. -/
theorem processInflate_skipped_outstanding {queue : Queue} {mem : GuestMemoryMmap} {fuel : Nat}
    {irqOk : Bool} {s : Inflate} {r : Except BalloonError Unit}
    (h : processInflate queue mem fuel irqOk = some (s, r)) {head : DescriptorChain}
    (hpop : Access.pop head ∈ s.log) (hskip : isSkipped head = true) :
    ∃ out, outstanding s.log = some out ∧ head.index ∈ out := by
  have hmem : head.index ∈ skippedHeads s.log := List.mem_filterMap.2 ⟨.pop head, hpop, by simp [hskip]⟩
  rcases processInflate_cases h with ⟨hs, -, -⟩ | ⟨-, i, out, hout, hperm⟩
  · obtain ⟨out, hout, hperm⟩ := hs.accounted
    exact ⟨out, hout, hperm.symm.subset (by rw [List.nil_append]; exact hmem)⟩
  · exact ⟨out, hout, hperm.symm.subset (List.mem_append_right _ hmem)⟩

/-- Guest memory whose descriptor table at `0x1000` holds one readable descriptor of `0x800`
bytes at `0x5000`, `512` page frame numbers, and whose available ring at `0x2000` offers it. -/
def bogusDescMem : GuestMemoryMmap :=
  ⟨[⟨0, 0x10000⟩], fun a => ([(0x1001, 0x50), (0x1009, 0x08), (0x2002, 1)].lookup a).getD 0⟩

def bogusDescQueue : Queue :=
  { maxSize := 256, size := 256, ready := true, descTable := 0x1000, availRing := 0x2000,
    usedRing := 0x3000, nextAvail := 0, nextUsed := 0, usesNotifSuppression := false, numAdded := 0 }

def bogusDesc : DescriptorChain := ⟨0x1000, 256, 256, 0, 0x5000, 0x800, 0, 0⟩

/-- The inflate queue offers one descriptor of `512` page frame numbers: `process_inflate` pops it,
skips it, and returns `Ok` with its head outstanding. -/
theorem processInflate_skipped_outstanding_bogusDesc :
    ∃ s, processInflate bogusDescQueue bogusDescMem 4 true = some (s, .ok ()) ∧
      s.log = [.pop bogusDesc] ∧ ∃ out, outstanding s.log = some out ∧ bogusDesc.index ∈ out := by
  have hrun : (processInflate bogusDescQueue bogusDescMem 4 true).map (fun r => (r.1.log, r.2)) =
      some ([.pop bogusDesc], .ok ()) := by decide +kernel
  cases h : processInflate bogusDescQueue bogusDescMem 4 true with
  | none =>
    rw [h] at hrun
    cases hrun
  | some r =>
    obtain ⟨s, res⟩ := r
    rw [h] at hrun
    simp only [Option.map_some, Option.some.injEq, Prod.mk.injEq] at hrun
    obtain ⟨hlog, rfl⟩ := hrun
    exact ⟨s, rfl, hlog, processInflate_skipped_outstanding h (by simp [hlog]) (by decide)⟩

end Balloon
end Firecracker
