import Firecracker.Virtio.Queue

/-!
# Firecracker.Virtio.Chain

Walking a descriptor chain. A device follows `next_descriptor` from the head `Queue::pop`
returned until a descriptor has no successor; the guest writes the `next` indices and may make
them loop. What bounds the walk is the `ttl` that `checked_new` sets to the queue's size and that
each `next_descriptor` carries over one lower: a descriptor with `ttl` at most one has no
successor.

`DescriptorChain.walk` is the sequence `head, head.next_descriptor(), …`, defined by recursion on
`ttl`. It is what the `while let` loops of `IoVecBuffer::from_descriptor_chain` and
`Net::write_to_descriptor_chain` go over, so those loops are recursions over it here.
-/

namespace Firecracker
namespace Virtio

open GuestMemoryMmap

namespace DescriptorChain

variable {mem : GuestMemoryMmap} {dc d : DescriptorChain}

theorem checkedNew_eq_some {descTable : BitVec 64} {queueSize index : BitVec 16}
    (h : checkedNew mem descTable queueSize index = some d) :
    d.descTable = descTable ∧ d.queueSize = queueSize ∧ d.ttl = queueSize ∧ d.index = index ∧
      index < queueSize := by
  unfold checkedNew at h
  split at h
  · cases h
  rename_i hlt
  split at h
  · cases h
  split at h
  · dsimp only at h
    split at h
    · cases h
      exact ⟨rfl, rfl, rfl, rfl, by simpa using hlt⟩
    · cases h
  · cases h

theorem nextDescriptor_eq_some (h : dc.nextDescriptor mem = some d) :
    1 < dc.ttl ∧ d.descTable = dc.descTable ∧ d.queueSize = dc.queueSize ∧
      d.ttl = dc.ttl - 1 ∧ d.index < dc.queueSize := by
  unfold nextDescriptor at h
  split at h
  · rename_i hnext
    obtain ⟨c, hc, rfl⟩ := Option.map_eq_some_iff.mp h
    obtain ⟨htable, hsize, -, hindex, hlt⟩ := checkedNew_eq_some hc
    have httl : 1 < dc.ttl := by
      simp only [hasNext, Bool.and_eq_true, decide_eq_true_eq] at hnext
      exact hnext.2
    exact ⟨httl, htable, hsize, rfl, hindex ▸ hsize ▸ hlt⟩
  · cases h

theorem toNat_sub_one_of_lt {t : BitVec 16} (h : 1 < t) : (t - 1).toNat = t.toNat - 1 := by
  rw [BitVec.lt_def] at h
  rw [BitVec.toNat_sub]
  have h1 : (1 : BitVec 16).toNat = 1 := rfl
  rw [h1] at h ⊢
  omega

theorem ttl_nextDescriptor (h : dc.nextDescriptor mem = some d) :
    d.ttl.toNat = dc.ttl.toNat - 1 ∧ 1 < dc.ttl.toNat := by
  obtain ⟨hgt, -, -, httl, -⟩ := nextDescriptor_eq_some h
  refine ⟨httl ▸ toNat_sub_one_of_lt hgt, ?_⟩
  simpa [BitVec.lt_def] using hgt

theorem ttl_nextDescriptor_lt (h : dc.nextDescriptor mem = some d) : d.ttl.toNat < dc.ttl.toNat := by
  obtain ⟨httl, hgt⟩ := ttl_nextDescriptor h
  omega

/-- The descriptors a chain walk visits: `dc`, then its successors as long as there are any. -/
def walk (mem : GuestMemoryMmap) (dc : DescriptorChain) : List DescriptorChain :=
  dc :: match _hnext : dc.nextDescriptor mem with
    | none => []
    | some d => walk mem d
termination_by dc.ttl.toNat
decreasing_by exact ttl_nextDescriptor_lt _hnext

theorem walk_of_none (h : dc.nextDescriptor mem = none) : dc.walk mem = [dc] := by
  rw [walk]
  split
  · rfl
  · rename_i d hd
    rw [h] at hd
    cases hd

theorem walk_of_some (h : dc.nextDescriptor mem = some d) : dc.walk mem = dc :: d.walk mem := by
  rw [walk]
  split
  · rename_i hd
    rw [h] at hd
    cases hd
  · rename_i d' hd
    rw [h] at hd
    cases hd
    rfl

theorem walk_length_le (hpos : 0 < dc.ttl.toNat) : (dc.walk mem).length ≤ dc.ttl.toNat := by
  induction dc using walk.induct mem with
  | case1 dc ih =>
    cases hd : dc.nextDescriptor mem with
    | none =>
      rw [walk_of_none hd, List.length_singleton]
      omega
    | some d =>
      obtain ⟨httl, hgt⟩ := ttl_nextDescriptor hd
      rw [walk_of_some hd, List.length_cons]
      have := ih d hd (by omega)
      omega

theorem mem_walk {x : DescriptorChain} (hx : x ∈ dc.walk mem) :
    x.descTable = dc.descTable ∧ x.queueSize = dc.queueSize ∧
      (x = dc ∨ x.index < dc.queueSize) := by
  induction dc using walk.induct mem with
  | case1 dc ih =>
    cases hd : dc.nextDescriptor mem with
    | none =>
      rw [walk_of_none hd, List.mem_singleton] at hx
      subst hx
      exact ⟨rfl, rfl, .inl rfl⟩
    | some d =>
      rw [walk_of_some hd, List.mem_cons] at hx
      rcases hx with rfl | hx
      · exact ⟨rfl, rfl, .inl rfl⟩
      obtain ⟨-, htable, hsize, -, hindex⟩ := nextDescriptor_eq_some hd
      obtain ⟨htable', hsize', hx'⟩ := ih d hd hx
      refine ⟨htable'.trans htable, hsize'.trans hsize, .inr ?_⟩
      rcases hx' with rfl | hlt
      · exact hindex
      · exact hsize ▸ hlt

end DescriptorChain

namespace Queue

variable {q q' : Queue} {mem : GuestMemoryMmap} {head : DescriptorChain}

theorem pop_head (h : q.pop mem = some (some head, q')) :
    head.descTable = q.descTable ∧ head.queueSize = q.actualSize ∧
      head.ttl = q.actualSize ∧ head.index < q.actualSize := by
  unfold pop at h
  split at h
  · cases h
  split at h
  · cases h
  split at h
  · cases h
  unfold doPopUnchecked at h
  split at h
  · cases h
  split at h
  · cases h
  split at h
  · rename_i dc hdc
    cases h
    obtain ⟨htable, hsize, httl, hindex, hlt⟩ := DescriptorChain.checkedNew_eq_some hdc
    exact ⟨htable, hsize, httl, hindex ▸ hlt⟩
  · cases h

/-- **Descriptor-chain walks are bounded**, whatever the guest put in the descriptor table,
loops included: from every head `pop` returns, the walk `head, head.next_descriptor(), …` visits
at most `actual_size()` descriptors, each with an index below `actual_size()`. -/
theorem descriptorChain_walk_bounded (hpop : q.pop mem = some (some head, q')) :
    (head.walk mem).length ≤ q.actualSize.toNat ∧
      ∀ d ∈ head.walk mem, d.index < q.actualSize := by
  obtain ⟨-, hsize, httl, hlt⟩ := pop_head hpop
  have hpos : 0 < head.ttl.toNat := by
    rw [httl]
    simp [BitVec.lt_def] at hlt
    omega
  refine ⟨httl ▸ DescriptorChain.walk_length_le hpos, ?_⟩
  intro d hd
  obtain ⟨-, -, hd'⟩ := DescriptorChain.mem_walk hd
  rcases hd' with rfl | hlt'
  · exact hlt
  · exact hsize ▸ hlt'

/-- A queue of four descriptors whose only available chain starts at descriptor 0, and
descriptor 0 names itself as its successor. -/
theorem descriptorChain_walk_bounded_cycle :
    let mem : GuestMemoryMmap :=
      ⟨[⟨0, 0x10000⟩], fun a => if a = 0x2002 ∨ a = 0x100c then 1 else 0⟩
    let q : Queue :=
      { maxSize := 4, size := 4, ready := true, descTable := 0x1000, availRing := 0x2000,
        usedRing := 0x3000, nextAvail := 0, nextUsed := 0, usesNotifSuppression := false,
        numAdded := 0 }
    ∃ head q', q.pop mem = some (some head, q') ∧
      (head.walk mem).length ≤ q.actualSize.toNat ∧ ∀ d ∈ head.walk mem, d.index < q.actualSize :=
  ⟨_, _, rfl, descriptorChain_walk_bounded rfl⟩

end Queue

/-! ### The loops over a chain -/

/-- `get_slice`: `count` bytes from `addr` lie in one region. -/
def GuestMemoryMmap.getSlice (m : GuestMemoryMmap) (addr : BitVec 64) (count : Nat) : Bool :=
  m.regions.any fun r =>
    decide (r.start ≤ addr) && decide (addr.toNat < r.start.toNat + r.len) &&
      decide (addr.toNat + count ≤ r.start.toNat + r.len)

/-- `IoVecBuffer`: the `iovec`s of a chain of readable descriptors (the guest range each one
covers) and their total length. -/
structure IoVecBuffer where
  vecs : List (BitVec 64 × BitVec 32)
  len : Nat
  deriving DecidableEq, Repr

inductive IoVecError
  | writeOnlyDescriptor
  | guestMemory
  deriving DecidableEq, Repr

namespace IoVecBuffer

/-- The loop of `from_descriptor_chain` over the descriptors it still has to visit. -/
def fromDescriptorChainLoop (mem : GuestMemoryMmap) :
    List DescriptorChain → List (BitVec 64 × BitVec 32) → Nat → Except IoVecError IoVecBuffer
  | [], vecs, len => .ok ⟨vecs, len⟩
  | desc :: rest, vecs, len =>
    if desc.isWriteOnly then .error .writeOnlyDescriptor
    else if !mem.getSlice desc.addr desc.len.toNat then .error .guestMemory
    else fromDescriptorChainLoop mem rest (vecs ++ [(desc.addr, desc.len)]) (len + desc.len.toNat)

/-- `IoVecBuffer::from_descriptor_chain`: the reads leave guest memory as it is, so the loop
visits the chain's walk. -/
def fromDescriptorChain (mem : GuestMemoryMmap) (head : DescriptorChain) :
    Except IoVecError IoVecBuffer :=
  fromDescriptorChainLoop mem (head.walk mem) [] 0

theorem fromDescriptorChainLoop_length {mem : GuestMemoryMmap} :
    ∀ {l : List DescriptorChain} {vecs : List (BitVec 64 × BitVec 32)} {len : Nat}
      {buf : IoVecBuffer}, fromDescriptorChainLoop mem l vecs len = .ok buf →
      buf.vecs.length = vecs.length + l.length
  | [], _, _, _, h => by
    cases h
    rfl
  | desc :: rest, vecs, len, buf, h => by
    unfold fromDescriptorChainLoop at h
    split at h
    · cases h
    split at h
    · cases h
    rw [fromDescriptorChainLoop_length h]
    simp only [List.length_append, List.length_cons, List.length_nil]
    omega

theorem fromDescriptorChain_length_le {q q' : Queue} {mem : GuestMemoryMmap}
    {head : DescriptorChain} {buf : IoVecBuffer} (hpop : q.pop mem = some (some head, q'))
    (h : fromDescriptorChain mem head = .ok buf) : buf.vecs.length ≤ q.actualSize.toNat := by
  obtain ⟨-, -, httl, hlt⟩ := Queue.pop_head hpop
  have hpos : 0 < head.ttl.toNat := by
    rw [httl]
    simp [BitVec.lt_def] at hlt
    omega
  rw [fromDescriptorChainLoop_length h, List.length_nil, Nat.zero_add, ← httl]
  exact DescriptorChain.walk_length_le hpos

end IoVecBuffer

end Virtio
end Firecracker
