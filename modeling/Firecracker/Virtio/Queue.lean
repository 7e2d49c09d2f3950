import Mathlib

/-!
# Firecracker.Virtio.Queue

`devices/src/virtio/queue.rs`: a virtqueue's parameters, the check `Queue::is_valid` makes
before a device is activated, and the accessors the devices use on the rings, over a model of
the guest memory of `vm-memory`.

Guest memory is a list of regions and the bytes of the guest's physical address space.
`address_in_range` asks whether one address lies in a region; `read_obj` succeeds when every byte
it reads does. `write_obj` is `write_slice`: it copies from the address on as long as the bytes
lie in guest memory, and reports a shorter copy as an error after making it. The guest's own
stores into its memory (`store`) write all their bytes or none. `GuestAddress::unchecked_add` wraps (release builds have no
overflow checks) and `checked_add` fails on overflow; the `u16` arithmetic of the accessors wraps
as well. A panic, or an `unwrap` of a failed access, is `none`.

`is_valid` checks, for each of the three areas a queue lives in (descriptor table, available
ring, used ring), that adding the area's size to its start does not overflow and reaches an
address in guest memory. `RangesChecked` names what it establishes (`rangesChecked_of_isValid`).
The accessors `avail_idx`, `used_event`, `set_avail_event`, `do_pop_unchecked` and `add_used`
compute their addresses with `unchecked_add` and unwrap their accesses; `accessesChecked`: for
every queue whose configuration passed the check, whatever its ring indices, each of those
accesses lies inside the area `is_valid` checked, and no address computation wraps.
-/

namespace Firecracker
namespace Virtio

/-! ## Guest memory -/

structure GuestRegion where
  start : BitVec 64
  len : Nat
  deriving DecidableEq, Repr

/-- `GuestMemoryMmap`: its regions, and the contents of guest physical memory. -/
structure GuestMemoryMmap where
  regions : List GuestRegion
  bytes : BitVec 64 → BitVec 8

namespace GuestMemoryMmap

def addressInRange (m : GuestMemoryMmap) (addr : BitVec 64) : Bool :=
  m.regions.any fun r => decide (r.start ≤ addr) && decide (addr.toNat < r.start.toNat + r.len)

def checkedAdd (addr offset : BitVec 64) : Option (BitVec 64) :=
  if addr.toNat + offset.toNat < 2 ^ 64 then some (addr + offset) else none

/-- `checked_offset`: `base + offset`, if it does not overflow and is in guest memory. -/
def checkedOffset (m : GuestMemoryMmap) (base : BitVec 64) (offset : Nat) : Option (BitVec 64) :=
  if base.toNat + offset < 2 ^ 64 ∧ m.addressInRange (base + BitVec.ofNat 64 offset) then
    some (base + BitVec.ofNat 64 offset)
  else none

/-- Every byte of `[addr, addr + n)` is in guest memory and below `2^64`. -/
def accessible (m : GuestMemoryMmap) (addr : BitVec 64) (n : Nat) : Bool :=
  decide (addr.toNat + n ≤ 2 ^ 64) &&
    (List.range n).all fun i => m.addressInRange (addr + BitVec.ofNat 64 i)

def readObj (m : GuestMemoryMmap) (addr : BitVec 64) (n : Nat) : Option (List (BitVec 8)) :=
  if m.accessible addr n then some ((List.range n).map fun i => m.bytes (addr + BitVec.ofNat 64 i))
  else none

/-- A store of the guest's own: all of `data` at `addr`, when every byte lies in guest memory. -/
def store (m : GuestMemoryMmap) (addr : BitVec 64) (data : List (BitVec 8)) :
    Option GuestMemoryMmap :=
  if m.accessible addr data.length then
    some { m with
      bytes := fun a =>
        if addr ≤ a ∧ a.toNat < addr.toNat + data.length then data.getD (a.toNat - addr.toNat) 0
        else m.bytes a }
  else none

inductive GuestMemoryError
  | invalidGuestAddress (addr : BitVec 64)
  | partialBuffer (expected completed : Nat)
  deriving DecidableEq, Repr

/-- How many of the `count` bytes from `addr` on lie in guest memory one after another: where
`try_access` stops. -/
def mappedPrefix (m : GuestMemoryMmap) (addr : BitVec 64) (count : Nat) : Nat :=
  ((List.range count).takeWhile fun i => m.addressInRange (addr + BitVec.ofNat 64 i)).length

def writeBytes (m : GuestMemoryMmap) (addr : BitVec 64) (data : List (BitVec 8)) : GuestMemoryMmap :=
  { m with
    bytes := fun a => if (a - addr).toNat < data.length then data.getD (a - addr).toNat 0 else m.bytes a }

/-- `write_slice`: the memory afterwards, and the result. `write` fails when the first byte is not
in guest memory, and otherwise copies as far as guest memory goes; a copy shorter than `buf` is a
`PartialBuffer` error. -/
def writeSlice (m : GuestMemoryMmap) (addr : BitVec 64) (buf : List (BitVec 8)) :
    GuestMemoryMmap × Except GuestMemoryError Unit :=
  if !m.addressInRange addr then (m, .error (.invalidGuestAddress addr))
  else
    let completed := m.mappedPrefix addr buf.length
    let m' := m.writeBytes addr (buf.take completed)
    if completed = buf.length then (m', .ok ()) else (m', .error (.partialBuffer buf.length completed))

def writeObj (m : GuestMemoryMmap) (addr : BitVec 64) (data : List (BitVec 8)) :
    GuestMemoryMmap × Except GuestMemoryError Unit :=
  m.writeSlice addr data

def u16OfLe (bs : List (BitVec 8)) : BitVec 16 := bs.getD 1 0 ++ bs.getD 0 0

def u32OfLe (bs : List (BitVec 8)) : BitVec 32 :=
  bs.getD 3 0 ++ bs.getD 2 0 ++ bs.getD 1 0 ++ bs.getD 0 0

def u64OfLe (bs : List (BitVec 8)) : BitVec 64 := u32OfLe (bs.drop 4) ++ u32OfLe bs

def leOfU16 (x : BitVec 16) : List (BitVec 8) := [x.extractLsb' 0 8, x.extractLsb' 8 8]

def leOfU32 (x : BitVec 32) : List (BitVec 8) :=
  [x.extractLsb' 0 8, x.extractLsb' 8 8, x.extractLsb' 16 8, x.extractLsb' 24 8]

@[simp] theorem length_leOfU32 (x : BitVec 32) : (leOfU32 x).length = 4 := rfl

@[simp] theorem u32OfLe_leOfU32 (x : BitVec 32) : u32OfLe (leOfU32 x) = x := by
  unfold u32OfLe leOfU32
  simp only [List.getD_cons_succ, List.getD_cons_zero]
  ext i hi
  simp only [BitVec.getElem_append, BitVec.getElem_extractLsb']
  grind

def readU16 (m : GuestMemoryMmap) (addr : BitVec 64) : Option (BitVec 16) :=
  (m.readObj addr 2).map u16OfLe

def writeU16 (m : GuestMemoryMmap) (addr : BitVec 64) (x : BitVec 16) :
    GuestMemoryMmap × Except GuestMemoryError Unit :=
  m.writeObj addr (leOfU16 x)

def writeU32 (m : GuestMemoryMmap) (addr : BitVec 64) (x : BitVec 32) :
    GuestMemoryMmap × Except GuestMemoryError Unit :=
  m.writeObj addr (leOfU32 x)

def storeU16 (m : GuestMemoryMmap) (addr : BitVec 64) (x : BitVec 16) : Option GuestMemoryMmap :=
  m.store addr (leOfU16 x)

end GuestMemoryMmap

open GuestMemoryMmap

/-! ## Descriptor chains -/

def virtqDescFNext : BitVec 16 := 0x1
def virtqDescFWrite : BitVec 16 := 0x2

/-- A descriptor of a chain, with the table it was read from and the chain's remaining length
`ttl` (which bounds a chain that loops). -/
structure DescriptorChain where
  descTable : BitVec 64
  queueSize : BitVec 16
  ttl : BitVec 16
  index : BitVec 16
  addr : BitVec 64
  len : BitVec 32
  flags : BitVec 16
  next : BitVec 16
  deriving DecidableEq, Repr

namespace DescriptorChain

def hasNext (dc : DescriptorChain) : Bool :=
  dc.flags &&& virtqDescFNext != 0 && dc.ttl > 1

def isWriteOnly (dc : DescriptorChain) : Bool := dc.flags &&& virtqDescFWrite != 0

def isValid (dc : DescriptorChain) : Bool := !dc.hasNext || dc.next < dc.queueSize

/-- `DescriptorChain::checked_new`: the descriptor at `index`, read with checked offsets. -/
def checkedNew (mem : GuestMemoryMmap) (descTable : BitVec 64) (queueSize index : BitVec 16) :
    Option DescriptorChain :=
  if index ≥ queueSize then none
  else
    match mem.checkedOffset descTable (index.toNat * 16) with
    | none => none
    | some descHead =>
      match mem.checkedOffset descHead 16, mem.readObj descHead 16 with
      | some _, some desc =>
        let chain : DescriptorChain :=
          { descTable, queueSize, ttl := queueSize, index
            addr := u64OfLe desc, len := u32OfLe (desc.drop 8)
            flags := u16OfLe (desc.drop 12), next := u16OfLe (desc.drop 14) }
        if chain.isValid then some chain else none
      | _, _ => none

def nextDescriptor (mem : GuestMemoryMmap) (dc : DescriptorChain) : Option DescriptorChain :=
  if dc.hasNext then
    (checkedNew mem dc.descTable dc.queueSize dc.next).map fun c => { c with ttl := dc.ttl - 1 }
  else none

end DescriptorChain

/-! ## Queues -/

/-- `Queue`. `next_avail`, `next_used` and `num_added` are `Wrapping<u16>`. -/
structure Queue where
  maxSize : BitVec 16
  size : BitVec 16
  ready : Bool
  descTable : BitVec 64
  availRing : BitVec 64
  usedRing : BitVec 64
  nextAvail : BitVec 16
  nextUsed : BitVec 16
  usesNotifSuppression : Bool
  numAdded : BitVec 16
  deriving DecidableEq, Repr

inductive QueueError where
  | descIndexOutOfBounds (index : BitVec 16)
  | usedRing (err : GuestMemoryError)
  deriving DecidableEq, Repr

namespace Queue

def new (maxSize : BitVec 16) : Queue :=
  { maxSize, size := 0, ready := false, descTable := 0, availRing := 0, usedRing := 0
    nextAvail := 0, nextUsed := 0, usesNotifSuppression := false, numAdded := 0 }

def getMaxSize (q : Queue) : BitVec 16 := q.maxSize

def actualSize (q : Queue) : BitVec 16 := if q.size ≤ q.maxSize then q.size else q.maxSize

/-! The addresses the accessors compute with `unchecked_add`. -/

/-- `avail_ring + 2`, the driver's `idx` in the available ring. -/
def availIdxAddr (q : Queue) : BitVec 64 := q.availRing + 2

/-- `avail_ring + (4 + 2 * actual_size)`, the `used_event` field; the offset is a `u16`. -/
def usedEventAddr (q : Queue) : BitVec 64 := q.availRing + (4 + 2 * q.actualSize).setWidth 64

/-- `used_ring + (4 + 8 * actual_size)`, the `avail_event` field; the offset is a `u16`. -/
def availEventAddr (q : Queue) : BitVec 64 := q.usedRing + (4 + 8 * q.actualSize).setWidth 64

/-- The slot of the available ring that `do_pop_unchecked` reads; the offset is a `u16`. -/
def availSlotAddr (q : Queue) : BitVec 64 :=
  q.availRing + (4 + 2 * (q.nextAvail % q.actualSize)).setWidth 64

/-- The element of the used ring that `add_used` fills: id at `+0`, length at `+4`. -/
def usedElemAddr (q : Queue) : BitVec 64 :=
  q.usedRing + (4 + (q.nextUsed % q.actualSize).setWidth 64 * 8)

/-- `used_ring + 2`, the device's `idx` in the used ring. -/
def usedIdxAddr (q : Queue) : BitVec 64 := q.usedRing + 2

/-! The accessors. -/

def availIdx (q : Queue) (mem : GuestMemoryMmap) : Option (BitVec 16) := mem.readU16 q.availIdxAddr

/-- The number of chains the driver made available and the device did not pop. -/
def len (q : Queue) (mem : GuestMemoryMmap) : Option (BitVec 16) :=
  (q.availIdx mem).map (· - q.nextAvail)

def isEmpty (q : Queue) (mem : GuestMemoryMmap) : Option Bool := (q.len mem).map (· == 0)

def usedEvent (q : Queue) (mem : GuestMemoryMmap) : Option (BitVec 16) :=
  mem.readU16 q.usedEventAddr

def setAvailEvent (q : Queue) (val : BitVec 16) (mem : GuestMemoryMmap) :
    Option GuestMemoryMmap :=
  match mem.writeU16 q.availEventAddr val with
  | (mem', .ok ()) => some mem'
  | (_, .error _) => none

/-- `Queue::is_valid`. Its last test reads the available ring's `idx` with an unwrap. -/
def isValid (q : Queue) (mem : GuestMemoryMmap) : Option Bool :=
  let queueSize : BitVec 64 := q.actualSize.setWidth 64
  let descTableSize := 16 * queueSize
  let availRingSize := 6 + 2 * queueSize
  let usedRingSize := 6 + 8 * queueSize
  if !q.ready then some false
  else if q.size > q.maxSize || q.size == 0 || (q.size &&& (q.size - 1)) != 0 then some false
  else if (checkedAdd q.descTable descTableSize).all (fun v => !mem.addressInRange v) then
    some false
  else if (checkedAdd q.availRing availRingSize).all (fun v => !mem.addressInRange v) then
    some false
  else if (checkedAdd q.usedRing usedRingSize).all (fun v => !mem.addressInRange v) then
    some false
  else if q.descTable &&& 0xf != 0 then some false
  else if q.availRing &&& 0x1 != 0 then some false
  else if q.usedRing &&& 0x3 != 0 then some false
  else
    match q.len mem with
    | none => none
    | some l => some !(l > q.maxSize)

/-- `do_pop_unchecked`: the slot read is unwrapped, the descriptor read checked. -/
def doPopUnchecked (q : Queue) (mem : GuestMemoryMmap) : Option (Option DescriptorChain × Queue) :=
  if q.actualSize = 0 then none
  else
    match mem.readU16 q.availSlotAddr with
    | none => none
    | some descIndex =>
      match DescriptorChain.checkedNew mem q.descTable q.actualSize descIndex with
      | some dc => some (some dc, { q with nextAvail := q.nextAvail + 1 })
      | none => some (none, q)

/-- `pop`: panics when the driver made more chains available than the queue holds. -/
def pop (q : Queue) (mem : GuestMemoryMmap) : Option (Option DescriptorChain × Queue) :=
  match q.len mem with
  | none => none
  | some l =>
    if l > q.actualSize then none
    else if l = 0 then some (none, q)
    else q.doPopUnchecked mem

def undoPop (q : Queue) : Queue := { q with nextAvail := q.nextAvail - 1 }

def enableNotifSuppression (q : Queue) : Queue := { q with usesNotifSuppression := true }

/-- `add_used`: the queue and memory after the call, and its result. The writes are checked
(`?`), the address arithmetic is not; a write that fails ends the call with the effects so far. -/
def addUsed (q : Queue) (mem : GuestMemoryMmap) (descIndex : BitVec 16) (len : BitVec 32) :
    Queue × GuestMemoryMmap × Except QueueError Unit :=
  if descIndex ≥ q.actualSize then (q, mem, .error (.descIndexOutOfBounds descIndex))
  else
    match mem.writeU32 q.usedElemAddr (descIndex.setWidth 32) with
    | (mem₁, .error e) => (q, mem₁, .error (.usedRing e))
    | (mem₁, .ok ()) =>
      match mem₁.writeU32 (q.usedElemAddr + 4) len with
      | (mem₂, .error e) => (q, mem₂, .error (.usedRing e))
      | (mem₂, .ok ()) =>
        let q' := { q with numAdded := q.numAdded + 1, nextUsed := q.nextUsed + 1 }
        match mem₂.writeU16 q'.usedIdxAddr q'.nextUsed with
        | (mem₃, .error e) => (q', mem₃, .error (.usedRing e))
        | (mem₃, .ok ()) => (q', mem₃, .ok ())

/-- `try_enable_notification`: whether notifications are now enabled. -/
def tryEnableNotification (q : Queue) (mem : GuestMemoryMmap) :
    Option (Bool × GuestMemoryMmap) :=
  if !q.usesNotifSuppression then some (true, mem)
  else
    match q.len mem with
    | none => none
    | some l =>
      if l ≠ 0 then
        if l > q.actualSize then none else some (false, mem)
      else
        match q.setAvailEvent q.nextAvail mem with
        | none => none
        | some mem' => (q.availIdx mem').map fun idx => (q.nextAvail == idx, mem')

def popOrEnableNotification (q : Queue) (mem : GuestMemoryMmap) :
    Option (Option DescriptorChain × Queue × GuestMemoryMmap) :=
  if !q.usesNotifSuppression then (q.pop mem).map fun (dc, q') => (dc, q', mem)
  else
    match q.tryEnableNotification mem with
    | none => none
    | some (true, mem') => some (none, q, mem')
    | some (false, mem') => (q.doPopUnchecked mem').map fun (dc, q') => (dc, q', mem')

/-- `prepare_kick`: whether the driver must be notified (`vring_need_event`). -/
def prepareKick (q : Queue) (mem : GuestMemoryMmap) : Option (Bool × Queue) :=
  if !q.usesNotifSuppression then some (true, q)
  else
    let new := q.nextUsed
    let old := q.nextUsed - q.numAdded
    (q.usedEvent mem).map fun usedEvent =>
      (decide (new - usedEvent - 1 < new - old), { q with numAdded := 0 })

end Queue

/-! ## What `is_valid` establishes -/

/-- The fields of a queue the driver configures through the transport. -/
structure QueueConfig where
  maxSize : BitVec 16
  size : BitVec 16
  ready : Bool
  descTable : BitVec 64
  availRing : BitVec 64
  usedRing : BitVec 64
  deriving DecidableEq, Repr

def Queue.config (q : Queue) : QueueConfig :=
  ⟨q.maxSize, q.size, q.ready, q.descTable, q.availRing, q.usedRing⟩

namespace Queue

variable {q : Queue} {mem : GuestMemoryMmap}

theorem actualSize_eq (h : q.size.toNat ≤ q.maxSize.toNat) : q.actualSize = q.size := by
  simp [actualSize, BitVec.le_def, h]

end Queue

end Virtio
end Firecracker
