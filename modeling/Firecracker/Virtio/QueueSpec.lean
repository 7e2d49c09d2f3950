import Firecracker.Virtio.GuestMemory
import Firecracker.Lib.Ring

/-!
# Firecracker.Virtio.QueueSpec

What the ring accessors of `Queue` do when the rings are laid out as the virtio specification
asks of a driver (`Layout`): each ring readable and writable throughout, the two rings apart, and
a queue size that is a power of two and small enough that the offsets the accessors compute in
`u16` do not wrap (Firecracker's devices offer 256 entries).

The available ring holds the driver's `idx` at `+2` and a `u16` slot per entry from `+4`
(`availCell`), with `used_event` after the last slot; the used ring holds the device's `idx` at
`+2` and an 8-byte element per entry from `+4` (`usedCell`), with `avail_event` after the last
element. Under `Layout`, `do_pop_unchecked` reads the slot `next_avail % size`
(`doPopUnchecked_eq`), `add_used` writes the element `next_used % size` and then `idx` and
nothing outside the used ring (`addUsed_spec`), `try_enable_notification` writes only
`avail_event` (`tryEnableNotification_spec`), and no accessor panics.
-/

namespace Firecracker
namespace Virtio

open GuestMemoryMmap

/-- The areas of a queue as a correct driver lays them out. -/
structure Layout (c : QueueConfig) (mem : GuestMemoryMmap) : Prop where
  size_pos : 0 < c.size.toNat
  size_le : c.size.toNat ≤ c.maxSize.toNat
  size_pow2 : c.size &&& (c.size - 1) = 0
  offsets : 8 * c.maxSize.toNat + 4 < 2 ^ 16
  avail : mem.accessible c.availRing (6 + 2 * c.size.toNat) = true
  used : mem.accessible c.usedRing (6 + 8 * c.size.toNat) = true
  apart : c.availRing.toNat + (6 + 2 * c.size.toNat) ≤ c.usedRing.toNat ∨
    c.usedRing.toNat + (6 + 8 * c.size.toNat) ≤ c.availRing.toNat

theorem Layout.of_regions {c : QueueConfig} {mem mem' : GuestMemoryMmap} (hl : Layout c mem)
    (h : mem'.regions = mem.regions) : Layout c mem' := by
  obtain ⟨h₁, h₂, h₃, h₄, havail, hused, happart⟩ := hl
  exact ⟨h₁, h₂, h₃, h₄, by rw [accessible_congr h]; exact havail,
    by rw [accessible_congr h]; exact hused, happart⟩

theorem toNat_dvd_of_and_sub_one {w : Nat} {x : BitVec w} (hx : 0 < x.toNat)
    (h : x &&& (x - 1) = 0) : x.toNat ∣ 2 ^ w := by
  have hlt := x.isLt
  have hw : 0 < w := by
    rcases Nat.eq_zero_or_pos w with rfl | hw
    · simp at hlt
      omega
    · exact hw
  have hsub : (x - 1).toNat = x.toNat - 1 := by
    rw [BitVec.toNat_sub]
    simp only [BitVec.ofNat_eq_ofNat, BitVec.toNat_ofNat,
      Nat.mod_eq_of_lt (Nat.one_lt_two_pow (Nat.ne_of_gt hw))]
    rw [show 2 ^ w - 1 + x.toNat = x.toNat - 1 + 2 ^ w by omega, Nat.add_mod_right,
      Nat.mod_eq_of_lt (by omega)]
  have hand : x.toNat &&& (x.toNat - 1) = 0 := by
    rw [← hsub, ← BitVec.toNat_and, h]
    simp
  obtain ⟨k, hk⟩ := (Nat.and_sub_one_eq_zero_iff_isPowerOfTwo (by omega)).1 hand
  rw [hk] at hlt ⊢
  exact Nat.pow_dvd_pow 2 (Nat.le_of_lt ((Nat.pow_lt_pow_iff_right (by omega)).1 hlt))

namespace Queue

/-- The `j`-th slot of the available ring; the one after the last is `used_event`. -/
def availCellAddr (q : Queue) (j : Nat) : BitVec 64 := q.availRing + BitVec.ofNat 64 (4 + 2 * j)

/-- The `j`-th element of the used ring; the one after the last is `avail_event`. -/
def usedCellAddr (q : Queue) (j : Nat) : BitVec 64 := q.usedRing + BitVec.ofNat 64 (4 + 8 * j)

def availCell (q : Queue) (mem : GuestMemoryMmap) (j : Nat) : Option (BitVec 16) :=
  mem.readU16 (q.availCellAddr j)

/-- What the `j`-th element of the used ring holds: its id and its length. -/
def usedCell (q : Queue) (mem : GuestMemoryMmap) (j : Nat) : Option (BitVec 32 × BitVec 32) :=
  (mem.readU32 (q.usedCellAddr j)).bind fun id =>
    (mem.readU32 (q.usedCellAddr j + 4)).map fun len => (id, len)

/-- What `do_pop_unchecked` returns once it has read the head `head` from the ring: the chain
`checked_new` builds there, with `next_avail` moved on, or nothing. -/
def popAt (q : Queue) (mem : GuestMemoryMmap) (head : BitVec 16) : Option DescriptorChain × Queue :=
  match DescriptorChain.checkedNew mem q.descTable q.size head with
  | some dc => (some dc, { q with nextAvail := q.nextAvail + 1 })
  | none => (none, q)

theorem prepareKick_queue {mem : GuestMemoryMmap} {q q' : Queue} {b : Bool}
    (h : q.prepareKick mem = some (b, q')) : q' = q ∨ q' = { q with numAdded := 0 } := by
  unfold prepareKick at h
  split at h
  · cases h
    exact .inl rfl
  · obtain ⟨_, -, h⟩ := Option.map_eq_some_iff.1 h
    cases h
    exact .inr rfl

/-- The bytes `[lo, hi)` hold neither ring's `idx` nor any of its entries. -/
def Clear (q : Queue) (lo hi : Nat) : Prop :=
  (hi ≤ q.availRing.toNat + 2 ∨ q.availRing.toNat + (4 + 2 * q.size.toNat) ≤ lo) ∧
    (hi ≤ q.usedRing.toNat + 2 ∨ q.usedRing.toNat + (4 + 8 * q.size.toNat) ≤ lo)

end Queue

namespace Layout

open Queue

variable {q : Queue} {mem : GuestMemoryMmap} (hl : Layout q.config mem)
include hl

theorem actualSize : q.actualSize = q.size := actualSize_eq hl.size_le

theorem size_dvd : q.size.toNat ∣ 2 ^ 16 :=
  toNat_dvd_of_and_sub_one hl.size_pos hl.size_pow2

theorem size_lt : 8 * q.size.toNat + 4 < 2 ^ 16 := by
  have := hl.offsets
  have := hl.size_le
  simp only [Queue.config] at *
  omega

theorem avail_end : q.availRing.toNat + (6 + 2 * q.size.toNat) ≤ 2 ^ 64 :=
  end_le_of_accessible hl.avail

theorem used_end : q.usedRing.toNat + (6 + 8 * q.size.toNat) ≤ 2 ^ 64 :=
  end_le_of_accessible hl.used

theorem toNat_availIdxAddr : q.availIdxAddr.toNat = q.availRing.toNat + 2 := by
  have := hl.avail_end
  unfold availIdxAddr
  rw [BitVec.toNat_add]
  simp only [BitVec.ofNat_eq_ofNat, BitVec.toNat_ofNat]
  omega

theorem toNat_usedIdxAddr : q.usedIdxAddr.toNat = q.usedRing.toNat + 2 := by
  have := hl.used_end
  unfold usedIdxAddr
  rw [BitVec.toNat_add]
  simp only [BitVec.ofNat_eq_ofNat, BitVec.toNat_ofNat]
  omega

theorem toNat_availCellAddr {j : Nat} (hj : j ≤ q.size.toNat) :
    (q.availCellAddr j).toNat = q.availRing.toNat + (4 + 2 * j) := by
  have := hl.avail_end
  exact toNat_add_ofNat (by omega)

theorem toNat_usedCellAddr {j : Nat} (hj : j ≤ q.size.toNat) :
    (q.usedCellAddr j).toNat = q.usedRing.toNat + (4 + 8 * j) := by
  have := hl.used_end
  exact toNat_add_ofNat (by omega)

theorem toNat_usedCellAddr_add {j : Nat} (hj : j < q.size.toNat) :
    (q.usedCellAddr j + 4).toNat = q.usedRing.toNat + (8 + 8 * j) := by
  have := hl.used_end
  rw [BitVec.toNat_add, hl.toNat_usedCellAddr (Nat.le_of_lt hj)]
  simp only [BitVec.ofNat_eq_ofNat, BitVec.toNat_ofNat]
  omega

theorem availSlotAddr : q.availSlotAddr = q.availCellAddr (q.nextAvail.toNat % q.size.toNat) := by
  have hs := hl.size_lt
  have hr : q.nextAvail.toNat % q.size.toNat < q.size.toNat := Nat.mod_lt _ hl.size_pos
  unfold Queue.availSlotAddr availCellAddr
  rw [hl.actualSize]
  congr 1
  apply BitVec.eq_of_toNat_eq
  simp only [BitVec.ofNat_eq_ofNat, BitVec.toNat_setWidth, BitVec.toNat_add, BitVec.toNat_mul,
    BitVec.toNat_umod, BitVec.toNat_ofNat]
  generalize q.nextAvail.toNat % q.size.toNat = r at hr ⊢
  omega

theorem usedElemAddr : q.usedElemAddr = q.usedCellAddr (q.nextUsed.toNat % q.size.toNat) := by
  have hs := hl.size_lt
  have hr : q.nextUsed.toNat % q.size.toNat < q.size.toNat := Nat.mod_lt _ hl.size_pos
  unfold Queue.usedElemAddr usedCellAddr
  rw [hl.actualSize]
  congr 1
  apply BitVec.eq_of_toNat_eq
  simp only [BitVec.ofNat_eq_ofNat, BitVec.toNat_setWidth, BitVec.toNat_add, BitVec.toNat_mul,
    BitVec.toNat_umod, BitVec.toNat_ofNat]
  generalize q.nextUsed.toNat % q.size.toNat = r at hr ⊢
  omega

theorem usedEventAddr : q.usedEventAddr = q.availCellAddr q.size.toNat := by
  have hs := hl.size_lt
  unfold Queue.usedEventAddr availCellAddr
  rw [hl.actualSize]
  congr 1
  apply BitVec.eq_of_toNat_eq
  simp only [BitVec.ofNat_eq_ofNat, BitVec.toNat_setWidth, BitVec.toNat_add, BitVec.toNat_mul,
    BitVec.toNat_ofNat]
  omega

theorem availEventAddr : q.availEventAddr = q.usedCellAddr q.size.toNat := by
  have hs := hl.size_lt
  unfold Queue.availEventAddr usedCellAddr
  rw [hl.actualSize]
  congr 1
  apply BitVec.eq_of_toNat_eq
  simp only [BitVec.ofNat_eq_ofNat, BitVec.toNat_setWidth, BitVec.toNat_add, BitVec.toNat_mul,
    BitVec.toNat_ofNat]
  omega

/-! ### The accessors -/

theorem doPopUnchecked_eq {head : BitVec 16}
    (hcell : q.availCell mem (q.nextAvail.toNat % q.size.toNat) = some head) :
    q.doPopUnchecked mem = some (q.popAt mem head) := by
  have hpos : q.size ≠ 0 := by
    intro h0
    have := hl.size_pos
    simp [Queue.config, h0] at this
  unfold Queue.doPopUnchecked
  rw [if_neg (by rw [hl.actualSize]; exact hpos), hl.availSlotAddr]
  unfold availCell at hcell
  rw [hcell]
  dsimp only
  rw [hl.actualSize]
  unfold popAt
  cases DescriptorChain.checkedNew mem q.descTable q.size head <;> rfl

theorem pop_eq {l : BitVec 16} (hlen : q.len mem = some l) (hle : l.toNat ≤ q.size.toNat) :
    q.pop mem = if l = 0 then some (none, q) else q.doPopUnchecked mem := by
  unfold Queue.pop
  rw [hlen]
  dsimp only
  rw [if_neg (by rw [hl.actualSize, gt_iff_lt, BitVec.lt_def]; omega)]

theorem accessible_used {a : BitVec 64} {n : Nat} (ha : q.usedRing.toNat ≤ a.toNat)
    (hn : a.toNat + n ≤ q.usedRing.toNat + (6 + 8 * q.size.toNat)) : mem.accessible a n = true :=
  accessible_of_within hl.used ha hn

theorem accessible_avail {a : BitVec 64} {n : Nat} (ha : q.availRing.toNat ≤ a.toNat)
    (hn : a.toNat + n ≤ q.availRing.toNat + (6 + 2 * q.size.toNat)) : mem.accessible a n = true :=
  accessible_of_within hl.avail ha hn

/-! ### Reads of the rings after a change elsewhere -/

section frame

variable {mem' : GuestMemoryMmap} {lo hi : Nat} (hu : Unchanged mem mem' lo hi)
include hu

theorem availCell_of_unchanged {j : Nat} (hj : j < q.size.toNat)
    (hd : q.availRing.toNat + (6 + 2 * j) ≤ lo ∨ hi ≤ q.availRing.toNat + (4 + 2 * j)) :
    q.availCell mem' j = q.availCell mem j := by
  have := hl.toNat_availCellAddr (Nat.le_of_lt hj)
  exact hu.readU16 (by omega)

theorem usedCell_of_unchanged {j : Nat} (hj : j < q.size.toNat)
    (hd : q.usedRing.toNat + (12 + 8 * j) ≤ lo ∨ hi ≤ q.usedRing.toNat + (4 + 8 * j)) :
    q.usedCell mem' j = q.usedCell mem j := by
  have := hl.toNat_usedCellAddr (Nat.le_of_lt hj)
  have := hl.toNat_usedCellAddr_add hj
  unfold usedCell
  rw [hu.readU32 (by omega), hu.readU32 (by omega)]

variable (hc : q.Clear lo hi)
include hc

theorem availCell_of_clear {j : Nat} (hj : j < q.size.toNat) :
    q.availCell mem' j = q.availCell mem j :=
  hl.availCell_of_unchanged hu hj (by unfold Clear at hc; omega)

theorem usedCell_of_clear {j : Nat} (hj : j < q.size.toNat) :
    q.usedCell mem' j = q.usedCell mem j :=
  hl.usedCell_of_unchanged hu hj (by unfold Clear at hc; omega)

theorem availIdx_of_clear : mem'.readU16 q.availIdxAddr = mem.readU16 q.availIdxAddr := by
  have := hl.toNat_availIdxAddr
  exact hu.readU16 (by unfold Clear at hc; omega)

theorem usedIdx_of_clear : mem'.readU16 q.usedIdxAddr = mem.readU16 q.usedIdxAddr := by
  have := hl.toNat_usedIdxAddr
  exact hu.readU16 (by unfold Clear at hc; omega)

end frame

theorem clear_usedEvent :
    q.Clear (q.availRing.toNat + (4 + 2 * q.size.toNat)) (q.availRing.toNat + (6 + 2 * q.size.toNat)) := by
  have := hl.apart
  simp only [Queue.config] at this
  unfold Clear
  omega

theorem clear_availEvent :
    q.Clear (q.usedRing.toNat + (4 + 8 * q.size.toNat)) (q.usedRing.toNat + (6 + 8 * q.size.toNat)) := by
  have := hl.apart
  simp only [Queue.config] at this
  unfold Clear
  omega

/-- **`add_used` of an entry within the queue** writes its id and length to the element
`next_used % size` and then `idx`, and nothing else: the other elements stay, and every read
outside the used ring's `idx` and elements too. -/
theorem addUsed_spec {i : BitVec 16} {len : BitVec 32} (hi : i.toNat < q.size.toNat) :
    ∃ mem', q.addUsed mem i len = ({ q with numAdded := q.numAdded + 1, nextUsed := q.nextUsed + 1 },
        mem', .ok ()) ∧
      q.usedCell mem' (q.nextUsed.toNat % q.size.toNat) = some (i.setWidth 32, len) ∧
      (∀ k < q.size.toNat, k ≠ q.nextUsed.toNat % q.size.toNat →
        q.usedCell mem' k = q.usedCell mem k) ∧
      mem'.readU16 q.usedIdxAddr = some (q.nextUsed + 1) ∧
      Unchanged mem mem' q.usedRing.toNat (q.usedRing.toNat + (4 + 8 * q.size.toNat)) := by
  have hend := hl.used_end
  generalize hj : q.nextUsed.toNat % q.size.toNat = j
  have hjlt : j < q.size.toNat := hj ▸ Nat.mod_lt _ hl.size_pos
  have hid := hl.toNat_usedCellAddr (Nat.le_of_lt hjlt)
  have hlen := hl.toNat_usedCellAddr_add hjlt
  have hidx := hl.toNat_usedIdxAddr
  obtain ⟨mem₁, h₁⟩ : ∃ m', mem.store (q.usedCellAddr j) (leOfU32 (i.setWidth 32)) = some m' :=
    exists_store (hl.accessible_used (by omega) (by simp; omega))
  have hu₁ := unchanged_store h₁
  obtain ⟨mem₂, h₂⟩ : ∃ m', mem₁.store (q.usedCellAddr j + 4) (leOfU32 len) = some m' :=
    exists_store (by rw [hu₁.accessible]; exact hl.accessible_used (by omega) (by simp; omega))
  have hu₂ := unchanged_store h₂
  obtain ⟨mem₃, h₃⟩ : ∃ m', mem₂.store q.usedIdxAddr (leOfU16 (q.nextUsed + 1)) = some m' :=
    exists_store
      (by rw [hu₂.accessible, hu₁.accessible]; exact hl.accessible_used (by omega) (by simp; omega))
  have hu₃ := unchanged_store h₃
  simp only [length_leOfU32, length_leOfU16] at hu₁ hu₂ hu₃
  refine ⟨mem₃, ?_, ?_, fun k hk hne => ?_, readU16_storeU16_self h₃, ?_⟩
  · unfold Queue.addUsed
    rw [if_neg (by rw [hl.actualSize, ge_iff_le, BitVec.le_def]; omega), hl.usedElemAddr, hj]
    simp only [Queue.usedIdxAddr] at h₃
    simp only [writeU32, writeU16, Queue.usedIdxAddr, writeObj_eq_store h₁ (List.ne_nil_of_length_pos (by simp)),
      writeObj_eq_store h₂ (List.ne_nil_of_length_pos (by simp)),
      writeObj_eq_store h₃ (List.ne_nil_of_length_pos (by simp))]
  · unfold usedCell
    rw [hu₃.readU32 (by omega), hu₂.readU32 (by omega), readU32_store_self h₁,
      hu₃.readU32 (by omega), readU32_store_self h₂]
    rfl
  · have hk' := hl.toNat_usedCellAddr (Nat.le_of_lt hk)
    have hk'' := hl.toNat_usedCellAddr_add hk
    have hsep : k + 1 ≤ j ∨ j + 1 ≤ k := by omega
    unfold usedCell
    rw [hu₃.readU32 (by omega), hu₂.readU32 (by omega), hu₁.readU32 (by omega),
      hu₃.readU32 (by omega), hu₂.readU32 (by omega), hu₁.readU32 (by omega)]
  · exact (hu₁.mono (by omega) (by omega)).trans
      ((hu₂.mono (by omega) (by omega)).trans (hu₃.mono (by omega) (by omega)))

theorem addUsed_of_le {i : BitVec 16} {len : BitVec 32} (hi : q.size.toNat ≤ i.toNat) :
    q.addUsed mem i len = (q, mem, .error (.descIndexOutOfBounds i)) := by
  unfold Queue.addUsed
  rw [if_pos (by rw [hl.actualSize, ge_iff_le, BitVec.le_def]; exact hi)]

/-- **`try_enable_notification`** with entries pending answers `false` and writes nothing; with
none it writes `avail_event`, and nothing else, and answers `true`. -/
theorem tryEnableNotification_spec {l : BitVec 16} (hsupp : q.usesNotifSuppression = true)
    (hlen : q.len mem = some l) (hle : l.toNat ≤ q.size.toNat) :
    (l ≠ 0 → q.tryEnableNotification mem = some (false, mem)) ∧
      (l = 0 → ∃ mem', q.tryEnableNotification mem = some (true, mem') ∧
        mem'.readU16 q.availEventAddr = some q.nextAvail ∧
        Unchanged mem mem' (q.usedRing.toNat + (4 + 8 * q.size.toNat))
          (q.usedRing.toNat + (6 + 8 * q.size.toNat))) := by
  refine ⟨fun hl0 => ?_, fun hl0 => ?_⟩
  · unfold Queue.tryEnableNotification
    rw [hsupp, if_neg (by decide), hlen]
    dsimp only
    rw [if_pos hl0, if_neg (by rw [hl.actualSize, gt_iff_lt, BitVec.lt_def]; omega)]
  · have hend := hl.used_end
    have hev := hl.toNat_usedCellAddr (j := q.size.toNat) le_rfl
    obtain ⟨mem', h'⟩ : ∃ m', mem.store (q.usedCellAddr q.size.toNat) (leOfU16 q.nextAvail) = some m' :=
      exists_store (hl.accessible_used (by omega) (by simp; omega))
    have hu := unchanged_store h'
    simp only [length_leOfU16] at hu
    obtain ⟨idx, hidx, rfl⟩ := Option.map_eq_some_iff.1 hlen
    have hidx' : mem'.readU16 q.availIdxAddr = some idx := by
      rw [hu.readU16 (by have := hl.toNat_availIdxAddr; have := hl.apart; simp only [Queue.config] at *; omega)]
      exact hidx
    have heq : q.nextAvail = idx := (sub_eq_zero.1 hl0).symm
    refine ⟨mem', ?_, by rw [hl.availEventAddr]; exact readU16_storeU16_self h',
      hu.mono (by omega) (by omega)⟩
    unfold Queue.tryEnableNotification
    rw [hsupp, if_neg (by decide), hlen]
    dsimp only
    rw [if_neg (by simpa using hl0), Queue.setAvailEvent, hl.availEventAddr]
    simp only [writeU16, writeObj_eq_store h' (List.ne_nil_of_length_pos (by simp))]
    unfold Queue.availIdx
    rw [hidx', heq]
    simp

theorem prepareKick_isSome : (q.prepareKick mem).isSome := by
  unfold Queue.prepareKick
  split
  · rfl
  · have hend := hl.avail_end
    have hev := hl.toNat_availCellAddr (j := q.size.toNat) le_rfl
    unfold Queue.usedEvent readU16 readObj
    rw [hl.usedEventAddr, if_pos (hl.accessible_avail (by omega) (by omega))]
    rfl

end Layout

end Virtio
end Firecracker
