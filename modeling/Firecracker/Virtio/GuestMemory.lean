import Firecracker.Virtio.Queue

/-!
# Firecracker.Virtio.GuestMemory

Reads after writes on the guest memory of `vm-memory`, as `Queue` models it.

A read depends only on the regions and on the bytes it covers (`readObj_congr`). A write keeps
the regions and changes only the bytes it covers, so a read of bytes it does not cover sees what
it saw before (`readObj_store_of_disjoint`), and a read of the bytes it wrote sees them
(`readObj_store_self`). The device's `write_obj` to bytes that all lie in guest memory is such a
write (`writeObj_eq_store`). Ranges are compared as natural numbers: an access that succeeds does
not run past the end of the address space, so its addresses do not wrap.

`Unchanged m m' lo hi` packs what a write gives the reads of other ranges: the same regions, and
the same result for every read that ends before `lo` or starts at or after `hi`.
-/

namespace Firecracker
namespace Virtio
namespace GuestMemoryMmap

variable {m m' : GuestMemoryMmap} {a b : BitVec 64} {n : Nat} {data : List (BitVec 8)}

def readU32 (m : GuestMemoryMmap) (addr : BitVec 64) : Option (BitVec 32) :=
  (m.readObj addr 4).map u32OfLe

@[simp] theorem length_leOfU16 (x : BitVec 16) : (leOfU16 x).length = 2 := rfl

@[simp] theorem u16OfLe_leOfU16 (x : BitVec 16) : u16OfLe (leOfU16 x) = x := by
  unfold u16OfLe leOfU16
  simp only [List.getD_cons_succ, List.getD_cons_zero]
  ext i hi
  simp only [BitVec.getElem_append, BitVec.getElem_extractLsb']
  grind

theorem toNat_add_ofNat {i : Nat} (h : b.toNat + i < 2 ^ 64) :
    (b + BitVec.ofNat 64 i).toNat = b.toNat + i := by
  rw [BitVec.toNat_add, BitVec.toNat_ofNat, Nat.mod_eq_of_lt (show i < 2 ^ 64 by omega),
    Nat.mod_eq_of_lt h]

theorem accessible_congr (h : m'.regions = m.regions) : m'.accessible = m.accessible := by
  unfold accessible addressInRange
  rw [h]

theorem end_le_of_accessible (h : m.accessible b n = true) : b.toNat + n ≤ 2 ^ 64 := by
  unfold accessible at h
  simp only [Bool.and_eq_true, decide_eq_true_eq] at h
  exact h.1

theorem accessible_of_within {k : Nat} (h : m.accessible a n = true) (hb : a.toNat ≤ b.toNat)
    (hk : b.toNat + k ≤ a.toNat + n) : m.accessible b k = true := by
  have hend := end_le_of_accessible h
  unfold accessible at h ⊢
  simp only [Bool.and_eq_true, decide_eq_true_eq, List.all_eq_true, List.mem_range] at h ⊢
  refine ⟨by omega, fun i hi => ?_⟩
  have hi' : b.toNat - a.toNat + i < n := by omega
  have heq : b + BitVec.ofNat 64 i = a + BitVec.ofNat 64 (b.toNat - a.toNat + i) := by
    apply BitVec.eq_of_toNat_eq
    rw [toNat_add_ofNat (by omega), toNat_add_ofNat (by omega)]
    omega
  rw [heq]
  exact h.2 _ hi'

theorem readObj_congr (hreg : m'.regions = m.regions)
    (hb : ∀ i < n, m'.bytes (b + BitVec.ofNat 64 i) = m.bytes (b + BitVec.ofNat 64 i)) :
    m'.readObj b n = m.readObj b n := by
  unfold readObj
  rw [accessible_congr hreg]
  split
  · congr 1
    exact List.map_congr_left fun i hi => hb i (List.mem_range.1 hi)
  · rfl

theorem regions_store (h : m.store a data = some m') : m'.regions = m.regions := by
  unfold store at h
  split at h
  · cases h
    rfl
  · cases h

theorem accessible_of_store (h : m.store a data = some m') :
    m.accessible a data.length = true := by
  unfold store at h
  split at h
  · assumption
  · cases h

theorem exists_store (h : m.accessible a data.length = true) : ∃ m', m.store a data = some m' := by
  unfold store
  rw [if_pos h]
  exact ⟨_, rfl⟩

theorem bytes_store_of_not_mem {x : BitVec 64} (h : m.store a data = some m')
    (hx : x.toNat < a.toNat ∨ a.toNat + data.length ≤ x.toNat) : m'.bytes x = m.bytes x := by
  unfold store at h
  split at h
  · cases h
    dsimp only
    rw [if_neg]
    rw [BitVec.le_def]
    omega
  · cases h

/-- **A read of bytes a write does not cover sees what it saw before.** -/
theorem readObj_store_of_disjoint (h : m.store a data = some m')
    (hd : b.toNat + n ≤ a.toNat ∨ a.toNat + data.length ≤ b.toNat) :
    m'.readObj b n = m.readObj b n := by
  have hreg := regions_store h
  by_cases hacc : m.accessible b n = true
  · have hend := end_le_of_accessible hacc
    refine readObj_congr hreg fun i hi => bytes_store_of_not_mem h ?_
    rw [toNat_add_ofNat (by omega)]
    omega
  · unfold readObj
    rw [accessible_congr hreg, if_neg hacc, if_neg hacc]

/-- **A read of the bytes a write wrote sees them.** -/
theorem readObj_store_self (h : m.store a data = some m') :
    m'.readObj a data.length = some data := by
  have hacc := accessible_of_store h
  have hend := end_le_of_accessible hacc
  have hreg := regions_store h
  unfold store at h
  rw [if_pos hacc] at h
  cases h
  unfold readObj
  rw [accessible_congr hreg, if_pos hacc]
  congr 1
  apply List.ext_getElem (by simp)
  intro i hi hi'
  simp only [List.length_map, List.length_range] at hi
  have hx := toNat_add_ofNat (b := a) (i := i) (by omega)
  simp only [List.getElem_map, List.getElem_range, BitVec.le_def, hx]
  rw [if_pos ⟨by omega, by omega⟩, Nat.add_sub_cancel_left, List.getD_eq_getElem _ _ hi]

theorem toNat_sub_lt_iff {x : BitVec 64} (h : a.toNat + n ≤ 2 ^ 64) :
    (x - a).toNat < n ↔ a ≤ x ∧ x.toNat < a.toNat + n := by
  rw [BitVec.toNat_sub, BitVec.le_def]
  have hx := x.isLt
  have ha := a.isLt
  constructor
  · intro hlt
    by_contra hout
    rw [Nat.mod_eq_of_lt (by omega)] at hlt
    omega
  · rintro ⟨hle, hlt⟩
    omega

theorem mappedPrefix_of_accessible (h : m.accessible a n = true) : m.mappedPrefix a n = n := by
  unfold mappedPrefix
  unfold accessible at h
  simp only [Bool.and_eq_true, List.all_eq_true] at h
  rw [List.takeWhile_eq_self_iff.2 h.2, List.length_range]

/-- **A write whose bytes all lie in guest memory is the guest's store**: `write_slice` finds every
byte mapped and copies all of them. -/
theorem writeObj_eq_store (h : m.store a data = some m') (hne : data ≠ []) :
    m.writeObj a data = (m', .ok ()) := by
  have hacc := accessible_of_store h
  have hend := end_le_of_accessible hacc
  have hpos : 0 < data.length := List.length_pos_iff.2 hne
  have hfirst : m.addressInRange a = true := by
    unfold accessible at hacc
    simp only [Bool.and_eq_true, List.all_eq_true, List.mem_range] at hacc
    simpa using hacc.2 0 hpos
  unfold store at h
  rw [if_pos hacc] at h
  cases h
  unfold writeObj writeSlice
  rw [hfirst, mappedPrefix_of_accessible hacc]
  simp only [Bool.not_true, Bool.false_eq_true, if_false, if_true, List.take_length, writeBytes]
  congr 1
  congr 1
  funext x
  by_cases hx : a ≤ x ∧ x.toNat < a.toNat + data.length
  · rw [if_pos ((toNat_sub_lt_iff hend).2 hx), if_pos hx, BitVec.toNat_sub_of_le hx.1]
  · rw [if_neg (fun h' => hx ((toNat_sub_lt_iff hend).1 h')), if_neg hx]

theorem readU16_store_of_disjoint (h : m.store a data = some m')
    (hd : b.toNat + 2 ≤ a.toNat ∨ a.toNat + data.length ≤ b.toNat) :
    m'.readU16 b = m.readU16 b := by
  unfold readU16
  rw [readObj_store_of_disjoint h hd]

theorem readU32_store_of_disjoint (h : m.store a data = some m')
    (hd : b.toNat + 4 ≤ a.toNat ∨ a.toNat + data.length ≤ b.toNat) :
    m'.readU32 b = m.readU32 b := by
  unfold readU32
  rw [readObj_store_of_disjoint h hd]

theorem readU16_storeU16_self {x : BitVec 16} (h : m.storeU16 a x = some m') :
    m'.readU16 a = some x := by
  unfold readU16
  have := readObj_store_self h
  rw [length_leOfU16] at this
  rw [this, Option.map_some, u16OfLe_leOfU16]

theorem readU32_store_self {x : BitVec 32} (h : m.store a (leOfU32 x) = some m') :
    m'.readU32 a = some x := by
  unfold readU32
  have := readObj_store_self h
  rw [length_leOfU32] at this
  rw [this, Option.map_some, u32OfLe_leOfU32]

/-! ### Memories that differ only in one range -/

/-- `m'` reads as `m` everywhere outside the bytes `[lo, hi)`. -/
structure Unchanged (m m' : GuestMemoryMmap) (lo hi : Nat) : Prop where
  regions : m'.regions = m.regions
  readObj : ∀ b n, b.toNat + n ≤ lo ∨ hi ≤ b.toNat → m'.readObj b n = m.readObj b n

theorem unchanged_store (h : m.store a data = some m') :
    Unchanged m m' a.toNat (a.toNat + data.length) :=
  ⟨regions_store h, fun _ _ hd => readObj_store_of_disjoint h hd⟩

namespace Unchanged

variable {lo hi : Nat}

theorem refl (m : GuestMemoryMmap) (lo hi : Nat) : Unchanged m m lo hi := ⟨rfl, fun _ _ _ => rfl⟩

theorem readU16 (h : Unchanged m m' lo hi) (hb : b.toNat + 2 ≤ lo ∨ hi ≤ b.toNat) :
    m'.readU16 b = m.readU16 b := by
  unfold GuestMemoryMmap.readU16
  rw [h.readObj b 2 hb]

theorem readU32 (h : Unchanged m m' lo hi) (hb : b.toNat + 4 ≤ lo ∨ hi ≤ b.toNat) :
    m'.readU32 b = m.readU32 b := by
  unfold GuestMemoryMmap.readU32
  rw [h.readObj b 4 hb]

theorem accessible (h : Unchanged m m' lo hi) : m'.accessible = m.accessible :=
  accessible_congr h.regions

theorem mono {lo' hi' : Nat} (h : Unchanged m m' lo hi) (hlo : lo' ≤ lo) (hhi : hi ≤ hi') :
    Unchanged m m' lo' hi' :=
  ⟨h.regions, fun b n hb => h.readObj b n (by omega)⟩

theorem trans {m'' : GuestMemoryMmap} (h : Unchanged m m' lo hi) (h' : Unchanged m' m'' lo hi) :
    Unchanged m m'' lo hi :=
  ⟨h'.regions.trans h.regions, fun b n hb => (h'.readObj b n hb).trans (h.readObj b n hb)⟩

end Unchanged

end GuestMemoryMmap
end Virtio
end Firecracker
