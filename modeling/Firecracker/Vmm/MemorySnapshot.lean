import Mathlib
import Firecracker.Lib.Loop

/-!
# Firecracker.Vmm.MemorySnapshot

`vmm/src/memory_snapshot.rs`: saving guest memory to a snapshot file. `describe` gives each region
the offset it has in the file, the lengths of the regions before it added up; `dump` writes every
region there, and `restore` maps each region back from its offset. `dump_dirty` writes only the
pages marked dirty, in the KVM bitmap of the region's slot or in the region's Firecracker bitmap: it
goes over the bits of the KVM bitmap word by word, gathers runs of dirty pages into batches, seeks
to a batch's place in the file when it starts and writes it when a clean page or the end of the
region ends it.

The file is a `File`: its bytes, and the position the next write goes to (the claim's assumption
on the writer: `write_all` writes at the position and moves it, `seek` moves it). The page size
(`get_page_size()`) is a parameter.

`dumpDirtyRegion_image`: a region whose dump succeeds leaves the file as its dirty pages written
over it at the region's offset, by the invariant `BatchInv` of the loop over pages.
`dumpDirty_pages`: when `dump_dirty` succeeds, every dirty page of every region holds its bytes at
the offset `describe` gives, and no byte outside a dirty page is written.
-/

namespace Firecracker
namespace MemorySnapshot

/-- A file, through `Write` and `Seek`: its bytes, and the position of the next write. -/
structure File where
  bytes : Nat → BitVec 8
  pos : Nat

namespace File

def seek (f : File) (pos : Nat) : File := { f with pos }

/-- `write_all`: the bytes go at the position, which moves past them. -/
def writeAll (f : File) (buf : List (BitVec 8)) : File where
  bytes p := if f.pos ≤ p ∧ p < f.pos + buf.length then buf.getD (p - f.pos) 0 else f.bytes p
  pos := f.pos + buf.length

end File

/-- A guest memory region as the snapshot code reads it: its start address, its bytes (`len()` of
them), and its Firecracker dirty bitmap, `bitmap().dirty_at(offset)`. -/
structure Region where
  startAddr : BitVec 64
  data : List (BitVec 8)
  dirtyAt : Nat → Bool

/-- `memory_snapshot::Error`, as far as the modelled functions return it. -/
inductive Error
  /-- `WriteMemory`: a `write_all_to` past the end of the region. -/
  | writeMemory (addr count : Nat)
  deriving DecidableEq, Repr

/-- `write_all_to(addr, writer, count)`: the region's bytes `addr..addr + count`, which must lie in
the region, written to the writer. -/
def Region.writeAllTo (r : Region) (addr : Nat) (writer : File) (count : Nat) : Except Error File :=
  if addr + count ≤ r.data.length then .ok (writer.writeAll ((r.data.drop addr).take count))
  else .error (.writeMemory addr count)

structure GuestMemoryRegionState where
  baseAddress : BitVec 64
  size : Nat
  offset : Nat
  deriving DecidableEq, Repr

/-! ## The model -/

/-- `describe`: the regions in order, each with the offset it has in the file. -/
def describe (regions : List Region) : List GuestMemoryRegionState :=
  (regions.foldl (fun (acc : List GuestMemoryRegionState × Nat) region =>
      (acc.1 ++ [⟨region.startAddr, region.data.length, acc.2⟩], acc.2 + region.data.length))
    ([], 0)).1

/-- `dump`: every region, one after another, from the writer's position. -/
def dump (regions : List Region) (writer : File) : Except Error File :=
  regions.foldlM (fun writer region => region.writeAllTo 0 writer region.data.length) writer

/-- `restore` from a file (`some` of its bytes) or from nothing: each region of the state mapped from
the file at its offset, with a clean bitmap. -/
def restore (file : Option (Nat → BitVec 8)) (state : List GuestMemoryRegionState) : List Region :=
  state.map fun region =>
    { startAddr := region.baseAddress
      data := (List.range region.size).map fun k => (file.map fun f => f (region.offset + k)).getD 0
      dirtyAt := fun _ => false }

/-- One iteration of the loop of `dump_dirty`: page `i * 64 + j`, bit `j` of the word `v` of the
KVM bitmap. The state is the writer, `write_size` and `dirty_batch_start`. -/
def dumpDirtyPage (pageSize : Nat) (region : Region) (writerOffset i : Nat) (v : BitVec 64) :
    File × Nat × Nat → Nat → Except Error (File × Nat × Nat)
  | (writer, writeSize, dirtyBatchStart), j =>
    let isKvmPageDirty := (v >>> j) &&& 1 != 0
    let pageOffset := (i * 64 + j) * pageSize
    let isFirecrackerPageDirty := region.dirtyAt pageOffset
    if isKvmPageDirty || isFirecrackerPageDirty then
      if writeSize = 0 then
        .ok (writer.seek (writerOffset + pageOffset), writeSize + pageSize, pageOffset)
      else .ok (writer, writeSize + pageSize, dirtyBatchStart)
    else if writeSize > 0 then
      match region.writeAllTo dirtyBatchStart writer writeSize with
      | .ok writer => .ok (writer, 0, dirtyBatchStart)
      | .error e => .error e
    else .ok (writer, writeSize, dirtyBatchStart)

/-- The `for j in 0..64` loop over word `i` of the KVM bitmap. -/
def dumpDirtyWord (pageSize : Nat) (region : Region) (writerOffset : Nat) (st : File × Nat × Nat) :
    BitVec 64 × Nat → Except Error (File × Nat × Nat)
  | (v, i) => (List.range 64).foldlM (dumpDirtyPage pageSize region writerOffset i v) st

/-- One region of `dump_dirty`, at `writer_offset` in the file, with the KVM bitmap of its slot. -/
def dumpDirtyRegion (pageSize : Nat) (region : Region) (kvmBitmap : List (BitVec 64))
    (writerOffset : Nat) (writer : File) : Except Error File :=
  match kvmBitmap.zipIdx.foldlM (dumpDirtyWord pageSize region writerOffset) (writer, 0, 0) with
  | .error e => .error e
  | .ok (writer, writeSize, dirtyBatchStart) =>
    if writeSize > 0 then region.writeAllTo dirtyBatchStart writer writeSize else .ok writer

/-- The `try_for_each` over the regions of `dump_dirty`, from slot `slot` and `writer_offset`;
`none` where `dirty_bitmap.get(&slot).unwrap()` panics. -/
def dumpDirtyLoop (pageSize : Nat) (dirtyBitmap : Nat → Option (List (BitVec 64))) :
    Nat → Nat → List Region → File → Option (Except Error File)
  | _, _, [], writer => some (.ok writer)
  | slot, writerOffset, region :: regions, writer =>
    match dirtyBitmap slot with
    | none => none
    | some kvmBitmap =>
      match dumpDirtyRegion pageSize region kvmBitmap writerOffset writer with
      | .error e => some (.error e)
      | .ok writer =>
        dumpDirtyLoop pageSize dirtyBitmap (slot + 1) (writerOffset + region.data.length) regions writer

/-- `dump_dirty`, with `dirty_bitmap` as a map from slots to KVM bitmaps. -/
def dumpDirty (pageSize : Nat) (regions : List Region) (dirtyBitmap : Nat → Option (List (BitVec 64)))
    (writer : File) : Option (Except Error File) :=
  dumpDirtyLoop pageSize dirtyBitmap 0 0 regions writer

/-! ## What a region's dump writes -/

/-- Whether page `k` of a region is marked dirty: bit `k % 64` of word `k / 64` of the KVM bitmap,
or the Firecracker bitmap at the page's offset. -/
def pageDirty (pageSize : Nat) (region : Region) (kvmBitmap : List (BitVec 64)) (k : Nat) : Bool :=
  (kvmBitmap.getD (k / 64) 0 >>> (k % 64)) &&& 1 != 0 || region.dirtyAt (k * pageSize)

/-- The file `base` with the dirty pages of `data` among its first `m` written at `offset`. -/
def pagesImage (pageSize : Nat) (data : List (BitVec 8)) (dirty : Nat → Bool) (offset m : Nat)
    (base : Nat → BitVec 8) (pos : Nat) : BitVec 8 :=
  if offset ≤ pos ∧ pos - offset < data.length ∧ (pos - offset) / pageSize < m ∧
      dirty ((pos - offset) / pageSize) = true then data.getD (pos - offset) 0
  else base pos

/-- The file `base` with every dirty page of `data` written at `offset`. -/
def regionImage (pageSize : Nat) (data : List (BitVec 8)) (dirty : Nat → Bool) (offset : Nat)
    (base : Nat → BitVec 8) (pos : Nat) : BitVec 8 :=
  if offset ≤ pos ∧ pos - offset < data.length ∧ dirty ((pos - offset) / pageSize) = true then
    data.getD (pos - offset) 0
  else base pos

section image

variable {pageSize : Nat} {data : List (BitVec 8)} {dirty : Nat → Bool} {offset : Nat}
  {base : Nat → BitVec 8}

theorem pagesImage_zero : pagesImage pageSize data dirty offset 0 base = base := by
  funext pos
  simp [pagesImage]

theorem pagesImage_clean {k : Nat} (hk : dirty k = false) :
    pagesImage pageSize data dirty offset (k + 1) base = pagesImage pageSize data dirty offset k base := by
  funext pos
  refine if_congr ⟨fun ⟨h₁, h₂, h₃, h₄⟩ => ⟨h₁, h₂, ?_, h₄⟩, fun ⟨h₁, h₂, h₃, h₄⟩ => ⟨h₁, h₂, by omega, h₄⟩⟩
    rfl rfl
  rcases Nat.lt_succ_iff_lt_or_eq.1 h₃ with hlt | heq
  · exact hlt
  · rw [heq, hk] at h₄
    cases h₄

theorem pagesImage_batch (hps : 0 < pageSize) {b k : Nat} (hbk : b ≤ k)
    (hdirty : ∀ p, b ≤ p → p < k → dirty p = true) (hfit : k * pageSize ≤ data.length)
    {writer : File} (hbytes : writer.bytes = pagesImage pageSize data dirty offset b base)
    (hpos : writer.pos = offset + b * pageSize) :
    (writer.writeAll ((data.drop (b * pageSize)).take ((k - b) * pageSize))).bytes =
      pagesImage pageSize data dirty offset k base := by
  have hmul : b * pageSize ≤ k * pageSize := Nat.mul_le_mul_right pageSize hbk
  rw [Nat.sub_mul]
  have hlen : ((data.drop (b * pageSize)).take (k * pageSize - b * pageSize)).length =
      k * pageSize - b * pageSize := by
    simp only [List.length_take, List.length_drop]
    omega
  funext pos
  simp only [File.writeAll, hbytes, hpos, hlen, pagesImage]
  have hdiv_lt : ∀ m, (pos - offset) / pageSize < m ↔ pos - offset < m * pageSize :=
    fun m => Nat.div_lt_iff_lt_mul hps
  by_cases hin : offset + b * pageSize ≤ pos ∧ pos < offset + b * pageSize + (k * pageSize - b * pageSize)
  · rw [if_pos hin, if_pos ⟨by omega, by omega, (hdiv_lt k).2 (by omega),
      hdirty _ ((Nat.le_div_iff_mul_le hps).2 (by omega)) ((hdiv_lt k).2 (by omega))⟩]
    rw [List.getD_eq_getElem?_getD, List.getD_eq_getElem?_getD, List.getElem?_take, List.getElem?_drop,
      if_pos (by omega)]
    congr 2
    omega
  · rw [if_neg hin]
    refine if_congr ⟨fun ⟨h₁, h₂, h₃, h₄⟩ => ⟨h₁, h₂, ?_, h₄⟩, fun ⟨h₁, h₂, h₃, h₄⟩ => ⟨h₁, h₂, ?_, h₄⟩⟩
      rfl rfl
    · exact Nat.lt_of_lt_of_le h₃ hbk
    · rw [hdiv_lt] at h₃ ⊢
      omega

theorem pagesImage_of_cover (hps : 0 < pageSize) {m : Nat} (hcover : data.length ≤ m * pageSize) :
    pagesImage pageSize data dirty offset m base = regionImage pageSize data dirty offset base := by
  funext pos
  refine if_congr ⟨fun ⟨h₁, h₂, _, h₄⟩ => ⟨h₁, h₂, h₄⟩,
    fun ⟨h₁, h₂, h₄⟩ => ⟨h₁, h₂, (Nat.div_lt_iff_lt_mul hps).2 (by omega), h₄⟩⟩ rfl rfl

end image

/-! ## The loop over pages -/

/-- The state of the loop of `dump_dirty` before page `k`, when the batch open (if any) starts at
page `b`: `write_size` counts the pages of the batch, which are all dirty and whose start the writer
is at; the dirty pages before `b` lie in the region and have been written. -/
structure BatchAt (pageSize : Nat) (data : List (BitVec 8)) (dirty : Nat → Bool) (offset : Nat)
    (base : Nat → BitVec 8) (k b : Nat) (writer : File) (writeSize dirtyBatchStart : Nat) : Prop where
  le : b ≤ k
  size : writeSize = (k - b) * pageSize
  pending : b < k → dirtyBatchStart = b * pageSize ∧ writer.pos = offset + b * pageSize
  batch_dirty : ∀ p, b ≤ p → p < k → dirty p = true
  written_fit : ∀ p < b, dirty p = true → (p + 1) * pageSize ≤ data.length
  bytes : writer.bytes = pagesImage pageSize data dirty offset b base

def BatchInv (pageSize : Nat) (data : List (BitVec 8)) (dirty : Nat → Bool) (offset : Nat)
    (base : Nat → BitVec 8) (k : Nat) : File × Nat × Nat → Prop
  | (writer, writeSize, dirtyBatchStart) =>
    ∃ b, BatchAt pageSize data dirty offset base k b writer writeSize dirtyBatchStart

section batch

variable {pageSize : Nat} {data : List (BitVec 8)} {dirty : Nat → Bool} {offset : Nat}
  {base : Nat → BitVec 8} {k b : Nat} {writer : File} {writeSize dirtyBatchStart : Nat}

theorem BatchAt.eq_of_size_zero (hps : 0 < pageSize)
    (h : BatchAt pageSize data dirty offset base k b writer writeSize dirtyBatchStart)
    (hz : writeSize = 0) : b = k := by
  have hsize := h.size
  rw [hz, eq_comm, Nat.mul_eq_zero] at hsize
  have := h.le
  omega

theorem BatchAt.close (hps : 0 < pageSize)
    (h : BatchAt pageSize data dirty offset base k b writer writeSize dirtyBatchStart)
    (hpos : 0 < writeSize) (hfit : dirtyBatchStart + writeSize ≤ data.length) :
    k * pageSize ≤ data.length ∧ (writer.writeAll ((data.drop dirtyBatchStart).take writeSize)).bytes =
      pagesImage pageSize data dirty offset k base := by
  have hbk : b < k := by
    rcases Nat.lt_or_ge b k with hlt | hge
    · exact hlt
    · have := h.size
      rw [Nat.sub_eq_zero_of_le hge, Nat.zero_mul] at this
      omega
  obtain ⟨hstart, hwpos⟩ := h.pending hbk
  have hk : k * pageSize = dirtyBatchStart + writeSize := by
    rw [h.size, hstart, Nat.sub_mul]
    have := Nat.mul_le_mul_right pageSize (Nat.le_of_lt hbk)
    omega
  refine ⟨hk ▸ hfit, ?_⟩
  rw [hstart, h.size]
  exact pagesImage_batch hps (Nat.le_of_lt hbk) h.batch_dirty (hk ▸ hfit) h.bytes hwpos

theorem BatchAt.empty (hfit : ∀ p < k, dirty p = true → (p + 1) * pageSize ≤ data.length)
    (hbytes : writer.bytes = pagesImage pageSize data dirty offset k base) :
    BatchAt pageSize data dirty offset base k k writer 0 dirtyBatchStart where
  le := Nat.le_refl _
  size := by simp
  pending h := absurd h (Nat.lt_irrefl _)
  batch_dirty _ h h' := absurd (Nat.lt_of_le_of_lt h h') (Nat.lt_irrefl _)
  written_fit := hfit
  bytes := hbytes

theorem fit_succ_of_clean (hclean : dirty k = false)
    (hfit : ∀ p < k, dirty p = true → (p + 1) * pageSize ≤ data.length) :
    ∀ p < k + 1, dirty p = true → (p + 1) * pageSize ≤ data.length := by
  intro p hp hdp
  rcases Nat.lt_succ_iff_lt_or_eq.1 hp with hp | rfl
  · exact hfit p hp hdp
  · rw [hclean] at hdp
    cases hdp

theorem BatchAt.start (hps : 0 < pageSize)
    (h : BatchAt pageSize data dirty offset base k b writer writeSize dirtyBatchStart)
    (hz : writeSize = 0) (hdk : dirty k = true) :
    BatchAt pageSize data dirty offset base (k + 1) k (writer.seek (offset + k * pageSize))
      (writeSize + pageSize) (k * pageSize) := by
  have hbk := h.eq_of_size_zero hps hz
  subst hbk
  refine ⟨Nat.le_succ _, by rw [hz]; simp, fun _ => ⟨rfl, rfl⟩, ?_, h.written_fit, h.bytes⟩
  intro p hp hlt
  rw [show p = b by omega]
  exact hdk

theorem BatchAt.extend (h : BatchAt pageSize data dirty offset base k b writer writeSize dirtyBatchStart)
    (hz : writeSize ≠ 0) (hdk : dirty k = true) :
    BatchAt pageSize data dirty offset base (k + 1) b writer (writeSize + pageSize) dirtyBatchStart := by
  have hlt : b < k := by
    rcases Nat.lt_or_ge b k with hlt | hge
    · exact hlt
    · exact absurd (by rw [h.size, Nat.sub_eq_zero_of_le hge, Nat.zero_mul]) hz
  refine ⟨Nat.le_succ_of_le h.le, ?_, fun _ => h.pending hlt, ?_, h.written_fit, h.bytes⟩
  · rw [h.size, ← Nat.succ_mul, Nat.succ_eq_add_one, Nat.sub_add_comm h.le]
  · intro p hp hlt
    rcases Nat.lt_succ_iff_lt_or_eq.1 hlt with hlt | rfl
    · exact h.batch_dirty p hp hlt
    · exact hdk

theorem BatchAt.flush (hps : 0 < pageSize)
    (h : BatchAt pageSize data dirty offset base k b writer writeSize dirtyBatchStart)
    (hpos : 0 < writeSize) (hfit : dirtyBatchStart + writeSize ≤ data.length) (hclean : dirty k = false) :
    BatchAt pageSize data dirty offset base (k + 1) (k + 1)
      (writer.writeAll ((data.drop dirtyBatchStart).take writeSize)) 0 dirtyBatchStart := by
  obtain ⟨hkfit, hbytes⟩ := h.close hps hpos hfit
  refine BatchAt.empty (fit_succ_of_clean hclean fun p hp hdp => ?_) (by rw [pagesImage_clean hclean]; exact hbytes)
  rcases Nat.lt_or_ge p b with hpb | hpb
  · exact h.written_fit p hpb hdp
  · have := Nat.mul_le_mul_right pageSize (show p + 1 ≤ k by omega)
    omega

theorem BatchAt.skip (hps : 0 < pageSize)
    (h : BatchAt pageSize data dirty offset base k b writer writeSize dirtyBatchStart)
    (hz : writeSize = 0) (hclean : dirty k = false) :
    BatchAt pageSize data dirty offset base (k + 1) (k + 1) writer writeSize dirtyBatchStart := by
  have hbk := h.eq_of_size_zero hps hz
  subst hbk hz
  exact BatchAt.empty (fit_succ_of_clean hclean h.written_fit) (by rw [pagesImage_clean hclean]; exact h.bytes)

end batch

/-- **One page.** The loop's step at page `k = i * 64 + j` keeps the invariant, whether the page
opens a batch, extends one, closes one, or passes between batches. -/
theorem dumpDirtyPage_inv {pageSize : Nat} (hps : 0 < pageSize) {region : Region}
    {dirty : Nat → Bool} {offset : Nat} {base : Nat → BitVec 8} {i j : Nat} {v : BitVec 64}
    (hd : dirty (i * 64 + j) = ((v >>> j) &&& 1 != 0 || region.dirtyAt ((i * 64 + j) * pageSize)))
    {st st' : File × Nat × Nat}
    (hinv : BatchInv pageSize region.data dirty offset base (i * 64 + j) st)
    (h : dumpDirtyPage pageSize region offset i v st j = .ok st') :
    BatchInv pageSize region.data dirty offset base (i * 64 + j + 1) st' := by
  obtain ⟨writer, writeSize, dirtyBatchStart⟩ := st
  obtain ⟨b, hb⟩ := hinv
  simp only [dumpDirtyPage] at h
  rw [← hd] at h
  by_cases hdk : dirty (i * 64 + j) = true
  · rw [if_pos hdk] at h
    by_cases hz : writeSize = 0
    · rw [if_pos hz] at h
      cases h
      exact ⟨_, hb.start hps hz hdk⟩
    · rw [if_neg hz] at h
      cases h
      exact ⟨_, hb.extend hz hdk⟩
  · have hclean : dirty (i * 64 + j) = false := by simpa using hdk
    rw [if_neg hdk] at h
    by_cases hpos : writeSize > 0
    · rw [if_pos hpos] at h
      unfold Region.writeAllTo at h
      by_cases hfit : dirtyBatchStart + writeSize ≤ region.data.length
      · rw [if_pos hfit] at h
        cases h
        exact ⟨_, hb.flush hps hpos hfit hclean⟩
      · rw [if_neg hfit] at h
        cases h
    · rw [if_neg hpos] at h
      cases h
      exact ⟨_, hb.skip hps (by omega) hclean⟩

theorem pageDirty_word {pageSize : Nat} {region : Region} {kvmBitmap : List (BitVec 64)} {i j : Nat}
    {v : BitVec 64} (hv : kvmBitmap.getD i 0 = v) (hj : j < 64) :
    pageDirty pageSize region kvmBitmap (i * 64 + j) =
      ((v >>> j) &&& 1 != 0 || region.dirtyAt ((i * 64 + j) * pageSize)) := by
  have hdiv : (i * 64 + j) / 64 = i := by omega
  have hmod : (i * 64 + j) % 64 = j := by omega
  rw [pageDirty, hdiv, hmod, hv]

section region

variable {pageSize : Nat} {region : Region} {kvmBitmap : List (BitVec 64)} {offset : Nat}

/-- **One word.** The 64 pages of word `i` keep the invariant, from page `i * 64` to page
`(i + 1) * 64`. -/
theorem dumpDirtyWord_inv (hps : 0 < pageSize) {base : Nat → BitVec 8} {i : Nat} {v : BitVec 64}
    (hv : kvmBitmap.getD i 0 = v) {st st' : File × Nat × Nat}
    (hinv : BatchInv pageSize region.data (pageDirty pageSize region kvmBitmap) offset base (i * 64) st)
    (h : dumpDirtyWord pageSize region offset st (v, i) = .ok st') :
    BatchInv pageSize region.data (pageDirty pageSize region kvmBitmap) offset base ((i + 1) * 64) st' := by
  rw [dumpDirtyWord, List.range_eq_range'] at h
  have hrun := Loop.foldlM_range'_inv
    (P := fun j st => BatchInv pageSize region.data (pageDirty pageSize region kvmBitmap) offset base
      (i * 64 + j) st)
    64 0 st st'
    (fun j s s' _ hj hs hstep => dumpDirtyPage_inv hps (pageDirty_word hv (by omega)) hs hstep)
    (by simpa using hinv) h
  simpa [Nat.succ_mul] using hrun

/-- **One region.** A region whose dump succeeds, with a KVM bitmap that has a bit for each of its
pages, leaves the file as its dirty pages written over it at `writer_offset`; and every dirty page
that starts in the region lies in it. By the invariant over the words of the bitmap, then the last
batch. -/
theorem dumpDirtyRegion_image (hps : 0 < pageSize)
    (hcover : region.data.length ≤ kvmBitmap.length * 64 * pageSize) {writer writer' : File}
    (h : dumpDirtyRegion pageSize region kvmBitmap offset writer = .ok writer') :
    writer'.bytes = regionImage pageSize region.data (pageDirty pageSize region kvmBitmap) offset
        writer.bytes ∧
      ∀ p, pageDirty pageSize region kvmBitmap p = true → p * pageSize < region.data.length →
        (p + 1) * pageSize ≤ region.data.length := by
  unfold dumpDirtyRegion at h
  rcases hfold : kvmBitmap.zipIdx.foldlM (dumpDirtyWord pageSize region offset) (writer, 0, 0) with
    e | ⟨w, writeSize, dirtyBatchStart⟩
  · rw [hfold] at h
    cases h
  rw [hfold] at h
  dsimp only at h
  have hinit : BatchInv pageSize region.data (pageDirty pageSize region kvmBitmap) offset writer.bytes
      (0 * 64) (writer, 0, 0) :=
    ⟨0, BatchAt.empty (fun _ h => absurd h (Nat.not_lt_zero _)) pagesImage_zero.symm⟩
  have hrun := Loop.foldlM_zipIdx_inv
    (P := fun i st => BatchInv pageSize region.data (pageDirty pageSize region kvmBitmap) offset
      writer.bytes (i * 64) st)
    kvmBitmap 0 (writer, 0, 0) (w, writeSize, dirtyBatchStart)
    (fun v i s s' hmem hs hstep => dumpDirtyWord_inv hps
      (by rw [List.getD_eq_getElem?_getD, List.mem_zipIdx_iff_getElem?.1 hmem]; rfl) hs hstep)
    hinit hfold
  obtain ⟨b, hb⟩ := hrun
  rw [Nat.zero_add] at hb
  have hfit_of : kvmBitmap.length * 64 * pageSize ≤ region.data.length ∨ b = kvmBitmap.length * 64 →
      ∀ p, pageDirty pageSize region kvmBitmap p = true → p * pageSize < region.data.length →
        (p + 1) * pageSize ≤ region.data.length := by
    intro hcase p hdp hp
    have hpK : p < kvmBitmap.length * 64 := by
      by_contra hge
      have := Nat.mul_le_mul_right pageSize (Nat.le_of_not_lt hge)
      omega
    rcases Nat.lt_or_ge p b with hpb | hpb
    · exact hb.written_fit p hpb hdp
    · rcases hcase with hcase | hcase
      · have := Nat.mul_le_mul_right pageSize (show p + 1 ≤ kvmBitmap.length * 64 by omega)
        omega
      · omega
  by_cases hpos : writeSize > 0
  · rw [if_pos hpos] at h
    unfold Region.writeAllTo at h
    by_cases hfit : dirtyBatchStart + writeSize ≤ region.data.length
    · rw [if_pos hfit] at h
      cases h
      obtain ⟨hkfit, hbytes⟩ := hb.close hps hpos hfit
      exact ⟨hbytes.trans (pagesImage_of_cover hps hcover), hfit_of (.inl hkfit)⟩
    · rw [if_neg hfit] at h
      cases h
  · rw [if_neg hpos] at h
    cases h
    have hbK := hb.eq_of_size_zero hps (by omega)
    subst hbK
    exact ⟨hb.bytes.trans (pagesImage_of_cover hps hcover), hfit_of (.inr rfl)⟩

end region

/-! ## The regions -/

/-- The file layout: each region with its offset, from `offset` on. -/
def layout : List Region → Nat → List GuestMemoryRegionState
  | [], _ => []
  | region :: regions, offset =>
    ⟨region.startAddr, region.data.length, offset⟩ :: layout regions (offset + region.data.length)

theorem describe_foldl (regions : List Region) (acc : List GuestMemoryRegionState) (offset : Nat) :
    regions.foldl (fun (acc : List GuestMemoryRegionState × Nat) region =>
        (acc.1 ++ [⟨region.startAddr, region.data.length, acc.2⟩], acc.2 + region.data.length))
      (acc, offset) =
      (acc ++ layout regions offset, offset + (regions.map fun r => r.data.length).sum) := by
  induction regions generalizing acc offset with
  | nil => simp [layout]
  | cons region regions ih =>
    rw [List.foldl_cons, ih]
    simp [layout, Nat.add_assoc]

theorem describe_eq (regions : List Region) : describe regions = layout regions 0 := by
  rw [describe, describe_foldl, List.nil_append]

theorem layout_offset (regions : List Region) (offset : Nat) :
    (layout regions offset).map GuestMemoryRegionState.offset =
      (List.range regions.length).map fun slot =>
        offset + ((regions.take slot).map fun r => r.data.length).sum := by
  induction regions generalizing offset with
  | nil => rfl
  | cons region regions ih =>
    rw [layout, List.map_cons, ih, List.length_cons, List.range_succ_eq_map]
    simp [Function.comp_def, Nat.add_assoc]

def InDirtyPage (pageSize : Nat) (region : Region) (kvmBitmap : List (BitVec 64)) (offset pos : Nat) :
    Prop :=
  ∃ p, pageDirty pageSize region kvmBitmap p = true ∧ (p + 1) * pageSize ≤ region.data.length ∧
    offset + p * pageSize ≤ pos ∧ pos < offset + (p + 1) * pageSize

theorem regionImage_eq_of_not_inDirtyPage {pageSize : Nat} (hps : 0 < pageSize) {region : Region}
    {kvmBitmap : List (BitVec 64)} {offset pos : Nat} {base : Nat → BitVec 8}
    (hfit : ∀ p, pageDirty pageSize region kvmBitmap p = true → p * pageSize < region.data.length →
      (p + 1) * pageSize ≤ region.data.length)
    (hpos : ¬ InDirtyPage pageSize region kvmBitmap offset pos) :
    regionImage pageSize region.data (pageDirty pageSize region kvmBitmap) offset base pos = base pos := by
  unfold regionImage
  rw [if_neg]
  rintro ⟨hle, hlt, hdirty⟩
  have hlow := Nat.div_mul_le_self (pos - offset) pageSize
  have hhigh := Nat.lt_div_mul_add (a := pos - offset) hps
  exact hpos ⟨_, hdirty, hfit _ hdirty (by omega), by omega, by rw [Nat.add_mul, Nat.one_mul]; omega⟩

theorem regionImage_of_inDirtyPage {pageSize : Nat} (hps : 0 < pageSize) {region : Region}
    {kvmBitmap : List (BitVec 64)} {offset p k : Nat} {base : Nat → BitVec 8}
    (hdirty : pageDirty pageSize region kvmBitmap p = true)
    (hfit : (p + 1) * pageSize ≤ region.data.length) (hk : k < pageSize) :
    regionImage pageSize region.data (pageDirty pageSize region kvmBitmap) offset base
        (offset + p * pageSize + k) = region.data.getD (p * pageSize + k) 0 := by
  have hpage : (p * pageSize + k) / pageSize = p := by
    rw [Nat.add_comm, Nat.add_mul_div_right _ _ hps, Nat.div_eq_of_lt hk, Nat.zero_add]
  unfold regionImage
  rw [if_pos ⟨by omega, by rw [Nat.add_mul, Nat.one_mul] at hfit; omega, by simpa [Nat.add_assoc, hpage] using hdirty⟩]
  simp [Nat.add_assoc]

theorem le_offset_of_mem_layout {regions : List Region} {offset : Nat} {st : GuestMemoryRegionState}
    (h : st ∈ layout regions offset) : offset ≤ st.offset := by
  induction regions generalizing offset with
  | nil => cases h
  | cons region regions ih =>
    rcases List.mem_cons.1 h with rfl | h
    · exact Nat.le_refl _
    · have := ih h
      omega

theorem size_of_layout {regions : List Region} {offset idx : Nat} {region : Region}
    {st : GuestMemoryRegionState} (hr : regions[idx]? = some region)
    (hst : (layout regions offset)[idx]? = some st) : st.size = region.data.length := by
  induction regions generalizing offset idx with
  | nil => simp at hr
  | cons r regions ih =>
    cases idx with
    | zero =>
      simp only [List.getElem?_cons_zero, Option.some.injEq, layout] at hr hst
      subst hr hst
      rfl
    | succ idx => exact ih hr hst

theorem layout_ordered {regions : List Region} {offset idx idx' : Nat}
    {st st' : GuestMemoryRegionState} (hidx : idx < idx')
    (hst : (layout regions offset)[idx]? = some st) (hst' : (layout regions offset)[idx']? = some st') :
    st.offset + st.size ≤ st'.offset := by
  induction regions generalizing offset idx idx' with
  | nil => simp [layout] at hst
  | cons r regions ih =>
    obtain ⟨idx', rfl⟩ : ∃ i, idx' = i + 1 := ⟨idx' - 1, by omega⟩
    rw [layout, List.getElem?_cons_succ] at hst'
    cases idx with
    | zero =>
      simp only [layout, List.getElem?_cons_zero, Option.some.injEq] at hst
      subst hst
      exact le_offset_of_mem_layout (List.mem_of_getElem? hst')
    | succ idx =>
      rw [layout, List.getElem?_cons_succ] at hst
      exact ih (by omega) hst hst'

theorem not_inDirtyPage_of_clean {pageSize : Nat} {regions : List Region} {offset slot p k : Nat}
    {region : Region} {kvmBitmap : List (BitVec 64)} {st : GuestMemoryRegionState}
    {dirtyBitmap : Nat → Option (List (BitVec 64))}
    (hr : regions[slot]? = some region) (hb : dirtyBitmap slot = some kvmBitmap)
    (hst : (layout regions offset)[slot]? = some st)
    (hclean : pageDirty pageSize region kvmBitmap p = false)
    (hfit : (p + 1) * pageSize ≤ region.data.length) (hk : k < pageSize) :
    ∀ slot' region' kvmBitmap' st', regions[slot']? = some region' →
      dirtyBitmap slot' = some kvmBitmap' → (layout regions offset)[slot']? = some st' →
      ¬ InDirtyPage pageSize region' kvmBitmap' st'.offset (st.offset + p * pageSize + k) := by
  intro slot' region' kvmBitmap' st' hr' hb' hst' ⟨p', hdirty, hfit', hle, hlt⟩
  have hsize := size_of_layout hr hst
  have hsize' := size_of_layout hr' hst'
  rw [Nat.add_mul, Nat.one_mul] at hfit hfit' hlt
  rcases Nat.lt_trichotomy slot' slot with hlt' | rfl | hgt
  · have := layout_ordered hlt' hst' hst
    omega
  · rw [hr, Option.some.injEq] at hr'
    rw [hb, Option.some.injEq] at hb'
    rw [hst, Option.some.injEq] at hst'
    subst hr' hb' hst'
    have hpp : p' = p := by
      have h₁ : p' * pageSize < (p + 1) * pageSize := by rw [Nat.add_mul, Nat.one_mul]; omega
      have h₂ : p * pageSize < (p' + 1) * pageSize := by rw [Nat.add_mul, Nat.one_mul]; omega
      have := Nat.lt_of_mul_lt_mul_right h₁
      have := Nat.lt_of_mul_lt_mul_right h₂
      omega
    rw [hpp, hclean] at hdirty
    cases hdirty
  · have := layout_ordered hgt hst hst'
    omega

/-- **The regions.** The loop over the regions, from slot `slot` at `writer_offset`: when it
succeeds, every dirty page of every region holds the region's bytes at the region's place in the
layout, and every byte outside the dirty pages is as it was. By induction on the regions: the
first region writes its dirty pages in its own range, and the regions after it write past it. -/
theorem dumpDirtyLoop_image {pageSize : Nat} (hps : 0 < pageSize)
    {dirtyBitmap : Nat → Option (List (BitVec 64))} :
    ∀ (regions : List Region) (slot offset : Nat) (writer writer' : File),
      (∀ idx region kvmBitmap, regions[idx]? = some region → dirtyBitmap (slot + idx) = some kvmBitmap →
        region.data.length ≤ kvmBitmap.length * 64 * pageSize) →
      dumpDirtyLoop pageSize dirtyBitmap slot offset regions writer = some (.ok writer') →
      (∀ idx region kvmBitmap st, regions[idx]? = some region →
        dirtyBitmap (slot + idx) = some kvmBitmap → (layout regions offset)[idx]? = some st →
        ∀ p, pageDirty pageSize region kvmBitmap p = true → (p + 1) * pageSize ≤ region.data.length →
          ∀ k < pageSize, writer'.bytes (st.offset + p * pageSize + k) = region.data.getD (p * pageSize + k) 0) ∧
      (∀ pos, (∀ idx region kvmBitmap st, regions[idx]? = some region →
          dirtyBitmap (slot + idx) = some kvmBitmap → (layout regions offset)[idx]? = some st →
          ¬ InDirtyPage pageSize region kvmBitmap st.offset pos) →
        writer'.bytes pos = writer.bytes pos)
  | [], slot, offset, writer, writer', _, h => by
    simp only [dumpDirtyLoop, Option.some.injEq, Except.ok.injEq] at h
    subst h
    exact ⟨fun _ _ _ _ hr => by simp at hr, fun _ _ => rfl⟩
  | region :: regions, slot, offset, writer, writer', hcover, h => by
    simp only [dumpDirtyLoop] at h
    rcases hbm : dirtyBitmap slot with _ | kvmBitmap
    · rw [hbm] at h
      cases h
    rw [hbm] at h
    dsimp only at h
    rcases hreg : dumpDirtyRegion pageSize region kvmBitmap offset writer with e | writer₁
    · rw [hreg] at h
      cases h
    rw [hreg] at h
    dsimp only at h
    obtain ⟨himage, hfit⟩ := dumpDirtyRegion_image hps (hcover 0 region kvmBitmap rfl hbm) hreg
    have hslot : ∀ idx, slot + 1 + idx = slot + (idx + 1) := fun idx => by omega
    obtain ⟨hpages, hrest⟩ := dumpDirtyLoop_image hps regions (slot + 1) (offset + region.data.length)
      writer₁ writer' (fun idx r bm hr hb => hcover (idx + 1) r bm hr (hslot idx ▸ hb)) h
    have hbefore : ∀ pos, pos < offset + region.data.length → writer'.bytes pos = writer₁.bytes pos := by
      intro pos hpos
      refine hrest pos fun idx r bm st _ _ hst ⟨p, _, _, hle, _⟩ => ?_
      have := le_offset_of_mem_layout (List.mem_of_getElem? hst)
      omega
    refine ⟨?_, ?_⟩
    · intro idx r bm st hr hb hst p hdirty hpfit k hk
      cases idx with
      | zero =>
        simp only [List.getElem?_cons_zero, Option.some.injEq, layout] at hr hst
        subst hr hst
        rw [Nat.add_zero, hbm, Option.some.injEq] at hb
        subst hb
        dsimp only
        rw [hbefore _ (by rw [Nat.add_mul, Nat.one_mul] at hpfit; omega), himage]
        exact regionImage_of_inDirtyPage hps hdirty hpfit hk
      | succ idx =>
        exact hpages idx r bm st hr (hslot idx ▸ hb) hst p hdirty hpfit k hk
    · intro pos hnot
      rw [hrest pos fun idx r bm st hr hb hst =>
          hnot (idx + 1) r bm st hr (hslot idx ▸ hb) hst,
        himage]
      exact regionImage_eq_of_not_inDirtyPage hps hfit (hnot 0 region kvmBitmap _ rfl hbm rfl)

/-! ## `dump` and `restore` -/

theorem dump_layout :
    ∀ (regions : List Region) (writer : File), ∃ writer', dump regions writer = .ok writer' ∧
      (∀ (idx : Nat) (region : Region) (st : GuestMemoryRegionState), regions[idx]? = some region →
        (layout regions writer.pos)[idx]? = some st →
        ∀ k < region.data.length, writer'.bytes (st.offset + k) = region.data.getD k 0) ∧
      ∀ pos < writer.pos, writer'.bytes pos = writer.bytes pos
  | [], writer => ⟨writer, rfl, fun _ _ _ hr => by simp at hr, fun _ _ => rfl⟩
  | region :: regions, writer => by
    have hwrite : region.writeAllTo 0 writer region.data.length = .ok (writer.writeAll region.data) := by
      simp [Region.writeAllTo]
    obtain ⟨writer', hdump, hplaced, hbelow⟩ := dump_layout regions (writer.writeAll region.data)
    refine ⟨writer', ?_, ?_, ?_⟩
    · rw [dump, List.foldlM_cons, hwrite]
      exact hdump
    · intro idx r st hr hst k hk
      cases idx with
      | zero =>
        simp only [List.getElem?_cons_zero, Option.some.injEq, layout] at hr hst
        subst hr hst
        rw [hbelow _ (by simp [File.writeAll]; omega)]
        simp [File.writeAll, hk]
      | succ idx => exact hplaced idx r st hr (by simpa [layout, File.writeAll] using hst) k hk
    · intro pos hpos
      rw [hbelow _ (by simp [File.writeAll]; omega)]
      simp [File.writeAll, show ¬ writer.pos ≤ pos by omega]

theorem restore_layout {regions : List Region} {offset : Nat} {bytes : Nat → BitVec 8}
    (hplaced : ∀ (idx : Nat) (region : Region) (st : GuestMemoryRegionState), regions[idx]? = some region →
      (layout regions offset)[idx]? = some st →
      ∀ k < region.data.length, bytes (st.offset + k) = region.data.getD k 0) :
    (restore (some bytes) (layout regions offset)).map Region.data = regions.map Region.data := by
  induction regions generalizing offset with
  | nil => rfl
  | cons region regions ih =>
    simp only [layout, restore, List.map_cons, List.map_map] at ih ⊢
    congr 1
    · refine List.ext_getElem (by simp) fun k hk _ => ?_
      simp only [List.length_map, List.length_range] at hk
      have := hplaced 0 region _ rfl rfl k hk
      simp [this, List.getElem?_eq_getElem hk]
    · exact ih fun idx r st hr hst => hplaced (idx + 1) r st hr hst

/-- **Diff snapshots write exactly the dirty pages at the right offsets.** For every guest memory
layout, every map from slots to KVM bitmaps with a bit for each page of its region, and every
Firecracker bitmap: `describe` puts each region at the lengths of the regions before it added up;
when `dump_dirty` succeeds, every page marked dirty in either bitmap holds that page's bytes at
its region's offset plus its own, no byte of a page clean in both is written, nor any byte outside
the dirty pages; and `dump` from the
start of a file writes the regions where `restore` maps them back from. -/
theorem dumpDirty_pages {pageSize : Nat} (hps : 0 < pageSize) {regions : List Region}
    {dirtyBitmap : Nat → Option (List (BitVec 64))}
    (hcover : ∀ slot region kvmBitmap, regions[slot]? = some region → dirtyBitmap slot = some kvmBitmap →
      region.data.length ≤ kvmBitmap.length * 64 * pageSize)
    {writer writer' : File} (h : dumpDirty pageSize regions dirtyBitmap writer = some (.ok writer')) :
    (describe regions).map GuestMemoryRegionState.offset =
        (List.range regions.length).map (fun slot => ((regions.take slot).map fun r => r.data.length).sum) ∧
      (∀ slot region kvmBitmap st, regions[slot]? = some region → dirtyBitmap slot = some kvmBitmap →
        (describe regions)[slot]? = some st →
        ∀ p, pageDirty pageSize region kvmBitmap p = true → (p + 1) * pageSize ≤ region.data.length →
          ∀ k < pageSize, writer'.bytes (st.offset + p * pageSize + k) = region.data.getD (p * pageSize + k) 0) ∧
      (∀ slot region kvmBitmap st, regions[slot]? = some region → dirtyBitmap slot = some kvmBitmap →
        (describe regions)[slot]? = some st →
        ∀ p, pageDirty pageSize region kvmBitmap p = false → (p + 1) * pageSize ≤ region.data.length →
          ∀ k < pageSize, writer'.bytes (st.offset + p * pageSize + k) = writer.bytes (st.offset + p * pageSize + k)) ∧
      (∀ pos, (∀ slot region kvmBitmap st, regions[slot]? = some region →
          dirtyBitmap slot = some kvmBitmap → (describe regions)[slot]? = some st →
          ¬ InDirtyPage pageSize region kvmBitmap st.offset pos) →
        writer'.bytes pos = writer.bytes pos) ∧
      ∀ file : File, file.pos = 0 → ∃ file', dump regions file = .ok file' ∧
        (restore (some file'.bytes) (describe regions)).map Region.data = regions.map Region.data := by
  rw [describe_eq]
  obtain ⟨hpages, hrest⟩ := dumpDirtyLoop_image hps regions 0 0 writer writer'
    (fun idx r bm hr hb => hcover idx r bm hr (by rwa [Nat.zero_add] at hb)) h
  have hunchanged : ∀ pos, (∀ slot region kvmBitmap st, regions[slot]? = some region →
      dirtyBitmap slot = some kvmBitmap → (layout regions 0)[slot]? = some st →
      ¬ InDirtyPage pageSize region kvmBitmap st.offset pos) → writer'.bytes pos = writer.bytes pos :=
    fun pos hnot => hrest pos fun idx r bm st hr hb hst => hnot idx r bm st hr (by rwa [Nat.zero_add] at hb) hst
  refine ⟨by simpa using layout_offset regions 0, fun slot r bm st hr hb hst =>
    hpages slot r bm st hr (by rwa [Nat.zero_add]) hst, ?_, hunchanged, ?_⟩
  · intro slot r bm st hr hb hst p hclean hfit k hk
    exact hunchanged _ (not_inDirtyPage_of_clean hr hb hst hclean hfit hk)
  intro file hfile
  obtain ⟨file', hdump, hplaced, -⟩ := dump_layout regions file
  rw [hfile] at hplaced
  exact ⟨file', hdump, restore_layout hplaced⟩

/-- Two regions of one-byte pages: `[1, 2, 3]`, and `[4, 5]` at `0x1000` whose first page the
Firecracker bitmap marks dirty. -/
def twoRegions : List Region :=
  [⟨0, [1, 2, 3], fun _ => false⟩, ⟨0x1000, [4, 5], fun offset => offset == 0⟩]

/-- KVM marks pages `0` and `2` of slot `0` and page `1` of slot `1` dirty. -/
def twoRegionsBitmap (slot : Nat) : Option (List (BitVec 64)) :=
  if slot = 0 then some [0b101] else if slot = 1 then some [0b10] else none

theorem dumpDirty_pages_twoRegions :
    ∃ writer', dumpDirty 1 twoRegions twoRegionsBitmap ⟨fun _ => 0, 0⟩ = some (.ok writer') ∧
      writer'.bytes 2 = 3 ∧ writer'.bytes 4 = 5 := by
  obtain ⟨writer', h⟩ : ∃ writer', dumpDirty 1 twoRegions twoRegionsBitmap ⟨fun _ => 0, 0⟩ =
      some (.ok writer') := ⟨_, rfl⟩
  have hcover : ∀ slot region kvmBitmap, twoRegions[slot]? = some region →
      twoRegionsBitmap slot = some kvmBitmap → region.data.length ≤ kvmBitmap.length * 64 * 1 := by
    intro slot region kvmBitmap hr hb
    rcases slot with _ | _ | slot
    · simp [twoRegions, twoRegionsBitmap] at hr hb
      subst hr hb
      decide
    · simp [twoRegions, twoRegionsBitmap] at hr hb
      subst hr hb
      decide
    · simp [twoRegions] at hr
  obtain ⟨-, hpages, -, -, -⟩ := dumpDirty_pages (by decide) hcover h
  exact ⟨writer', h, hpages 0 _ _ ⟨0, 3, 0⟩ rfl rfl rfl 2 (by decide) (by decide) 0 (by decide),
    hpages 1 _ _ ⟨0x1000, 2, 3⟩ rfl rfl rfl 1 (by decide) (by decide) 0 (by decide)⟩

end MemorySnapshot
end Firecracker
