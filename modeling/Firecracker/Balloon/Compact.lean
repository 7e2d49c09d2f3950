import Mathlib.Data.List.Sort
import Mathlib.Data.List.Chain
import Mathlib.Data.BitVec

/-!
# Firecracker.Balloon.Compact

`devices/src/virtio/balloon/utils.rs`: `compact_page_frame_numbers`, which turns the page frame
numbers the guest gives up into ranges of consecutive pages for `remove_range`.

The numbers are sorted, then one pass extends the most recent range `[v[previous],
v[previous] + length)` by a number right after it, skips a number equal to its predecessor, and
starts a new range at any other number. The result is the canonical decomposition of the set of
numbers: non-empty ranges within `u32`, sorted and apart (`Canonical`), whose union is the set
(`compactPageFrameNumbers_canonical`), for every slice of fewer than `2 ^ 32` numbers.

`length` is a `u32`, so the one range of a slice that holds every `u32` counts `2 ^ 32` pages and
wraps to `0` (`compactPageFrameNumbers_allPages`).
-/

namespace Firecracker
namespace Balloon

/-- The loop of `compact_page_frame_numbers` over the sorted numbers after the first. `last` is
`v[pfn_index - 1]`, and `start` is `v[previous]`: the most recent range is
`[start, start + length)`. The last range is pushed when the numbers run out. -/
def compactLoop :
    List (BitVec 32) → BitVec 32 → BitVec 32 → BitVec 32 → List (BitVec 32 × BitVec 32) →
      List (BitVec 32 × BitVec 32)
  | [], _, start, length, result => result ++ [(start, length)]
  | pfn :: rest, last, start, length, result =>
    if pfn = last then compactLoop rest pfn start length result
    else if pfn = start + length then compactLoop rest pfn start (length + 1) result
    else compactLoop rest pfn pfn 1 (result ++ [(start, length)])

/-- `compact_page_frame_numbers`; `sort_unstable` is a merge sort, as the sorted order of numbers
does not depend on the sort. -/
def compactPageFrameNumbers (v : List (BitVec 32)) : List (BitVec 32 × BitVec 32) :=
  match v.mergeSort (fun a b => decide (a ≤ b)) with
  | [] => []
  | first :: rest => compactLoop rest first first 1 []

/-! ## The canonical decomposition -/

/-- Non-empty ranges within `u32`, each ending before the next starts. -/
def Canonical (r : List (BitVec 32 × BitVec 32)) : Prop :=
  (∀ p ∈ r, 0 < p.2.toNat ∧ p.1.toNat + p.2.toNat ≤ 2 ^ 32) ∧
    r.IsChain fun p q => p.1.toNat + p.2.toNat < q.1.toNat

def Covers (r : List (BitVec 32 × BitVec 32)) (x : Nat) : Prop :=
  ∃ p ∈ r, p.1.toNat ≤ x ∧ x < p.1.toNat + p.2.toNat

theorem covers_append {r r' : List (BitVec 32 × BitVec 32)} {x : Nat} :
    Covers (r ++ r') x ↔ Covers r x ∨ Covers r' x := by
  simp only [Covers, List.mem_append]
  constructor
  · rintro ⟨p, hp | hp, hx⟩
    · exact .inl ⟨p, hp, hx⟩
    · exact .inr ⟨p, hp, hx⟩
  · rintro (⟨p, hp, hx⟩ | ⟨p, hp, hx⟩)
    · exact ⟨p, .inl hp, hx⟩
    · exact ⟨p, .inr hp, hx⟩

@[simp] theorem covers_singleton {q : BitVec 32 × BitVec 32} {x : Nat} :
    Covers [q] x ↔ q.1.toNat ≤ x ∧ x < q.1.toNat + q.2.toNat := by
  simp [Covers]

theorem canonical_append_singleton {r : List (BitVec 32 × BitVec 32)} {q : BitVec 32 × BitVec 32} :
    Canonical (r ++ [q]) ↔
      Canonical r ∧ (0 < q.2.toNat ∧ q.1.toNat + q.2.toNat ≤ 2 ^ 32) ∧
        ∀ p ∈ r.getLast?, p.1.toNat + p.2.toNat < q.1.toNat := by
  simp only [Canonical, List.mem_append, List.mem_singleton, List.isChain_append,
    List.isChain_singleton, List.head?_cons, Option.mem_def, Option.some.injEq, forall_eq', true_and]
  constructor
  · rintro ⟨hranges, hchain, hlast⟩
    exact ⟨⟨fun p hp => hranges p (.inl hp), hchain⟩, hranges q (.inr rfl), hlast⟩
  · rintro ⟨⟨hranges, hchain⟩, hq, hlast⟩
    refine ⟨fun p hp => ?_, hchain, hlast⟩
    rcases hp with hp | rfl
    · exact hranges p hp
    · exact hq

/-! ## The loop -/

/-- What the loop keeps: the ranges pushed and the open one are canonical, and the open one ends at
`last`. -/
structure LoopInv (result : List (BitVec 32 × BitVec 32)) (last start length : BitVec 32) : Prop where
  canonical : Canonical (result ++ [(start, length)])
  ends_at : start.toNat + length.toNat = last.toNat + 1

section loop

variable {result : List (BitVec 32 × BitVec 32)} {last start length pfn : BitVec 32}

theorem toNat_add_one {x : BitVec 32} (h : x.toNat + 1 < 2 ^ 32) : (x + 1).toNat = x.toNat + 1 := by
  rw [BitVec.toNat_add, show (1 : BitVec 32).toNat = 1 from rfl, Nat.mod_eq_of_lt h]

theorem LoopInv.length_pos (hinv : LoopInv result last start length) : 0 < length.toNat :=
  (hinv.canonical.1 (start, length) (by simp)).1

theorem LoopInv.end_le (hinv : LoopInv result last start length) (hlt : last < pfn) :
    start.toNat + length.toNat ≤ pfn.toNat ∧ (start + length).toNat = start.toNat + length.toNat := by
  have hlt' : last.toNat < pfn.toNat := hlt
  have hend := hinv.ends_at
  have hpfn := pfn.isLt
  refine ⟨by omega, ?_⟩
  rw [BitVec.toNat_add, Nat.mod_eq_of_lt (by omega)]

theorem LoopInv.covers_last (hinv : LoopInv result last start length) :
    Covers (result ++ [(start, length)]) last.toNat := by
  have hend := hinv.ends_at
  have hlen := hinv.length_pos
  exact covers_append.2 (.inr (covers_singleton.2 ⟨by dsimp only; omega, by dsimp only; omega⟩))

theorem LoopInv.extend (hinv : LoopInv result last start length) (hlt : last < pfn)
    (hadj : pfn = start + length) (hlen : length.toNat + 1 < 2 ^ 32) :
    LoopInv result pfn start (length + 1) ∧
      ∀ x, Covers (result ++ [(start, length + 1)]) x ↔
        Covers (result ++ [(start, length)]) x ∨ pfn.toNat = x := by
  obtain ⟨-, hsum⟩ := hinv.end_le hlt
  have hpfn : pfn.toNat = start.toNat + length.toNat := by rw [hadj, hsum]
  have hlen' : (length + 1).toNat = length.toNat + 1 := toNat_add_one hlen
  obtain ⟨hcan, -, hlast⟩ := canonical_append_singleton.1 hinv.canonical
  refine ⟨⟨canonical_append_singleton.2 ⟨hcan, ⟨?_, ?_⟩, hlast⟩, ?_⟩, fun x => ?_⟩
  · dsimp only
    omega
  · have := pfn.isLt
    dsimp only
    omega
  · omega
  · rw [covers_append, covers_append, covers_singleton, covers_singleton, or_assoc]
    dsimp only
    exact or_congr_right ⟨fun h => by omega, fun h => by omega⟩

theorem LoopInv.next (hinv : LoopInv result last start length) (hlt : last < pfn)
    (hadj : pfn ≠ start + length) :
    LoopInv (result ++ [(start, length)]) pfn pfn 1 ∧
      ∀ x, Covers (result ++ [(start, length)] ++ [(pfn, 1)]) x ↔
        Covers (result ++ [(start, length)]) x ∨ pfn.toNat = x := by
  obtain ⟨hle, hsum⟩ := hinv.end_le hlt
  have hgap : start.toNat + length.toNat < pfn.toNat := by
    refine lt_of_le_of_ne hle fun heq => hadj ?_
    exact BitVec.eq_of_toNat_eq (by rw [hsum, heq])
  have hpfn := pfn.isLt
  refine ⟨⟨canonical_append_singleton.2 ⟨hinv.canonical, ⟨by simp, by simp; omega⟩, ?_⟩, by simp⟩,
    fun x => ?_⟩
  · simpa using hgap
  · rw [covers_append, covers_singleton]
    have hone : (1 : BitVec 32).toNat = 1 := rfl
    dsimp only
    exact or_congr_right ⟨fun h => by omega, fun h => by omega⟩

end loop

/-- **The loop decomposes what it reads.** From an invariant state, over sorted numbers from
`last` on, the loop returns canonical ranges whose union is the pages already covered and the
numbers it reads; `length` counts at most the numbers read, so it does not wrap. -/
theorem compactLoop_spec {rest : List (BitVec 32)} {last start length : BitVec 32}
    {result : List (BitVec 32 × BitVec 32)} (hinv : LoopInv result last start length)
    (hsorted : (last :: rest).Pairwise (· ≤ ·)) (hcount : length.toNat + rest.length < 2 ^ 32) :
    Canonical (compactLoop rest last start length result) ∧
      ∀ x, Covers (compactLoop rest last start length result) x ↔
        Covers (result ++ [(start, length)]) x ∨ ∃ y ∈ rest, y.toNat = x := by
  induction rest generalizing last start length result with
  | nil => simpa [compactLoop] using hinv.canonical
  | cons pfn rest ih =>
    have hle : last ≤ pfn := List.rel_of_pairwise_cons hsorted (by simp)
    have hrest : (pfn :: rest).Pairwise (· ≤ ·) := (List.pairwise_cons.1 hsorted).2
    simp only [List.length_cons] at hcount
    unfold compactLoop
    split
    · rename_i hdup
      subst hdup
      obtain ⟨hcan, hcov⟩ := ih hinv hrest (by omega)
      refine ⟨hcan, fun x => ?_⟩
      rw [hcov]
      have hlast := hinv.covers_last
      constructor
      · rintro (h | ⟨y, hy, rfl⟩)
        · exact .inl h
        · exact .inr ⟨y, List.mem_cons_of_mem _ hy, rfl⟩
      · rintro (h | ⟨y, hy, rfl⟩)
        · exact .inl h
        · rcases List.mem_cons.1 hy with rfl | hy
          · exact .inl hlast
          · exact .inr ⟨y, hy, rfl⟩
    have hlt : last < pfn := BitVec.lt_of_le_ne hle (Ne.symm ‹_›)
    split
    · rename_i hadj
      obtain ⟨hinv', hcov'⟩ := hinv.extend hlt hadj (by omega)
      have hlen : (length + 1).toNat = length.toNat + 1 := toNat_add_one (by omega)
      obtain ⟨hcan, hcov⟩ := ih hinv' hrest (by omega)
      refine ⟨hcan, fun x => ?_⟩
      rw [hcov, hcov']
      simp only [List.mem_cons, exists_eq_or_imp]
      tauto
    · rename_i hadj
      obtain ⟨hinv', hcov'⟩ := hinv.next hlt hadj
      have hlen := hinv.length_pos
      obtain ⟨hcan, hcov⟩ := ih hinv' hrest (by simp; omega)
      refine ⟨hcan, fun x => ?_⟩
      rw [hcov, hcov']
      simp only [List.mem_cons, exists_eq_or_imp]
      tauto

theorem pairwise_mergeSort_le (v : List (BitVec 32)) :
    (v.mergeSort fun a b => decide (a ≤ b)).Pairwise (· ≤ ·) := by
  have hsorted : (v.mergeSort fun a b => decide (a ≤ b)).Pairwise fun a b => decide (a ≤ b) = true :=
    List.pairwise_mergeSort (fun _ _ _ hab hbc => by simp only [decide_eq_true_eq] at *; exact BitVec.le_trans hab hbc)
      (fun a b => by simpa using BitVec.le_total a b) v
  exact hsorted.imp fun h => by simpa using h

/-- **The canonical decomposition.** For every slice of fewer than `2 ^ 32` numbers, in any order
and with any duplicates, the ranges are canonical and their union is the set of numbers of the
slice. -/
theorem compactPageFrameNumbers_canonical {v : List (BitVec 32)} (hv : v.length < 2 ^ 32) :
    Canonical (compactPageFrameNumbers v) ∧
      ∀ x, Covers (compactPageFrameNumbers v) x ↔ ∃ y ∈ v, y.toNat = x := by
  have hperm := List.mergeSort_perm v fun a b => decide (a ≤ b)
  have hsorted := pairwise_mergeSort_le v
  unfold compactPageFrameNumbers
  split
  · rename_i hnil
    rw [hnil] at hperm
    obtain rfl := hperm.nil_eq.symm
    exact ⟨⟨by simp, List.IsChain.nil⟩, fun x => by simp [Covers]⟩
  · rename_i first rest hcons
    rw [hcons] at hperm hsorted
    have hone : (1 : BitVec 32).toNat = 1 := rfl
    have hinv : LoopInv [] first first 1 :=
      ⟨⟨by have := first.isLt; simp; omega, List.isChain_singleton _⟩, by rw [hone]⟩
    have hcount : (1 : BitVec 32).toNat + rest.length < 2 ^ 32 := by
      have := hperm.length_eq
      simp only [List.length_cons] at this
      omega
    obtain ⟨hcan, hcov⟩ := compactLoop_spec hinv hsorted hcount
    refine ⟨hcan, fun x => ?_⟩
    have hmem : ∀ y, y ∈ v ↔ y ∈ first :: rest := fun y => hperm.mem_iff.symm
    rw [hcov, List.nil_append, covers_singleton]
    simp only [hmem, List.mem_cons, exists_eq_or_imp, hone]
    exact or_congr_left ⟨fun h => by omega, fun h => by omega⟩

/-! ## Every page at once -/

/-- An unsorted slice of the size `process_inflate` hands over, with a duplicate and `u32::MAX`. -/
theorem compactPageFrameNumbers_canonical_unsorted :
    compactPageFrameNumbers [9, 3, 0xffffffff, 4, 3, 5] = [(3, 3), (9, 1), (0xffffffff, 1)] ∧
      Canonical (compactPageFrameNumbers [9, 3, 0xffffffff, 4, 3, 5]) ∧
      ∀ x, Covers (compactPageFrameNumbers [9, 3, 0xffffffff, 4, 3, 5]) x ↔
        ∃ y ∈ ([9, 3, 0xffffffff, 4, 3, 5] : List (BitVec 32)), y.toNat = x :=
  ⟨by simp [compactPageFrameNumbers, List.mergeSort, compactLoop],
    compactPageFrameNumbers_canonical (by decide)⟩

def allPages : List (BitVec 32) := (List.range (2 ^ 32)).map (BitVec.ofNat 32)

theorem compactLoop_consecutive (n k : Nat) (hk : k + n < 2 ^ 32) :
    compactLoop ((List.range' (k + 1) n).map (BitVec.ofNat 32)) (BitVec.ofNat 32 k) 0
        (BitVec.ofNat 32 (k + 1)) [] =
      [(0, BitVec.ofNat 32 (k + 1 + n))] := by
  induction n generalizing k with
  | zero => simp [compactLoop]
  | succ n ih =>
    have hne : BitVec.ofNat 32 (k + 1) ≠ BitVec.ofNat 32 k := by
      intro h
      have h' := congrArg BitVec.toNat h
      simp only [BitVec.toNat_ofNat] at h'
      omega
    have hsucc : BitVec.ofNat 32 (k + 1) + 1 = BitVec.ofNat 32 (k + 1 + 1) := by
      apply BitVec.eq_of_toNat_eq
      simp only [BitVec.toNat_add, BitVec.toNat_ofNat, show (1 : BitVec 32).toNat = 1 from rfl]
      omega
    rw [List.range'_succ, List.map_cons, compactLoop, if_neg hne, if_pos (by simp), hsucc,
      ih (k + 1) (by omega)]
    congr 3
    omega

theorem compactPageFrameNumbers_of_pairwise {first : BitVec 32} {rest : List (BitVec 32)}
    (h : (first :: rest).Pairwise fun a b => decide (a ≤ b) = true) :
    compactPageFrameNumbers (first :: rest) = compactLoop rest first first 1 [] := by
  unfold compactPageFrameNumbers
  rw [List.mergeSort_of_pairwise h]

theorem allPages_eq_cons :
    allPages = BitVec.ofNat 32 0 :: (List.range' 1 (2 ^ 32 - 1)).map (BitVec.ofNat 32) := by
  have hrange : List.range' 0 (2 ^ 32 - 1 + 1) 1 = 0 :: List.range' (0 + 1) (2 ^ 32 - 1) 1 :=
    List.range'_succ
  rw [Nat.zero_add, show 2 ^ 32 - 1 + 1 = 2 ^ 32 from rfl] at hrange
  rw [allPages, List.range_eq_range', hrange, List.map_cons]

/-- **`length` wraps.** The slice of every `u32` is one range of `2 ^ 32` pages, which `length`,
a `u32`, counts as `0`: the result is the empty range `(0, 0)`, which covers no page. -/
theorem compactPageFrameNumbers_allPages : compactPageFrameNumbers allPages = [(0, 0)] := by
  have hsorted : allPages.Pairwise fun a b => decide (a ≤ b) = true := by
    unfold allPages
    rw [List.pairwise_map]
    refine List.pairwise_lt_range.imp_of_mem fun ha hb _ => ?_
    have ha' := List.mem_range.1 ha
    have hb' := List.mem_range.1 hb
    simp only [decide_eq_true_eq, BitVec.le_def, BitVec.toNat_ofNat]
    omega
  rw [allPages_eq_cons] at hsorted ⊢
  rw [compactPageFrameNumbers_of_pairwise hsorted]
  exact compactLoop_consecutive (2 ^ 32 - 1) 0 (by decide)

end Balloon
end Firecracker
