import Mathlib.Data.Nat.ModEq
import Mathlib.Data.List.Basic

/-!
# Firecracker.Lib.Ring

A ring buffer of `n` cells kept in an array, read as the sequence it holds. The array is a
function from positions to cells; the ring holds the `len` cells from position `start` on, going
round modulo `n` (`window`). A slice is pushed with one copy up to the end of the array and one
more from its start when it does not fit (`copyWrapping`); the window then holds the slice after
what it held (`window_copyWrapping`). Consuming `k` cells moves `start` on by `k`
(`window_add_start`), and the cells up to the end of the array are read in one piece
(`slice_eq_take_window`).

Positions are taken modulo `n`, so `start` can be a free-running counter: one that wraps at a
multiple of `n` gives the same window (`window_mod_start`).

A ring that one party fills and another empties, one cell at a time, holds the cells the first
wrote and the second did not take: writing the cell after the window appends to it while the
window is shorter than a turn (`window_push`), and a window reads only the `n` cells of the ring
(`window_congr`). A window that reads as a history from some point on holds each element in the
cell of its position (`cell_of_window_eq`).
-/

namespace Ring

variable {α : Type} (data : Nat → α) {n : Nat}

/-- The `len` cells of a ring of `n` cells from position `start` on. -/
def window (n start len : Nat) : List α :=
  (List.range len).map fun i => data ((start + i) % n)

def slice (ofs len : Nat) : List α :=
  (List.range len).map fun i => data (ofs + i)

def copyAt (ofs : Nat) (xs : List α) : Nat → α :=
  fun j => if h : ofs ≤ j ∧ j - ofs < xs.length then xs[j - ofs] else data j

/-- The copies of a push at offset `ofs`: up to the end of the array, then what is left from its
start. -/
def copyWrapping (n ofs : Nat) (xs : List α) : Nat → α :=
  let len := min (n - ofs) xs.length
  let data := copyAt data ofs (xs.take len)
  if len < xs.length then copyAt data 0 (xs.drop len) else data

@[simp] theorem length_window (start len : Nat) : (window data n start len).length = len := by
  simp [window]

@[simp] theorem length_slice (ofs len : Nat) : (slice data ofs len).length = len := by
  simp [slice]

@[simp] theorem window_zero (start : Nat) : window data n start 0 = [] := rfl

theorem copyAt_of_mem {ofs j : Nat} {xs : List α} (hofs : ofs ≤ j) (hj : j - ofs < xs.length) :
    copyAt data ofs xs j = xs[j - ofs] := by
  simp [copyAt, hofs, hj]

theorem copyAt_of_not_mem {ofs j : Nat} {xs : List α} (hj : j < ofs ∨ ofs + xs.length ≤ j) :
    copyAt data ofs xs j = data j := by
  rw [copyAt, dif_neg]
  omega

/-! ## The window as the ring turns -/

theorem window_add (start len m : Nat) :
    window data n start (len + m) =
      window data n start len ++ (List.range m).map fun k => data ((start + len + k) % n) := by
  simp only [window, List.range_add, List.map_append, List.map_map]
  congr 2
  funext k
  simp [Nat.add_assoc]

theorem window_add_start {k len : Nat} (hk : k ≤ len) (start : Nat) :
    window data n (start + k) (len - k) = (window data n start len).drop k := by
  obtain ⟨m, rfl⟩ := Nat.exists_eq_add_of_le hk
  rw [window_add, List.drop_left' (length_window data start k), Nat.add_sub_cancel_left]
  rfl

theorem window_mod_start {m : Nat} (hm : n ∣ m) (start len : Nat) :
    window data n (start % m) len = window data n start len := by
  simp only [window]
  congr 1
  funext i
  rw [Nat.add_mod, Nat.mod_mod_of_dvd _ hm, ← Nat.add_mod]

theorem slice_eq_take_window {start k len : Nat} (hend : start % n + k ≤ n) (hk : k ≤ len) :
    slice data (start % n) k = (window data n start len).take k := by
  obtain ⟨m, rfl⟩ := Nat.exists_eq_add_of_le hk
  rw [window_add, List.take_left' (length_window data start k), slice, window]
  refine List.map_congr_left fun i hi => ?_
  have hi : i < k := List.mem_range.1 hi
  have hin : start % n + i < n := by omega
  rw [Nat.add_mod, Nat.mod_eq_of_lt (by omega : i < n), Nat.mod_eq_of_lt hin]

/-! ## A push -/

section push

variable {ofs : Nat} {xs : List α}

theorem copyWrapping_at (hofs : ofs < n) (hxs : xs.length ≤ n) {k : Nat} (hk : k < xs.length) :
    copyWrapping data n ofs xs ((ofs + k) % n) = xs[k] := by
  unfold copyWrapping
  by_cases hfirst : k < min (n - ofs) xs.length
  · rw [Nat.mod_eq_of_lt (by omega)]
    have hfst : copyAt data ofs (xs.take (min (n - ofs) xs.length)) (ofs + k) = xs[k] := by
      rw [copyAt_of_mem data (by omega) (by simp; omega)]
      simp
    split
    · rw [copyAt_of_not_mem _ (by simp; omega), hfst]
    · exact hfst
  · rw [if_pos (by omega), Nat.mod_eq_sub_mod (by omega), Nat.mod_eq_of_lt (by omega),
      copyAt_of_mem _ (by omega) (by simp; omega), List.getElem_drop]
    congr 1
    omega

theorem copyWrapping_of_ne (hofs : ofs < n) {j : Nat} (hj : j < n)
    (hne : ∀ k < xs.length, (ofs + k) % n ≠ j) : copyWrapping data n ofs xs j = data j := by
  unfold copyWrapping
  have hfirst : j < ofs ∨ ofs + (xs.take (min (n - ofs) xs.length)).length ≤ j := by
    by_contra hin
    apply hne (j - ofs) (by simp at hin; omega)
    rw [Nat.add_sub_cancel' (by omega), Nat.mod_eq_of_lt hj]
  split
  · have hsecond : j < 0 ∨ 0 + (xs.drop (min (n - ofs) xs.length)).length ≤ j := by
      by_contra hin
      apply hne (j + (n - ofs)) (by simp at hin; omega)
      rw [show ofs + (j + (n - ofs)) = j + n by omega, Nat.add_mod_right, Nat.mod_eq_of_lt hj]
    rw [copyAt_of_not_mem _ hsecond, copyAt_of_not_mem _ hfirst]
  · exact copyAt_of_not_mem _ hfirst

/-- **A push appends.** The slice pushed at the end of the window, when it fits in the ring,
follows what the window held. -/
theorem window_copyWrapping (hn : 0 < n) {start len : Nat} (hfit : len + xs.length ≤ n) :
    window (copyWrapping data n ((start + len) % n) xs) n start (len + xs.length) =
      window data n start len ++ xs := by
  have hofs : (start + len) % n < n := Nat.mod_lt _ hn
  rw [window_add]
  congr 1
  · refine List.map_congr_left fun i hi => copyWrapping_of_ne data hofs (Nat.mod_lt _ hn) ?_
    intro k hk heq
    have hmod : len + k ≡ i [MOD n] := by
      refine Nat.ModEq.add_left_cancel' start ?_
      rw [← Nat.add_assoc]
      exact (Nat.mod_add_mod _ _ _).symm.trans heq
    have := hmod.eq_of_lt_of_lt (by omega) (by simp at hi; omega)
    simp at hi
    omega
  · refine List.ext_getElem (by simp) fun k hk _ => ?_
    simp only [List.getElem_map, List.getElem_range]
    rw [← Nat.mod_add_mod (start + len) n k, copyWrapping_at data hofs (by omega) (by simpa using hk)]

end push

/-! ## A ring one party fills and another empties -/

section shared

variable {cell : Nat → α}

theorem getElem_window {start len i : Nat} (hi : i < (window cell n start len).length) :
    (window cell n start len)[i] = cell ((start + i) % n) := by
  simp [window]

theorem window_congr {cell' : Nat → α} (hn : 0 < n) (h : ∀ j < n, cell' j = cell j)
    (start len : Nat) : window cell' n start len = window cell n start len :=
  List.map_congr_left fun _ _ => h _ (Nat.mod_lt _ hn)

theorem mod_ne_of_lt {start i k : Nat} (hik : i < k) (hk : k < i + n) :
    (start + i) % n ≠ (start + k) % n := by
  intro heq
  have hmod : i ≡ k [MOD n] := Nat.ModEq.add_left_cancel' start heq
  have hdvd : n ∣ k - i := (Nat.modEq_iff_dvd' (Nat.le_of_lt hik)).1 hmod
  have := Nat.le_of_dvd (by omega) hdvd
  omega

/-- **A write at the cell after the window appends to it**, when the window is shorter than a
turn and no other cell of the ring changes. -/
theorem window_push {cell' : Nat → α} {start len : Nat} {x : α} (hn : 0 < n) (hlen : len < n)
    (hother : ∀ j < n, j ≠ (start + len) % n → cell' j = cell j)
    (hnew : cell' ((start + len) % n) = x) :
    window cell' n start (len + 1) = window cell n start len ++ [x] := by
  rw [window_add]
  congr 1
  · refine List.map_congr_left fun i hi => hother _ (Nat.mod_lt _ hn) ?_
    exact mod_ne_of_lt (by simpa using hi) (by omega)
  · simp [hnew]

section history

variable {β : Type} {xs : List β} {f : β → α} {start len : Nat}

theorem cell_of_window_eq (h : window cell n start len = (xs.drop start).map f) {k : Nat}
    (hk : start ≤ k) (hx : k < xs.length) : cell (k % n) = f xs[k] := by
  have hlen : len = xs.length - start := by simpa using congrArg List.length h
  have hi : k - start < (window cell n start len).length := by simp; omega
  have hcell := getElem_window hi
  rw [Nat.add_sub_cancel' hk] at hcell
  rw [← hcell]
  simp only [h, List.getElem_map, List.getElem_drop, Nat.add_sub_cancel' hk]

theorem window_succ_of_eq (h : window cell n start len = (xs.drop start).map f) (hlen : 1 ≤ len) :
    window cell n (start + 1) (len - 1) = (xs.drop (start + 1)).map f := by
  rw [window_add_start cell hlen, h, ← List.map_drop, List.drop_drop]

end history

end shared

end Ring
