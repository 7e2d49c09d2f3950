import Mathlib

/-!
# Firecracker.Lib.Wrapping

Distances on the ring of `w`-bit numbers, as wrapping counters and sequence numbers use them.
`dist a b` is how far `b` lies ahead of `a` going forward, a number below `2 ^ w`.

Going forward from `a` to `b` and on to `c` covers `dist a c` up to a multiple of `2 ^ w`
(`dist_add_mod`). With this, a statement
about wrapping numbers measured from one base becomes one about natural numbers below `2 ^ w`,
which `omega` decides once `w` is a numeral.
-/

namespace Wrapping

variable {w : Nat}

def dist (a b : BitVec w) : Nat := (b - a).toNat

theorem dist_lt (a b : BitVec w) : dist a b < 2 ^ w := (b - a).isLt

@[simp] theorem dist_self (a : BitVec w) : dist a a = 0 := by
  simp [dist]

theorem dist_eq_zero_iff {a b : BitVec w} : dist a b = 0 ↔ a = b := by
  constructor
  · intro h
    have hz : b - a = 0 := BitVec.eq_of_toNat_eq (by simpa [dist] using h)
    exact (sub_eq_zero.mp hz).symm
  · rintro rfl
    exact dist_self a

theorem dist_add_mod (a b c : BitVec w) : dist a c = (dist a b + dist b c) % 2 ^ w := by
  unfold dist
  rw [← BitVec.toNat_add]
  congr 1
  abel

@[simp] theorem dist_self_add (a k : BitVec w) : dist a (a + k) = k.toNat := by
  simp [dist]

theorem dist_add_right {a b : BitVec w} {n : Nat} (h : dist a b + n < 2 ^ w) :
    dist a (b + BitVec.ofNat w n) = dist a b + n := by
  rw [dist_add_mod a b, dist_self_add, BitVec.toNat_ofNat, Nat.mod_eq_of_lt (by omega : n < 2 ^ w),
    Nat.mod_eq_of_lt h]

theorem dist_add_left {a b : BitVec w} {n : Nat} (h : n ≤ dist a b) :
    dist (a + BitVec.ofNat w n) b = dist a b - n := by
  have hlt := dist_lt a b
  have hd := dist_lt (a + BitVec.ofNat w n) b
  have hsum := dist_add_mod a (a + BitVec.ofNat w n) b
  rw [dist_self_add, BitVec.toNat_ofNat, Nat.mod_eq_of_lt (by omega : n < 2 ^ w)] at hsum
  by_cases hs : n + dist (a + BitVec.ofNat w n) b < 2 ^ w
  · rw [Nat.mod_eq_of_lt hs] at hsum
    omega
  · rw [Nat.mod_eq_sub_mod (by omega), Nat.mod_eq_of_lt (by omega)] at hsum
    omega

theorem dist_add {a b c : BitVec w} (h : dist a b + dist b c < 2 ^ w) :
    dist a c = dist a b + dist b c := by
  rw [dist_add_mod a b c, Nat.mod_eq_of_lt h]

theorem dist_add_add {a b : BitVec w} {k n : Nat} (hn : dist a b + n < 2 ^ w)
    (hk : k ≤ dist a b + n) :
    dist (a + BitVec.ofNat w k) (b + BitVec.ofNat w n) = dist a b + n - k := by
  have hk' : k ≤ dist a (b + BitVec.ofNat w n) := by rwa [dist_add_right hn]
  rw [dist_add_left hk', dist_add_right hn]

theorem sub_lt_iff_dist {a b k : BitVec w} : a - b < k ↔ dist b a < k.toNat :=
  BitVec.lt_def

/-! ## Free-running counters

A count kept in a `w`-bit counter that wraps is the count modulo `2 ^ w`. The differences and the
residues the code computes from such counters are those of the counts, on whatever turn the
counters are. -/

theorem ofNat_add_one (x : Nat) : BitVec.ofNat w x + 1 = BitVec.ofNat w (x + 1) := by
  rw [BitVec.ofNat_add]
  rfl

theorem ofNat_sub_ofNat_of_le {x y : Nat} (h : y ≤ x) :
    BitVec.ofNat w x - BitVec.ofNat w y = BitVec.ofNat w (x - y) := by
  obtain ⟨k, rfl⟩ := Nat.exists_eq_add_of_le h
  rw [Nat.add_sub_cancel_left, BitVec.ofNat_add, add_sub_cancel_left]

theorem ofNat_sub_one {x : Nat} (h : 1 ≤ x) : BitVec.ofNat w x - 1 = BitVec.ofNat w (x - 1) :=
  ofNat_sub_ofNat_of_le h

theorem ofNat_eq_ofNat_iff {x y : Nat} (h : y ≤ x) (hlt : x - y < 2 ^ w) :
    BitVec.ofNat w x = BitVec.ofNat w y ↔ x = y := by
  constructor
  · intro heq
    have h0 : BitVec.ofNat w (x - y) = 0 := by rw [← ofNat_sub_ofNat_of_le h, heq, sub_self]
    have := congrArg BitVec.toNat h0
    rw [BitVec.toNat_ofNat, Nat.mod_eq_of_lt hlt] at this
    simp at this
    omega
  · rintro rfl
    rfl

theorem toNat_ofNat_mod {s : Nat} (hs : s ∣ 2 ^ w) (x : Nat) :
    (BitVec.ofNat w x).toNat % s = x % s := by
  rw [BitVec.toNat_ofNat, Nat.mod_mod_of_dvd _ hs]

end Wrapping
