import Mathlib

/-!
# Firecracker.Lib.Halves

A 64-bit word seen as its two 32-bit halves, the way a 32-bit machine handles it. Unsigned
comparison of 64-bit words is the lexicographic comparison of (high half, low half), and
masking works half by half. These are the facts a compiler from 64-bit comparisons to 32-bit
tests relies on.
-/

namespace Halves

def hi (x : BitVec 64) : BitVec 32 := (x >>> 32).setWidth 32

def lo (x : BitVec 64) : BitVec 32 := x.setWidth 32

theorem toNat_hi (x : BitVec 64) : (hi x).toNat = x.toNat / 2 ^ 32 := by
  have hx := x.isLt
  simp only [hi, BitVec.toNat_setWidth, BitVec.toNat_ushiftRight, Nat.shiftRight_eq_div_pow]
  omega

theorem toNat_lo (x : BitVec 64) : (lo x).toNat = x.toNat % 2 ^ 32 := by
  simp [lo, BitVec.toNat_setWidth]

theorem toNat_eq_hi_lo (x : BitVec 64) : x.toNat = (hi x).toNat * 2 ^ 32 + (lo x).toNat := by
  rw [toNat_hi, toNat_lo]
  omega

theorem eq_iff (x y : BitVec 64) : x = y ↔ hi x = hi y ∧ lo x = lo y := by
  have hx := toNat_eq_hi_lo x
  have hy := toNat_eq_hi_lo y
  have := (lo x).isLt
  have := (lo y).isLt
  simp only [BitVec.toNat_eq]
  omega

theorem lt_iff (x y : BitVec 64) : x < y ↔ hi x < hi y ∨ hi x = hi y ∧ lo x < lo y := by
  have hx := toNat_eq_hi_lo x
  have hy := toNat_eq_hi_lo y
  have := (lo x).isLt
  have := (lo y).isLt
  simp only [BitVec.lt_def, BitVec.toNat_eq]
  omega

theorem le_iff (x y : BitVec 64) : x ≤ y ↔ hi x < hi y ∨ hi x = hi y ∧ lo x ≤ lo y := by
  have hx := toNat_eq_hi_lo x
  have hy := toNat_eq_hi_lo y
  have := (lo x).isLt
  have := (lo y).isLt
  simp only [BitVec.le_def, BitVec.lt_def, BitVec.toNat_eq]
  omega

theorem hi_and (x y : BitVec 64) : hi (x &&& y) = hi x &&& hi y := by
  simp only [hi, BitVec.ushiftRight_and_distrib, BitVec.setWidth_and]

theorem lo_and (x y : BitVec 64) : lo (x &&& y) = lo x &&& lo y := by
  simp only [lo, BitVec.setWidth_and]

end Halves
