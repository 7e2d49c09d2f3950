import Mathlib.Data.Nat.Bitwise

/-!
# Firecracker.Lib.OnesComplement

The end of an Internet checksum: the carries of a sum of 16-bit words are folded back into its low
16 bits until none is left, `while sum >> 16 != 0 { sum = (sum & 0xffff) + (sum >> 16) }`, and the
checksum is the complement of the result.

Folding keeps the sum modulo `2^16 - 1` (`fold_mod`), ends below `2^16` (`fold_lt`) and is zero
only for zero. What a checksum is for follows (`fold_add_complement`): adding the complement of the
folded sum to the sum folds to `0xffff`, whose complement is `0`, so a receiver who sums the words
with the checksum in place gets `0`.
-/

namespace OnesComplement

/-- Fold the carries of `sum` into its low 16 bits until none is left. -/
def fold (sum : Nat) : Nat :=
  if sum >>> 16 = 0 then sum else fold ((sum &&& 0xffff) + (sum >>> 16))
termination_by sum
decreasing_by
  rw [Nat.shiftRight_eq_div_pow] at *
  rw [show (0xffff : Nat) = 2 ^ 16 - 1 from rfl, Nat.and_two_pow_sub_one_eq_mod]
  omega

theorem fold_eq (sum : Nat) :
    fold sum = if sum < 65536 then sum else fold (sum % 65536 + sum / 65536) := by
  rw [fold, Nat.shiftRight_eq_div_pow,
    show (0xffff : Nat) = 2 ^ 16 - 1 from rfl, Nat.and_two_pow_sub_one_eq_mod]
  by_cases h : sum < 65536
  · rw [if_pos (by omega), if_pos h]
  · rw [if_neg (by omega), if_neg h]

theorem fold_spec (sum : Nat) :
    fold sum % 65535 = sum % 65535 ∧ fold sum < 65536 ∧ (fold sum = 0 ↔ sum = 0) := by
  induction sum using Nat.strong_induction_on with
  | _ sum ih =>
    rw [fold_eq]
    split
    · exact ⟨rfl, by assumption, Iff.rfl⟩
    · rename_i h
      obtain ⟨hmod, hlt, hzero⟩ := ih (sum % 65536 + sum / 65536) (by omega)
      refine ⟨by omega, hlt, ?_⟩
      rw [hzero]
      omega

theorem fold_lt (sum : Nat) : fold sum < 65536 := (fold_spec sum).2.1

/-- **The checksum check.** With the complement `0xffff - fold sum` of the folded sum added, the
sum folds to `0xffff`. -/
theorem fold_add_complement (sum : Nat) : fold (sum + (65535 - fold sum)) = 65535 := by
  obtain ⟨hmod, hlt, hzero⟩ := fold_spec sum
  obtain ⟨hmod', hlt', hzero'⟩ := fold_spec (sum + (65535 - fold sum))
  have hpos : fold (sum + (65535 - fold sum)) ≠ 0 := by
    rw [Ne, hzero']
    omega
  omega

end OnesComplement
