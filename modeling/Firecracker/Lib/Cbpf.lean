import Mathlib

/-!
# Firecracker.Lib.Cbpf

Classic BPF, the filter language of `SO_ATTACH_FILTER` and `seccomp(2)`, in its accumulator
fragment: absolute word loads, `and` with a constant, the unconditional jump, the conditional
jumps `jeq`, `jgt`, `jge` on a constant, and `ret` of a constant.

Every jump of classic BPF goes forward. Running from an instruction is therefore running the
suffix of the program that starts there: `exec` takes that suffix, a jump over `n` instructions
continues with `rest.drop n`, and a run that leaves the program (falls off its end or jumps past
it) faults. `exec p a = .ret v` thus says at once that the run stays inside `p`, ends at a `ret`,
and returns `v`.

The lemmas are the ones a compiler proof needs: one equation per instruction, and `AccFree`,
the suffixes whose outcome does not depend on the accumulator they are entered with (a suffix
that starts by loading, or by returning, forgets the accumulator).
-/

namespace Cbpf

/-- A filter block, `struct sock_filter` of `linux/filter.h`. -/
structure Insn where
  code : BitVec 16
  jt : BitVec 8
  jf : BitVec 8
  k : BitVec 32
  deriving DecidableEq, Repr

inductive Op where
  | ldAbsW
  | andK
  | ja
  | jeqK
  | jgtK
  | jgeK
  | retK
  | unsupported
  deriving DecidableEq, Repr

/-- Opcodes are compared whole, as the kernel's filter checker does. -/
def decode (code : BitVec 16) : Op :=
  match code.toNat with
  | 0x20 => .ldAbsW
  | 0x54 => .andK
  | 0x05 => .ja
  | 0x15 => .jeqK
  | 0x25 => .jgtK
  | 0x35 => .jgeK
  | 0x06 => .retK
  | _ => .unsupported

inductive Outcome where
  | ret (v : BitVec 32)
  | fault
  deriving DecidableEq, Repr

/-- Run the suffix `p` from accumulator `a`. `ld k` is the input word at byte offset `k`, or
`none` where the input has no such word. Comparisons are unsigned. -/
def exec (ld : BitVec 32 → Option (BitVec 32)) : List Insn → BitVec 32 → Outcome
  | [], _ => .fault
  | i :: rest, a =>
    match decode i.code with
    | .ldAbsW =>
      match ld i.k with
      | some w => exec ld rest w
      | none => .fault
    | .andK => exec ld rest (a &&& i.k)
    | .ja => exec ld (rest.drop i.k.toNat) a
    | .jeqK => exec ld (rest.drop (if a = i.k then i.jt.toNat else i.jf.toNat)) a
    | .jgtK => exec ld (rest.drop (if i.k < a then i.jt.toNat else i.jf.toNat)) a
    | .jgeK => exec ld (rest.drop (if i.k ≤ a then i.jt.toNat else i.jf.toNat)) a
    | .retK => .ret i.k
    | .unsupported => .fault
termination_by p => p.length
decreasing_by all_goals simp only [List.length_drop, List.length_cons]; omega

section Equations

variable {ld : BitVec 32 → Option (BitVec 32)} {i : Insn} {rest : List Insn} {a : BitVec 32}

theorem exec_ldAbsW {w : BitVec 32} (h : decode i.code = .ldAbsW) (hw : ld i.k = some w) :
    exec ld (i :: rest) a = exec ld rest w := by
  simp [exec, h, hw]

theorem exec_andK (h : decode i.code = .andK) :
    exec ld (i :: rest) a = exec ld rest (a &&& i.k) := by
  simp only [exec, h]

theorem exec_ja (h : decode i.code = .ja) :
    exec ld (i :: rest) a = exec ld (rest.drop i.k.toNat) a := by
  simp only [exec, h]

theorem exec_jeqK (h : decode i.code = .jeqK) :
    exec ld (i :: rest) a =
      if a = i.k then exec ld (rest.drop i.jt.toNat) a else exec ld (rest.drop i.jf.toNat) a := by
  simp only [exec, h]
  split <;> rfl

theorem exec_jgtK (h : decode i.code = .jgtK) :
    exec ld (i :: rest) a =
      if i.k < a then exec ld (rest.drop i.jt.toNat) a else exec ld (rest.drop i.jf.toNat) a := by
  simp only [exec, h]
  split <;> rfl

theorem exec_jgeK (h : decode i.code = .jgeK) :
    exec ld (i :: rest) a =
      if i.k ≤ a then exec ld (rest.drop i.jt.toNat) a else exec ld (rest.drop i.jf.toNat) a := by
  simp only [exec, h]
  split <;> rfl

theorem exec_retK (h : decode i.code = .retK) : exec ld (i :: rest) a = .ret i.k := by
  simp only [exec, h]

end Equations

/-! ## Continuations that forget the accumulator -/

/-- Running `p` gives the same outcome whatever accumulator it is entered with. -/
def AccFree (ld : BitVec 32 → Option (BitVec 32)) (p : List Insn) : Prop :=
  ∀ a b, exec ld p a = exec ld p b

section AccFree

variable {ld : BitVec 32 → Option (BitVec 32)} {i : Insn} {rest : List Insn}

theorem accFree_retK (h : decode i.code = .retK) : AccFree ld (i :: rest) := by
  intro a b
  rw [exec_retK h, exec_retK h]

end AccFree

end Cbpf
