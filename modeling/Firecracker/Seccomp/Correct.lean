import Firecracker.Seccomp.Backend
import Firecracker.Lib.Halves

/-!
# Firecracker.Seccomp.Correct

The program that `SeccompFilter.tryInto` emits computes the filter's meaning.

The meaning (`SeccompFilter.expected`): a syscall from another architecture is killed; otherwise
the action of the first rule, in list order, of the syscall's chain whose conditions all hold,
or the default action. A `Qword` condition compares the whole 64-bit argument with its value, a
`Dword` condition the low 32 bits of both; comparisons are unsigned.

`tryInto_correct`: for every filter whose syscall numbers lie in `[0, 2^32)` and whose argument
numbers are at most 5, if `tryInto` returns a program, running it on any `seccomp_data` ends at
a `ret` of `expected` without leaving the program.

The proof follows the code generator:
* `intoBpf_exec`: a condition block falls through when the condition holds and otherwise takes
  the jump `offset`, for each of the seven operators and both lengths;
* `RuleBody`: the invariant of the backwards fold over a rule's conditions, helper jumps
  included (`appendCondition_ruleBody`);
* `toBpf_exec` and `toBpf_exec_skip`: a rule entered at its first instruction returns its action
  or reaches the next rule; entered at its second, it passes the accumulator on to the second
  instruction of the next rule;
* `chain_exec` and `chains_exec`: the syscall chains, in map order.
-/

namespace Firecracker
namespace Seccomp

open Cbpf Halves

/-! ## `struct seccomp_data` and the meaning of a filter -/

structure SeccompData where
  nr : BitVec 32
  arch : BitVec 32
  instructionPointer : BitVec 64
  args : Fin 6 → BitVec 64

def SeccompData.arg (d : SeccompData) (i : Nat) : BitVec 64 :=
  if h : i < 6 then d.args ⟨i, h⟩ else 0

/-- `BPF_LD | BPF_W | BPF_ABS` on `struct seccomp_data`: aligned words below 64, the 64-bit
fields stored low half first (the backend is `cfg(target_endian = "little")`). -/
def SeccompData.load (d : SeccompData) (k : BitVec 32) : Option (BitVec 32) :=
  if k.toNat % 4 ≠ 0 ∨ 64 ≤ k.toNat then none
  else
    match k.toNat / 4 with
    | 0 => some d.nr
    | 1 => some d.arch
    | 2 => some (lo d.instructionPointer)
    | 3 => some (hi d.instructionPointer)
    | w => some (if w % 2 = 0 then lo (d.arg (w / 2 - 2)) else hi (d.arg (w / 2 - 2)))

/-- The comparison an operator stands for, at width `w`; `m` brings the 64-bit mask of
`MaskedEq` to that width. -/
def SeccompCmpOp.test {w : Nat} (op : SeccompCmpOp) (m : BitVec 64 → BitVec w)
    (x v : BitVec w) : Bool :=
  match op with
  | .eq => x = v
  | .ge => v ≤ x
  | .gt => v < x
  | .le => x ≤ v
  | .lt => x < v
  | .maskedEq mask => (x &&& m mask) = (v &&& m mask)
  | .ne => x ≠ v

def SeccompCondition.matches (c : SeccompCondition) (d : SeccompData) : Bool :=
  match c.argLen with
  | .qword => c.operator.test id (d.arg c.argNumber.toNat) c.value
  | .dword => c.operator.test lo (lo (d.arg c.argNumber.toNat)) (lo c.value)

def SeccompRule.matches (r : SeccompRule) (d : SeccompData) : Bool :=
  r.conditions.all fun c => c.matches d

def SeccompFilter.expected (f : SeccompFilter) (d : SeccompData) : BitVec 32 :=
  if d.arch ≠ f.targetArch.getAuditValue then seccompRetKillProcess
  else
    match f.rules.entries.find? fun e => e.1.toInt = (d.nr.toNat : Int) with
    | some (_, rules) => (((rules.find? fun r => r.matches d).map (·.action)).getD
        f.defaultAction).toU32
    | none => f.defaultAction.toU32

/-! ## The instructions the backend emits -/

theorem decode_ld : decode (bpfLd + bpfW + bpfAbs) = .ldAbsW := by decide
theorem decode_and : decode (bpfAlu + bpfAnd + bpfK) = .andK := by decide
theorem decode_ja : decode (bpfJmp + bpfJa) = .ja := by decide
theorem decode_jeq : decode (bpfJmp + bpfJeq + bpfK) = .jeqK := by decide
theorem decode_jgt : decode (bpfJmp + bpfJgt + bpfK) = .jgtK := by decide
theorem decode_jge : decode (bpfJmp + bpfJge + bpfK) = .jgeK := by decide
theorem decode_ret : decode (bpfRet + bpfK) = .retK := by decide

section Insns

variable {d : SeccompData} {rest : List Insn} {a : BitVec 32}

theorem exec_ld {k w : BitVec 32} (hw : d.load k = some w) :
    exec d.load (bpfStmt (bpfLd + bpfW + bpfAbs) k :: rest) a = exec d.load rest w :=
  exec_ldAbsW decode_ld hw

theorem exec_and {k : BitVec 32} :
    exec d.load (bpfStmt (bpfAlu + bpfAnd + bpfK) k :: rest) a = exec d.load rest (a &&& k) :=
  exec_andK decode_and

theorem exec_ja {k : BitVec 32} :
    exec d.load (bpfStmt (bpfJmp + bpfJa) k :: rest) a = exec d.load (rest.drop k.toNat) a :=
  Cbpf.exec_ja decode_ja

theorem exec_jeq {k : BitVec 32} {jt jf : BitVec 8} :
    exec d.load (bpfJump (bpfJmp + bpfJeq + bpfK) k jt jf :: rest) a =
      if a = k then exec d.load (rest.drop jt.toNat) a
      else exec d.load (rest.drop jf.toNat) a :=
  exec_jeqK decode_jeq

theorem exec_jgt {k : BitVec 32} {jt jf : BitVec 8} :
    exec d.load (bpfJump (bpfJmp + bpfJgt + bpfK) k jt jf :: rest) a =
      if k < a then exec d.load (rest.drop jt.toNat) a
      else exec d.load (rest.drop jf.toNat) a :=
  exec_jgtK decode_jgt

theorem exec_jge {k : BitVec 32} {jt jf : BitVec 8} :
    exec d.load (bpfJump (bpfJmp + bpfJge + bpfK) k jt jf :: rest) a =
      if k ≤ a then exec d.load (rest.drop jt.toNat) a
      else exec d.load (rest.drop jf.toNat) a :=
  exec_jgeK decode_jge

theorem exec_ret {k : BitVec 32} :
    exec d.load (bpfStmt (bpfRet + bpfK) k :: rest) a = .ret k :=
  exec_retK decode_ret

end Insns

/-! ## Conditions -/

theorem load_arg_lo {d : SeccompData} {k : BitVec 32} {i : Nat} (hi5 : i ≤ 5)
    (hk : k.toNat = 16 + 8 * i) : d.load k = some (lo (d.arg i)) := by
  unfold SeccompData.load
  rw [if_neg (by omega), show k.toNat / 4 = 4 + 2 * i by omega]
  split
  · omega
  · omega
  · omega
  · omega
  · rw [if_pos (by omega), show (4 + 2 * i) / 2 - 2 = i by omega]

theorem load_arg_hi {d : SeccompData} {k : BitVec 32} {i : Nat} (hi5 : i ≤ 5)
    (hk : k.toNat = 20 + 8 * i) : d.load k = some (hi (d.arg i)) := by
  unfold SeccompData.load
  rw [if_neg (by omega), show k.toNat / 4 = 5 + 2 * i by omega]
  split
  · omega
  · omega
  · omega
  · omega
  · rw [if_neg (by omega), show (5 + 2 * i) / 2 - 2 = i by omega]

section Condition

variable {d : SeccompData} {c : SeccompCondition} {rest : List Insn} {a : BitVec 32}

theorem valueSegments_msb : c.valueSegments.1 = hi c.value := rfl

theorem valueSegments_lsb : c.valueSegments.2.1 = lo c.value := rfl

theorem valueSegments_msbOffset (hc : c.argNumber.toNat ≤ 5) :
    (c.valueSegments.2.2.1.setWidth 32).toNat = 20 + 8 * c.argNumber.toNat := by
  simp [SeccompCondition.valueSegments, seccompDataArgsOffset, seccompDataArgSize,
    BitVec.toNat_setWidth]
  omega

theorem valueSegments_lsbOffset (hc : c.argNumber.toNat ≤ 5) :
    (c.valueSegments.2.2.2.setWidth 32).toNat = 16 + 8 * c.argNumber.toNat := by
  simp [SeccompCondition.valueSegments, seccompDataArgsOffset, seccompDataArgSize,
    BitVec.toNat_setWidth]
  omega

theorem exec_lsbPart (hc : c.argNumber.toNat ≤ 5) :
    exec d.load (bpfStmt (bpfLd + bpfW + bpfAbs) (c.valueSegments.2.2.2.setWidth 32) :: rest) a =
      exec d.load rest (lo (d.arg c.argNumber.toNat)) :=
  exec_ld (load_arg_lo hc (valueSegments_lsbOffset hc))

theorem cmpBpf_exec (hc : c.argNumber.toNat ≤ 5) (msbPart lsbPart : List Insn) :
    exec d.load (c.cmpBpf msbPart lsbPart ++ rest) a =
      match c.argLen with
      | .qword => exec d.load (msbPart ++ bpfStmt (bpfLd + bpfW + bpfAbs)
          (c.valueSegments.2.2.2.setWidth 32) :: lsbPart ++ rest) (hi (d.arg c.argNumber.toNat))
      | .dword => exec d.load (lsbPart ++ rest) (lo (d.arg c.argNumber.toNat)) := by
  unfold SeccompCondition.cmpBpf
  cases c.argLen with
  | dword => exact exec_lsbPart hc
  | qword =>
    simp only [List.cons_append, List.append_assoc]
    exact exec_ld (load_arg_hi hc (valueSegments_msbOffset hc))

theorem toNat_jump0 : (0 : BitVec 8).toNat = 0 := rfl
theorem toNat_jump2 : (2 : BitVec 8).toNat = 2 := rfl
theorem toNat_jump3 : (3 : BitVec 8).toNat = 3 := rfl

theorem toNat_offset_add {o : BitVec 8} {n : Nat} (ho : o.toNat + n < 2 ^ 8) :
    (o + BitVec.ofNat 8 n).toNat = o.toNat + n := by
  simp only [BitVec.toNat_add, BitVec.toNat_ofNat]
  omega

/-! Each operator, for both argument lengths. `R` and `F` are the outcomes of the continuation
when the condition holds (fall through to `rest`) and when it fails (jump `offset`); they do not
depend on the accumulator. -/

variable {o : BitVec 8} {R F : Outcome}

theorem intoEqBpf_exec (hc : c.argNumber.toNat ≤ 5) (ho : o.toNat ≤ 248)
    (hop : c.operator = .eq) (hR : ∀ b, exec d.load rest b = R)
    (hF : ∀ b, exec d.load (rest.drop o.toNat) b = F) :
    exec d.load (c.intoEqBpf o ++ rest) a = if c.matches d then R else F := by
  have h2 : (o + 2).toNat = o.toNat + 2 := toNat_offset_add (n := 2) (by omega)
  unfold SeccompCondition.intoEqBpf SeccompCondition.matches
  rw [cmpBpf_exec hc]
  cases c.argLen with
  | dword =>
    simp only [List.cons_append, List.nil_append, exec_jeq, toNat_jump0, List.drop_zero, hR, hF,
      hop, SeccompCmpOp.test, valueSegments_lsb, decide_eq_true_eq]
  | qword =>
    simp only [List.cons_append, List.nil_append, exec_jeq, exec_lsbPart hc, h2,
      List.drop_succ_cons, toNat_jump0, List.drop_zero, hR, hF, hop, SeccompCmpOp.test,
      valueSegments_lsb, valueSegments_msb, decide_eq_true_eq, Halves.eq_iff]
    by_cases h1 : hi (d.arg c.argNumber.toNat) = hi c.value <;> simp [h1]

theorem intoGeBpf_exec (hc : c.argNumber.toNat ≤ 5) (ho : o.toNat ≤ 248)
    (hop : c.operator = .ge) (hR : ∀ b, exec d.load rest b = R)
    (hF : ∀ b, exec d.load (rest.drop o.toNat) b = F) :
    exec d.load (c.intoGeBpf o ++ rest) a = if c.matches d then R else F := by
  have h2 : (o + 2).toNat = o.toNat + 2 := toNat_offset_add (n := 2) (by omega)
  unfold SeccompCondition.intoGeBpf SeccompCondition.matches
  rw [cmpBpf_exec hc]
  cases c.argLen with
  | dword =>
    simp only [List.cons_append, List.nil_append, exec_jge, toNat_jump0, List.drop_zero, hR, hF,
      hop, SeccompCmpOp.test, valueSegments_lsb, decide_eq_true_eq]
  | qword =>
    simp only [List.cons_append, List.nil_append, exec_jgt, exec_jeq, exec_jge, exec_lsbPart hc,
      h2, List.drop_succ_cons, toNat_jump0, toNat_jump3, List.drop_zero, hR, hF, hop,
      SeccompCmpOp.test, valueSegments_lsb, valueSegments_msb, decide_eq_true_eq,
      Halves.le_iff]
    by_cases h1 : hi c.value < hi (d.arg c.argNumber.toNat)
    · simp [h1]
    · by_cases h2 : hi (d.arg c.argNumber.toNat) = hi c.value
      · simp [h2]
      · simp [h1, h2, Ne.symm h2]

theorem intoGtBpf_exec (hc : c.argNumber.toNat ≤ 5) (ho : o.toNat ≤ 248)
    (hop : c.operator = .gt) (hR : ∀ b, exec d.load rest b = R)
    (hF : ∀ b, exec d.load (rest.drop o.toNat) b = F) :
    exec d.load (c.intoGtBpf o ++ rest) a = if c.matches d then R else F := by
  have h2 : (o + 2).toNat = o.toNat + 2 := toNat_offset_add (n := 2) (by omega)
  unfold SeccompCondition.intoGtBpf SeccompCondition.matches
  rw [cmpBpf_exec hc]
  cases c.argLen with
  | dword =>
    simp only [List.cons_append, List.nil_append, exec_jgt, toNat_jump0, List.drop_zero, hR, hF,
      hop, SeccompCmpOp.test, valueSegments_lsb, decide_eq_true_eq]
  | qword =>
    simp only [List.cons_append, List.nil_append, exec_jgt, exec_jeq, exec_lsbPart hc, h2,
      List.drop_succ_cons, toNat_jump0, toNat_jump3, List.drop_zero, hR, hF, hop,
      SeccompCmpOp.test, valueSegments_lsb, valueSegments_msb, decide_eq_true_eq,
      Halves.lt_iff]
    by_cases h1 : hi c.value < hi (d.arg c.argNumber.toNat)
    · simp [h1]
    · by_cases h2 : hi (d.arg c.argNumber.toNat) = hi c.value
      · simp [h2]
      · simp [h1, h2, Ne.symm h2]

theorem intoLeBpf_exec (hc : c.argNumber.toNat ≤ 5) (ho : o.toNat ≤ 248)
    (hop : c.operator = .le) (hR : ∀ b, exec d.load rest b = R)
    (hF : ∀ b, exec d.load (rest.drop o.toNat) b = F) :
    exec d.load (c.intoLeBpf o ++ rest) a = if c.matches d then R else F := by
  have h3 : (o + 3).toNat = o.toNat + 3 := toNat_offset_add (n := 3) (by omega)
  unfold SeccompCondition.intoLeBpf SeccompCondition.matches
  rw [cmpBpf_exec hc]
  cases c.argLen with
  | dword =>
    simp only [List.cons_append, List.nil_append, exec_jgt, toNat_jump0, List.drop_zero, hR, hF,
      hop, SeccompCmpOp.test, valueSegments_lsb, decide_eq_true_eq]
    by_cases h : lo c.value < lo (d.arg c.argNumber.toNat) <;> simp [h]
  | qword =>
    simp only [List.cons_append, List.nil_append, exec_jgt, exec_jeq, exec_lsbPart hc, h3,
      List.drop_succ_cons, toNat_jump0, toNat_jump2, List.drop_zero, hR, hF, hop,
      SeccompCmpOp.test, valueSegments_lsb, valueSegments_msb, decide_eq_true_eq,
      Halves.le_iff]
    by_cases h1 : hi c.value < hi (d.arg c.argNumber.toNat)
    · simp [h1, BitVec.lt_asymm h1, (BitVec.ne_of_lt h1).symm]
    · by_cases h2 : hi (d.arg c.argNumber.toNat) = hi c.value
      · by_cases h3 : lo c.value < lo (d.arg c.argNumber.toNat) <;>
          simp [h2, h3]
      · have h4 : hi (d.arg c.argNumber.toNat) < hi c.value :=
          BitVec.lt_of_le_ne (BitVec.not_lt.mp h1) h2
        simp [h1, h2, h4]

theorem intoLtBpf_exec (hc : c.argNumber.toNat ≤ 5) (ho : o.toNat ≤ 248)
    (hop : c.operator = .lt) (hR : ∀ b, exec d.load rest b = R)
    (hF : ∀ b, exec d.load (rest.drop o.toNat) b = F) :
    exec d.load (c.intoLtBpf o ++ rest) a = if c.matches d then R else F := by
  have h3 : (o + 3).toNat = o.toNat + 3 := toNat_offset_add (n := 3) (by omega)
  unfold SeccompCondition.intoLtBpf SeccompCondition.matches
  rw [cmpBpf_exec hc]
  cases c.argLen with
  | dword =>
    simp only [List.cons_append, List.nil_append, exec_jge, toNat_jump0, List.drop_zero, hR, hF,
      hop, SeccompCmpOp.test, valueSegments_lsb, decide_eq_true_eq]
    by_cases h : lo c.value ≤ lo (d.arg c.argNumber.toNat) <;> simp [h]
  | qword =>
    simp only [List.cons_append, List.nil_append, exec_jgt, exec_jeq, exec_jge, exec_lsbPart hc,
      h3, List.drop_succ_cons, toNat_jump0, toNat_jump2, List.drop_zero, hR, hF, hop,
      SeccompCmpOp.test, valueSegments_lsb, valueSegments_msb, decide_eq_true_eq,
      Halves.lt_iff]
    by_cases h1 : hi c.value < hi (d.arg c.argNumber.toNat)
    · simp [h1, BitVec.lt_asymm h1, (BitVec.ne_of_lt h1).symm]
    · by_cases h2 : hi (d.arg c.argNumber.toNat) = hi c.value
      · by_cases h3 : lo c.value ≤ lo (d.arg c.argNumber.toNat) <;>
          simp [h2, h3]
      · have h4 : hi (d.arg c.argNumber.toNat) < hi c.value :=
          BitVec.lt_of_le_ne (BitVec.not_lt.mp h1) h2
        simp [h1, h2, h4]

theorem intoMaskedEqBpf_exec (hc : c.argNumber.toNat ≤ 5) (ho : o.toNat ≤ 248)
    {mask : BitVec 64} (hop : c.operator = .maskedEq mask) (hR : ∀ b, exec d.load rest b = R)
    (hF : ∀ b, exec d.load (rest.drop o.toNat) b = F) :
    exec d.load (c.intoMaskedEqBpf o mask ++ rest) a = if c.matches d then R else F := by
  have h3 : (o + 3).toNat = o.toNat + 3 := toNat_offset_add (n := 3) (by omega)
  have hmsb : ((c.value &&& mask) >>> 32).setWidth 32 = hi c.value &&& hi mask :=
    Halves.hi_and c.value mask
  have hlsb : (c.value &&& mask).setWidth 32 = lo c.value &&& lo mask := Halves.lo_and c.value mask
  have hmaskMsb : (mask >>> 32).setWidth 32 = hi mask := rfl
  have hmaskLsb : mask.setWidth 32 = lo mask := rfl
  unfold SeccompCondition.intoMaskedEqBpf SeccompCondition.matches
  rw [cmpBpf_exec hc]
  cases c.argLen with
  | dword =>
    simp only [List.cons_append, List.nil_append, exec_and, exec_jeq, toNat_jump0, List.drop_zero,
      hR, hF, hop, SeccompCmpOp.test, hlsb, hmaskLsb, decide_eq_true_eq]
  | qword =>
    simp only [List.cons_append, List.nil_append, exec_and, exec_jeq, exec_lsbPart hc, h3,
      List.drop_succ_cons, toNat_jump0, List.drop_zero, hR, hF, hop, SeccompCmpOp.test, hmsb,
      hlsb, hmaskMsb, hmaskLsb, decide_eq_true_eq, Halves.eq_iff, Halves.hi_and, Halves.lo_and]
    by_cases h1 : hi (d.arg c.argNumber.toNat) &&& hi mask = hi c.value &&& hi mask <;> simp [h1]

theorem intoNeBpf_exec (hc : c.argNumber.toNat ≤ 5) (hop : c.operator = .ne)
    (hR : ∀ b, exec d.load rest b = R) (hF : ∀ b, exec d.load (rest.drop o.toNat) b = F) :
    exec d.load (c.intoNeBpf o ++ rest) a = if c.matches d then R else F := by
  unfold SeccompCondition.intoNeBpf SeccompCondition.matches
  rw [cmpBpf_exec hc]
  cases c.argLen with
  | dword =>
    simp only [List.cons_append, List.nil_append, exec_jeq, toNat_jump0, List.drop_zero, hR, hF,
      hop, SeccompCmpOp.test, valueSegments_lsb, decide_not]
    by_cases h : lo (d.arg c.argNumber.toNat) = lo c.value <;> simp [h]
  | qword =>
    simp only [List.cons_append, List.nil_append, exec_jeq, exec_lsbPart hc,
      List.drop_succ_cons, toNat_jump0, toNat_jump2, List.drop_zero, hR, hF, hop,
      SeccompCmpOp.test, valueSegments_lsb, valueSegments_msb, decide_not, Halves.eq_iff]
    by_cases h1 : hi (d.arg c.argNumber.toNat) = hi c.value
    · by_cases h2 : lo (d.arg c.argNumber.toNat) = lo c.value <;> simp [h1, h2]
    · simp [h1]

theorem intoBpf_exec (hc : c.argNumber.toNat ≤ 5) (ho : o.toNat ≤ 248)
    (hr : AccFree d.load rest) (hf : AccFree d.load (rest.drop o.toNat)) :
    exec d.load (c.intoBpf o ++ rest) a =
      if c.matches d then exec d.load rest a else exec d.load (rest.drop o.toNat) a := by
  have hR : ∀ b, exec d.load rest b = exec d.load rest a := fun b => hr b a
  have hF : ∀ b, exec d.load (rest.drop o.toNat) b = exec d.load (rest.drop o.toNat) a :=
    fun b => hf b a
  unfold SeccompCondition.intoBpf
  split
  next hop => exact intoEqBpf_exec hc ho hop hR hF
  next hop => exact intoGeBpf_exec hc ho hop hR hF
  next hop => exact intoGtBpf_exec hc ho hop hR hF
  next hop => exact intoLeBpf_exec hc ho hop hR hF
  next hop => exact intoLtBpf_exec hc ho hop hR hF
  next hop => exact intoMaskedEqBpf_exec hc ho hop hR hF
  next hop => exact intoNeBpf_exec hc hop hR hF

end Condition

/-! ## Rules -/

/-- The invariant of the fold in `SeccompRule.toBpf`. `body` is the part of the rule built so
far, the blocks of the conditions `cs` (the last one first) and then the `ret` of the action
`v`; `offset` is the running offset. Followed by any `nxt` (the next rule, or the `ret` of the
default action), the body
* entered at `offset` behaves as `nxt`: this is where a failed condition lands;
* entered at `offset + 1` behaves as `nxt` without its first instruction: the chain-exit path
  through the second jump of every rule;
* entered at its start returns `v` when every condition of `cs` holds, and otherwise behaves as
  `nxt`. -/
structure RuleBody (d : SeccompData) (v : BitVec 32) (cs : List SeccompCondition)
    (body : List Insn) (offset : BitVec 8) : Prop where
  offset_pos : 1 ≤ offset.toNat
  offset_le : offset.toNat ≤ 254
  fail : ∀ nxt a, exec d.load ((body ++ nxt).drop offset.toNat) a = exec d.load nxt a
  skip : ∀ nxt a,
    exec d.load ((body ++ nxt).drop (offset.toNat + 1)) a = exec d.load (nxt.drop 1) a
  entry : ∀ nxt, AccFree d.load nxt → ∀ a,
    exec d.load (body ++ nxt) a = if ∀ c ∈ cs, c.matches d then .ret v else exec d.load nxt a

section Rule

variable {d : SeccompData} {v : BitVec 32} {cs : List SeccompCondition} {body : List Insn}
  {offset : BitVec 8}

theorem toNat_setWidth_add_one (offset : BitVec 8) :
    (offset.setWidth 32 + 1).toNat = offset.toNat + 1 := by
  have := offset.isLt
  have h1 : (1 : BitVec 32).toNat = 1 := rfl
  simp only [BitVec.toNat_add, BitVec.toNat_setWidth, h1]
  omega

theorem toNat_ja1 : (1 : BitVec 32).toNat = 1 := rfl
theorem toNat_ja2 : (2 : BitVec 32).toNat = 2 := rfl
theorem toNat_offset1 : (1 : BitVec 8).toNat = 1 := rfl

theorem RuleBody.accFree (h : RuleBody d v cs body offset) {nxt : List Insn}
    (hn : AccFree d.load nxt) : AccFree d.load (body ++ nxt) := by
  intro a b
  rw [h.entry nxt hn a, h.entry nxt hn b, hn a b]

theorem ruleBody_ret : RuleBody d v [] [bpfStmt (bpfRet + bpfK) v] 1 where
  offset_pos := by decide
  offset_le := by decide
  fail nxt a := rfl
  skip nxt a := rfl
  entry nxt _ a := by
    rw [List.singleton_append, exec_ret, if_pos (by simp)]

theorem RuleBody.helperJumps (h : RuleBody d v cs body offset) :
    RuleBody d v cs ([bpfStmt (bpfJmp + bpfJa) 2, bpfStmt (bpfJmp + bpfJa) (offset.setWidth 32 + 1),
      bpfStmt (bpfJmp + bpfJa) (offset.setWidth 32 + 1)] ++ body) 1 where
  offset_pos := by decide
  offset_le := by decide
  fail nxt a := by
    simp only [List.cons_append, List.nil_append, toNat_offset1, List.drop_succ_cons,
      List.drop_zero, exec_ja, toNat_setWidth_add_one]
    exact h.fail nxt a
  skip nxt a := by
    simp only [List.cons_append, List.nil_append, toNat_offset1, List.drop_succ_cons,
      List.drop_zero, exec_ja, toNat_setWidth_add_one]
    exact h.skip nxt a
  entry nxt hn a := by
    simp only [List.cons_append, List.nil_append, exec_ja, toNat_ja2, List.drop_succ_cons,
      List.drop_zero]
    exact h.entry nxt hn a

theorem RuleBody.cond (h : RuleBody d v cs body offset) {c : SeccompCondition}
    (hc : c.argNumber.toNat ≤ 5) (ho : offset.toNat ≤ 248) :
    RuleBody d v (c :: cs) (c.intoBpf offset ++ body)
      (offset + BitVec.ofNat 8 (c.intoBpf offset).length) := by
  obtain ⟨hlen2, hlen6⟩ := intoBpf_length_le c offset
  have hoff : (offset + BitVec.ofNat 8 (c.intoBpf offset).length).toNat =
      (c.intoBpf offset).length + offset.toNat := by
    rw [toNat_offset_add (by simp [conditionMaxLen] at hlen6; omega)]
    omega
  constructor
  · omega
  · simp [conditionMaxLen] at hlen6
    omega
  · intro nxt a
    rw [hoff, List.append_assoc, List.drop_length_add_append]
    exact h.fail nxt a
  · intro nxt a
    rw [hoff, List.append_assoc, Nat.add_assoc, List.drop_length_add_append]
    exact h.skip nxt a
  · intro nxt hn a
    have hfail : AccFree d.load ((body ++ nxt).drop offset.toNat) := by
      intro a b
      rw [h.fail nxt a, h.fail nxt b, hn a b]
    rw [List.append_assoc, intoBpf_exec hc ho (h.accFree hn) hfail, h.entry nxt hn a,
      h.fail nxt a]
    by_cases hm : c.matches d <;> simp [hm]

theorem appendCondition_ruleBody {c : SeccompCondition} {acc : List (List Insn)} (ruleLen : Nat)
    (h : RuleBody d v cs acc.reverse.flatten offset) (hc : c.argNumber.toNat ≤ 5) :
    RuleBody d v (c :: cs) (appendCondition c acc ruleLen offset).1.reverse.flatten
      (appendCondition c acc ruleLen offset).2.2 := by
  unfold appendCondition
  cases hadd : u8CheckedAdd offset (conditionMaxLen + 1) with
  | none =>
    have := (h.helperJumps).cond hc (by decide)
    simpa using this
  | some _ =>
    have ho : offset.toNat ≤ 248 := by
      unfold u8CheckedAdd at hadd
      split at hadd
      · simp [conditionMaxLen] at *
        omega
      · contradiction
    simpa using h.cond hc ho

theorem foldl_appendCondition_ruleBody (conds : List SeccompCondition)
    (hconds : ∀ c ∈ conds, c.argNumber.toNat ≤ 5) (s : List (List Insn) × Nat × BitVec 8)
    (h : RuleBody d v cs s.1.reverse.flatten s.2.2) :
    let r := conds.foldl (fun s c => appendCondition c s.1 s.2.1 s.2.2) s
    RuleBody d v (conds.reverse ++ cs) r.1.reverse.flatten r.2.2 := by
  induction conds generalizing cs s with
  | nil => simpa using h
  | cons c conds ih =>
    have step := appendCondition_ruleBody s.2.1 h (hconds c (by simp))
    simpa using ih (fun c' hc' => hconds c' (by simp [hc'])) _ step

theorem toBpf_ruleBody (rule : SeccompRule)
    (hc : ∀ c ∈ rule.conditions, c.argNumber.toNat ≤ 5) :
    let state := rule.conditions.foldl (fun s c => appendCondition c s.1 s.2.1 s.2.2)
      ([[bpfStmt (bpfRet + bpfK) rule.action.toU32]], 1, 1)
    RuleBody d rule.action.toU32 rule.conditions.reverse state.1.reverse.flatten state.2.2 := by
  simpa using foldl_appendCondition_ruleBody rule.conditions hc
    ([[bpfStmt (bpfRet + bpfK) rule.action.toU32]], 1, 1) ruleBody_ret

variable {nxt : List Insn}

theorem toBpf_exec {rule : SeccompRule} (hc : ∀ c ∈ rule.conditions, c.argNumber.toNat ≤ 5)
    (hn : AccFree d.load nxt) (a : BitVec 32) :
    exec d.load (rule.toBpf ++ nxt) a =
      if rule.matches d then .ret rule.action.toU32 else exec d.load nxt a := by
  have h := toBpf_ruleBody (d := d) rule hc
  unfold SeccompRule.toBpf
  simp only [List.reverse_append, List.reverse_cons, List.reverse_nil, List.nil_append,
    List.flatten_cons, List.cons_append, exec_ja, toNat_ja1, List.drop_succ_cons, List.drop_zero]
  rw [h.entry nxt hn a]
  simp [SeccompRule.matches]

theorem toBpf_exec_skip {rule : SeccompRule} (hc : ∀ c ∈ rule.conditions, c.argNumber.toNat ≤ 5)
    (a : BitVec 32) :
    exec d.load ((rule.toBpf ++ nxt).drop 1) a = exec d.load (nxt.drop 1) a := by
  have h := toBpf_ruleBody (d := d) rule hc
  unfold SeccompRule.toBpf
  simp only [List.reverse_append, List.reverse_cons, List.reverse_nil, List.nil_append,
    List.flatten_cons, List.cons_append, List.drop_succ_cons, List.drop_zero, exec_ja,
    toNat_setWidth_add_one]
  exact h.skip nxt a

end Rule

/-! ## Syscall chains -/

section Chain

variable {d : SeccompData} {nxt : List Insn}

theorem rules_exec {rules : List SeccompRule}
    (hc : ∀ r ∈ rules, ∀ c ∈ r.conditions, c.argNumber.toNat ≤ 5) (hn : AccFree d.load nxt)
    (a : BitVec 32) :
    exec d.load ((rules.map SeccompRule.toBpf).flatten ++ nxt) a =
      ((rules.find? fun r => r.matches d).map fun r => Outcome.ret r.action.toU32).getD
        (exec d.load nxt a) := by
  induction rules generalizing a with
  | nil => rfl
  | cons r rs ih =>
    have ih' := ih (fun r' hr' => hc r' (by simp [hr']))
    have hrs : AccFree d.load ((rs.map SeccompRule.toBpf).flatten ++ nxt) := by
      intro a b
      rw [ih' a, ih' b, hn a b]
    rw [List.map_cons, List.flatten_cons, List.append_assoc, toBpf_exec (hc r (by simp)) hrs a,
      ih' a, List.find?_cons]
    cases hm : r.matches d <;> simp

theorem rules_exec_skip {rules : List SeccompRule}
    (hc : ∀ r ∈ rules, ∀ c ∈ r.conditions, c.argNumber.toNat ≤ 5) (a : BitVec 32) :
    exec d.load (((rules.map SeccompRule.toBpf).flatten ++ nxt).drop 1) a =
      exec d.load (nxt.drop 1) a := by
  induction rules with
  | nil => rfl
  | cons r rs ih =>
    rw [List.map_cons, List.flatten_cons, List.append_assoc, toBpf_exec_skip (hc r (by simp)) a]
    exact ih (fun r' hr' => hc r' (by simp [hr']))

theorem toNat_toBitVec_of_nonneg {k : Int64} (h0 : 0 ≤ k.toInt) :
    (k.toBitVec.toNat : Int) = k.toInt := by
  rw [← Int64.toInt_toBitVec, BitVec.toInt_eq_toNat_cond] at h0 ⊢
  split at h0
  · simp_all
  · have := k.toBitVec.isLt
    omega

theorem eq_setWidth_iff {k : Int64} (hk : 0 ≤ k.toInt ∧ k.toInt < 2 ^ 32) (x : BitVec 32) :
    x = k.toBitVec.setWidth 32 ↔ k.toInt = (x.toNat : Int) := by
  have h := toNat_toBitVec_of_nonneg hk.1
  rw [BitVec.toNat_eq, BitVec.toNat_setWidth]
  omega

theorem syscallChain_exec {k : Int64} {rules : List SeccompRule} {dflt : BitVec 32}
    (hc : ∀ r ∈ rules, ∀ c ∈ r.conditions, c.argNumber.toNat ≤ 5) (a : BitVec 32) :
    exec d.load ((bpfJump (bpfJmp + bpfJeq + bpfK) (k.toBitVec.setWidth 32) 0 1 ::
        ((rules.map SeccompRule.toBpf).flatten ++ [bpfStmt (bpfRet + bpfK) dflt])) ++ nxt) a =
      if a = k.toBitVec.setWidth 32 then
        ((rules.find? fun r => r.matches d).map fun r => Outcome.ret r.action.toU32).getD
          (.ret dflt)
      else exec d.load nxt a := by
  simp only [List.cons_append, List.append_assoc, List.nil_append]
  rw [exec_jeq, toNat_jump0, toNat_offset1, List.drop_zero]
  have hret : AccFree d.load (bpfStmt (bpfRet + bpfK) dflt :: nxt) := accFree_retK decode_ret
  rw [rules_exec hc hret, rules_exec_skip hc]
  simp [exec_ret]

theorem appendSyscallChain_ok {k : Int64} {rules : List SeccompRule} {dflt : BitVec 32}
    {acc : List (List Insn)} {filterLen : Nat} {s : List (List Insn) × Nat}
    (h : appendSyscallChain k rules dflt acc filterLen = .ok s) :
    s.1 = acc ++ [bpfJump (bpfJmp + bpfJeq + bpfK) (k.toBitVec.setWidth 32) 0 1 ::
      ((rules.map SeccompRule.toBpf).flatten ++ [bpfStmt (bpfRet + bpfK) dflt])] := by
  unfold appendSyscallChain at h
  dsimp only at h
  split at h
  · contradiction
  · cases h
    simp

theorem foldlM_appendSyscallChain_ok (entries : List (Int64 × List SeccompRule))
    (dflt : BitVec 32) (s s' : List (List Insn) × Nat)
    (h : entries.foldlM (fun s e => appendSyscallChain e.1 e.2 dflt s.1 s.2) s = .ok s') :
    s'.1 = s.1 ++ entries.map fun e =>
      bpfJump (bpfJmp + bpfJeq + bpfK) (e.1.toBitVec.setWidth 32) 0 1 ::
        ((e.2.map SeccompRule.toBpf).flatten ++ [bpfStmt (bpfRet + bpfK) dflt]) := by
  induction entries generalizing s with
  | nil =>
    cases h
    simp
  | cons e es ih =>
    rw [List.foldlM_cons] at h
    cases hstep : appendSyscallChain e.1 e.2 dflt s.1 s.2 with
    | error err =>
      rw [hstep] at h
      contradiction
    | ok s₁ =>
      rw [hstep] at h
      rw [ih s₁ h, appendSyscallChain_ok hstep]
      simp

theorem chains_exec {entries : List (Int64 × List SeccompRule)} {dflt : BitVec 32}
    (hkeys : ∀ e ∈ entries, 0 ≤ e.1.toInt ∧ e.1.toInt < 2 ^ 32)
    (hc : ∀ e ∈ entries, ∀ r ∈ e.2, ∀ c ∈ r.conditions, c.argNumber.toNat ≤ 5) :
    exec d.load ((entries.map fun e =>
        bpfJump (bpfJmp + bpfJeq + bpfK) (e.1.toBitVec.setWidth 32) 0 1 ::
          ((e.2.map SeccompRule.toBpf).flatten ++ [bpfStmt (bpfRet + bpfK) dflt])).flatten ++ nxt)
        d.nr =
      match entries.find? fun e => e.1.toInt = (d.nr.toNat : Int) with
      | some (_, rules) =>
        ((rules.find? fun r => r.matches d).map fun r => Outcome.ret r.action.toU32).getD
          (.ret dflt)
      | none => exec d.load nxt d.nr := by
  induction entries with
  | nil => rfl
  | cons e es ih =>
    rw [List.map_cons, List.flatten_cons, List.append_assoc,
      syscallChain_exec (hc e (by simp)) d.nr, List.find?_cons,
      ih (fun e' he' => hkeys e' (by simp [he'])) (fun e' he' => hc e' (by simp [he']))]
    by_cases hk : e.1.toInt = (d.nr.toNat : Int)
    · have hnr : d.nr = e.1.toBitVec.setWidth 32 := (eq_setWidth_iff (hkeys e (by simp)) d.nr).2 hk
      simp [hk, hnr]
    · have hnr : d.nr ≠ e.1.toBitVec.setWidth 32 :=
        fun h => hk ((eq_setWidth_iff (hkeys e (by simp)) d.nr).1 h)
      simp [hk, hnr]

end Chain

/-! ## The filter -/

section Filter

variable {d : SeccompData}

theorem load_arch : d.load 4 = some d.arch := rfl

theorem load_nr : d.load (seccompDataNrOffset.setWidth 32) = some d.nr := rfl

theorem argNumber_le_of_validate {c : SeccompCondition} (h : c.validate = .ok ()) :
    c.argNumber.toNat ≤ 5 := by
  unfold SeccompCondition.validate at h
  split at h
  · contradiction
  · rename_i hgt
    have : ¬ 5 < c.argNumber.toNat := by
      simpa [argNumberMax, BitVec.lt_def] using hgt
    omega

theorem validateArchitecture_exec {arch : TargetArch} {nxt : List Insn} (a : BitVec 32) :
    exec d.load (validateArchitecture arch ++ nxt) a =
      if d.arch = arch.getAuditValue then exec d.load nxt d.arch
      else .ret seccompRetKillProcess := by
  simp only [validateArchitecture, List.cons_append, List.nil_append]
  rw [exec_ld load_arch, exec_jeq, toNat_offset1, toNat_jump0]
  by_cases h : d.arch = arch.getAuditValue <;> simp [h, exec_ret]

/-- The program `try_into` emits decides as the filter does, for every `seccomp_data` and from
any accumulator: the run stays inside the program and ends at a `ret` of `expected`. The syscall
numbers must be those of 32-bit syscalls and every condition must pass its own `validate`;
`SeccompFilter::validate` is not needed. -/
theorem tryInto_correct (f : SeccompFilter)
    (hkeys : ∀ e ∈ f.rules.entries, 0 ≤ e.1.toInt ∧ e.1.toInt < 2 ^ 32)
    (hcond : ∀ e ∈ f.rules.entries, ∀ r ∈ e.2, ∀ c ∈ r.conditions, c.validate = .ok ())
    {prog : List Insn} (h : f.tryInto = .ok prog) (d : SeccompData) (a : BitVec 32) :
    exec d.load prog a = .ret (f.expected d) := by
  have hc : ∀ e ∈ f.rules.entries, ∀ r ∈ e.2, ∀ c ∈ r.conditions, c.argNumber.toNat ≤ 5 :=
    fun e he r hr c hc => argNumber_le_of_validate (hcond e he r hr c hc)
  unfold SeccompFilter.tryInto at h
  unfold SeccompFilter.expected
  split at h
  · rename_i hempty
    cases h
    have hnil : f.rules.entries = [] := List.isEmpty_iff.1 hempty
    rw [validateArchitecture_exec]
    by_cases harch : d.arch = f.targetArch.getAuditValue <;> simp [harch, hnil, exec_ret]
  · dsimp only at h
    split at h
    · contradiction
    · rename_i acc filterLen hfold
      split at h
      · contradiction
      · cases h
        have hacc := foldlM_appendSyscallChain_ok _ _ _ _ hfold
        dsimp only at hacc
        rw [validateArchitecture_exec]
        by_cases harch : d.arch = f.targetArch.getAuditValue
        · rw [if_pos harch, if_neg (not_not.2 harch), hacc]
          rw [List.append_assoc, List.singleton_append, List.flatten_cons, List.flatten_append,
            List.flatten_singleton, examineSyscall, List.singleton_append, exec_ld load_nr,
            chains_exec hkeys hc]
          split
          · rename_i rules _
            cases rules.find? fun r => r.matches d <;> rfl
          · exact exec_ret
        · simp [harch]

/-- `write(2)` allowed when its first argument is at least `2^32`, on `x86_64`: a call with
argument `2^32 + 5` is allowed. -/
theorem tryInto_correct_write :
    let f : SeccompFilter :=
      { rules := ⟨[(1, [⟨[⟨0, .qword, .ge, 0x100000000⟩], .allow⟩])], by simp⟩
        defaultAction := .killProcess
        targetArch := .x86_64 }
    let d : SeccompData := ⟨1, auditArchX86_64, 0, fun _ => 0x100000005⟩
    (∀ e ∈ f.rules.entries, 0 ≤ e.1.toInt ∧ e.1.toInt < 2 ^ 32) ∧
    (∀ e ∈ f.rules.entries, ∀ r ∈ e.2, ∀ c ∈ r.conditions, c.validate = .ok ()) ∧
    f.tryInto = .ok (f.tryInto.toOption.getD []) ∧
    exec d.load (f.tryInto.toOption.getD []) 0 = .ret (f.expected d) ∧
    f.expected d = seccompRetAllow := by
  intro f d
  have hk : ∀ e ∈ f.rules.entries, 0 ≤ e.1.toInt ∧ e.1.toInt < 2 ^ 32 := by decide
  have hc : ∀ e ∈ f.rules.entries, ∀ r ∈ e.2, ∀ c ∈ r.conditions, c.validate = .ok () := by
    decide
  have hp : f.tryInto = .ok (f.tryInto.toOption.getD []) := by decide
  exact ⟨hk, hc, hp, tryInto_correct f hk hc hp d 0, by decide⟩

end Filter

end Seccomp
end Firecracker
