import Firecracker.Lib.Cbpf

/-!
# Firecracker.Seccomp.Backend

The seccompiler backend, `src/seccompiler/src/backend.rs`: the filter IR (conditions, rules,
the syscall-number map and the filter) and its compilation to classic BPF.

A condition compares one syscall argument with a 64-bit value. The BPF accumulator holds 32 bits,
so a `Qword` condition is compiled to a test of the high half followed by a test of the low
half, and a `Dword` condition to the low-half test only. A rule is compiled backwards from its
`ret`: each condition jumps, when it fails, to the next rule, over a running offset that must
fit the 8-bit `jf` field; when it might not, three helper jumps are inserted and the offset
starts again at 1. Each syscall gets a chain `jeq nr` · rules · `ret default`, and the filter is
the architecture check, the load of `nr`, the chains in key order, and `ret default`.

Integer widths follow the source: `u8` offsets are `BitVec 8` (wrapping, as a release build
does), `u32` operands `BitVec 32`, syscall numbers `Int64`. Vectors are lists, and the
`BTreeMap` of rules is the list of its entries in key order.
-/

namespace Firecracker
namespace Seccomp

open Cbpf

/-! ## Constants (`linux/bpf_common.h`, `linux/seccomp.h`, `linux/audit.h`) -/

def bpfLd : BitVec 16 := 0x00
def bpfAlu : BitVec 16 := 0x04
def bpfJmp : BitVec 16 := 0x05
def bpfRet : BitVec 16 := 0x06
def bpfW : BitVec 16 := 0x00
def bpfAbs : BitVec 16 := 0x20
def bpfAnd : BitVec 16 := 0x50
def bpfJa : BitVec 16 := 0x00
def bpfJeq : BitVec 16 := 0x10
def bpfJgt : BitVec 16 := 0x20
def bpfJge : BitVec 16 := 0x30
def bpfK : BitVec 16 := 0x00

def seccompRetAllow : BitVec 32 := 0x7fff0000
def seccompRetErrno : BitVec 32 := 0x00050000
def seccompRetKillThread : BitVec 32 := 0x00000000
def seccompRetKillProcess : BitVec 32 := 0x80000000
def seccompRetLog : BitVec 32 := 0x7ffc0000
def seccompRetTrace : BitVec 32 := 0x7ff00000
def seccompRetTrap : BitVec 32 := 0x00030000
def seccompRetMask : BitVec 32 := 0x0000ffff

def auditArchX86_64 : BitVec 32 := 62 ||| 0x80000000 ||| 0x40000000
def auditArchAarch64 : BitVec 32 := 183 ||| 0x80000000 ||| 0x40000000

def argNumberMax : BitVec 8 := 5
def conditionMaxLen : BitVec 8 := 6
def seccompDataNrOffset : BitVec 8 := 0
def seccompDataArgsOffset : BitVec 8 := 16
def seccompDataArgSize : BitVec 8 := 8

def bpfMaxLen : Nat := 4096

/-! ## The IR -/

inductive Error where
  | emptyRulesVector
  | filterTooLarge
  | invalidArgumentNumber
  | conflictingRules (syscall : Int64)
  deriving DecidableEq, Repr

inductive TargetArch where
  | x86_64
  | aarch64
  deriving DecidableEq, Repr

def TargetArch.getAuditValue : TargetArch → BitVec 32
  | .x86_64 => auditArchX86_64
  | .aarch64 => auditArchAarch64

inductive SeccompCmpOp where
  | eq
  | ge
  | gt
  | le
  | lt
  | maskedEq (mask : BitVec 64)
  | ne
  deriving DecidableEq, Repr

inductive SeccompCmpArgLen where
  | dword
  | qword
  deriving DecidableEq, Repr

structure SeccompCondition where
  argNumber : BitVec 8
  argLen : SeccompCmpArgLen
  operator : SeccompCmpOp
  value : BitVec 64
  deriving DecidableEq, Repr

inductive SeccompAction where
  | allow
  | errno (x : BitVec 32)
  | killThread
  | killProcess
  | log
  | trace (x : BitVec 32)
  | trap
  deriving DecidableEq, Repr

structure SeccompRule where
  conditions : List SeccompCondition
  action : SeccompAction
  deriving DecidableEq, Repr

/-- `BTreeMap<i64, Vec<SeccompRule>>`: its entries in increasing key order. -/
structure SeccompRuleMap where
  entries : List (Int64 × List SeccompRule)
  sorted : entries.Pairwise fun a b => a.1 < b.1

structure SeccompFilter where
  rules : SeccompRuleMap
  defaultAction : SeccompAction
  targetArch : TargetArch

/-! ## Validation -/

def SeccompCondition.validate (c : SeccompCondition) : Except Error Unit :=
  if c.argNumber > argNumberMax then .error .invalidArgumentNumber else .ok ()

def SeccompFilter.validate (f : SeccompFilter) : Except Error Unit :=
  f.rules.entries.forM fun (syscallNumber, syscallRules) =>
    if syscallRules.isEmpty then .error .emptyRulesVector
    else
      match (syscallRules.filter fun rule => rule.conditions.isEmpty).length with
      | 1 => if syscallRules.length > 1 then .error (.conflictingRules syscallNumber) else .ok ()
      | 0 => .ok ()
      | _ => .error (.conflictingRules syscallNumber)

/-! ## Translation of conditions -/

def bpfStmt (code : BitVec 16) (k : BitVec 32) : Insn := ⟨code, 0, 0, k⟩

def bpfJump (code : BitVec 16) (k : BitVec 32) (jt jf : BitVec 8) : Insn := ⟨code, jt, jf, k⟩

def u8CheckedAdd (a b : BitVec 8) : Option (BitVec 8) :=
  if a.toNat + b.toNat < 2 ^ 8 then some (a + b) else none

/-- Most and least significant halves of `value`, and the offsets of the two halves of the
argument in `struct seccomp_data`. -/
def SeccompCondition.valueSegments (c : SeccompCondition) :
    BitVec 32 × BitVec 32 × BitVec 8 × BitVec 8 :=
  let msb := (c.value >>> 32).setWidth 32
  let lsb := c.value.setWidth 32
  let argOffset := seccompDataArgsOffset + c.argNumber * seccompDataArgSize
  (msb, lsb, argOffset + seccompDataArgSize / 2, argOffset)

/-- The shape every `into_*_bpf` shares: for a `Qword` argument a load of its high half
followed by `msbPart`, then a load of its low half followed by `lsbPart`. -/
def SeccompCondition.cmpBpf (c : SeccompCondition) (msbPart lsbPart : List Insn) :
    List Insn :=
  let (_, _, msbOffset, lsbOffset) := c.valueSegments
  (match c.argLen with
   | .dword => []
   | .qword => bpfStmt (bpfLd + bpfW + bpfAbs) (msbOffset.setWidth 32) :: msbPart) ++
  bpfStmt (bpfLd + bpfW + bpfAbs) (lsbOffset.setWidth 32) :: lsbPart

def SeccompCondition.intoEqBpf (c : SeccompCondition) (offset : BitVec 8) : List Insn :=
  let (msb, lsb, _, _) := c.valueSegments
  c.cmpBpf [bpfJump (bpfJmp + bpfJeq + bpfK) msb 0 (offset + 2)]
    [bpfJump (bpfJmp + bpfJeq + bpfK) lsb 0 offset]

def SeccompCondition.intoGeBpf (c : SeccompCondition) (offset : BitVec 8) : List Insn :=
  let (msb, lsb, _, _) := c.valueSegments
  c.cmpBpf [bpfJump (bpfJmp + bpfJgt + bpfK) msb 3 0,
      bpfJump (bpfJmp + bpfJeq + bpfK) msb 0 (offset + 2)]
    [bpfJump (bpfJmp + bpfJge + bpfK) lsb 0 offset]

def SeccompCondition.intoGtBpf (c : SeccompCondition) (offset : BitVec 8) : List Insn :=
  let (msb, lsb, _, _) := c.valueSegments
  c.cmpBpf [bpfJump (bpfJmp + bpfJgt + bpfK) msb 3 0,
      bpfJump (bpfJmp + bpfJeq + bpfK) msb 0 (offset + 2)]
    [bpfJump (bpfJmp + bpfJgt + bpfK) lsb 0 offset]

def SeccompCondition.intoLeBpf (c : SeccompCondition) (offset : BitVec 8) : List Insn :=
  let (msb, lsb, _, _) := c.valueSegments
  c.cmpBpf [bpfJump (bpfJmp + bpfJgt + bpfK) msb (offset + 3) 0,
      bpfJump (bpfJmp + bpfJeq + bpfK) msb 0 2]
    [bpfJump (bpfJmp + bpfJgt + bpfK) lsb offset 0]

def SeccompCondition.intoLtBpf (c : SeccompCondition) (offset : BitVec 8) : List Insn :=
  let (msb, lsb, _, _) := c.valueSegments
  c.cmpBpf [bpfJump (bpfJmp + bpfJgt + bpfK) msb (offset + 3) 0,
      bpfJump (bpfJmp + bpfJeq + bpfK) msb 0 2]
    [bpfJump (bpfJmp + bpfJge + bpfK) lsb offset 0]

/-- The masked comparison uses the halves of `value & mask`, not those of `value`. -/
def SeccompCondition.intoMaskedEqBpf (c : SeccompCondition) (offset : BitVec 8)
    (mask : BitVec 64) : List Insn :=
  let maskedValue := c.value &&& mask
  let msb := (maskedValue >>> 32).setWidth 32
  let lsb := maskedValue.setWidth 32
  let maskMsb := (mask >>> 32).setWidth 32
  let maskLsb := mask.setWidth 32
  c.cmpBpf [bpfStmt (bpfAlu + bpfAnd + bpfK) maskMsb,
      bpfJump (bpfJmp + bpfJeq + bpfK) msb 0 (offset + 3)]
    [bpfStmt (bpfAlu + bpfAnd + bpfK) maskLsb, bpfJump (bpfJmp + bpfJeq + bpfK) lsb 0 offset]

def SeccompCondition.intoNeBpf (c : SeccompCondition) (offset : BitVec 8) : List Insn :=
  let (msb, lsb, _, _) := c.valueSegments
  c.cmpBpf [bpfJump (bpfJmp + bpfJeq + bpfK) msb 0 2]
    [bpfJump (bpfJmp + bpfJeq + bpfK) lsb offset 0]

/-- `offset` is the jump, from the last instruction of the condition, to the start of the next
rule. The source asserts that the result has at most `CONDITION_MAX_LEN` instructions
(`intoBpf_length_le` below). -/
def SeccompCondition.intoBpf (c : SeccompCondition) (offset : BitVec 8) : List Insn :=
  match c.operator with
  | .eq => c.intoEqBpf offset
  | .ge => c.intoGeBpf offset
  | .gt => c.intoGtBpf offset
  | .le => c.intoLeBpf offset
  | .lt => c.intoLtBpf offset
  | .maskedEq mask => c.intoMaskedEqBpf offset mask
  | .ne => c.intoNeBpf offset

theorem intoBpf_length_le (c : SeccompCondition) (offset : BitVec 8) :
    2 ≤ (c.intoBpf offset).length ∧ (c.intoBpf offset).length ≤ conditionMaxLen.toNat := by
  unfold SeccompCondition.intoBpf
  cases hlen : c.argLen <;> split <;>
    simp [hlen, SeccompCondition.intoEqBpf, SeccompCondition.intoGeBpf, SeccompCondition.intoGtBpf,
      SeccompCondition.intoLeBpf, SeccompCondition.intoLtBpf, SeccompCondition.intoMaskedEqBpf,
      SeccompCondition.intoNeBpf, SeccompCondition.cmpBpf, conditionMaxLen]

def SeccompAction.toU32 : SeccompAction → BitVec 32
  | .allow => seccompRetAllow
  | .errno x => seccompRetErrno ||| (x &&& seccompRetMask)
  | .killThread => seccompRetKillThread
  | .killProcess => seccompRetKillProcess
  | .log => seccompRetLog
  | .trace x => seccompRetTrace ||| (x &&& seccompRetMask)
  | .trap => seccompRetTrap

/-! ## Translation of rules, chains and the filter -/

/-- `SeccompRule::append_condition`: pushes the condition's block (and, when the offset might
overflow, three helper jumps before it) onto the accumulator; returns the accumulator, the rule
length and the offset. -/
def appendCondition (condition : SeccompCondition) (accumulator : List (List Insn))
    (ruleLen : Nat) (offset : BitVec 8) : List (List Insn) × Nat × BitVec 8 :=
  let (accumulator, ruleLen, offset) :=
    match u8CheckedAdd offset (conditionMaxLen + 1) with
    | none =>
      let helperJumps :=
        [bpfStmt (bpfJmp + bpfJa) 2, bpfStmt (bpfJmp + bpfJa) (offset.setWidth 32 + 1),
          bpfStmt (bpfJmp + bpfJa) (offset.setWidth 32 + 1)]
      (accumulator ++ [helperJumps], ruleLen + helperJumps.length, 1)
    | some _ => (accumulator, ruleLen, offset)
  let condition := condition.intoBpf offset
  (accumulator ++ [condition], ruleLen + condition.length,
    offset + BitVec.ofNat 8 condition.length)

/-- `From<SeccompRule> for BpfProgram`: the rule built backwards from its `ret`, then the two
jumps that enter the rule and that leave the chain. -/
def SeccompRule.toBpf (rule : SeccompRule) : List Insn :=
  let state :=
    rule.conditions.foldl (fun s c => appendCondition c s.1 s.2.1 s.2.2)
      ([[bpfStmt (bpfRet + bpfK) rule.action.toU32]], 1, 1)
  let ruleJumps :=
    [bpfStmt (bpfJmp + bpfJa) 1, bpfStmt (bpfJmp + bpfJa) (state.2.2.setWidth 32 + 1)]
  (state.1 ++ [ruleJumps]).reverse.flatten

def appendSyscallChain (syscallNumber : Int64) (chain : List SeccompRule)
    (defaultAction : BitVec 32) (accumulator : List (List Insn)) (filterLen : Nat) :
    Except Error (List (List Insn) × Nat) :=
  let chain := chain.map SeccompRule.toBpf
  let builtSyscall :=
    bpfJump (bpfJmp + bpfJeq + bpfK) (syscallNumber.toBitVec.setWidth 32) 0 1 ::
      chain.flatten ++ [bpfStmt (bpfRet + bpfK) defaultAction]
  let filterLen := filterLen + builtSyscall.length
  if filterLen ≥ bpfMaxLen then .error .filterTooLarge
  else .ok (accumulator ++ [builtSyscall], filterLen)

def validateArchitecture (targetArch : TargetArch) : List Insn :=
  [bpfStmt (bpfLd + bpfW + bpfAbs) 4,
    bpfJump (bpfJmp + bpfJeq + bpfK) targetArch.getAuditValue 1 0,
    bpfStmt (bpfRet + bpfK) seccompRetKillProcess]

def examineSyscall : List Insn :=
  [bpfStmt (bpfLd + bpfW + bpfAbs) (seccompDataNrOffset.setWidth 32)]

def SeccompFilter.tryInto (f : SeccompFilter) : Except Error (List Insn) :=
  let result := validateArchitecture f.targetArch
  if f.rules.entries.isEmpty then .ok (result ++ [bpfStmt (bpfRet + bpfK) f.defaultAction.toU32])
  else
    let defaultAction := f.defaultAction.toU32
    match f.rules.entries.foldlM
        (fun s e => appendSyscallChain e.1 e.2 defaultAction s.1 s.2) ([examineSyscall], 1) with
    | .error e => .error e
    | .ok (accumulator, _) =>
      let result := result ++ (accumulator ++ [[bpfStmt (bpfRet + bpfK) defaultAction]]).flatten
      if result.length ≥ bpfMaxLen then .error .filterTooLarge else .ok result

end Seccomp
end Firecracker
