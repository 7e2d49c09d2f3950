import Firecracker.Cpuid.FreqRegex
import Firecracker.Lib.Loop

/-!
# Firecracker.Cpuid.BrandString

`BrandString` of `cpuid::brand_string`, the emulated CPU brand string, and its `find_freq`, which
searches the 48 bytes of a brand string for the frequency `[0-9]+\.[0-9]+[MGT]Hz` with a Moore
machine of six stages.

The machine runs the automaton of the expression (`freqDfa`) from every position at once. After
each byte its variables tell, for every start `s`, the state the automaton reaches on the bytes
from `s` (`Scan.partFrom`, kept by every iteration: `Scan.Inv.next`), and no run has accepted
yet. The iteration that reads the `z` of `Hz` is the first at which a run accepts, and the runs
that accept then are those from `freq_start` up to the decimal point (`Scan.Inv.done`). So
`find_freq` returns a frequency exactly when the bytes contain one, and then the leftmost one,
whose integer part is the whole run of digits before the point (`findFreq_leftmostMatch`).
-/

namespace Firecracker
namespace Cpuid

/-! ### `find_freq` -/

inductive Stages
  | initial
  | foundFreqIntPart
  | foundFreqDecimalPoint
  | foundFreqDecimalPart
  | foundFreqUnitSize
  | foundH
  deriving DecidableEq, Repr

structure Scan where
  stage : Stages
  freqStart : Nat
  decimalStart : Nat
  deriving DecidableEq, Repr

namespace Scan

/-- One iteration of the loop, at the byte `ch` of index `i`: the variables after it, or the end
of the frequency when `ch` is the `z` of `Hz`. -/
def step (sc : Scan) (i : Nat) (ch : BitVec 8) : Loop.Step Scan Nat :=
  match sc.stage with
  | .initial =>
    if isAsciiDigit ch then .next { sc with freqStart := i, stage := .foundFreqIntPart }
    else .next sc
  | .foundFreqIntPart =>
    if !isAsciiDigit ch then
      if ch = asciiDot then .next { sc with stage := .foundFreqDecimalPoint }
      else .next { sc with stage := .initial }
    else .next sc
  | .foundFreqDecimalPoint =>
    if isAsciiDigit ch then .next { sc with stage := .foundFreqDecimalPart, decimalStart := i }
    else .next { sc with stage := .initial }
  | .foundFreqDecimalPart =>
    if !isAsciiDigit ch then
      if ch = asciiDot then
        .next { sc with stage := .foundFreqDecimalPoint, freqStart := sc.decimalStart }
      else if ch = asciiM || ch = asciiG || ch = asciiT then
        .next { sc with stage := .foundFreqUnitSize }
      else .next { sc with stage := .initial }
    else .next sc
  | .foundFreqUnitSize =>
    if ch = asciiH then .next { sc with stage := .foundH }
    else if isAsciiDigit ch then .next { sc with stage := .foundFreqIntPart, freqStart := i }
    else .next { sc with stage := .initial }
  | .foundH =>
    if ch = asciiSmallZ then .done (i + 1)
    else if isAsciiDigit ch then .next { sc with stage := .foundFreqIntPart, freqStart := i }
    else .next { sc with stage := .initial }

def init : Scan := ⟨.initial, 0, 0⟩

end Scan

/-- The loop of `find_freq` over `as_bytes().iter().enumerate()`, from the byte of index `i`: where
the frequency starts and ends, if the loop returns one. -/
def findFreqLoop : Scan → Nat → List (BitVec 8) → Option (Nat × Nat)
  | _, _, [] => none
  | sc, i, ch :: rest =>
    match sc.step i ch with
    | .next sc' => findFreqLoop sc' (i + 1) rest
    | .done freqEnd => some (sc.freqStart, freqEnd)

/-- `find_freq` over the bytes of a brand string: `&as_bytes()[freq_start..freq_end]`. -/
def findFreqIn (bytes : List (BitVec 8)) : Option (List (BitVec 8)) :=
  (findFreqLoop Scan.init 0 bytes).map fun (freqStart, freqEnd) => (bytes.take freqEnd).drop freqStart

/-! ### What the variables know -/

namespace Scan

/-- The state `freqDfa` reaches on the bytes from `s` to `i`, as the variables tell it after `i`
bytes: from the byte just read on nothing is read yet; in the integer part the digits from
`freq_start` on; after the point, the integer part before it; in the decimal part its digits from
`decimal_start` on, and the integer part before the point; with the unit and `H`, the integer part. -/
def partFrom (sc : Scan) (i s : Nat) : Option FreqPart :=
  if s = i then some .empty
  else
    match sc.stage with
    | .initial => none
    | .foundFreqIntPart => if sc.freqStart ≤ s then some .intPart else none
    | .foundFreqDecimalPoint => if sc.freqStart ≤ s ∧ s + 1 < i then some .decimalPoint else none
    | .foundFreqDecimalPart =>
      if sc.decimalStart ≤ s then some .intPart
      else if sc.freqStart ≤ s ∧ s + 1 < sc.decimalStart then some .decimalPart else none
    | .foundFreqUnitSize =>
      if sc.freqStart ≤ s ∧ s + 1 < sc.decimalStart then some .unitSize else none
    | .foundH => if sc.freqStart ≤ s ∧ s + 1 < sc.decimalStart then some .unitH else none

/-- The variables are consistent with `i` bytes read: the parts they mark are not empty. -/
def Valid (sc : Scan) (i : Nat) : Prop :=
  match sc.stage with
  | .initial => True
  | .foundFreqIntPart => sc.freqStart < i
  | .foundFreqDecimalPoint => sc.freqStart + 1 < i
  | .foundFreqDecimalPart | .foundFreqUnitSize | .foundH =>
    sc.freqStart + 1 < sc.decimalStart ∧ sc.decimalStart < i

theorem partFrom_ne_hz (sc : Scan) (i s : Nat) : sc.partFrom i s ≠ some .hz := by
  unfold partFrom
  split
  · nofun
  · split <;> (try split_ifs) <;> nofun

theorem mem_units_iff {ch : BitVec 8} :
    ch ∈ units ↔ (ch = asciiM || ch = asciiG || ch = asciiT) = true := by
  simp [units, or_assoc]

/-- **One iteration that goes on keeps the variables consistent and tells the runs one byte
further**: the state of the run from each start is the automaton's transition from the state the
variables told before. The cases are the stages and the branches of the iteration. -/
theorem step_next {sc sc' : Scan} {i : Nat} {ch : BitVec 8} (hv : sc.Valid i)
    (h : sc.step i ch = .next sc') :
    sc'.Valid (i + 1) ∧ ∀ s ≤ i, freqStep (sc.partFrom i s) ch = sc'.partFrom (i + 1) s := by
  unfold step at h
  unfold Valid at hv
  cases hst : sc.stage <;> rw [hst] at h hv <;> dsimp only at h hv <;> split at h <;>
    (try split at h) <;> (try split at h) <;> cases h
  all_goals
    refine ⟨by simp only [Valid, hst] <;> omega, fun s hs => ?_⟩
    simp only [partFrom, hst]
    split_ifs <;> simp_all +decide [freqStep, mem_units_iff] <;> omega

theorem partFrom_self (sc : Scan) (i : Nat) : sc.partFrom i i = some .empty := if_pos rfl

theorem step_done {sc : Scan} {i e : Nat} {ch : BitVec 8} (h : sc.step i ch = .done e) :
    sc.stage = .foundH ∧ ch = asciiSmallZ ∧ e = i + 1 := by
  unfold step at h
  cases hst : sc.stage <;> rw [hst] at h <;> dsimp only at h
  case foundH =>
    split at h
    · cases h
      exact ⟨rfl, ‹_›, rfl⟩
    · split at h <;> cases h
  all_goals split at h <;> (try split at h) <;> (try split at h) <;> cases h

/-- The loop invariant after the bytes `p`: the variables are consistent with them and tell the
state of the automaton's run from every start. -/
structure Inv (sc : Scan) (p : List (BitVec 8)) : Prop where
  valid : sc.Valid p.length
  eval_drop : ∀ s ≤ p.length, freqDfa.eval (p.drop s) = sc.partFrom p.length s

theorem inv_init : init.Inv [] where
  valid := trivial
  eval_drop s hs := by
    obtain rfl : s = 0 := Nat.le_zero.1 hs
    rfl

theorem Inv.next {sc sc' : Scan} {p : List (BitVec 8)} {ch : BitVec 8} (hinv : sc.Inv p)
    (h : sc.step p.length ch = .next sc') : sc'.Inv (p ++ [ch]) := by
  obtain ⟨hvalid, hpart⟩ := step_next hinv.valid h
  have hlen : (p ++ [ch]).length = p.length + 1 := by simp
  refine ⟨hlen ▸ hvalid, fun s hs => ?_⟩
  rw [hlen] at hs ⊢
  rcases Nat.lt_or_ge p.length s with hlt | hle
  · obtain rfl : s = p.length + 1 := by omega
    rw [List.drop_eq_nil_of_le (by simp), partFrom_self]
    rfl
  · rw [List.drop_append_of_le_length hle, DFA.eval_append_singleton, hinv.eval_drop s hle]
    exact hpart s hle

/-- **The iteration that reads the `z` of `Hz`**: the run from `freq_start` accepts with this
byte, and no run from an earlier start does. -/
theorem Inv.done {sc : Scan} {p : List (BitVec 8)} {ch : BitVec 8} {e : Nat} (hinv : sc.Inv p)
    (h : sc.step p.length ch = .done e) :
    e = p.length + 1 ∧ sc.freqStart < p.length ∧
      freqDfa.eval ((p ++ [ch]).drop sc.freqStart) = some .hz ∧
      ∀ s, freqDfa.eval ((p ++ [ch]).drop s) = some .hz → sc.freqStart ≤ s := by
  obtain ⟨hst, rfl, rfl⟩ := step_done h
  have hv := hinv.valid
  simp only [Valid, hst] at hv
  have hrun : ∀ s ≤ p.length, freqDfa.eval ((p ++ [asciiSmallZ]).drop s) =
      freqStep (sc.partFrom p.length s) asciiSmallZ := fun s hs => by
    rw [List.drop_append_of_le_length hs, DFA.eval_append_singleton, hinv.eval_drop s hs]
    rfl
  refine ⟨rfl, by omega, ?_, fun s hs => ?_⟩
  · rw [hrun _ (by omega)]
    simp only [partFrom, hst]
    rw [if_neg (by omega), if_pos ⟨le_refl _, by omega⟩]
    rfl
  · by_contra hlt
    rw [hrun s (by omega)] at hs
    simp only [partFrom, hst] at hs
    rw [if_neg (by omega), if_neg (by omega)] at hs
    cases hs

end Scan

/-! ### The loop -/

/-- No run of the automaton accepts within `w`: no part of `w` is a frequency. -/
def NoFreqIn (w : List (BitVec 8)) : Prop := ∀ e s, freqDfa.eval ((w.take e).drop s) ≠ some .hz

/-- What the loop returns from the bytes `w`: nothing when they have no frequency, and otherwise
the start and end of a frequency such that none ends before it and none that ends with it starts
before it. -/
def FindsFirst (w : List (BitVec 8)) : Option (Nat × Nat) → Prop
  | none => NoFreqIn w
  | some (f, e) => f < e ∧ e ≤ w.length ∧ freqDfa.eval ((w.take e).drop f) = some .hz ∧
      NoFreqIn (w.take (e - 1)) ∧ ∀ s, freqDfa.eval ((w.take e).drop s) = some .hz → f ≤ s

theorem noFreqIn_nil : NoFreqIn [] := by
  intro e s h
  rw [List.take_nil, List.drop_nil] at h
  cases h

theorem NoFreqIn.snoc {sc : Scan} {p : List (BitVec 8)} {ch : BitVec 8} (hno : NoFreqIn p)
    (hinv : sc.Inv (p ++ [ch])) : NoFreqIn (p ++ [ch]) := by
  intro e s h
  rcases Nat.lt_or_ge p.length e with hlt | hle
  · rw [List.take_of_length_le (by simp; omega)] at h
    rcases Nat.lt_or_ge (p ++ [ch]).length s with hs | hs
    · rw [List.drop_eq_nil_of_le (Nat.le_of_lt hs)] at h
      cases h
    · exact Scan.partFrom_ne_hz sc _ s (hinv.eval_drop s hs ▸ h)
  · rw [List.take_append_of_le_length hle] at h
    exact hno e s h

/-- **The loop finds the first frequency.** The induction is on the bytes left; the invariant
and the absence of a frequency in the bytes read carry over each iteration that goes on. -/
theorem findFreqLoop_findsFirst {sc : Scan} {p : List (BitVec 8)} (rest : List (BitVec 8))
    (hinv : sc.Inv p) (hno : NoFreqIn p) :
    FindsFirst (p ++ rest) (findFreqLoop sc p.length rest) := by
  induction rest generalizing sc p with
  | nil =>
    rw [List.append_nil]
    exact hno
  | cons ch rest ih =>
    rw [findFreqLoop]
    cases hstep : sc.step p.length ch with
    | next sc' =>
      have hinv' := hinv.next hstep
      have := ih hinv' (hno.snoc hinv')
      rwa [List.append_assoc, List.singleton_append, List.length_append,
        List.length_singleton] at this
    | done e =>
      obtain ⟨rfl, hlt, hacc, hleft⟩ := hinv.done hstep
      have htake : (p ++ ch :: rest).take (p.length + 1) = p ++ [ch] := by
        rw [← List.singleton_append, ← List.append_assoc,
          List.take_append_of_le_length (by simp), List.take_of_length_le (by simp)]
      have htake' : (p ++ ch :: rest).take (p.length + 1 - 1) = p := by
        rw [Nat.add_sub_cancel, List.take_left]
      refine ⟨by omega, by simp, by rw [htake]; exact hacc, by rw [htake']; exact hno,
        fun s hs => hleft s ?_⟩
      rwa [htake] at hs

theorem findsFirst_findFreqLoop (w : List (BitVec 8)) : FindsFirst w (findFreqLoop Scan.init 0 w) :=
  findFreqLoop_findsFirst (p := []) w Scan.inv_init noFreqIn_nil

/-! ### `find_freq` finds the leftmost frequency -/

theorem mem_freqRegex_iff_eval {m : List (BitVec 8)} :
    m ∈ freqRegex.matches' ↔ freqDfa.eval m = some .hz := by
  rw [← accepts_freqDfa, DFA.mem_accepts]
  rfl

theorem eval_window_of_matchAt {w m : List (BitVec 8)} {s : Nat}
    (hm : Regex.MatchAt freqRegex.matches' w s m) :
    freqDfa.eval ((w.take (s + m.length)).drop s) = some .hz := by
  obtain ⟨init, rfl, -⟩ := endMarked_freqRegex m hm.1
  obtain ⟨hmem, -, hwin⟩ := (Regex.matchAt_iff_window (by simp)).1 hm
  rw [hwin]
  exact mem_freqRegex_iff_eval.1 hmem

theorem FindsFirst.isLeftmost {w : List (BitVec 8)} {f e : Nat} (h : FindsFirst w (some (f, e))) :
    Regex.IsLeftmost freqRegex.matches' w f ((w.take e).drop f) := by
  obtain ⟨hfe, hew, hacc, hno, hleft⟩ := h
  have hlen : ((w.take e).drop f).length = e - f := by
    rw [List.length_drop, List.length_take]
    omega
  have hm : Regex.MatchAt freqRegex.matches' w f ((w.take e).drop f) := by
    refine ⟨mem_freqRegex_iff_eval.2 hacc, ?_⟩
    rw [List.drop_take]
    exact List.take_prefix _ _
  refine Regex.isLeftmost_of_first endMarked_freqRegex hm (fun s' m' hm' => ?_)
    (fun s' m' hm' hend => hleft s' ?_)
  · by_contra hlt
    apply hno (s' + m'.length) s'
    rw [List.take_take, Nat.min_eq_left (by omega)]
    exact eval_window_of_matchAt hm'
  · have hwin := eval_window_of_matchAt hm'
    rwa [hend, hlen, Nat.add_sub_cancel' (Nat.le_of_lt hfe)] at hwin

theorem NoFreqIn.not_matchAt {w m : List (BitVec 8)} {s : Nat} (h : NoFreqIn w) :
    ¬Regex.MatchAt freqRegex.matches' w s m := fun hm =>
  h _ _ (eval_window_of_matchAt hm)

/-- **`find_freq`, over any bytes, returns a frequency exactly when the bytes contain one, and
then the leftmost one, the only frequency at its start, whose integer part takes every digit
before it.** -/
theorem findFreqIn_spec (w : List (BitVec 8)) :
    ((findFreqIn w).isSome ↔ ∃ m ∈ freqRegex.matches', m <:+: w) ∧
      ∀ m, findFreqIn w = some m → ∃ s, Regex.IsLeftmost freqRegex.matches' w s m ∧
        (∀ m', Regex.MatchAt freqRegex.matches' w s m' → m' = m) ∧
        (0 < s → ∀ c, w[s - 1]? = some c → isAsciiDigit c = false) := by
  have hfirst := findsFirst_findFreqLoop w
  unfold findFreqIn
  rw [← Regex.exists_matchAt_iff]
  cases hloop : findFreqLoop Scan.init 0 w with
  | none =>
    rw [hloop] at hfirst
    refine ⟨⟨nofun, fun ⟨_, _, hm⟩ => absurd hm hfirst.not_matchAt⟩, nofun⟩
  | some r =>
    obtain ⟨f, e⟩ := r
    rw [hloop] at hfirst
    have hleft := hfirst.isLeftmost
    refine ⟨⟨fun _ => ⟨f, _, hleft.1⟩, fun _ => rfl⟩, fun m hm => ?_⟩
    cases hm
    refine ⟨f, hleft, fun m' hm' => (hleft.1.unique endMarked_freqRegex hm').symm,
      fun hf c hc => ?_⟩
    by_contra hdigit
    exact hleft.cons_not_mem hf hc
      (mem_freqRegex.2 (isFreq_cons (Bool.not_eq_false _ ▸ hdigit) (mem_freqRegex.1 hleft.1.1)))

/-- The restarts of the machine: after `1.2` a second point starts the integer part at `2`, and
after `1.2G` a digit starts it again. -/
example : findFreqIn [0x31, 0x2e, 0x32, 0x2e, 0x33, 0x47, 0x48, 0x7a] =
    some [0x32, 0x2e, 0x33, 0x47, 0x48, 0x7a] := by decide

example : findFreqIn [0x31, 0x2e, 0x32, 0x47, 0x33, 0x2e, 0x34, 0x47, 0x48, 0x7a] =
    some [0x33, 0x2e, 0x34, 0x47, 0x48, 0x7a] := by decide

/-! ### The brand string -/

def regBufSize : Nat := 3 * 4

/-- `BrandString::MAX_LEN`: the bytes of the buffer but its null terminator. -/
def maxLen : Nat := regBufSize * 4 - 1

/-- `BrandString`. The registers of `reg_buf` are kept as the bytes `as_bytes` views them as, in
memory order: every function modelled here reads and writes them through that view. -/
structure BrandString where
  asBytes : List (BitVec 8)
  length_asBytes : asBytes.length = regBufSize * 4
  len : Nat

inductive Error
  | notSupported
  | overflow (msg : String)
  deriving DecidableEq, Repr

def brandStringIntel : List (BitVec 8) :=
  [0x49, 0x6e, 0x74, 0x65, 0x6c, 0x28, 0x52, 0x29, 0x20, 0x58, 0x65, 0x6f, 0x6e, 0x28, 0x52, 0x29,
    0x20, 0x50, 0x72, 0x6f, 0x63, 0x65, 0x73, 0x73, 0x6f, 0x72]

def brandStringAmd : List (BitVec 8) := [0x41, 0x4d, 0x44, 0x20, 0x45, 0x50, 0x59, 0x43]

/-- `VENDOR_ID_INTEL` of `cpuid::common`, `GenuineIntel`. -/
def vendorIdIntel : List (BitVec 8) :=
  [0x47, 0x65, 0x6e, 0x75, 0x69, 0x6e, 0x65, 0x49, 0x6e, 0x74, 0x65, 0x6c]

def vendorIdAmd : List (BitVec 8) :=
  [0x41, 0x75, 0x74, 0x68, 0x65, 0x6e, 0x74, 0x69, 0x63, 0x41, 0x4d, 0x44]

/-- `b" @ "`, put between the brand string and the frequency. -/
def atSign : List (BitVec 8) := [0x20, 0x40, 0x20]

/-- `copy_from_slice` of `src` over the bytes from `start` on. -/
def copyInto (bytes : List (BitVec 8)) (start : Nat) (src : List (BitVec 8)) : List (BitVec 8) :=
  bytes.take start ++ src ++ bytes.drop (start + src.length)

theorem length_copyInto (bytes : List (BitVec 8)) (start : Nat) (src : List (BitVec 8))
    (h : src.length ≤ bytes.length - start) : (copyInto bytes start src).length = bytes.length := by
  simp only [copyInto, List.length_append, List.length_take, List.length_drop]
  omega

theorem take_copyInto (bytes : List (BitVec 8)) {start : Nat} (src : List (BitVec 8))
    (h : start ≤ bytes.length) :
    (copyInto bytes start src).take (start + src.length) = bytes.take start ++ src := by
  have hlen : (bytes.take start ++ src).length = start + src.length := by simp; omega
  rw [copyInto, ← hlen, List.take_left]

namespace BrandString

def new : BrandString := ⟨List.replicate (regBufSize * 4) 0, List.length_replicate, 0⟩

def bytes (b : BrandString) : List (BitVec 8) := b.asBytes.take b.len

/-- `from_bytes_unchecked`; `none` is the panic of the slice copy when `src` is longer than the
buffer. -/
def fromBytesUnchecked (src : List (BitVec 8)) : Option BrandString :=
  if h : src.length ≤ regBufSize * 4 then
    some ⟨copyInto new.asBytes 0 src, by
      rw [length_copyInto new.asBytes 0 src (by rw [new.length_asBytes]; omega), new.length_asBytes],
      src.length⟩
  else none

def checkPush (b : BrandString) (src : List (BitVec 8)) : Bool := src.length ≤ maxLen - b.len

theorem checkPush_eq_true {b : BrandString} {src : List (BitVec 8)} :
    b.checkPush src = true ↔ src.length ≤ maxLen - b.len := by
  simp [checkPush]

def pushBytes (b : BrandString) (src : List (BitVec 8)) : Except Error BrandString :=
  if h : !b.checkPush src then .error (.overflow "Appending to the brand string failed.")
  else
    .ok ⟨copyInto b.asBytes b.len src, by
      have hfits := checkPush_eq_true.1 (by simpa using h)
      rw [maxLen] at hfits
      rw [length_copyInto b.asBytes b.len src (by rw [b.length_asBytes]; omega), b.length_asBytes],
      b.len + src.length⟩

def findFreq (b : BrandString) : Option (List (BitVec 8)) := findFreqIn b.asBytes

/-- `from_vendor_id`, given what `from_host_cpuid` returns on the host; `none` is the panic of an
`unwrap` or an `expect`. -/
def fromVendorId (vendorId : List (BitVec 8)) (hostBrandString : Except Error BrandString) :
    Option BrandString :=
  if vendorId = vendorIdIntel then do
    let this ← fromBytesUnchecked brandStringIntel
    match hostBrandString with
    | .ok hostBstr =>
      match hostBstr.findFreq with
      | some freq =>
        let this ← (this.pushBytes atSign).toOption
        (this.pushBytes freq).toOption
      | none => some this
    | .error _ => some this
  else if vendorId = vendorIdAmd then fromBytesUnchecked brandStringAmd
  else fromBytesUnchecked []

theorem fromBytesUnchecked_of_le (src : List (BitVec 8)) (h : src.length ≤ regBufSize * 4) :
    ∃ b, fromBytesUnchecked src = some b ∧ b.bytes = src ∧ b.len = src.length := by
  refine ⟨_, dif_pos h, ?_, rfl⟩
  have htake := take_copyInto new.asBytes src (Nat.zero_le _)
  rwa [Nat.zero_add, List.take_zero, List.nil_append] at htake

/-- **`push_bytes` appends what fits.** -/
theorem pushBytes_of_le (b : BrandString) (src : List (BitVec 8)) (h : src.length ≤ maxLen - b.len) :
    ∃ b', b.pushBytes src = .ok b' ∧ b'.bytes = b.bytes ++ src ∧ b'.len = b.len + src.length := by
  have hcheck : ¬(!b.checkPush src) = true := by simpa using checkPush_eq_true.2 h
  refine ⟨_, by rw [pushBytes, dif_neg hcheck], ?_, rfl⟩
  by_cases hlen : b.len ≤ b.asBytes.length
  · exact take_copyInto b.asBytes src hlen
  · have hnil : src = [] := by
      rw [b.length_asBytes] at hlen
      simp only [maxLen] at h
      exact List.eq_nil_of_length_eq_zero (by omega)
    subst hnil
    simp [bytes, copyInto]

theorem pushBytes_of_lt (b : BrandString) (src : List (BitVec 8)) (h : maxLen - b.len < src.length) :
    b.pushBytes src = .error (.overflow "Appending to the brand string failed.") := by
  have hcheck : (!b.checkPush src) = true := by
    rw [Bool.not_eq_true', Bool.eq_false_iff, ne_eq, checkPush_eq_true]
    omega
  rw [pushBytes, dif_pos hcheck]

/-- **On an Intel host, `from_vendor_id` appends the frequency `find_freq` finds in the host's
brand string** to `Intel(R) Xeon(R) Processor @ `, when it fits in the 18 bytes left, and panics
otherwise. -/
theorem fromVendorId_intel {host : BrandString} {freq : List (BitVec 8)}
    (hf : host.findFreq = some freq) :
    (fromVendorId vendorIdIntel (.ok host)).map bytes =
      if freq.length ≤ 18 then some (brandStringIntel ++ atSign ++ freq) else none := by
  obtain ⟨b₀, hb₀, hbytes₀, hlen₀⟩ := fromBytesUnchecked_of_le brandStringIntel (by decide)
  obtain ⟨b₁, hb₁, hbytes₁, hlen₁⟩ := pushBytes_of_le b₀ atSign (by rw [hlen₀]; decide)
  have hleft : maxLen - b₁.len = 18 := by rw [hlen₁, hlen₀]; rfl
  unfold fromVendorId
  rw [if_pos rfl]
  simp only [hb₀, hf, hb₁, Option.bind_eq_bind, Option.bind_some, Except.toOption]
  by_cases hfits : freq.length ≤ 18
  · obtain ⟨b₂, hb₂, hbytes₂, -⟩ := pushBytes_of_le b₁ freq (by omega)
    rw [if_pos hfits, hb₂, Option.map_some, hbytes₂, hbytes₁, hbytes₀]
  · rw [if_neg hfits, pushBytes_of_lt b₁ freq (by omega), Option.map_none]

/-- **`find_freq` is a matcher for `[0-9]+\.[0-9]+[MGT]Hz`.** For every 48-byte brand-string buffer,
`find_freq` returns a frequency exactly when the buffer contains one, and then the leftmost one: no
match starts before it, no other starts where it does, and the byte before it is not a digit, so
its integer part is the whole run of digits before the point. `from_vendor_id` on an Intel host
appends exactly that frequency, when it fits in the 18 bytes left, and panics otherwise. -/
theorem findFreq_leftmostMatch (b : BrandString) :
    (b.findFreq.isSome ↔ ∃ m ∈ freqRegex.matches', m <:+: b.asBytes) ∧
      ∀ m, b.findFreq = some m →
        (∃ s, Regex.IsLeftmost freqRegex.matches' b.asBytes s m ∧
          (∀ m', Regex.MatchAt freqRegex.matches' b.asBytes s m' → m' = m) ∧
          (0 < s → ∀ c, b.asBytes[s - 1]? = some c → isAsciiDigit c = false)) ∧
        (fromVendorId vendorIdIntel (.ok b)).map bytes =
          if m.length ≤ 18 then some (brandStringIntel ++ atSign ++ m) else none :=
  ⟨(findFreqIn_spec b.asBytes).1, fun m hm => ⟨(findFreqIn_spec b.asBytes).2 m hm, fromVendorId_intel hm⟩⟩

end BrandString

end Cpuid
end Firecracker
