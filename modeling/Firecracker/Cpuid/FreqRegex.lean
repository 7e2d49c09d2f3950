import Firecracker.Lib.Regex
import Mathlib.Computability.DFA

/-!
# Firecracker.Cpuid.FreqRegex

The frequency `find_freq` searches a brand string for, `[0-9]+\.[0-9]+[MGT]Hz`, as a Mathlib
`RegularExpression` over bytes (`freqRegex`), and the automaton that reads a word from its start
and tells how much of a frequency it spells (`freqDfa`). The automaton recognises the expression
(`accepts_freqDfa`): each state it reaches describes the word read (`spells_eval`), and a
frequency leads it to its accepting state (`eval_of_isFreq`).

A frequency ends with `z` and has no other (`endMarked_freqRegex`), and a digit before a frequency
makes a longer one (`isFreq_cons`).
-/

namespace Firecracker
namespace Cpuid

open RegularExpression

def isAsciiDigit (ch : BitVec 8) : Bool := 0x30 ≤ ch.toNat && ch.toNat ≤ 0x39

def asciiDot : BitVec 8 := 0x2e
def asciiM : BitVec 8 := 0x4d
def asciiG : BitVec 8 := 0x47
def asciiT : BitVec 8 := 0x54
def asciiH : BitVec 8 := 0x48
def asciiSmallZ : BitVec 8 := 0x7a

def digits : List (BitVec 8) := (List.range 10).map fun k => BitVec.ofNat 8 (0x30 + k)

def units : List (BitVec 8) := [asciiM, asciiG, asciiT]

def freqRegex : RegularExpression (BitVec 8) :=
  Regex.oneOrMore (Regex.anyOf digits) * char asciiDot * Regex.oneOrMore (Regex.anyOf digits) *
    Regex.anyOf units * char asciiH * char asciiSmallZ

theorem mem_digits {c : BitVec 8} : c ∈ digits ↔ isAsciiDigit c = true := by
  simp only [digits, List.mem_map, List.mem_range, isAsciiDigit, Bool.and_eq_true,
    decide_eq_true_eq]
  constructor
  · rintro ⟨k, hk, rfl⟩
    rw [BitVec.toNat_ofNat]
    omega
  · rintro ⟨hlo, hhi⟩
    refine ⟨c.toNat - 0x30, by omega, BitVec.eq_of_toNat_eq ?_⟩
    rw [BitVec.toNat_ofNat]
    omega

def IsDigits (w : List (BitVec 8)) : Prop := w ≠ [] ∧ ∀ c ∈ w, isAsciiDigit c = true

/-- A frequency: digits, a point, digits, a unit and `Hz`. -/
def IsFreq (w : List (BitVec 8)) : Prop :=
  ∃ a b u, IsDigits a ∧ IsDigits b ∧ u ∈ units ∧ w = a ++ asciiDot :: b ++ [u, asciiH, asciiSmallZ]

theorem mem_oneOrMore_digits {w : List (BitVec 8)} :
    w ∈ (Regex.oneOrMore (Regex.anyOf digits)).matches' ↔ IsDigits w := by
  rw [Regex.mem_oneOrMore_anyOf, IsDigits]
  simp only [mem_digits]

/-- **The words of `[0-9]+\.[0-9]+[MGT]Hz` are the frequencies.** -/
theorem mem_freqRegex {w : List (BitVec 8)} : w ∈ freqRegex.matches' ↔ IsFreq w := by
  simp only [freqRegex, matches'_mul, Language.mem_mul, Regex.mem_char, mem_oneOrMore_digits,
    Regex.mem_anyOf, exists_eq_left]
  constructor
  · rintro ⟨_, ⟨_, ⟨_, ⟨_, ⟨a, ha, rfl⟩, b, hb, rfl⟩, _, ⟨u, hu, rfl⟩, rfl⟩, rfl⟩, rfl⟩
    exact ⟨a, b, u, ha, hb, hu, by simp⟩
  · rintro ⟨a, b, u, ha, hb, hu, rfl⟩
    exact ⟨_, ⟨_, ⟨_, ⟨_, ⟨a, ha, rfl⟩, b, hb, rfl⟩, _, ⟨u, hu, rfl⟩, rfl⟩, rfl⟩, by simp⟩

theorem endMarked_freqRegex : Regex.EndMarked freqRegex.matches' asciiSmallZ := by
  intro m hm
  obtain ⟨a, b, u, ha, hb, hu, rfl⟩ := mem_freqRegex.1 hm
  refine ⟨a ++ asciiDot :: b ++ [u, asciiH], by simp, fun hz => ?_⟩
  simp only [List.mem_append, List.mem_cons, List.not_mem_nil, or_false] at hz
  rcases hz with (hz | hz | hz) | hz | hz
  · exact absurd (ha.2 _ hz) (by decide)
  · exact absurd hz (by decide)
  · exact absurd (hb.2 _ hz) (by decide)
  · exact absurd (hz ▸ hu) (by decide)
  · exact absurd hz (by decide)

theorem isFreq_cons {c : BitVec 8} {w : List (BitVec 8)} (hc : isAsciiDigit c = true)
    (hw : IsFreq w) : IsFreq (c :: w) := by
  obtain ⟨a, b, u, ha, hb, hu, rfl⟩ := hw
  refine ⟨c :: a, b, u, ⟨List.cons_ne_nil c a, fun c' hc' => ?_⟩, hb, hu, by simp⟩
  rcases List.mem_cons.1 hc' with rfl | hc'
  · exact hc
  · exact ha.2 c' hc'

/-! ### The automaton -/

/-- How much of a frequency a word spells from its start. -/
inductive FreqPart
  | empty
  | intPart
  | decimalPoint
  | decimalPart
  | unitSize
  | unitH
  | hz
  deriving DecidableEq, Repr

/-- The transition of the automaton; `none` is the state of a word that no frequency starts
with. -/
def freqStep : Option FreqPart → BitVec 8 → Option FreqPart
  | some .empty, ch => if isAsciiDigit ch then some .intPart else none
  | some .intPart, ch =>
    if isAsciiDigit ch then some .intPart else if ch = asciiDot then some .decimalPoint else none
  | some .decimalPoint, ch => if isAsciiDigit ch then some .decimalPart else none
  | some .decimalPart, ch =>
    if isAsciiDigit ch then some .decimalPart else if ch ∈ units then some .unitSize else none
  | some .unitSize, ch => if ch = asciiH then some .unitH else none
  | some .unitH, ch => if ch = asciiSmallZ then some .hz else none
  | some .hz, _ => none
  | none, _ => none

def freqDfa : DFA (BitVec 8) (Option FreqPart) where
  step := freqStep
  start := some .empty
  accept := {some .hz}

/-- What a word that leads the automaton to each state spells. -/
def FreqPart.Spells : FreqPart → List (BitVec 8) → Prop
  | .empty, w => w = []
  | .intPart, w => IsDigits w
  | .decimalPoint, w => ∃ a, IsDigits a ∧ w = a ++ [asciiDot]
  | .decimalPart, w => ∃ a b, IsDigits a ∧ IsDigits b ∧ w = a ++ asciiDot :: b
  | .unitSize, w => ∃ a b u, IsDigits a ∧ IsDigits b ∧ u ∈ units ∧ w = a ++ asciiDot :: b ++ [u]
  | .unitH, w =>
    ∃ a b u, IsDigits a ∧ IsDigits b ∧ u ∈ units ∧ w = a ++ asciiDot :: b ++ [u, asciiH]
  | .hz, w => IsFreq w

theorem isDigits_singleton {c : BitVec 8} (hc : isAsciiDigit c = true) : IsDigits [c] :=
  ⟨List.cons_ne_nil c [], fun _ h => List.mem_singleton.1 h ▸ hc⟩

theorem IsDigits.append_singleton {w : List (BitVec 8)} {c : BitVec 8} (hw : IsDigits w)
    (hc : isAsciiDigit c = true) : IsDigits (w ++ [c]) := by
  refine ⟨by simp, fun c' hc' => ?_⟩
  rcases List.mem_append.1 hc' with hc' | hc'
  · exact hw.2 c' hc'
  · exact List.mem_singleton.1 hc' ▸ hc

theorem FreqPart.Spells.step {q q' : FreqPart} {w : List (BitVec 8)} {c : BitVec 8}
    (hw : q.Spells w) (h : freqStep (some q) c = some q') : q'.Spells (w ++ [c]) := by
  cases q with
  | empty =>
    simp only [freqStep] at h
    split at h
    · cases h
      rw [show w = [] from hw]
      exact isDigits_singleton ‹_›
    · cases h
  | intPart =>
    simp only [freqStep] at h
    split at h
    · cases h
      exact IsDigits.append_singleton hw ‹_›
    split at h
    · cases h
      exact ⟨w, hw, by rw [‹c = asciiDot›]⟩
    · cases h
  | decimalPoint =>
    simp only [freqStep] at h
    split at h
    · cases h
      obtain ⟨a, ha, rfl⟩ := hw
      exact ⟨a, [c], ha, isDigits_singleton ‹_›, by simp⟩
    · cases h
  | decimalPart =>
    simp only [freqStep] at h
    obtain ⟨a, b, ha, hb, rfl⟩ := hw
    split at h
    · cases h
      exact ⟨a, b ++ [c], ha, IsDigits.append_singleton hb ‹_›, by simp⟩
    split at h
    · cases h
      exact ⟨a, b, c, ha, hb, ‹_›, by simp⟩
    · cases h
  | unitSize =>
    simp only [freqStep] at h
    obtain ⟨a, b, u, ha, hb, hu, rfl⟩ := hw
    split at h
    · cases h
      exact ⟨a, b, u, ha, hb, hu, by simp [‹c = asciiH›]⟩
    · cases h
  | unitH =>
    simp only [freqStep] at h
    obtain ⟨a, b, u, ha, hb, hu, rfl⟩ := hw
    split at h
    · cases h
      exact ⟨a, b, u, ha, hb, hu, by simp [‹c = asciiSmallZ›]⟩
    · cases h
  | hz => simp only [freqStep] at h; cases h

/-- **Each state the automaton reaches describes the word read.** The induction is on the word,
read from the end. -/
theorem spells_eval {w : List (BitVec 8)} {q : FreqPart} (h : freqDfa.eval w = some q) :
    q.Spells w := by
  induction w using List.reverseRecOn generalizing q with
  | nil =>
    cases h
    rfl
  | append_singleton w c ih =>
    rw [DFA.eval_append_singleton] at h
    cases hw : freqDfa.eval w with
    | none =>
      rw [hw] at h
      cases h
    | some q₀ =>
      rw [hw] at h
      exact (ih hw).step h

theorem evalFrom_of_loop {w : List (BitVec 8)} {q : FreqPart}
    (hloop : ∀ c, isAsciiDigit c = true → freqStep (some q) c = some q)
    (hw : ∀ c ∈ w, isAsciiDigit c = true) : freqDfa.evalFrom (some q) w = some q := by
  induction w with
  | nil => rfl
  | cons c w ih =>
    rw [DFA.evalFrom_cons]
    change freqDfa.evalFrom (freqStep (some q) c) w = _
    rw [hloop c (hw c List.mem_cons_self)]
    exact ih fun c' hc' => hw c' (List.mem_cons_of_mem _ hc')

theorem evalFrom_isDigits {w : List (BitVec 8)} {q q' : FreqPart} (hw : IsDigits w)
    (hfirst : ∀ c, isAsciiDigit c = true → freqStep (some q) c = some q')
    (hloop : ∀ c, isAsciiDigit c = true → freqStep (some q') c = some q') :
    freqDfa.evalFrom (some q) w = some q' := by
  obtain ⟨c, v, rfl⟩ := List.exists_cons_of_ne_nil hw.1
  rw [DFA.evalFrom_cons]
  change freqDfa.evalFrom (freqStep (some q) c) v = _
  rw [hfirst c (hw.2 c List.mem_cons_self)]
  exact evalFrom_of_loop hloop fun c' hc' => hw.2 c' (List.mem_cons_of_mem _ hc')

theorem eval_of_isFreq {w : List (BitVec 8)} (hw : IsFreq w) : freqDfa.eval w = some .hz := by
  obtain ⟨a, b, u, ha, hb, hu, rfl⟩ := hw
  have hint : freqDfa.eval a = some .intPart :=
    evalFrom_isDigits ha (fun c hc => by simp [freqStep, hc]) fun c hc => by simp [freqStep, hc]
  have hdec : freqDfa.evalFrom (some .decimalPoint) b = some .decimalPart :=
    evalFrom_isDigits hb (fun c hc => by simp [freqStep, hc]) fun c hc => by simp [freqStep, hc]
  have hu' : isAsciiDigit u = false := by
    simp only [units, List.mem_cons, List.not_mem_nil, or_false] at hu
    rcases hu with rfl | rfl | rfl <;> decide
  rw [DFA.eval, List.append_assoc, DFA.evalFrom_of_append, ← DFA.eval, hint, List.cons_append,
    DFA.evalFrom_cons, DFA.evalFrom_of_append]
  change freqDfa.evalFrom (freqDfa.evalFrom (freqStep (some .intPart) asciiDot) b) _ = _
  rw [show freqStep (some .intPart) asciiDot = some .decimalPoint by decide, hdec]
  simp [freqDfa, freqStep, hu', hu]

/-- **The automaton recognises `[0-9]+\.[0-9]+[MGT]Hz`.** -/
theorem accepts_freqDfa : freqDfa.accepts = freqRegex.matches' := by
  ext w
  rw [DFA.mem_accepts, mem_freqRegex]
  constructor
  · intro h
    exact spells_eval (q := .hz) h
  · exact eval_of_isFreq

end Cpuid
end Firecracker
