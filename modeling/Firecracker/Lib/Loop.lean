import Mathlib.Order.Basic

/-!
# Firecracker.Lib.Loop

A `while` loop given by its body: one iteration either goes on from a new state or leaves the
loop with a result. `run body fuel s` runs at most `fuel` iterations from `s` and is `none` while
the loop is still running; the loop terminates from `s` when some number of iterations leaves it.

The rules the proofs about a loop use: an invariant of the iterations gives a property of the
result (`run_inv`, and `run_within` for a loop that may abort); a state the body maps to itself
is never left, so the loop does not terminate from it (`not_terminates_of_next_self`); and a
measure that every iteration from an invariant state lowers bounds the number of iterations
(`run_of_measure`). For a loop that works through a queue, the position of the first entry that
ends the loop is such a measure (`findIdx_lt_of_pop`).

A `for` loop over `0..n` or over `iter().enumerate()` whose body may stop with an error is a
`List.foldlM` in `Except`; an invariant indexed by the number of elements processed, kept by the
body at each element, holds when the loop returns `Ok` (`foldlM_range'_inv`, `foldlM_zipIdx_inv`).
-/

namespace Loop

/-- One iteration of a loop: go on from a new state, or leave with a result. -/
inductive Step (σ α : Type*)
  | next (s : σ)
  | done (a : α)
  deriving DecidableEq

variable {σ α : Type*}

/-- At most `fuel` iterations from `s`: the result the loop leaves with, or `none` while it is
still running. -/
def run (body : σ → Step σ α) : Nat → σ → Option α
  | 0, _ => none
  | fuel + 1, s =>
    match body s with
    | .next s' => run body fuel s'
    | .done a => some a

/-- The loop leaves from `s` after some number of iterations. -/
def Terminates (body : σ → Step σ α) (s : σ) : Prop := ∃ fuel a, run body fuel s = some a

variable {body : σ → Step σ α}

theorem run_succ_of_next {s s' : σ} (h : body s = .next s') (fuel : Nat) :
    run body (fuel + 1) s = run body fuel s' := by
  simp [run, h]

theorem run_succ_of_done {s : σ} {a : α} (h : body s = .done a) (fuel : Nat) :
    run body (fuel + 1) s = some a := by
  simp [run, h]

theorem run_inv {P : σ → Prop} {Q : α → Prop} (hnext : ∀ s s', P s → body s = .next s' → P s')
    (hdone : ∀ s a, P s → body s = .done a → Q a) {fuel : Nat} {s : σ} {a : α} (hs : P s)
    (h : run body fuel s = some a) : Q a := by
  induction fuel generalizing s with
  | zero => cases h
  | succ n ih =>
    cases hb : body s with
    | next s' =>
      rw [run_succ_of_next hb] at h
      exact ih (hnext s s' hs hb) h
    | done b =>
      rw [run_succ_of_done hb] at h
      cases h
      exact hdone s _ hs hb

/-- An iteration that goes on to a state of `P` or leaves with a result of `Q`. -/
def Step.Sat (P : σ → Prop) (Q : α → Prop) : Step σ α → Prop
  | .next s => P s
  | .done a => Q a

theorem run_sat {P : σ → Prop} {Q : α → Prop} (h : ∀ s, P s → (body s).Sat P Q) {fuel : Nat}
    {s : σ} {a : α} (hs : P s) (hrun : run body fuel s = some a) : Q a := by
  refine run_inv ?_ ?_ hs hrun
  · intro s s' hs hb
    have hsat := h s hs
    rw [hb] at hsat
    exact hsat
  · intro s a hs hb
    have hsat := h s hs
    rw [hb] at hsat
    exact hsat

theorem run_of_next_self {s : σ} (h : body s = .next s) (fuel : Nat) : run body fuel s = none := by
  induction fuel with
  | zero => rfl
  | succ n ih => rw [run_succ_of_next h, ih]

theorem not_terminates_of_next_self {s : σ} (h : body s = .next s) : ¬ Terminates body s := by
  rintro ⟨fuel, a, hrun⟩
  rw [run_of_next_self h] at hrun
  cases hrun

section Measure

variable {P : σ → Prop} (μ : σ → Nat)

theorem run_of_measure_lt (hstep : ∀ s s', P s → body s = .next s' → P s' ∧ μ s' < μ s) :
    ∀ (n : Nat) (s : σ), P s → μ s < n → ∃ a, run body n s = some a
  | 0, _, _, hlt => absurd hlt (Nat.not_lt_zero _)
  | n + 1, s, hs, hlt => by
    cases hb : body s with
    | done a => exact ⟨a, run_succ_of_done hb n⟩
    | next s' =>
      obtain ⟨hs', hlt'⟩ := hstep s s' hs hb
      rw [run_succ_of_next hb]
      exact run_of_measure_lt hstep n s' hs' (by omega)

theorem run_of_measure (hstep : ∀ s s', P s → body s = .next s' → P s' ∧ μ s' < μ s) {s : σ}
    (hs : P s) : ∃ a, run body (μ s + 1) s = some a :=
  run_of_measure_lt μ hstep _ s hs (Nat.lt_succ_self _)

theorem findIdx_lt_of_pop {β : Type*} {p q : β → Bool} {x : β} {rest l : List β}
    (hx : p x = false) (hpq : ∀ y ∈ rest, p y = true → q y = true)
    (hl : l = rest ∨ ∃ y, q y = true ∧ l = rest ++ [y]) :
    l.findIdx q < (x :: rest).findIdx p := by
  have hle : rest.findIdx q ≤ rest.findIdx p := List.findIdx_le_findIdx hpq
  have hcons : (x :: rest).findIdx p = rest.findIdx p + 1 := by simp [List.findIdx_cons, hx]
  rw [hcons]
  rcases hl with rfl | ⟨y, hy, rfl⟩
  · omega
  · have hlen : rest.findIdx p ≤ rest.length := List.findIdx_le_length
    rw [List.findIdx_append]
    split
    · omega
    · simp only [List.findIdx_singleton, hy, if_true]
      omega

end Measure

section For

variable {ε : Type*}

theorem foldlM_range'_inv {f : σ → Nat → Except ε σ} {P : Nat → σ → Prop} :
    ∀ (n start : Nat) (s r : σ),
      (∀ k s s', start ≤ k → k < start + n → P k s → f s k = .ok s' → P (k + 1) s') →
      P start s → (List.range' start n).foldlM f s = .ok r → P (start + n) r
  | 0, start, s, r, _, hs, h => by
    cases h
    exact hs
  | n + 1, start, s, r, hstep, hs, h => by
    rw [List.range'_succ, List.foldlM_cons] at h
    cases hf : f s start with
    | error e =>
      rw [hf] at h
      cases h
    | ok s₁ =>
      rw [hf] at h
      have hs₁ := hstep start s s₁ (Nat.le_refl _) (by omega) hs hf
      have hrest := foldlM_range'_inv n (start + 1) s₁ r
        (fun k t t' hk hk' => hstep k t t' (by omega) (by omega)) hs₁ h
      rwa [Nat.add_assoc, Nat.add_comm 1 n] at hrest

theorem foldlM_zipIdx_inv {f : σ → α × Nat → Except ε σ} {P : Nat → σ → Prop} :
    ∀ (l : List α) (start : Nat) (s r : σ),
      (∀ a k s s', (a, k) ∈ l.zipIdx start → P k s → f s (a, k) = .ok s' → P (k + 1) s') →
      P start s → (l.zipIdx start).foldlM f s = .ok r → P (start + l.length) r
  | [], start, s, r, _, hs, h => by
    cases h
    exact hs
  | a :: l, start, s, r, hstep, hs, h => by
    rw [List.zipIdx_cons, List.foldlM_cons] at h
    cases hf : f s (a, start) with
    | error e =>
      rw [hf] at h
      cases h
    | ok s₁ =>
      rw [hf] at h
      have hs₁ := hstep a start s s₁ (by simp) hs hf
      have hrest := foldlM_zipIdx_inv l (start + 1) s₁ r
        (fun b k t t' hmem => hstep b k t t' (by rw [List.zipIdx_cons]; exact List.mem_cons_of_mem _ hmem))
        hs₁ h
      rwa [List.length_cons, ← Nat.add_assoc, Nat.add_right_comm start l.length 1]

end For

end Loop
