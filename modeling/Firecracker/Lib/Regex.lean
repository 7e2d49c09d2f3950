import Mathlib.Computability.RegularExpressions

/-!
# Firecracker.Lib.Regex

Character classes and repetition over Mathlib's `RegularExpression`, and the matches of a
language in a word.

`anyOf cs` is the class `[c₁c₂…]` and `oneOrMore r` is `r+`; their membership lemmas say which
words they match without unfolding `matches'`.

A match of a language `L` in a word `w` at position `s` is a word of `L` that `w` has from `s`
on (`MatchAt`); the leftmost match is one no match starts before (`IsLeftmost`). When every word
of `L` ends with a letter `z` and has no other `z` (`EndMarked`), a match that covers an
occurrence of `z` in `w` ends there (`MatchAt.end_le`), so two matches at one position are equal
(`MatchAt.unique`).
-/

namespace Regex

open RegularExpression

variable {α : Type*}

/-! ### Classes and repetition -/

def anyOf (cs : List α) : RegularExpression α := cs.foldr (fun c r => char c + r) 0

def oneOrMore (r : RegularExpression α) : RegularExpression α := r * r.star

theorem anyOf_cons (c : α) (cs : List α) : anyOf (c :: cs) = char c + anyOf cs := rfl

variable {cs w : List α}

theorem mem_char {c : α} : w ∈ (char c).matches' ↔ w = [c] := Iff.rfl

theorem mem_anyOf : w ∈ (anyOf cs).matches' ↔ ∃ c ∈ cs, w = [c] := by
  induction cs with
  | nil =>
    simp only [anyOf, List.foldr_nil, matches'_zero, List.not_mem_nil, false_and, exists_false,
      iff_false]
    exact Language.notMem_zero w
  | cons c cs ih =>
    rw [anyOf_cons, matches'_add, Language.mem_add, mem_char, ih]
    simp only [List.mem_cons, exists_eq_or_imp]

theorem mem_star_anyOf : w ∈ (anyOf cs).star.matches' ↔ ∀ c ∈ w, c ∈ cs := by
  rw [matches'_star, Language.mem_kstar]
  constructor
  · rintro ⟨chunks, rfl, hchunks⟩ c hc
    obtain ⟨y, hy, hcy⟩ := List.mem_flatten.1 hc
    obtain ⟨c', hc', rfl⟩ := mem_anyOf.1 (hchunks y hy)
    rw [List.mem_singleton.1 hcy]
    exact hc'
  · intro hw
    refine ⟨w.map fun c => [c], by rw [← List.flatMap_def, List.flatMap_singleton'], fun y hy => ?_⟩
    obtain ⟨c, hc, rfl⟩ := List.mem_map.1 hy
    exact mem_anyOf.2 ⟨c, hw c hc, rfl⟩

theorem mem_oneOrMore_anyOf : w ∈ (oneOrMore (anyOf cs)).matches' ↔ w ≠ [] ∧ ∀ c ∈ w, c ∈ cs := by
  rw [oneOrMore, matches'_mul, Language.mem_mul]
  constructor
  · rintro ⟨a, ha, b, hb, rfl⟩
    obtain ⟨c, hc, rfl⟩ := mem_anyOf.1 ha
    refine ⟨List.cons_ne_nil c b, fun c' hc' => ?_⟩
    rcases List.mem_cons.1 hc' with rfl | hc'
    · exact hc
    · exact mem_star_anyOf.1 hb c' hc'
  · rintro ⟨hne, hw⟩
    obtain ⟨c, rest, rfl⟩ := List.exists_cons_of_ne_nil hne
    exact ⟨[c], mem_anyOf.2 ⟨c, hw c List.mem_cons_self, rfl⟩, rest,
      mem_star_anyOf.2 fun c' hc' => hw c' (List.mem_cons_of_mem _ hc'), rfl⟩

/-! ### Matches in a word -/

/-- `m` is a word of `L` that `w` has from position `s` on. -/
def MatchAt (L : Language α) (w : List α) (s : Nat) (m : List α) : Prop := m ∈ L ∧ m <+: w.drop s

/-- The leftmost match of `L` in `w`: no match starts before it. -/
def IsLeftmost (L : Language α) (w : List α) (s : Nat) (m : List α) : Prop :=
  MatchAt L w s m ∧ ∀ s' m', MatchAt L w s' m' → s ≤ s'

/-- Every word of `L` ends with `z` and has no other `z`. -/
def EndMarked (L : Language α) (z : α) : Prop := ∀ m ∈ L, ∃ init, m = init ++ [z] ∧ z ∉ init

variable {L : Language α} {s : Nat} {m : List α}

theorem exists_matchAt_iff : (∃ s m, MatchAt L w s m) ↔ ∃ m ∈ L, m <:+: w := by
  constructor
  · rintro ⟨s, m, hm, t, ht⟩
    refine ⟨m, hm, w.take s, t, ?_⟩
    rw [List.append_assoc, ht, List.take_append_drop]
  · rintro ⟨m, hm, u, t, rfl⟩
    refine ⟨u.length, m, hm, t, ?_⟩
    rw [List.append_assoc, List.drop_left]

theorem matchAt_iff_window (hne : m ≠ []) :
    MatchAt L w s m ↔ m ∈ L ∧ s + m.length ≤ w.length ∧ (w.take (s + m.length)).drop s = m := by
  rw [MatchAt, List.prefix_iff_eq_take, List.drop_take, Nat.add_sub_cancel_left]
  constructor
  · rintro ⟨hm, heq⟩
    refine ⟨hm, ?_, heq.symm⟩
    have hlen := congrArg List.length heq
    have hpos := List.length_pos_iff.2 hne
    rw [List.length_take, List.length_drop] at hlen
    omega
  · rintro ⟨hm, -, heq⟩
    exact ⟨hm, heq.symm⟩

theorem MatchAt.getElem? (hm : MatchAt L w s m) {i : Nat} (hi : i < m.length) :
    w[s + i]? = m[i]? := by
  obtain ⟨t, ht⟩ := hm.2
  rw [← List.getElem?_drop, ← ht, List.getElem?_append_left hi]

variable {z : α}

theorem MatchAt.end_le (hL : EndMarked L z) (hm : MatchAt L w s m) {i : Nat} (hi : w[i]? = some z)
    (hs : s ≤ i) : s + m.length ≤ i + 1 := by
  obtain ⟨init, rfl, hz⟩ := hL m hm.1
  by_contra hlt
  have hlen : i - s < init.length := by
    rw [List.length_append, List.length_singleton] at hlt
    omega
  have hget := hm.getElem? (i := i - s) (by rw [List.length_append]; omega)
  rw [Nat.add_sub_cancel' hs, hi, List.getElem?_append_left hlen] at hget
  exact hz (List.mem_of_getElem? hget.symm)

theorem MatchAt.getElem?_last (hL : EndMarked L z) (hm : MatchAt L w s m) :
    0 < m.length ∧ w[s + (m.length - 1)]? = some z := by
  obtain ⟨init, rfl, -⟩ := hL m hm.1
  have hlen : (init ++ [z]).length = init.length + 1 := by simp
  refine ⟨by omega, ?_⟩
  rw [hm.getElem? (by omega), hlen, Nat.add_sub_cancel, List.getElem?_concat_length]

/-- **Two matches of an end-marked language at one position are equal**: each ends at the other's
last letter. -/
theorem MatchAt.unique (hL : EndMarked L z) {m' : List α} (hm : MatchAt L w s m)
    (hm' : MatchAt L w s m') : m = m' := by
  obtain ⟨hpos, hlast⟩ := hm.getElem?_last hL
  obtain ⟨hpos', hlast'⟩ := hm'.getElem?_last hL
  have hle := hm'.end_le hL hlast (by omega)
  have hle' := hm.end_le hL hlast' (by omega)
  exact List.prefix_of_prefix_length_le hm.2 hm'.2 (by omega) |>.eq_of_length (by omega)

/-- **The first match to end is the leftmost one**, when the language is end-marked: a match that
starts before it covers its last letter `z`, and so ends no later than it. The match `m` at `f`
ends first, and among the matches that end with it none starts before it. -/
theorem isLeftmost_of_first (hL : EndMarked L z) {f : Nat} (hm : MatchAt L w f m)
    (hfirst : ∀ s' m', MatchAt L w s' m' → f + m.length ≤ s' + m'.length)
    (hstart : ∀ s' m', MatchAt L w s' m' → s' + m'.length = f + m.length → f ≤ s') :
    IsLeftmost L w f m := by
  refine ⟨hm, fun s' m' hm' => ?_⟩
  obtain ⟨hpos, hlast⟩ := hm.getElem?_last hL
  rcases Nat.lt_or_ge (s' + m'.length) (f + m.length + 1) with hend | hend
  · exact hstart s' m' hm' (by have := hfirst s' m' hm'; omega)
  · by_contra hlt
    have := hm'.end_le hL hlast (by omega)
    omega

theorem IsLeftmost.cons_not_mem {f : Nat} {c : α} (h : IsLeftmost L w f m) (hf : 0 < f)
    (hc : w[f - 1]? = some c) : c :: m ∉ L := by
  intro hcm
  have hdrop : w.drop (f - 1) = c :: w.drop f := by
    obtain ⟨hlt, rfl⟩ := List.getElem?_eq_some_iff.1 hc
    rw [List.drop_eq_getElem_cons hlt]
    congr 2
    omega
  have hprefix : c :: m <+: w.drop (f - 1) := by
    rw [hdrop]
    exact (List.prefix_cons_inj c).2 h.1.2
  have := h.2 (f - 1) (c :: m) ⟨hcm, hprefix⟩
  omega

end Regex
