import Firecracker.Lib.Runs

/-!
# Firecracker.Mmds.SanitizeUri

`sanitize_uri` of `mmds`, which turns the path of a request into a JSON pointer by deduplicating
`/`. A `String` is modelled by its UTF-8 bytes: `/` is the byte `0x2f`, which no other
character's encoding contains, so `uri.replace("//", "/")` on the bytes is the same replacement
on the characters. `String::replace` scans from the left and replaces occurrences without
overlap, which is `Runs.halve`.

The loop starts from the length `u32::MAX` and runs while a pass shortened the URI. Each pass
keeps what collapsing the runs of `/` gives, and the pass that shortens nothing finds no `//`, so
for a URI shorter than `u32::MAX` bytes the loop returns it with every run of `/` collapsed
(`sanitizeUri_collapses`). A longer URI is returned as it is (`sanitizeUri_of_length_ge`).
-/

namespace Firecracker
namespace Mmds

def slash : BitVec 8 := 0x2f

/-- `u32::MAX as usize`, the length the loop starts from. -/
def u32Max : Nat := 0xffffffff

/-- The `while` loop of `sanitize_uri`: while the URI is shorter than after the previous pass,
remember its length and replace `//` by `/` once more. -/
def sanitizeLoop (len : Nat) (uri : List (BitVec 8)) : List (BitVec 8) :=
  if uri.length < len then sanitizeLoop uri.length (Runs.halve slash uri) else uri
termination_by len

def sanitizeUri (uri : List (BitVec 8)) : List (BitVec 8) := sanitizeLoop u32Max uri

theorem sanitizeLoop_eq_collapse {len : Nat} {uri : List (BitVec 8)} (h : uri.length < len) :
    sanitizeLoop len uri = Runs.collapse slash uri := by
  fun_induction sanitizeLoop len uri with
  | case1 len uri _ ih =>
    by_cases hshorter : (Runs.halve slash uri).length < uri.length
    · rw [ih hshorter, Runs.collapse_halve]
    · have hle := Runs.length_halve_le (c := slash) uri
      obtain ⟨heq, hchain⟩ := Runs.halve_eq_self_of_length (c := slash) (l := uri) (by omega)
      rw [sanitizeLoop, if_neg hshorter, heq, Runs.collapse_of_isChain hchain]
  | case2 len uri hge => exact absurd h hge

/-- **`sanitize_uri` terminates and collapses slashes.** For a URI shorter than `u32::MAX` bytes
it returns the URI with every maximal run of `/` replaced by one `/`: no `//` is left, and every
other byte is kept in order. -/
theorem sanitizeUri_collapses (uri : List (BitVec 8)) (hlen : uri.length < u32Max) :
    sanitizeUri uri = Runs.collapse slash uri ∧ (sanitizeUri uri).IsChain (Runs.Apart slash) ∧
      (sanitizeUri uri).filter (fun b => b ≠ slash) = uri.filter (fun b => b ≠ slash) := by
  have h : sanitizeUri uri = Runs.collapse slash uri := sanitizeLoop_eq_collapse hlen
  rw [h]
  exact ⟨rfl, Runs.isChain_collapse uri, Runs.filter_collapse uri⟩

def doubledSlashes : List (BitVec 8) := [0x2f, 0x2f, 0x61, 0x2f, 0x2f, 0x2f, 0x62]

example : Runs.collapse slash doubledSlashes = [0x2f, 0x61, 0x2f, 0x62] := by decide

theorem sanitizeUri_collapses_doubledSlashes :
    sanitizeUri doubledSlashes = Runs.collapse slash doubledSlashes ∧
      (sanitizeUri doubledSlashes).IsChain (Runs.Apart slash) ∧
      (sanitizeUri doubledSlashes).filter (fun b => b ≠ slash) =
        doubledSlashes.filter (fun b => b ≠ slash) :=
  sanitizeUri_collapses doubledSlashes (by decide)

theorem sanitizeUri_of_length_ge {uri : List (BitVec 8)} (h : u32Max ≤ uri.length) :
    sanitizeUri uri = uri := by
  rw [sanitizeUri, sanitizeLoop, if_neg (Nat.not_lt.2 h)]

end Mmds
end Firecracker
