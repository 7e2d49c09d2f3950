import Firecracker.Virtio.Chain

/-!
# Firecracker.Net.IoVec

`devices/src/virtio/net/iovec.rs`: `IoVecBuffer::read_at`, which copies the bytes of a guest
buffer scattered over the segments of a descriptor chain, from an offset, into a host buffer.

The buffer's bytes are its segments one after another (`contents`). The loop of `read_at` goes
over the segments with the end of the segment before (`seg_end`) and the bytes copied so far
(`buf_start`), skips the segments before the offset, copies the part of each segment that lies in
the range read, and stops at the first segment past it. `readAtLoop_eq`: from any segment on, the
loop copies the bytes of the range that lie in the segments left, right after the bytes already
copied. So `read_at` is slicing the concatenation (`readAt_eq`).

The host buffer is a list of bytes; the subtraction `buf_start + end - start` and the slice
`buf[buf_start..buf_end]` panic on bad bounds, which `readAtLoop` returns as `none` and which never
happens.
-/

namespace Firecracker
namespace Virtio
namespace IoVecBuffer

variable (mem : GuestMemoryMmap)

def segment (v : BitVec 64 × BitVec 32) : List (BitVec 8) :=
  (List.range v.2.toNat).map fun i => mem.bytes (v.1 + BitVec.ofNat 64 i)

def contents (vecs : List (BitVec 64 × BitVec 32)) : List (BitVec 8) := vecs.flatMap (segment mem)

def copyInto (buf : List (BitVec 8)) (pos : Nat) (src : List (BitVec 8)) : List (BitVec 8) :=
  buf.take pos ++ src ++ buf.drop (pos + src.length)

/-- The loop of `read_at` over the segments left, with `seg_end` and `buf_start`; `last` is the
first byte not read. -/
def readAtLoop (offset last : Nat) :
    List (BitVec 64 × BitVec 32) → Nat → Nat → List (BitVec 8) → Option (List (BitVec 8))
  | [], _, _, buf => some buf
  | (iovBase, iovLen) :: vecs, segEnd, bufStart, buf =>
    let segStart := segEnd
    let segEnd := segStart + iovLen.toNat
    if last ≤ segStart then some buf
    else if offset ≥ segEnd then readAtLoop offset last vecs segEnd bufStart buf
    else
      let start := if offset < segStart then 0 else offset - segStart
      let end_ := if last < segEnd then last - segStart else iovLen.toNat
      let bufEnd := bufStart + end_ - start
      if start ≤ end_ ∧ bufEnd ≤ buf.length then
        let src := (List.range (bufEnd - bufStart)).map fun i =>
          mem.bytes (iovBase + BitVec.ofNat 64 (start + i))
        readAtLoop offset last vecs segEnd bufEnd (copyInto buf bufStart src)
      else none

/-- `read_at`: the host buffer afterwards, and the number of bytes read, `None` from an offset at
or past the end. -/
def readAt (b : IoVecBuffer) (buf : List (BitVec 8)) (offset : Nat) :
    Option (List (BitVec 8) × Option Nat) :=
  if offset ≥ b.len then some (buf, none)
  else
    let size := min buf.length (b.len - offset)
    let last := offset + size
    (readAtLoop mem offset last b.vecs 0 0 buf).map fun buf => (buf, some size)

/-! ## The segments -/

@[simp] theorem length_segment (v : BitVec 64 × BitVec 32) : (segment mem v).length = v.2.toNat := by
  simp [segment]

@[simp] theorem contents_nil : contents mem [] = [] := rfl

@[simp] theorem contents_cons (v : BitVec 64 × BitVec 32) (vecs : List (BitVec 64 × BitVec 32)) :
    contents mem (v :: vecs) = segment mem v ++ contents mem vecs := by
  simp [contents]

theorem length_contents (vecs : List (BitVec 64 × BitVec 32)) :
    (contents mem vecs).length = (vecs.map fun v => v.2.toNat).sum := by
  induction vecs with
  | nil => rfl
  | cons v vecs ih => simp [ih]

theorem segment_drop_take (v : BitVec 64 × BitVec 32) {start n : Nat}
    (h : start + n ≤ v.2.toNat) :
    ((segment mem v).drop start).take n =
      (List.range n).map fun i => mem.bytes (v.1 + BitVec.ofNat 64 (start + i)) := by
  refine List.ext_getElem (by simp; omega) fun i hi _ => ?_
  simp only [List.length_take, List.length_drop, length_segment] at hi
  simp [segment]

theorem length_copyInto {buf src : List (BitVec 8)} {pos : Nat} (h : pos + src.length ≤ buf.length) :
    (copyInto buf pos src).length = buf.length := by
  simp [copyInto]
  omega

@[simp] theorem copyInto_nil (buf : List (BitVec 8)) (pos : Nat) : copyInto buf pos [] = buf := by
  simp [copyInto]

theorem copyInto_copyInto {buf src src' : List (BitVec 8)} {pos pos' : Nat} (h : pos ≤ buf.length)
    (hpos : pos' = pos + src.length) :
    copyInto (copyInto buf pos src) pos' src' = copyInto buf pos (src ++ src') := by
  subst hpos
  have hlen : (buf.take pos ++ src).length = pos + src.length := by simp; omega
  unfold copyInto
  rw [List.take_left' hlen, ← hlen, List.drop_length_add_append, List.drop_drop, hlen,
    List.length_append]
  simp only [List.append_assoc, Nat.add_assoc]

/-- The bytes of the segments `vecs`, which start at byte `segEnd` of the buffer, that lie in
`[offset, last)`. -/
def window (offset last : Nat) (vecs : List (BitVec 64 × BitVec 32)) (segEnd : Nat) :
    List (BitVec 8) :=
  ((contents mem vecs).drop (offset - segEnd)).take (last - max segEnd offset)

section window

variable {mem} {offset last segEnd : Nat} {v : BitVec 64 × BitVec 32}
  {vecs : List (BitVec 64 × BitVec 32)}

theorem window_of_le (h : last ≤ segEnd) : window mem offset last vecs segEnd = [] := by
  simp [window, show last - max segEnd offset = 0 by omega]

theorem window_skip (h : segEnd + v.2.toNat ≤ offset) :
    window mem offset last (v :: vecs) segEnd = window mem offset last vecs (segEnd + v.2.toNat) := by
  simp only [window, contents_cons, List.drop_append, length_segment]
  rw [List.drop_eq_nil_of_le (by simp; omega), List.nil_append,
    show offset - segEnd - v.2.toNat = offset - (segEnd + v.2.toNat) by omega,
    show max segEnd offset = max (segEnd + v.2.toNat) offset by omega]

theorem window_copy (hlast : segEnd < last) (hoffset : offset < segEnd + v.2.toNat) :
    window mem offset last (v :: vecs) segEnd =
      ((segment mem v).drop (offset - segEnd)).take (min last (segEnd + v.2.toNat) - max segEnd offset) ++
        window mem offset last vecs (segEnd + v.2.toNat) := by
  simp only [window, contents_cons, List.drop_append, length_segment, List.take_append,
    List.length_drop]
  congr 1
  · rw [List.take_eq_take_iff, List.length_drop, length_segment]
    omega
  · rw [show offset - segEnd - v.2.toNat = offset - (segEnd + v.2.toNat) by omega,
      show last - max segEnd offset - (v.2.toNat - (offset - segEnd)) =
        last - max (segEnd + v.2.toNat) offset by omega]

end window

/-! ## The loop -/

section loop

variable {mem} {offset last : Nat}

/-- **The loop copies the window.** From any segment on, with `buf_start` the bytes of the range
before that segment and room in `buf` for the whole range, the loop puts the bytes of the range
that lie in the segments left right after the bytes already copied. By induction on the segments
left: a segment past the range stops the loop, one before the offset is skipped, and any other
copies its part of the range, which is the front of the window. -/
theorem readAtLoop_eq (hle : offset ≤ last) (vecs : List (BitVec 64 × BitVec 32)) :
    ∀ (segEnd bufStart : Nat) (buf : List (BitVec 8)),
      bufStart = min (max segEnd offset) last - offset → last - offset ≤ buf.length →
      readAtLoop mem offset last vecs segEnd bufStart buf =
        some (copyInto buf bufStart (window mem offset last vecs segEnd)) := by
  induction vecs with
  | nil =>
    intro segEnd bufStart buf _ _
    simp [readAtLoop, window]
  | cons v vecs ih =>
    intro segEnd bufStart buf hstart hbuf
    obtain ⟨iovBase, iovLen⟩ := v
    have hs : (if offset < segEnd then 0 else offset - segEnd) = offset - segEnd := by
      split <;> omega
    have he : (if last < segEnd + iovLen.toNat then last - segEnd else iovLen.toNat) =
        min last (segEnd + iovLen.toNat) - segEnd := by
      split <;> omega
    simp only [readAtLoop, hs, he]
    split_ifs with hstop hskip hok
    · rw [window_of_le hstop, copyInto_nil]
    · rw [ih _ _ _ (by omega) hbuf, window_skip hskip]
    · have hn : bufStart + (min last (segEnd + iovLen.toNat) - segEnd) - (offset - segEnd) =
          bufStart + (min last (segEnd + iovLen.toNat) - max segEnd offset) := by omega
      have hfit : offset - segEnd + (min last (segEnd + iovLen.toNat) - max segEnd offset) ≤
          (iovBase, iovLen).2.toNat := by dsimp only; omega
      rw [hn, Nat.add_sub_cancel_left, ← segment_drop_take mem _ hfit]
      have hsrc : (((segment mem (iovBase, iovLen)).drop (offset - segEnd)).take
          (min last (segEnd + iovLen.toNat) - max segEnd offset)).length =
          min last (segEnd + iovLen.toNat) - max segEnd offset := by
        simp only [List.length_take, List.length_drop, length_segment]
        omega
      rw [ih _ _ _ (by omega) (by rw [length_copyInto (by omega)]; exact hbuf),
        window_copy (by omega) (by dsimp only; omega), copyInto_copyInto (by omega) (by rw [hsrc])]
    · exact absurd ⟨by omega, by omega⟩ hok

end loop

/-! ## `read_at` -/

theorem fromDescriptorChainLoop_len {mem : GuestMemoryMmap} :
    ∀ {l : List DescriptorChain} {vecs : List (BitVec 64 × BitVec 32)} {len : Nat}
      {b : IoVecBuffer}, len = (vecs.map fun v => v.2.toNat).sum →
      fromDescriptorChainLoop mem l vecs len = .ok b → b.len = (b.vecs.map fun v => v.2.toNat).sum
  | [], vecs, len, b, hlen, h => by
    cases h
    exact hlen
  | desc :: rest, vecs, len, b, hlen, h => by
    simp only [fromDescriptorChainLoop] at h
    split_ifs at h
    refine fromDescriptorChainLoop_len ?_ h
    simp [hlen]

theorem fromDescriptorChain_len {mem : GuestMemoryMmap} {head : DescriptorChain} {b : IoVecBuffer}
    (h : fromDescriptorChain mem head = .ok b) : b.len = (b.vecs.map fun v => v.2.toNat).sum :=
  fromDescriptorChainLoop_len rfl h

/-- **`read_at` slices the concatenation of the segments.** For every buffer whose length is the
total length of its segments (any number, any lengths, zero included), every offset and every host
buffer: from an offset at or past the end it reads nothing; from any other it reads
`n = min (buf.len(), len - offset)` bytes, the bytes `offset..offset + n` of the segments one after
another, into `buf[0..n]`, leaves the rest of `buf` as it was, and never panics. -/
theorem readAt_eq (mem : GuestMemoryMmap) (b : IoVecBuffer)
    (hlen : b.len = (b.vecs.map fun v => v.2.toNat).sum) (buf : List (BitVec 8)) (offset : Nat) :
    b.readAt mem buf offset =
      if b.len ≤ offset then some (buf, none)
      else
        let n := min buf.length (b.len - offset)
        some (((contents mem b.vecs).drop offset).take n ++ buf.drop n, some n) := by
  by_cases hend : b.len ≤ offset
  · simp [readAt, hend]
  rw [readAt, if_neg hend, if_neg hend]
  dsimp only
  rw [readAtLoop_eq (by omega) _ _ _ _ (by omega) (by omega), Option.map_some]
  have hslice : (((contents mem b.vecs).drop offset).take (min buf.length (b.len - offset))).length =
      min buf.length (b.len - offset) := by
    rw [List.length_take, List.length_drop, length_contents, ← hlen]
    omega
  simp only [window, copyInto, List.take_zero, List.nil_append, Nat.zero_add, Nat.sub_zero,
    Nat.max_def, Nat.zero_le, if_true, Nat.add_sub_cancel_left, hslice]

/-- Three segments, an empty one between them, read from the middle of the first into a buffer
that runs out inside the last. -/
def threeSegments : IoVecBuffer := ⟨[(0x1000, 2), (0x2000, 0), (0x3000, 3)], 5⟩

theorem readAt_eq_threeSegments :
    threeSegments.len = (threeSegments.vecs.map fun v => v.2.toNat).sum ∧
      threeSegments.readAt ⟨[], fun a => a.setWidth 8⟩ [7, 7, 7] 1 = some ([1, 0, 1], some 3) := by
  refine ⟨by decide, ?_⟩
  rw [readAt_eq _ _ (by decide)]
  decide

theorem readAt_of_lt (mem : GuestMemoryMmap) {b : IoVecBuffer}
    (hlen : b.len = (b.vecs.map fun v => v.2.toNat).sum) (buf : List (BitVec 8)) {offset : Nat}
    (hoff : offset < b.len) :
    b.readAt mem buf offset =
      some (((contents mem b.vecs).drop offset).take (min buf.length (b.len - offset)) ++
        buf.drop (min buf.length (b.len - offset)), some (min buf.length (b.len - offset))) := by
  rw [readAt, if_neg (by omega)]
  dsimp only
  rw [readAtLoop_eq (by omega) _ _ _ _ (by omega) (by omega), Option.map_some]
  have hslice : (((contents mem b.vecs).drop offset).take (min buf.length (b.len - offset))).length =
      min buf.length (b.len - offset) := by
    rw [List.length_take, List.length_drop, length_contents, ← hlen]
    omega
  simp only [window, copyInto, List.take_zero, List.nil_append, Nat.zero_add, Nat.sub_zero,
    Nat.max_def, Nat.zero_le, if_true, Nat.add_sub_cancel_left, hslice]

end IoVecBuffer
end Virtio
end Firecracker
