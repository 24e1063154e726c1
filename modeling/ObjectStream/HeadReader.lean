/-
  ObjectStream.HeadReader

  Reading a response head that arrives in pieces. The reader takes lines out of
  the receive buffer, carries an unfinished line over to the next piece (also
  one that ends between the two bytes of its end), and stops right after the
  empty line, so that body bytes stay in the buffer.
-/
import ObjectStream.ReceiveBuffer
import ObjectStream.Response

namespace ObjectStream

/-- The largest size of a response head. -/
def maxHeadLength : Nat := 65536

/-- How far the reading of a head has come. -/
structure HeadReader where
  /-- The bytes of the line under way, newest first. -/
  reversed : Bytes
  /-- The number of head bytes seen so far. -/
  seen : Nat
deriving DecidableEq, Repr

namespace HeadReader

/-- A reader at the start of a head. -/
def new : HeadReader := ⟨[], 0⟩

/-- The line under way. -/
def line (r : HeadReader) : Bytes := r.reversed.reverse

/-- Whether a sequence of bytes, newest first, ends in a carriage return. -/
def endsInCr : Bytes → Bool
  | b :: _ => b == Bytes.cr
  | [] => false

/-- Whether the line under way waits for the line feed after its carriage return. -/
def awaitsLf (r : HeadReader) : Bool := endsInCr r.reversed

/-- The error of a head that is larger than the largest size. -/
def tooLarge : Error := .other "response header block too large"

/-- The number of bytes through the first line end, or of all bytes, added to `count`; `afterCr` tells
whether the byte before them is a carriage return. -/
def segmentFrom (count : Nat) (afterCr : Bool) : Bytes → Nat
  | [] => count
  | b :: rest =>
    if afterCr && b == Bytes.lf then count + 1
    else segmentFrom (count + 1) (b == Bytes.cr) rest

/-- The number of bytes through the first line end, or of all bytes if no line ends in them. -/
def segment (afterCr : Bool) (bytes : Bytes) : Nat := segmentFrom 0 afterCr bytes

/-- What absorbing bytes comes to: whether the head is complete, and the three states after it. -/
structure Absorbed where
  result : Except Error Bool
  reader : HeadReader
  buffer : ReceiveBuffer
  head : ResponseHead

/-! ## Segments -/

theorem segmentFrom_eq_add (count : Nat) (afterCr : Bool) (bytes : Bytes) :
    segmentFrom count afterCr bytes = count + segmentFrom 0 afterCr bytes := by
  induction bytes generalizing count afterCr with
  | nil => rfl
  | cons b rest ih =>
    unfold segmentFrom
    split
    · omega
    · rw [ih (count + 1), ih (0 + 1)]; omega

/-- A segment goes no further than the bytes. -/
theorem segment_le (afterCr : Bool) (bytes : Bytes) : segment afterCr bytes ≤ bytes.length := by
  unfold segment
  induction bytes generalizing afterCr with
  | nil => exact Nat.le_refl _
  | cons b rest ih =>
    unfold segmentFrom
    split
    · simp
    · rw [segmentFrom_eq_add]
      have := ih (b == Bytes.cr)
      simp only [List.length_cons]
      omega

/-- There is a byte in the segment of some bytes. -/
theorem segment_pos (afterCr : Bool) {bytes : Bytes} (h : bytes ≠ []) : 0 < segment afterCr bytes := by
  unfold segment
  match bytes with
  | [] => exact absurd rfl h
  | b :: rest =>
    unfold segmentFrom
    split
    · omega
    · rw [segmentFrom_eq_add]; omega

/-! ## Absorbing what the buffer holds -/

/-- Takes lines out of the buffer into the head. The result is `true` when the empty line was taken,
and `false` when the buffer ran dry before; a segment with which the head becomes too large is left in
the buffer. -/
def absorb (r : HeadReader) (buffer : ReceiveBuffer) (head : ResponseHead) : Absorbed :=
  if buffer.unread = [] then ⟨.ok false, r, buffer, head⟩
  else
    let length := segment r.awaitsLf buffer.unread
    if maxHeadLength < r.seen + length then
      ⟨.error tooLarge, { r with seen := r.seen + length }, buffer, head⟩
    else
      match List.reverseAux (buffer.unread.take length) r.reversed with
      | [10, 13] => ⟨.ok true, ⟨[], r.seen + length⟩, buffer.skip length, head⟩
      | 10 :: 13 :: content =>
        absorb ⟨[], r.seen + length⟩ (buffer.skip length) (head.addLine content.reverse)
      | reversed => ⟨.ok false, ⟨reversed, r.seen + length⟩, buffer.skip length, head⟩
termination_by buffer.unread.length
decreasing_by
  have hne : buffer.unread ≠ [] := by assumption
  have := segment_pos r.awaitsLf hne
  have := List.length_pos_iff.mpr hne
  simp only [ReceiveBuffer.unread_skip, List.length_drop]
  omega

/-- When the buffer ran dry before the end of the head, either there was nothing in it, or bytes of it
were counted and the head is not too large yet. -/
theorem seen_absorb (r : HeadReader) (buffer : ReceiveBuffer) (head : ResponseHead)
    (h : (r.absorb buffer head).result = .ok false) :
    (buffer.unread = [] ∧ (r.absorb buffer head).reader = r) ∨
      (r.seen < (r.absorb buffer head).reader.seen ∧
        (r.absorb buffer head).reader.seen ≤ maxHeadLength) := by
  fun_induction absorb r buffer head with
  | case1 => exact Or.inl ⟨by assumption, rfl⟩
  | case2 => cases h
  | case3 => cases h
  | case4 r buffer head hne length hle content heq hcontent ih =>
    have hpos := segment_pos r.awaitsLf hne
    rcases ih h with ⟨_, hr⟩ | ⟨hlt, hmax⟩
    · rw [hr]; exact Or.inr ⟨by simp only; omega, by simp only; omega⟩
    · exact Or.inr ⟨by simp only at hlt; omega, hmax⟩
  | case5 r buffer head hne length hle =>
    have hpos := segment_pos r.awaitsLf hne
    exact Or.inr ⟨by simp only; omega, by simp only; omega⟩

end HeadReader

end ObjectStream
