/-
  ObjectStream.Proofs.MessageDigest

  The digest that is computed in pieces is the SHA-1 digest of the whole message,
  however the message is cut (`digest_of_pieces`). The words of the two are
  compared first, then one block, then the blocks of a message; that the pieces do
  not matter is what the pending bytes carry from update to update.
-/

import ObjectStream.Digest.Sha1
import ObjectStream.Digest.Standard
import Mathlib.Data.List.Basic

namespace ObjectStream

/-! ## Numbers in bytes -/

namespace Standard

open Positional

theorem bigEndian_add (high low n : Nat) :
    bigEndian (high + low) n = bigEndian high (n / 256 ^ low) ++ bigEndian low n := by
  rw [bigEndian, digits_add, List.map_append]
  rfl

theorem bigEndian_mod (count n : Nat) : bigEndian count (n % 256 ^ count) = bigEndian count n := by
  rw [bigEndian, digits_mod (by decide)]
  rfl

theorem wordAt_drop (bytes : Bytes) (n i : Nat) : wordAt (bytes.drop n) i = wordAt bytes (n + i) := by
  simp only [wordAt, List.getD_eq_getElem?_getD, List.getElem?_drop, Nat.add_assoc]

theorem wordAt_take {bytes : Bytes} {n i : Nat} (h : i + 4 ≤ n) :
    wordAt (bytes.take n) i = wordAt bytes i := by
  simp only [wordAt, List.getD_eq_getElem?_getD]
  rw [List.getElem?_take_of_lt (by omega), List.getElem?_take_of_lt (by omega),
    List.getElem?_take_of_lt (by omega), List.getElem?_take_of_lt (by omega)]

end Standard

namespace Bytes

theorem toNat_wordOf (a b c d : UInt8) :
    (wordOf a b c d).toNat = Positional.value 256 ([a, b, c, d].map UInt8.toNat) := by
  have ha := a.toNat_lt
  have hb := b.toNat_lt
  have hc := c.toNat_lt
  have hd := d.toNat_lt
  have hshift : ∀ (x : UInt8) (n : UInt32) (m : Nat), n.toNat % 32 = m → m ≤ 24 →
      (x.toUInt32 <<< n).toNat = 2 ^ m * x.toNat := by
    intro x n m hm hle
    have hx := x.toNat_lt
    rw [UInt32.toNat_shiftLeft, hm, Nat.shiftLeft_eq, UInt8.toNat_toUInt32, Nat.mul_comm]
    apply Nat.mod_eq_of_lt
    calc 2 ^ m * x.toNat < 2 ^ m * 2 ^ 8 := Nat.mul_lt_mul_of_pos_left hx (Nat.two_pow_pos m)
      _ ≤ 2 ^ 32 := by rw [← Nat.pow_add]; exact Nat.pow_le_pow_right (by decide) (by omega)
  rw [wordOf, UInt32.toNat_or, UInt32.toNat_or, UInt32.toNat_or,
    hshift a 24 24 rfl (by decide), hshift b 16 16 rfl (by decide), hshift c 8 8 rfl (by decide),
    UInt8.toNat_toUInt32]
  -- The bits of the bytes do not overlap.
  rw [← Nat.two_pow_add_eq_or_of_lt (i := 24) (by omega),
    show 2 ^ 24 * a.toNat + 2 ^ 16 * b.toNat = 2 ^ 16 * (2 ^ 8 * a.toNat + b.toNat) by omega,
    ← Nat.two_pow_add_eq_or_of_lt (i := 16) (by omega),
    show 2 ^ 16 * (2 ^ 8 * a.toNat + b.toNat) + 2 ^ 8 * c.toNat =
      2 ^ 8 * (2 ^ 8 * (2 ^ 8 * a.toNat + b.toNat) + c.toNat) by omega,
    ← Nat.two_pow_add_eq_or_of_lt (i := 8) (by omega)]
  show _ = 256 * (256 * (256 * (256 * 0 + a.toNat) + b.toNat) + c.toNat) + d.toNat
  omega

theorem ofWord_eq (w : UInt32) : ofWord w = Standard.bigEndian 4 w.toNat := by
  have hbyte : ∀ (n : UInt32) (m : Nat), n.toNat % 32 = m →
      (w >>> n).toUInt8 = UInt8.ofNat (w.toNat / 2 ^ m % 256) := by
    intro n m hm
    apply UInt8.toNat_inj.mp
    rw [UInt32.toNat_toUInt8, UInt32.toNat_shiftRight, hm, Nat.shiftRight_eq_div_pow,
      UInt8.toNat_ofNat']
    exact (Nat.mod_mod _ _).symm
  have hlast : w.toUInt8 = UInt8.ofNat (w.toNat / 1 % 256) := by
    apply UInt8.toNat_inj.mp
    rw [UInt32.toNat_toUInt8, UInt8.toNat_ofNat', Nat.div_one]
    exact (Nat.mod_mod _ _).symm
  rw [ofWord, hbyte 24 24 rfl, hbyte 16 16 rfl, hbyte 8 8 rfl, hlast]
  rfl

/-- The length of a message in bits, from the number of its bytes modulo 2^64. -/
theorem ofLongWord_eq (n : Nat) :
    ofLongWord (UInt64.ofNat n * 8) = Standard.bigEndian 8 (8 * n) := by
  have hlong : (UInt64.ofNat n * 8).toNat = 8 * n % 2 ^ 64 := by
    rw [UInt64.toNat_mul, UInt64.toNat_ofNat']
    show n % 2 ^ 64 * 8 % 2 ^ 64 = _
    omega
  have hhigh : ((UInt64.ofNat n * 8) >>> 32).toUInt32.toNat = 8 * n % 256 ^ 8 / 256 ^ 4 := by
    rw [UInt64.toNat_toUInt32, UInt64.toNat_shiftRight, hlong, Nat.shiftRight_eq_div_pow]
    show 8 * n % 2 ^ 64 / 2 ^ 32 % 2 ^ 32 = _
    omega
  have hlow : (UInt64.ofNat n * 8).toUInt32.toNat = 8 * n % 256 ^ 8 % 256 ^ 4 := by
    rw [UInt64.toNat_toUInt32, hlong]
    omega
  rw [ofLongWord, ofWord_eq, ofWord_eq, hhigh, hlow, Standard.bigEndian_mod,
    ← Standard.bigEndian_add, Standard.bigEndian_mod]

/-- Four bytes after four bytes make a word. -/
theorem words_eq (bytes : Bytes) :
    (words bytes).map UInt32.toBitVec =
      (List.range (bytes.length / 4)).map fun t => Standard.wordAt bytes (4 * t) := by
  fun_induction words bytes with
  | case1 a b c d rest ih =>
    have hlength : (a :: b :: c :: d :: rest).length / 4 = rest.length / 4 + 1 := by
      simp only [List.length_cons]
      omega
    rw [hlength, List.range_succ_eq_map, List.map_cons, List.map_cons, List.map_map, ih]
    refine congrArg₂ List.cons ?_ ?_
    · have hdigits : ∀ n ∈ [a, b, c, d].map UInt8.toNat, n < 256 := by
        intro digit hdigit
        obtain ⟨byte, -, rfl⟩ := List.mem_map.mp hdigit
        exact byte.toNat_lt
      have hfits : _ < 256 ^ _ := Positional.value_lt (by decide) hdigits
      apply BitVec.eq_of_toNat_eq
      rw [UInt32.toNat_toBitVec, toNat_wordOf, Standard.wordAt, BitVec.toNat_ofNat]
      rw [List.length_map, List.length_cons, List.length_cons, List.length_cons, List.length_cons,
        List.length_nil, show 256 ^ (0 + 1 + 1 + 1 + 1) = 2 ^ 32 by decide] at hfits
      exact (Nat.mod_eq_of_lt hfits).symm
    · apply List.map_congr_left
      intro t _
      show Standard.wordAt ((a :: b :: c :: d :: rest).drop 4) (4 * t) = _
      rw [Standard.wordAt_drop]
      congr 1
      exact Nat.add_comm _ _
  | case2 bytes hshort =>
    have hlength : bytes.length / 4 = 0 := by
      match bytes, hshort with
      | [], _ | [_], _ | [_, _], _ | [_, _, _], _ => simp
      | a :: b :: c :: d :: rest, hshort => exact absurd rfl (hshort a b c d rest)
    rw [hlength]
    rfl

end Bytes

namespace Sha1

/-! ## One block -/

/-- The words of a chaining state. -/
def State.words (s : State) : Standard.Words :=
  ⟨s.a.toBitVec, s.b.toBitVec, s.c.toBitVec, s.d.toBitVec, s.e.toBitVec⟩

theorem toBitVec_rotate (w n : UInt32) (hlt : n.toNat < 32) (hpos : 0 < n.toNat) :
    (rotate w n).toBitVec = w.toBitVec.rotateLeft n.toNat := by
  have hleft : (n.toBitVec % 32).toNat = n.toNat := by
    rw [BitVec.toNat_umod]
    exact Nat.mod_eq_of_lt hlt
  have hright : ((32 - n).toBitVec % 32).toNat = 32 - n.toNat := by
    rw [BitVec.toNat_umod, UInt32.toNat_toBitVec,
      UInt32.toNat_sub_of_le _ _ (UInt32.le_iff_toNat_le.mpr (Nat.le_of_lt hlt))]
    exact Nat.mod_eq_of_lt (by show 32 - n.toNat < 32; omega)
  rw [rotate, UInt32.toBitVec_or, UInt32.toBitVec_shiftLeft, UInt32.toBitVec_shiftRight,
    BitVec.shiftLeft_eq', BitVec.ushiftRight_eq', hleft, hright, BitVec.rotateLeft_def,
    Nat.mod_eq_of_lt hlt]

/-- The functions with disjunctions are those with exclusive ones. -/
theorem toBitVec_mix (t : Nat) (b c d : UInt32) :
    (mix t b c d).toBitVec = Standard.f t b.toBitVec c.toBitVec d.toBitVec := by
  have hch : (b &&& c ||| ~~~b &&& d).toBitVec = Standard.ch b.toBitVec c.toBitVec d.toBitVec := by
    apply BitVec.eq_of_getLsbD_eq
    intro i hi
    simp only [Standard.ch, UInt32.toBitVec_or, UInt32.toBitVec_and, UInt32.toBitVec_not,
      BitVec.getLsbD_or, BitVec.getLsbD_and, BitVec.getLsbD_xor, BitVec.getLsbD_not]
    cases b.toBitVec.getLsbD i <;> simp
  have hmaj : (b &&& c ||| b &&& d ||| c &&& d).toBitVec =
      Standard.maj b.toBitVec c.toBitVec d.toBitVec := by
    apply BitVec.eq_of_getLsbD_eq
    intro i hi
    simp only [Standard.maj, UInt32.toBitVec_or, UInt32.toBitVec_and, BitVec.getLsbD_or,
      BitVec.getLsbD_and, BitVec.getLsbD_xor]
    cases b.toBitVec.getLsbD i <;> cases c.toBitVec.getLsbD i <;> simp
  rw [mix, Standard.f]
  repeat' split
  · exact hch
  · rfl
  · exact hmaj
  · rfl

theorem toBitVec_constant (t : Nat) : (constant t).toBitVec = Standard.k t := by
  rw [constant, Standard.k]
  repeat' split
  all_goals rfl

theorem words_round (s : State) {word : UInt32} {w : Nat → Standard.Word} {t : Nat}
    (h : word.toBitVec = w t) : (round s (word, t)).words = Standard.step w s.words t := by
  simp only [round, State.words, Standard.step, UInt32.toBitVec_add, toBitVec_mix, toBitVec_constant, h]
  rw [toBitVec_rotate s.a 5 (by decide) (by decide), toBitVec_rotate s.b 30 (by decide) (by decide)]
  rfl

/-- The words of a schedule before place `t`, the newest first. -/
def newestFirst (w : Nat → UInt32) (t : Nat) : List UInt32 := ((List.range t).map w).reverse

theorem newestFirst_succ (w : Nat → UInt32) (t : Nat) :
    newestFirst w (t + 1) = w t :: newestFirst w t := by
  rw [newestFirst, List.range_succ, List.map_append, List.reverse_append]
  rfl

theorem getD_newestFirst (w : Nat → UInt32) {t i : Nat} (hi : i < t) :
    (newestFirst w t).getD i 0 = w (t - 1 - i) := by
  rw [newestFirst, List.getD_eq_getElem?_getD, List.getElem?_reverse (by simpa using hi),
    List.length_map, List.length_range, List.getElem?_map, List.getElem?_range (by omega)]
  rfl

/-- Extending a schedule goes on with the words that the recurrence gives. -/
theorem extend_newestFirst {w : Nat → UInt32}
    (hw : ∀ t, 16 ≤ t → w t = rotate (w (t - 3) ^^^ w (t - 8) ^^^ w (t - 14) ^^^ w (t - 16)) 1)
    (n : Nat) {t : Nat} (ht : 16 ≤ t) :
    extend n (newestFirst w t) = newestFirst w (t + n) := by
  induction n generalizing t with
  | zero => rfl
  | succ n ih =>
    rw [extend, getD_newestFirst w (by omega), getD_newestFirst w (by omega),
      getD_newestFirst w (by omega), getD_newestFirst w (by omega)]
    have hnext : rotate (w (t - 1 - 2) ^^^ w (t - 1 - 7) ^^^ w (t - 1 - 13) ^^^ w (t - 1 - 15)) 1 =
        w t := by
      rw [hw t ht]
      rfl
    rw [hnext, ← newestFirst_succ, ih (Nat.le_succ_of_le ht), Nat.succ_add_eq_add_succ]

/-- The schedule of a block is the one that its words have. -/
theorem schedule_eq {block : Bytes} {m : Nat → Standard.Word}
    (h : (Bytes.words block).map UInt32.toBitVec = (List.range 16).map m) :
    schedule block = (List.range 80).map fun t => UInt32.ofBitVec (Standard.schedule m t) := by
  let w (t : Nat) : UInt32 := ⟨Standard.schedule m t⟩
  have hw : ∀ t, 16 ≤ t → w t = rotate (w (t - 3) ^^^ w (t - 8) ^^^ w (t - 14) ^^^ w (t - 16)) 1 := by
    intro t ht
    apply UInt32.toBitVec_inj.mp
    rw [toBitVec_rotate _ 1 (by decide) (by decide)]
    show Standard.schedule m t = _
    rw [Standard.schedule, if_neg (by omega)]
    rfl
  have hfirst : (Bytes.words block).reverse = newestFirst w 16 := by
    rw [newestFirst]
    congr 1
    apply List.map_injective_iff.mpr (fun a b hab => UInt32.toBitVec_inj.mp hab)
    rw [h, List.map_map]
    apply List.map_congr_left
    intro t ht
    show m t = Standard.schedule m t
    rw [Standard.schedule, if_pos (List.mem_range.mp ht)]
  rw [schedule, hfirst, extend_newestFirst hw 64 (Nat.le_refl 16), newestFirst, List.reverse_reverse]

theorem words_compress (s : State) {block : Bytes} {m : Nat → Standard.Word}
    (h : (Bytes.words block).map UInt32.toBitVec = (List.range 16).map m) :
    (compress s block).words = Standard.compress s.words m := by
  have hrounds : ((schedule block).zipIdx.foldl round s).words =
      (List.range 80).foldl (Standard.step (Standard.schedule m)) s.words := by
    have hentries : (schedule block).zipIdx =
        (List.range 80).map fun t => (UInt32.ofBitVec (Standard.schedule m t), t) := by
      rw [schedule_eq h]
      apply List.ext_getElem
      · simp only [List.length_zipIdx, List.length_map]
      · intro t _ _
        simp only [List.getElem_zipIdx, List.getElem_map, List.getElem_range, Nat.zero_add]
    rw [hentries, List.foldl_map]
    exact (List.foldl_hom State.words fun s t => (words_round s rfl).symm).symm
  rw [compress, Standard.compress, ← hrounds]
  rfl

/-! ## Whole messages -/

/-- The blocks that are compressed are those at the places of the message. -/
theorem words_compressBlocks (s : State) (data : Bytes) :
    (compressBlocks s data).1.words =
      (List.range (data.length / 64)).foldl
        (fun h i => Standard.compress h (Standard.blockWord data i)) s.words := by
  fun_induction compressBlocks s data with
  | case1 s data h ih =>
    rw [List.length_take] at h
    have hlength : data.length / 64 = (data.drop 64).length / 64 + 1 := by
      rw [List.length_drop]
      omega
    have hfirst : (Bytes.words (data.take 64)).map UInt32.toBitVec =
        (List.range 16).map (Standard.blockWord data 0) := by
      rw [Bytes.words_eq, List.length_take, h]
      apply List.map_congr_left
      intro t ht
      have ht := List.mem_range.mp ht
      rw [Standard.wordAt_take (by omega), Standard.blockWord]
      congr 1
      omega
    have hrest : ∀ i, Standard.blockWord data (i + 1) = Standard.blockWord (data.drop 64) i := by
      intro i
      funext t
      rw [Standard.blockWord, Standard.blockWord, Standard.wordAt_drop]
      congr 1
      omega
    rw [ih, hlength, List.range_succ_eq_map, List.foldl_cons, List.foldl_map, words_compress s hfirst]
    simp only [Nat.succ_eq_add_one, hrest]
  | case2 s data h =>
    rw [List.length_take] at h
    rw [Nat.div_eq_of_lt (by omega)]
    rfl

/-- The padding is that of the standard, for what is pending of the message. -/
theorem padding_eq (length : Nat) :
    padding (length % 64) (UInt64.ofNat length) =
      0x80 :: List.replicate (Standard.zeroCount length) 0 ++ Standard.bigEndian 8 (8 * length) := by
  have hzeros : (if length % 64 < 56 then 55 - length % 64 else 119 - length % 64) =
      Standard.zeroCount length := by
    rw [Standard.zeroCount]
    split <;> omega
  rw [padding, hzeros, Bytes.ofLongWord_eq]

/-- The digest of a message is the state after its padding. -/
theorem toBytes_compressBlocks (message : Bytes) :
    (compressBlocks State.initial
      (message ++ padding (message.length % 64) (UInt64.ofNat message.length))).1.toBytes =
        Standard.sha1 message := by
  have hpadded : message ++ padding (message.length % 64) (UInt64.ofNat message.length) =
      Standard.padded message := by
    rw [padding_eq, Standard.padded, List.append_assoc]
  have hwords := words_compressBlocks State.initial (Standard.padded message)
  rw [hpadded, Standard.sha1]
  have hinitial : Standard.initial = State.initial.words := rfl
  rw [hinitial, ← hwords, State.toBytes]
  simp only [List.flatMap_cons, List.flatMap_nil, Bytes.ofWord_eq]
  rfl

/-- Updates with the pieces of a message come to what compressing it does. -/
theorem Progress.update?_pieces {p : Progress} (hp : p.Ready) (pieces : List Bytes) :
    ∃ q, pieces.foldlM Progress.update? p = some q ∧ q.Ready ∧
      (q.state, q.pending) = compressBlocks p.state (p.pending ++ pieces.flatten) ∧
      q.count = p.count + UInt64.ofNat pieces.flatten.length := by
  induction pieces generalizing p with
  | nil =>
    refine ⟨p, rfl, hp, ?_, ?_⟩
    · have hpending : p.pending.length < 64 := by
        rw [length_pending hp]
        exact hp.filled_lt
      rw [List.flatten_nil, List.append_nil, compressBlocks_of_short _ hpending]
    · exact (UInt64.add_zero _).symm
  | cons piece rest ih =>
    obtain ⟨next, hnext, hready, hstate, hcount⟩ := update?_eq_some hp piece
    obtain ⟨q, hq, hqready, hqstate, hqcount⟩ := ih hready
    refine ⟨q, ?_, hqready, ?_, ?_⟩
    · rw [List.foldlM_cons, hnext]
      exact hq
    · rw [hqstate, List.flatten_cons, ← List.append_assoc,
        compressBlocks_append p.state (p.pending ++ piece), ← hstate]
    · rw [hqcount, hcount, List.flatten_cons, List.length_append, UInt64.ofNat_add, UInt64.add_assoc]

/-- After all pieces of a message, ending it gives the standard digest of the message. -/
theorem Progress.finish?_pieces (pieces : List Bytes) :
    ∃ p, pieces.foldlM Progress.update? new = some p ∧ p.Ready ∧
      p.finish? = some (Standard.sha1 pieces.flatten) := by
  obtain ⟨p, hp, hready, hstate, hcount⟩ := update?_pieces ready_new pieces
  have hstate : (p.state, p.pending) = compressBlocks State.initial pieces.flatten := hstate
  have hcount : p.count = UInt64.ofNat pieces.flatten.length := hcount.trans (UInt64.zero_add _)
  have hfilled : p.filled = pieces.flatten.length % 64 := by
    rw [← length_pending hready]
    have hlength := congrArg (·.2.length) hstate
    rw [length_compressBlocks] at hlength
    exact hlength
  refine ⟨p, hp, hready, ?_⟩
  rw [finish?_eq_some hready, ← toBytes_compressBlocks, compressBlocks_append _ pieces.flatten,
    ← hstate, hfilled, hcount]

namespace Hasher

theorem progress_pieces (h : Hasher) (pieces : List Bytes) :
    pieces.foldlM Progress.update? h.progress = some (pieces.foldl update h).progress := by
  induction pieces generalizing h with
  | nil => rfl
  | cons piece rest ih =>
    rw [List.foldlM_cons, progress_update]
    exact ih (h.update piece)

theorem digest_pieces (pieces : List Bytes) :
    (pieces.foldl update new).digest = Standard.sha1 pieces.flatten := by
  obtain ⟨p, hp, -, hfinish⟩ := Progress.finish?_pieces pieces
  have hsame := (progress_pieces new pieces).symm.trans hp
  have hdigest := finish?_progress (pieces.foldl update new)
  rw [Option.some.inj hsame, hfinish] at hdigest
  exact (Option.some.inj hdigest).symm

end Hasher

/-- A message may be fed in any pieces. No update touches a byte outside the buffers and each one leaves
a block that is not full, the padding fills the last block, and the digest is the standard one of the
whole message. -/
theorem digest_of_pieces (pieces : List Bytes) :
    (∃ p, pieces.foldlM Progress.update? Progress.new = some p ∧ p.block.length = blockLength ∧
      p.filled < blockLength ∧ p.finish? = some (Standard.sha1 pieces.flatten)) ∧
    (pieces.foldl Hasher.update Hasher.new).digest = Standard.sha1 pieces.flatten := by
  obtain ⟨p, hp, hready, hfinish⟩ := Progress.finish?_pieces pieces
  exact ⟨⟨p, hp, hready.length_block, hready.filled_lt, hfinish⟩, Hasher.digest_pieces pieces⟩

end Sha1
end ObjectStream
