/-
  ObjectStream.Proofs.EncodedSpace

  Base64 takes exactly its space and loses nothing. A group that is cut out of 24
  joined bits has the characters that stand for its bytes (`group?_three` and the
  two short ones); slot by slot, the groups write the encoded text and nothing
  behind it (`writeGroups?_eq`); and the text tells the bytes (`encode_lossless`).
-/

import ObjectStream.Base64.InPlace
import ObjectStream.Proofs.Base64

namespace ObjectStream.Base64

open Positional

namespace InPlace

/-! ## Joined bytes -/

theorem toNat_shifted (a : UInt8) {k : Nat} (hk : k ≤ 16) :
    (a.toUInt32 <<< UInt32.ofNat k).toNat = a.toNat * 2 ^ k := by
  have ha := a.toNat_lt
  have hlt : a.toNat * 2 ^ k < 2 ^ 32 :=
    calc a.toNat * 2 ^ k ≤ a.toNat * 2 ^ 16 :=
          Nat.mul_le_mul_left _ (Nat.pow_le_pow_right (by decide) hk)
      _ < 2 ^ 32 := by omega
  have hcount : (UInt32.ofNat k).toNat % 32 = k := by
    rw [UInt32.toNat_ofNat_of_lt' (Nat.lt_of_le_of_lt hk (by decide))]
    exact Nat.mod_eq_of_lt (by omega)
  rw [UInt32.toNat_shiftLeft, UInt8.toNat_toUInt32, hcount, Nat.shiftLeft_eq, Nat.mod_eq_of_lt hlt]

/-- The three bytes do not overlap. -/
theorem toNat_joined (a b c : UInt8) :
    (joined a b c).toNat = a.toNat * 2 ^ 16 + b.toNat * 2 ^ 8 + c.toNat := by
  have hb := b.toNat_lt
  have hc := c.toNat_lt
  have hhigh : a.toNat * 2 ^ 16 ||| b.toNat * 2 ^ 8 = a.toNat * 2 ^ 16 + b.toNat * 2 ^ 8 := by
    rw [← Nat.shiftLeft_eq a.toNat, Nat.shiftLeft_add_eq_or_of_lt (by omega)]
  have hlow : (a.toNat * 2 ^ 8 + b.toNat) * 2 ^ 8 ||| c.toNat =
      (a.toNat * 2 ^ 8 + b.toNat) * 2 ^ 8 + c.toNat := by
    rw [← Nat.shiftLeft_eq, Nat.shiftLeft_add_eq_or_of_lt hc]
  have hfactor : a.toNat * 2 ^ 16 + b.toNat * 2 ^ 8 = (a.toNat * 2 ^ 8 + b.toNat) * 2 ^ 8 := by
    omega
  rw [joined, UInt32.toNat_or, UInt32.toNat_or, UInt8.toNat_toUInt32,
    show (16 : UInt32) = UInt32.ofNat 16 from rfl, show (8 : UInt32) = UInt32.ofNat 8 from rfl,
    toNat_shifted a (by decide), toNat_shifted b (by decide), hhigh, hfactor, hlow]

/-- Six bits of a number are in the alphabet. -/
theorem symbolAt?_eq (n : UInt32) {k : Nat} (hk : k < 32) :
    symbolAt? n (UInt32.ofNat k) = some (symbol (n.toNat / 2 ^ k % 64)) := by
  have hbits : (n >>> UInt32.ofNat k).toNat &&& 0x3f = n.toNat / 2 ^ k % 64 := by
    rw [UInt32.toNat_shiftRight, UInt32.toNat_ofNat_of_lt' (Nat.lt_of_lt_of_le hk (by decide)),
      Nat.mod_eq_of_lt hk, Nat.shiftRight_eq_div_pow]
    exact Nat.and_two_pow_sub_one_eq_mod _ 6
  have hlt : n.toNat / 2 ^ k % 64 < 64 := Nat.mod_lt _ (by decide)
  have hlength : n.toNat / 2 ^ k % 64 < Standard.alphabet.length := hlt
  rw [symbolAt?, hbits, ← getD_alphabet hlt, List.getD_eq_getElem?_getD,
    List.getElem?_eq_getElem hlength, Option.getD_some]

theorem symbolAt?_joined (a b c : UInt8) :
    symbolAt? (joined a b c) 18 = some (symbol (a.toNat / 4)) ∧
    symbolAt? (joined a b c) 12 = some (symbol (a.toNat % 4 * 16 + b.toNat / 16)) ∧
    symbolAt? (joined a b c) 6 = some (symbol (b.toNat % 16 * 4 + c.toNat / 64)) ∧
    symbolAt? (joined a b c) 0 = some (symbol (c.toNat % 64)) := by
  have ha := a.toNat_lt
  have hb := b.toNat_lt
  have hc := c.toNat_lt
  have h18 := symbolAt?_eq (joined a b c) (k := 18) (by decide)
  have h12 := symbolAt?_eq (joined a b c) (k := 12) (by decide)
  have h6 := symbolAt?_eq (joined a b c) (k := 6) (by decide)
  have h0 := symbolAt?_eq (joined a b c) (k := 0) (by decide)
  rw [toNat_joined] at h18 h12 h6 h0
  -- What lies above the six bits goes with the remainder, what lies below with the quotient.
  refine ⟨h18.trans ?_, h12.trans ?_, h6.trans ?_, h0.trans ?_⟩
  · congr 2
    omega
  · congr 2
    omega
  · congr 2
    omega
  · congr 2
    omega

/-! ## Groups -/

theorem group?_one (a : UInt8) : group? [a] = some (encode [a]) := by
  obtain ⟨h18, h12, -, -⟩ := symbolAt?_joined a 0 0
  show (do return [← symbolAt? (joined a 0 0) 18, ← symbolAt? (joined a 0 0) 12, pad, pad]) = _
  rw [h18, h12]
  rfl

theorem group?_two (a b : UInt8) : group? [a, b] = some (encode [a, b]) := by
  obtain ⟨h18, h12, h6, -⟩ := symbolAt?_joined a b 0
  show (do
    return [← symbolAt? (joined a b 0) 18, ← symbolAt? (joined a b 0) 12,
      ← symbolAt? (joined a b 0) 6, pad]) = _
  rw [h18, h12, h6]
  rfl

theorem group?_three (a b c : UInt8) : group? [a, b, c] = some (encode [a, b, c]) := by
  obtain ⟨h18, h12, h6, h0⟩ := symbolAt?_joined a b c
  show (do
    return [← symbolAt? (joined a b c) 18, ← symbolAt? (joined a b c) 12,
      ← symbolAt? (joined a b c) 6, ← symbolAt? (joined a b c) 0]) = _
  rw [h18, h12, h6, h0]
  rfl

/-! ## Slots -/

theorem writeGroups?_nil (slots : Bytes) : writeGroups? [] slots = some slots := by
  rw [writeGroups?, if_pos (.inl rfl)]

/-- A group whose characters fill a slot leaves the other slots to the other groups. -/
theorem writeGroups?_group {bytes slots text rest : Bytes} (hbytes : bytes ≠ [])
    (hslot : 4 ≤ slots.length) (hgroup : group? (bytes.take 3) = some text)
    (htext : text.length = 4)
    (hrest : writeGroups? (bytes.drop 3) (slots.drop 4) = some rest) :
    writeGroups? bytes slots = some (text ++ rest) := by
  have hslots : slots ≠ [] := List.ne_nil_of_length_pos (by omega)
  have hfour : (slots.take 4).length = 4 := List.length_take_of_le hslot
  have hslot : Bytes.overwrite? (slots.take 4) 0 4 text = some text := by
    rw [Bytes.overwrite?_of_le (Nat.zero_le _) (Nat.le_of_eq hfour.symm) htext,
      List.drop_of_length_le (Nat.le_of_eq hfour), List.append_nil]
    rfl
  rw [writeGroups?, if_neg (not_or.mpr ⟨hbytes, hslots⟩), hgroup, hrest]
  show ((Bytes.overwrite? (slots.take 4) 0 4 text).bind fun slot => some (slot ++ rest)) = _
  rw [hslot, Option.bind_some]

/-- The groups write the encoded text, and nothing behind it. -/
theorem writeGroups?_eq (bytes slots : Bytes) (h : encodedLength bytes.length ≤ slots.length) :
    writeGroups? bytes slots = some (encode bytes ++ slots.drop (encodedLength bytes.length)) := by
  -- On the groups of the text; each takes the first slot and leaves the others to the rest.
  fun_induction encode bytes generalizing slots with
  | case1 => exact writeGroups?_nil slots
  | case2 a =>
    have hlength : encodedLength [a].length = 4 := by simp [encodedLength]
    rw [hlength] at h ⊢
    exact writeGroups?_group (List.cons_ne_nil _ _) h (group?_one a) rfl (writeGroups?_nil _)
  | case3 a b =>
    have hlength : encodedLength [a, b].length = 4 := by simp [encodedLength]
    rw [hlength] at h ⊢
    exact writeGroups?_group (List.cons_ne_nil _ _) h (group?_two a b) rfl (writeGroups?_nil _)
  | case4 a b c rest ih =>
    have hlength : encodedLength (a :: b :: c :: rest).length = 4 + encodedLength rest.length := by
      simp only [encodedLength, List.length_cons]
      omega
    rw [hlength] at h ⊢
    have hrest := ih (slots.drop 4) (by rw [List.length_drop]; omega)
    rw [List.drop_drop] at hrest
    have hwritten := writeGroups?_group (List.cons_ne_nil a (b :: c :: rest)) (by omega)
      (group?_three a b c) rfl hrest
    exact hwritten

/-- Written group by group, the text and the refusal are those of the library. -/
theorem encodeInto?_eq (bytes buffer : Bytes) :
    encodeInto? bytes buffer = some (encodeInto bytes buffer) := by
  by_cases h : buffer.length < encodedLength bytes.length
  · rw [encodeInto?, if_pos h, encodeInto, if_pos h]
  · rw [encodeInto?, if_neg h, encodeInto, if_neg h, writeGroups?_eq _ _ (Nat.le_of_not_lt h)]
    rfl

end InPlace

/-! ## The text -/

theorem encodeInto_of_le {bytes buffer : Bytes} (h : encodedLength bytes.length ≤ buffer.length) :
    encodeInto bytes buffer =
      .ok (encodedLength bytes.length, encode bytes ++ buffer.drop (encodedLength bytes.length)) :=
  if_neg (Nat.not_lt_of_le h)

theorem encodeInto_eq_error_iff {bytes buffer : Bytes} :
    encodeInto bytes buffer = .error .bufferTooSmall ↔
      buffer.length < encodedLength bytes.length := by
  constructor
  · intro h
    by_contra hlong
    rw [encodeInto_of_le (Nat.le_of_not_lt hlong)] at h
    cases h
  · exact fun h => if_pos h

/-- The text of a new buffer is the text of the library. -/
theorem InPlace.encodeText?_eq (bytes : Bytes) :
    InPlace.encodeText? bytes = some (.ok (encodeText bytes)) := by
  have hlength : (List.replicate (encodedLength bytes.length) (0 : UInt8)).length =
      encodedLength bytes.length := List.length_replicate
  rw [encodeText?, encodeInto?_eq, encodeInto_of_le (Nat.le_of_eq hlength.symm),
    List.drop_of_length_le (Nat.le_of_eq hlength), List.append_nil]
  rfl

theorem encode_injective {bytes others : Bytes} (h : encode bytes = encode others) :
    bytes = others := by
  have hdecode := decode?_encode bytes
  rw [h, decode?_encode, Option.some.injEq] at hdecode
  exact hdecode.symm

/-- The bytes of the text are those of its characters. -/
theorem toList_encodeText (bytes : Bytes) :
    (encodeText bytes).toList.map (fun c => UInt8.ofNat c.toNat) = encode bytes := by
  rw [encodeText, String.toList_ofList, map_ofNat_toNat]

theorem encodeText_injective {bytes others : Bytes} (h : encodeText bytes = encodeText others) :
    bytes = others := by
  have hback := toList_encodeText bytes
  rw [h, toList_encodeText] at hback
  exact (encode_injective hback).symm

namespace Standard

theorem length_flatMap_digits (values : List Nat) :
    (values.flatMap (digits 2 6)).length = 6 * values.length := by
  induction values with
  | nil => rfl
  | cons n values ih =>
    rw [List.flatMap_cons, List.length_append, length_digits, ih, List.length_cons]
    omega

/-- The characters stand for the bits of the bytes, and behind them for two zeros for each `=`. -/
theorem sextets_padded (bytes : Bytes) :
    (sextets (bitsOf bytes)).flatMap (digits 2 6) =
      bitsOf bytes ++ List.replicate (2 * ((3 - bytes.length % 3) % 3)) 0 := by
  obtain ⟨zeros, hbits, hzeros⟩ :=
    flatMap_sextets fun bit (h : bit ∈ bitsOf bytes) => lt_of_mem_bitsOf h
  have hlength := congrArg List.length hbits
  rw [length_flatMap_digits, length_sextets, List.length_append, List.length_replicate,
    length_bitsOf] at hlength
  have hcount : zeros = 2 * ((3 - bytes.length % 3) % 3) := by omega
  rw [hbits, hcount]

end Standard

/-- Encoding takes exactly its space and loses nothing. Group by group, and never outside of the
buffer or the alphabet, the text is written over the front of every buffer that has room for it, and
every shorter one is refused. The text is the one that RFC 4648 defines: it is read back as the
bytes; up to two `=` stand behind characters of the alphabet, which give the bits of the bytes and
zeros. No other bytes have it, and as a string it is the same text. -/
theorem encode_lossless (bytes : Bytes) :
    let length := encodedLength bytes.length
    let pads := (3 - bytes.length % 3) % 3
    (encode bytes).length = length ∧
    (∀ buffer, InPlace.encodeInto? bytes buffer = some (encodeInto bytes buffer)) ∧
    (∀ buffer, length ≤ buffer.length →
      encodeInto bytes buffer = .ok (length, encode bytes ++ buffer.drop length)) ∧
    (∀ buffer, encodeInto bytes buffer = .error .bufferTooSmall ↔ buffer.length < length) ∧
    Standard.encode bytes = encode bytes ∧ Standard.decode? (encode bytes) = some bytes ∧
    (∃ symbols values,
      encode bytes = symbols ++ List.replicate pads pad ∧ symbols ⊆ Standard.alphabet ∧
      symbols.mapM (fun c => Standard.alphabet.idxOf? c) = some values ∧
      values.flatMap (digits 2 6) = Standard.bitsOf bytes ++ List.replicate (2 * pads) 0) ∧
    InPlace.encodeText? bytes = some (.ok (encodeText bytes)) ∧
    (encodeText bytes).toList.map (fun c => UInt8.ofNat c.toNat) = encode bytes ∧
    ∀ others, encode others = encode bytes ∨ encodeText others = encodeText bytes →
      others = bytes := by
  refine ⟨length_encode bytes, InPlace.encodeInto?_eq bytes, fun _ => encodeInto_of_le,
    fun _ => encodeInto_eq_error_iff, (encode_eq_standard bytes).symm, decode?_encode bytes, ?_,
    InPlace.encodeText?_eq bytes, toList_encodeText bytes,
    fun _ h => h.elim encode_injective encodeText_injective⟩
  have htext : encode bytes = Standard.symbols bytes ++ _ :=
    (encode_eq_standard bytes).trans (Standard.encode_eq_append bytes)
  exact ⟨Standard.symbols bytes, Standard.sextets (Standard.bitsOf bytes), htext,
    fun _ => Standard.mem_alphabet_of_mem_symbols, Standard.mapM_symbols bytes,
    Standard.sextets_padded bytes⟩

end ObjectStream.Base64
