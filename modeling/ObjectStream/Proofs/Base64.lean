/-
  ObjectStream.Proofs.Base64

  The encoded text is the one that RFC 4648 defines (`encode_eq_standard`), reading
  it gives the bytes back (`decode?_encode`), and its characters are those of the
  alphabet with `=` behind them (`encode_eq_append`).
-/

import ObjectStream.Base64.Standard
import Mathlib.Data.List.Basic
import Mathlib.Tactic.IntervalCases

namespace ObjectStream.Base64

open Positional

/-! ## Characters of bytes -/

/-- Every byte is the number of a character. -/
theorem toNat_char (b : UInt8) : (Char.ofNat b.toNat).toNat = b.toNat := by
  have hvalid : b.toNat.isValidChar := .inl (Nat.lt_trans b.toNat_lt (by decide))
  rw [Char.ofNat, dif_pos hvalid]
  rfl

/-- Bytes that were made characters are made bytes again. -/
theorem map_ofNat_toNat (bytes : Bytes) :
    (bytes.map fun b => Char.ofNat b.toNat).map (fun c => UInt8.ofNat c.toNat) = bytes := by
  rw [List.map_map]
  conv_rhs => rw [← List.map_id bytes]
  apply List.map_congr_left
  intro b _
  show UInt8.ofNat (Char.ofNat b.toNat).toNat = b
  rw [toNat_char, UInt8.ofNat_toNat]

/-! ## Six bits -/

theorem getD_alphabet {value : Nat} (h : value < 64) :
    Standard.alphabet.getD value pad = symbol value := by
  revert value
  decide

theorem idxOf?_symbol {value : Nat} (h : value < 64) :
    Standard.alphabet.idxOf? (symbol value) = some value := by
  revert value
  decide

theorem symbol_mem_alphabet {value : Nat} (h : value < 64) : symbol value ∈ Standard.alphabet := by
  revert value
  decide

theorem symbol_ne_pad {value : Nat} (h : value < 64) : symbol value ≠ pad := by
  revert value
  decide

namespace Standard

theorem length_firstSix (bits : List Nat) : (firstSix bits).length = 6 := by
  rw [firstSix, List.length_append, List.length_take, List.length_replicate]
  omega

theorem lt_of_mem_firstSix {bits : List Nat} (hbits : ∀ b ∈ bits, b < 2) {bit : Nat}
    (h : bit ∈ firstSix bits) : bit < 2 := by
  rcases List.mem_append.mp h with h | h
  · exact hbits bit (List.mem_of_mem_take h)
  · rw [List.eq_of_mem_replicate h]
    decide

theorem firstSix_of_long {bits : List Nat} (h : 6 ≤ bits.length) : firstSix bits = bits.take 6 := by
  rw [firstSix, Nat.sub_eq_zero_of_le h, List.replicate_zero, List.append_nil]

theorem firstSix_of_short {bits : List Nat} (h : bits.length ≤ 6) :
    firstSix bits = bits ++ List.replicate (6 - bits.length) 0 := by
  rw [firstSix, List.take_of_length_le h]

theorem sextets_nil : sextets [] = [] := by
  rw [sextets, if_pos rfl]

theorem sextets_of_ne_nil {bits : List Nat} (h : bits ≠ []) :
    sextets bits = value 2 (firstSix bits) :: sextets (bits.drop 6) := by
  rw [sextets, if_neg h]

/-- Six bits of a number that fits. -/
theorem sextets_digits {n : Nat} (h : n < 64) (bits : List Nat) :
    sextets (digits 2 6 n ++ bits) = n :: sextets bits := by
  have hsix : (digits 2 6 n).length = 6 := length_digits _ _ _
  have hlong : 6 ≤ (digits 2 6 n ++ bits).length := by
    rw [List.length_append, hsix]
    exact Nat.le_add_right _ _
  rw [sextets_of_ne_nil (List.ne_nil_of_length_pos (by omega)), firstSix_of_long hlong,
    List.take_left' hsix, List.drop_left' hsix, value_digits, Nat.mod_eq_of_lt (b := 2 ^ 6) h]

/-- The last bits, fewer than six. -/
theorem sextets_last {count n : Nat} (hpos : 0 < count) (hle : count ≤ 6) (h : n < 2 ^ count) :
    sextets (digits 2 count n) = [n * 2 ^ (6 - count)] := by
  have hlength : (digits 2 count n).length = count := length_digits _ _ _
  rw [sextets_of_ne_nil (List.ne_nil_of_length_pos (by omega)), firstSix_of_short (by omega),
    List.drop_of_length_le (by omega), sextets_nil, value_append_zeros, value_digits,
    Nat.mod_eq_of_lt h, hlength]

theorem octets_append {eight : List Nat} (h : eight.length = 8) (bits : List Nat) :
    octets (eight ++ bits) =
      (UInt8.ofNat (value 2 eight) :: (octets bits).1, (octets bits).2) := by
  rw [octets, if_neg (by rw [List.length_append, h]; omega), List.take_left' h, List.drop_left' h]

theorem lt_of_mem_sextets {bits : List Nat} (hbits : ∀ b ∈ bits, b < 2) {n : Nat}
    (h : n ∈ sextets bits) : n < 64 := by
  fun_induction sextets bits with
  | case1 => cases h
  | case2 bits hne ih =>
    rcases List.mem_cons.mp h with rfl | h
    · have hlt := value_lt (by decide) fun b hb => lt_of_mem_firstSix hbits hb
      rw [length_firstSix] at hlt
      exact hlt
    · exact ih (fun b hb => hbits b (List.mem_of_mem_drop hb)) h

theorem length_sextets (bits : List Nat) : (sextets bits).length = (bits.length + 5) / 6 := by
  fun_induction sextets bits with
  | case1 => rfl
  | case2 bits hne ih =>
    have hpos := List.length_pos_iff.mpr hne
    rw [List.length_cons, ih, List.length_drop]
    omega

theorem length_bitsOf (bytes : Bytes) : (bitsOf bytes).length = 8 * bytes.length := by
  induction bytes with
  | nil => rfl
  | cons b rest ih =>
    rw [bitsOf, List.flatMap_cons, List.length_append, length_digits, ← bitsOf, ih, List.length_cons]
    omega

theorem lt_of_mem_bitsOf {bytes : Bytes} {bit : Nat} (h : bit ∈ bitsOf bytes) : bit < 2 := by
  obtain ⟨b, -, hb⟩ := List.mem_flatMap.mp h
  exact digits_lt (by decide) hb

/-- The bits of the numbers are those they were made of, and zeros. -/
theorem flatMap_sextets {bits : List Nat} (hbits : ∀ b ∈ bits, b < 2) :
    ∃ zeros, (sextets bits).flatMap (digits 2 6) = bits ++ List.replicate zeros 0 ∧ zeros < 6 := by
  fun_induction sextets bits with
  | case1 => exact ⟨0, rfl, by decide⟩
  | case2 bits hne ih =>
    have hpos := List.length_pos_iff.mpr hne
    have hfirst := digits_value fun b hb => lt_of_mem_firstSix hbits hb
    rw [length_firstSix] at hfirst
    rw [List.flatMap_cons, hfirst]
    by_cases hlong : 6 ≤ bits.length
    · obtain ⟨zeros, hrest, hzeros⟩ := ih fun b hb => hbits b (List.mem_of_mem_drop hb)
      refine ⟨zeros, ?_, hzeros⟩
      rw [hrest, firstSix_of_long hlong, ← List.append_assoc, List.take_append_drop]
    · refine ⟨6 - bits.length, ?_, by omega⟩
      rw [firstSix_of_short (by omega), List.drop_of_length_le (by omega), sextets_nil,
        List.flatMap_nil, List.append_nil]

/-- Whole bytes are read out of their bits, and fewer than eight bits are left. -/
theorem octets_bitsOf (bytes : Bytes) {rest : List Nat} (h : rest.length < 8) :
    octets (bitsOf bytes ++ rest) = (bytes, rest) := by
  induction bytes with
  | nil => rw [octets]; exact if_pos h
  | cons b bytes ih =>
    have hbits : bitsOf (b :: bytes) ++ rest = digits 2 8 b.toNat ++ (bitsOf bytes ++ rest) := by
      rw [bitsOf, List.flatMap_cons, List.append_assoc]
      rfl
    rw [hbits, octets_append (length_digits _ _ _), ih, value_digits, Nat.mod_eq_of_lt b.toNat_lt,
      UInt8.ofNat_toNat]

/-- The text before the padding. -/
def symbols (bytes : Bytes) : Bytes := (sextets (bitsOf bytes)).map symbol

theorem length_symbols (bytes : Bytes) : (symbols bytes).length = (8 * bytes.length + 5) / 6 := by
  rw [symbols, List.length_map, length_sextets, length_bitsOf]

theorem lt_of_mem_sextets_bitsOf {bytes : Bytes} {n : Nat} (h : n ∈ sextets (bitsOf bytes)) :
    n < 64 :=
  lt_of_mem_sextets (fun _ => lt_of_mem_bitsOf) h

theorem mem_alphabet_of_mem_symbols {bytes : Bytes} {c : UInt8} (h : c ∈ symbols bytes) :
    c ∈ alphabet := by
  obtain ⟨n, hn, rfl⟩ := List.mem_map.mp h
  exact symbol_mem_alphabet (lt_of_mem_sextets_bitsOf hn)

theorem encode_eq_symbols (bytes : Bytes) :
    encode bytes = symbols bytes ++ List.replicate (padCount (symbols bytes).length) pad := by
  have hsymbols : ((sextets (bitsOf bytes)).map fun n => alphabet.getD n pad) = symbols bytes :=
    List.map_congr_left fun n hn => getD_alphabet (lt_of_mem_sextets_bitsOf hn)
  rw [encode, hsymbols]

/-- The text is made of characters of the alphabet with `=` behind them. -/
theorem encode_eq_append (bytes : Bytes) :
    encode bytes = symbols bytes ++ List.replicate ((3 - bytes.length % 3) % 3) pad := by
  rw [encode_eq_symbols, length_symbols, padCount]
  congr 2
  -- a last group of one byte takes two characters, one of two bytes takes three
  obtain ⟨q, r, hr, hlength⟩ : ∃ q r, r < 3 ∧ bytes.length = 3 * q + r :=
    ⟨bytes.length / 3, bytes.length % 3, Nat.mod_lt _ (by decide), (Nat.div_add_mod _ 3).symm⟩
  rw [hlength]
  interval_cases r <;> omega

theorem takeWhile_encode (bytes : Bytes) : (encode bytes).takeWhile (· ≠ pad) = symbols bytes := by
  have hsymbols : ∀ c ∈ symbols bytes, decide (c ≠ pad) = true := by
    intro c hc
    obtain ⟨n, hn, rfl⟩ := List.mem_map.mp hc
    exact decide_eq_true (symbol_ne_pad (lt_of_mem_sextets_bitsOf hn))
  rw [encode_eq_append, List.takeWhile_append_of_pos hsymbols, List.takeWhile_replicate,
    if_neg (by decide), List.append_nil]

/-- Each character is read as its six bits. -/
theorem mapM_symbols (bytes : Bytes) :
    (symbols bytes).mapM (fun c => alphabet.idxOf? c) = some (sextets (bitsOf bytes)) := by
  have h : ∀ values : List Nat, (∀ n ∈ values, n < 64) →
      (values.map symbol).mapM (fun c => alphabet.idxOf? c) = some values := by
    intro values
    induction values with
    | nil => exact fun _ => rfl
    | cons n values ih =>
      intro hvalues
      rw [List.map_cons, List.mapM_cons, idxOf?_symbol (hvalues n List.mem_cons_self),
        ih fun m hm => hvalues m (List.mem_cons_of_mem n hm)]
      rfl
  exact h _ fun n => lt_of_mem_sextets_bitsOf

/-! ### Groups of three bytes -/

theorem bitsOf_cons (a : UInt8) (rest : Bytes) :
    bitsOf (a :: rest) = digits 2 6 (a.toNat / 4) ++ (digits 2 2 (a.toNat % 4) ++ bitsOf rest) := by
  rw [← List.append_assoc]
  exact congrArg (· ++ bitsOf rest) (digits_split (by decide) 6 2 a.toNat)

theorem bitsOf_cons_cons (a b : UInt8) (rest : Bytes) :
    bitsOf (a :: b :: rest) =
      digits 2 6 (a.toNat / 4) ++ (digits 2 6 (a.toNat % 4 * 16 + b.toNat / 16) ++
        (digits 2 4 (b.toNat % 16) ++ bitsOf rest)) := by
  have hb : b.toNat / 16 < 2 ^ 4 := by
    have := b.toNat_lt
    omega
  have hbits : bitsOf (b :: rest) =
      digits 2 4 (b.toNat / 16) ++ digits 2 4 (b.toNat % 16) ++ bitsOf rest :=
    congrArg (· ++ bitsOf rest) (digits_split (by decide) 4 4 b.toNat)
  have hjoin : digits 2 2 (a.toNat % 4) ++ digits 2 4 (b.toNat / 16) =
      digits 2 6 (a.toNat % 4 * 16 + b.toNat / 16) := digits_append 2 hb
  rw [bitsOf_cons, hbits, List.append_assoc, ← List.append_assoc (digits 2 2 _), hjoin]

/-- The bits of three bytes, six by six. -/
theorem bitsOf_three (a b c : UInt8) (rest : Bytes) :
    bitsOf (a :: b :: c :: rest) =
      digits 2 6 (a.toNat / 4) ++ (digits 2 6 (a.toNat % 4 * 16 + b.toNat / 16) ++
        (digits 2 6 (b.toNat % 16 * 4 + c.toNat / 64) ++ (digits 2 6 (c.toNat % 64) ++
          bitsOf rest))) := by
  have hc : c.toNat / 64 < 2 ^ 2 := by
    have := c.toNat_lt
    omega
  have hbits : bitsOf (c :: rest) =
      digits 2 2 (c.toNat / 64) ++ digits 2 6 (c.toNat % 64) ++ bitsOf rest :=
    congrArg (· ++ bitsOf rest) (digits_split (by decide) 2 6 c.toNat)
  have hjoin : digits 2 4 (b.toNat % 16) ++ digits 2 2 (c.toNat / 64) =
      digits 2 6 (b.toNat % 16 * 4 + c.toNat / 64) := digits_append 4 hc
  rw [bitsOf_cons_cons, hbits, List.append_assoc, ← List.append_assoc (digits 2 4 _), hjoin]

theorem symbols_three (a b c : UInt8) (rest : Bytes) :
    symbols (a :: b :: c :: rest) =
      symbol (a.toNat / 4) :: symbol (a.toNat % 4 * 16 + b.toNat / 16) ::
        symbol (b.toNat % 16 * 4 + c.toNat / 64) :: symbol (c.toNat % 64) :: symbols rest := by
  have ha := a.toNat_lt
  have hb := b.toNat_lt
  have hc := c.toNat_lt
  rw [symbols, bitsOf_three, sextets_digits (by omega), sextets_digits (by omega),
    sextets_digits (by omega), sextets_digits (by omega)]
  rfl

end Standard

/-- The text is the standard one. -/
theorem encode_eq_standard (bytes : Bytes) : encode bytes = Standard.encode bytes := by
  rw [Standard.encode_eq_append]
  fun_induction encode bytes with
  | case1 => simp [Standard.symbols, Standard.bitsOf, Standard.sextets_nil]
  | case2 a =>
    have ha := a.toNat_lt
    rw [Standard.symbols, Standard.bitsOf_cons, Standard.sextets_digits (by omega), Standard.bitsOf,
      List.flatMap_nil, List.append_nil, Standard.sextets_last (by decide) (by decide) (by omega)]
    rfl
  | case3 a b =>
    have ha := a.toNat_lt
    have hb := b.toNat_lt
    rw [Standard.symbols, Standard.bitsOf_cons_cons, Standard.sextets_digits (by omega),
      Standard.sextets_digits (by omega), Standard.bitsOf, List.flatMap_nil, List.append_nil,
      Standard.sextets_last (by decide) (by decide) (by omega)]
    rfl
  | case4 a b c rest ih =>
    have hpads : ((a :: b :: c :: rest).length % 3) = rest.length % 3 := by
      simp only [List.length_cons]
      omega
    rw [ih, Standard.symbols_three, hpads]
    rfl

/-- Reading the text gives the bytes back. -/
theorem decode?_encode (bytes : Bytes) : Standard.decode? (encode bytes) = some bytes := by
  obtain ⟨zeros, hbits, hzeros⟩ :=
    Standard.flatMap_sextets fun bit (h : bit ∈ Standard.bitsOf bytes) => Standard.lt_of_mem_bitsOf h
  have hoctets : Standard.octets ((Standard.sextets (Standard.bitsOf bytes)).flatMap (digits 2 6)) =
      (bytes, List.replicate zeros 0) := by
    rw [hbits, Standard.octets_bitsOf bytes (by rw [List.length_replicate]; omega)]
  have htext : Standard.encode bytes = Standard.symbols bytes ++
      List.replicate (Standard.padCount (Standard.symbols bytes).length) pad :=
    Standard.encode_eq_symbols bytes
  rw [encode_eq_standard, Standard.decode?, Standard.takeWhile_encode, Standard.mapM_symbols,
    Option.bind_eq_bind, Option.bind_some, hoctets]
  refine if_pos ⟨htext, ?_, ?_⟩
  · rw [List.length_replicate]
    exact hzeros
  · rw [List.all_replicate]
    simp

end ObjectStream.Base64
