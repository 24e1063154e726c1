/-
  ObjectStream.Proofs.LossyText

  Reading bytes as text where some of them may be ill-formed. A text that was
  written as bytes reads as itself (`decodeLossy_encode`), blanks at its ends are
  the same whether they are taken off the text or off its bytes (`trim_encode`),
  and bytes that differ only in the case of ASCII letters read as texts that do so
  (`lower_decodeLossy`), also where they are ill-formed.
-/

import ObjectStream.Text.Ascii
import ObjectStream.Text.Utf8

namespace ObjectStream
namespace Utf8

/-! ## A text that was written as bytes -/

/-- The first byte of a character, by its value. -/
theorem lead_eq (b : UInt8) :
    lead b =
      if b.toNat < 0x80 then .whole (Char.ofNat b.toNat)
      else if b.toNat < 0xC2 then .illFormed
      else if b.toNat < 0xE0 then .start ⟨1, 0x80, 0xBF, b.toNat - 0xC0⟩
      else if b.toNat = 0xE0 then .start ⟨2, 0xA0, 0xBF, 0⟩
      else if b.toNat = 0xED then .start ⟨2, 0x80, 0x9F, 0xD⟩
      else if b.toNat < 0xF0 then .start ⟨2, 0x80, 0xBF, b.toNat - 0xE0⟩
      else if b.toNat = 0xF0 then .start ⟨3, 0x90, 0xBF, 0⟩
      else if b.toNat < 0xF4 then .start ⟨3, 0x80, 0xBF, b.toNat - 0xF0⟩
      else if b.toNat = 0xF4 then .start ⟨3, 0x80, 0x8F, 4⟩
      else .illFormed := by
  simp only [lead, UInt8.lt_iff_toNat_lt, ← UInt8.toNat_inj, UInt8.reduceToNat]

section

variable {low high : UInt8} {m : Nat} (hm : m < 0x40)
  (hlow : low.toNat ≤ m + 0x80) (hhigh : m + 0x80 ≤ high.toNat)

include hm in
theorem toNat_next : (UInt8.ofNat (m + 0x80)).toNat = m + 0x80 := by
  rw [UInt8.toNat_ofNat']
  omega

include hm hlow hhigh

theorem inRange_next : low ≤ UInt8.ofNat (m + 0x80) ∧ UInt8.ofNat (m + 0x80) ≤ high := by
  rw [UInt8.le_iff_toNat_le, UInt8.le_iff_toNat_le, toNat_next hm]
  exact ⟨hlow, hhigh⟩

/-- The last byte of a character gives its last six bits. -/
theorem readFrom_last (value : Nat) (front : List (Option Char)) (rest : Bytes) :
    readFrom (some ⟨1, low, high, value⟩) front (UInt8.ofNat (m + 0x80) :: rest) =
      readFrom none (some (Char.ofNat (value * 64 + m)) :: front) rest := by
  rw [readFrom, if_pos (inRange_next hm hlow hhigh)]
  dsimp only
  rw [if_pos (Nat.le_refl 1), toNat_next hm, Nat.add_sub_cancel]

/-- A byte before the last gives six bits, and any byte with six bits can come next. -/
theorem readFrom_next (due value : Nat) (front : List (Option Char)) (rest : Bytes) :
    readFrom (some ⟨due + 2, low, high, value⟩) front (UInt8.ofNat (m + 0x80) :: rest) =
      readFrom (some ⟨due + 1, 0x80, 0xBF, value * 64 + m⟩) front rest := by
  rw [readFrom, if_pos (inRange_next hm hlow hhigh)]
  dsimp only
  rw [if_neg (by omega), toNat_next hm, Nat.add_sub_cancel]
  rfl

end

theorem readFrom_start {b : UInt8} {p : Partial} (h : lead b = .start p)
    (front : List (Option Char)) (rest : Bytes) :
    readFrom none front (b :: rest) = readFrom (some p) front rest := by
  rw [readFrom, h]

/-- A character of two bytes. -/
theorem readFrom_two {v : Nat} (hlow : 0x80 ≤ v) (hhigh : v < 0x800) (front : List (Option Char))
    (rest : Bytes) :
    readFrom none front (UInt8.ofNat (v / 64 % 32 + 0xC0) :: UInt8.ofNat (v % 64 + 0x80) :: rest) =
      readFrom none (some (Char.ofNat v) :: front) rest := by
  have hb : (UInt8.ofNat (v / 64 % 32 + 0xC0)).toNat = v / 64 + 0xC0 := by
    rw [UInt8.toNat_ofNat']
    omega
  have hlead : lead (UInt8.ofNat (v / 64 % 32 + 0xC0)) = .start ⟨1, 0x80, 0xBF, v / 64⟩ := by
    rw [lead_eq, hb, if_neg (by omega), if_neg (by omega), if_pos (by omega), Nat.add_sub_cancel]
  have hm : v % 64 < 0x40 := by omega
  have hvalue : v / 64 * 64 + v % 64 = v := by omega
  rw [readFrom_start hlead, readFrom_last hm (by simp) (by simp; omega), hvalue]

/-- A character of three bytes; the values between the two ranges are not characters. -/
theorem readFrom_three {v : Nat} (hlow : 0x800 ≤ v) (hhigh : v < 0x10000)
    (hvalid : v < 0xD800 ∨ 0xDFFF < v) (front : List (Option Char)) (rest : Bytes) :
    readFrom none front (UInt8.ofNat (v / 4096 % 16 + 0xE0) ::
        UInt8.ofNat (v / 64 % 64 + 0x80) :: UInt8.ofNat (v % 64 + 0x80) :: rest) =
      readFrom none (some (Char.ofNat v) :: front) rest := by
  have hb : (UInt8.ofNat (v / 4096 % 16 + 0xE0)).toNat = v / 4096 + 0xE0 := by
    rw [UInt8.toNat_ofNat']
    omega
  -- The second byte is bounded further after the first and before the last first byte.
  obtain ⟨low, high, hlead, hlow', hhigh'⟩ : ∃ low high : UInt8,
      lead (UInt8.ofNat (v / 4096 % 16 + 0xE0)) = .start ⟨2, low, high, v / 4096⟩ ∧
        low.toNat ≤ v / 64 % 64 + 0x80 ∧ v / 64 % 64 + 0x80 ≤ high.toNat := by
    rw [lead_eq, hb, if_neg (by omega), if_neg (by omega), if_neg (by omega)]
    by_cases hfirst : v / 4096 = 0
    · rw [if_pos (by omega), hfirst]
      exact ⟨_, _, rfl, by simp; omega, by simp; omega⟩
    · rw [if_neg (by omega)]
      by_cases hsurrogate : v / 4096 = 0xD
      · rw [if_pos (by omega), hsurrogate]
        exact ⟨_, _, rfl, by simp, by simp; omega⟩
      · rw [if_neg (by omega), if_pos (by omega), Nat.add_sub_cancel]
        exact ⟨_, _, rfl, by simp, by simp; omega⟩
  have hvalue : (v / 4096 * 64 + v / 64 % 64) * 64 + v % 64 = v := by omega
  rw [readFrom_start hlead, readFrom_next (by omega) hlow' hhigh' 0,
    readFrom_last (by omega) (by simp) (by simp; omega), hvalue]

/-- A character of four bytes. -/
theorem readFrom_four {v : Nat} (hlow : 0x10000 ≤ v) (hhigh : v < 0x110000)
    (front : List (Option Char)) (rest : Bytes) :
    readFrom none front (UInt8.ofNat (v / 262144 % 8 + 0xF0) ::
        UInt8.ofNat (v / 4096 % 64 + 0x80) :: UInt8.ofNat (v / 64 % 64 + 0x80) ::
        UInt8.ofNat (v % 64 + 0x80) :: rest) =
      readFrom none (some (Char.ofNat v) :: front) rest := by
  have hb : (UInt8.ofNat (v / 262144 % 8 + 0xF0)).toNat = v / 262144 + 0xF0 := by
    rw [UInt8.toNat_ofNat']
    omega
  -- The second byte is bounded further after the first and the last first byte.
  obtain ⟨low, high, hlead, hlow', hhigh'⟩ : ∃ low high : UInt8,
      lead (UInt8.ofNat (v / 262144 % 8 + 0xF0)) = .start ⟨3, low, high, v / 262144⟩ ∧
        low.toNat ≤ v / 4096 % 64 + 0x80 ∧ v / 4096 % 64 + 0x80 ≤ high.toNat := by
    rw [lead_eq, hb, if_neg (by omega), if_neg (by omega), if_neg (by omega), if_neg (by omega),
      if_neg (by omega), if_neg (by omega)]
    by_cases hfirst : v / 262144 = 0
    · rw [if_pos (by omega), hfirst]
      exact ⟨_, _, rfl, by simp; omega, by simp; omega⟩
    · rw [if_neg (by omega)]
      by_cases hlast : v / 262144 = 4
      · rw [if_neg (by omega), if_pos (by omega), hlast]
        exact ⟨_, _, rfl, by simp, by simp; omega⟩
      · rw [if_pos (by omega), Nat.add_sub_cancel]
        exact ⟨_, _, rfl, by simp, by simp; omega⟩
  have hvalue : ((v / 262144 * 64 + v / 4096 % 64) * 64 + v / 64 % 64) * 64 + v % 64 = v := by
    omega
  rw [readFrom_start hlead, readFrom_next (by omega) hlow' hhigh' 1,
    readFrom_next (by omega) (by simp) (by simp; omega) 0,
    readFrom_last (by omega) (by simp) (by simp; omega), hvalue]

/-- The bytes of a character read as it. -/
theorem readFrom_utf8EncodeChar (c : Char) (front : List (Option Char)) (rest : Bytes) :
    readFrom none front (String.utf8EncodeChar c ++ rest) = readFrom none (some c :: front) rest := by
  have hchar : Char.ofNat c.val.toNat = c := Char.ofNat_toNat c
  have hvalid : c.val.toNat < 0xD800 ∨ 0xDFFF < c.val.toNat ∧ c.val.toNat < 0x110000 := c.valid
  unfold String.utf8EncodeChar
  generalize c.val.toNat = v at hchar hvalid
  dsimp only
  subst hchar
  split
  · have hb : (UInt8.ofNat v).toNat = v := by
      rw [UInt8.toNat_ofNat']
      omega
    have hlead : lead (UInt8.ofNat v) = .whole (Char.ofNat v) := by
      rw [lead_eq, hb, if_pos (by omega)]
    rw [List.singleton_append, readFrom, hlead]
  · split
    · exact readFrom_two (by omega) (by omega) front rest
    · split
      · exact readFrom_three (by omega) (by omega) (by omega) front rest
      · exact readFrom_four (by omega) (by omega) front rest

theorem readFrom_encode (text : List Char) (front : List (Option Char)) :
    readFrom none front (text.flatMap String.utf8EncodeChar) = (text.map some).reverse ++ front := by
  induction text generalizing front with
  | nil => rfl
  | cons c rest ih =>
    rw [List.flatMap_cons, readFrom_utf8EncodeChar, ih, List.map_cons, List.reverse_cons,
      List.append_assoc]
    rfl

/-- A text that was written as bytes reads as itself. -/
theorem decodeLossy_encode (text : String) : decodeLossy (encode text) = text := by
  have hpieces : pieces (encode text) = text.toList.map some := by
    rw [pieces, encode, readFrom_encode, List.append_nil, List.reverse_reverse]
  have hchars : (text.toList.map some).map (·.getD replacement) = text.toList := by
    rw [List.map_map]
    exact List.map_id _
  rw [decodeLossy, hpieces, hchars, String.ofList_toList]

end Utf8

namespace Ascii

/-! ## Blanks at the ends of a text -/

/-- The characters of the bytes that are blank. -/
def isBlankChar (c : Char) : Bool :=
  c == ' ' || c == '\t' || c == '\n' || c == '\x0c' || c == '\r'

/-- The text without ASCII blanks at either end. -/
def trimText (text : String) : String :=
  String.ofList ((text.toList.dropWhile isBlankChar).reverse.dropWhile isBlankChar).reverse

/-- The bytes of a character are blank if it is. -/
theorem isBlank_of_mem_utf8EncodeChar {c : Char} {b : UInt8} (h : b ∈ String.utf8EncodeChar c) :
    isBlank b = isBlankChar c := by
  have hall : ∀ n : Nat, n < 0x80 → isBlank (UInt8.ofNat n) = isBlankChar (Char.ofNat n) := by
    decide
  by_cases hb : b < 0x80
  · have hc := Utf8.toNat_of_mem_utf8EncodeChar h hb
    have hblank := hall b.toNat hb
    rwa [UInt8.ofNat_toNat, ← hc, Char.ofNat_toNat] at hblank
  · -- Neither is blank: a blank character is one byte, which is below.
    have hbyte : isBlank b = false := by
      rw [Bool.eq_false_iff]
      intro hblank
      simp only [isBlank, Bool.or_eq_true, beq_iff_eq] at hblank
      rcases hblank with (((rfl | rfl) | rfl) | rfl) | rfl <;> exact hb (by decide)
    have hchar : isBlankChar c = false := by
      rw [Bool.eq_false_iff]
      intro hblank
      simp only [isBlankChar, Bool.or_eq_true, beq_iff_eq] at hblank
      rcases hblank with (((rfl | rfl) | rfl) | rfl) | rfl <;>
        (obtain rfl := List.mem_singleton.mp h; exact hb (by decide))
    rw [hbyte, hchar]

/-- Bytes are taken off character by character where all bytes of a character go the same way. -/
theorem dropWhile_flatMap {g : Char → Bytes} {p : UInt8 → Bool} {q : Char → Bool}
    (hne : ∀ c, g c ≠ []) (h : ∀ c, ∀ b ∈ g c, p b = q c) (text : List Char) :
    (text.flatMap g).dropWhile p = (text.dropWhile q).flatMap g := by
  induction text with
  | nil => rfl
  | cons c rest ih =>
    rw [List.flatMap_cons]
    by_cases hq : q c = true
    · have hall : ∀ b ∈ g c, p b = true := fun b hb => (h c b hb).trans hq
      rw [List.dropWhile_append_of_pos hall, ih, List.dropWhile_cons_of_pos hq]
    · obtain ⟨b, more, hbytes⟩ := List.exists_cons_of_ne_nil (hne c)
      have hp : ¬p b = true := by
        rw [h c b (hbytes ▸ List.mem_cons_self)]
        exact hq
      rw [List.dropWhile_cons_of_neg hq, List.flatMap_cons, hbytes, List.cons_append,
        List.dropWhile_cons_of_neg hp]

/-- Blanks can be taken off the bytes of a text, or off the text. -/
theorem trim_encode (text : String) : trim (Utf8.encode text) = Utf8.encode (trimText text) := by
  have hblank : ∀ c, ∀ b ∈ String.utf8EncodeChar c, isBlank b = isBlankChar c :=
    fun c b hb => isBlank_of_mem_utf8EncodeChar hb
  have hfront := dropWhile_flatMap (q := isBlankChar) (fun _ => String.utf8EncodeChar_ne_nil) hblank
    text.toList
  -- From behind, each character has its bytes in the other order.
  have hback := dropWhile_flatMap (g := List.reverse ∘ String.utf8EncodeChar) (p := isBlank)
    (q := isBlankChar) (fun _ => mt List.reverse_eq_nil_iff.mp String.utf8EncodeChar_ne_nil)
    (fun c b hb => hblank c b (List.mem_reverse.mp hb)) (text.toList.dropWhile isBlankChar).reverse
  rw [trim, Utf8.encode, hfront, List.reverse_flatMap, hback, List.reverse_flatMap, Utf8.encode,
    trimText, String.toList_ofList]
  congr 1
  funext c
  exact List.reverse_reverse _

/-! ## The case of ASCII letters -/

/-- The byte of the small letter, for the bytes of ASCII capitals. -/
def lowerByte (b : UInt8) : UInt8 := if 65 ≤ b ∧ b ≤ 90 then b + 32 else b

/-- A byte in small letters is an ASCII character with the same small letter. -/
theorem toLower_lowerByte {b : UInt8} (h : b.toNat < 0x80) :
    (lowerByte b).toNat < 0x80 ∧
      (Char.ofNat (lowerByte b).toNat).toLower = (Char.ofNat b.toNat).toLower := by
  have hall : ∀ n : Nat, n < 0x80 →
      (lowerByte (UInt8.ofNat n)).toNat < 0x80 ∧
        (Char.ofNat (lowerByte (UInt8.ofNat n)).toNat).toLower = (Char.ofNat n).toLower := by
    decide
  have hb := hall b.toNat h
  rwa [UInt8.ofNat_toNat] at hb

theorem lowerByte_of_not_ascii {b : UInt8} (h : ¬b.toNat < 0x80) : lowerByte b = b := by
  apply if_neg
  rintro ⟨-, hle⟩
  have hle : b.toNat ≤ 90 := hle
  omega

end Ascii

namespace Utf8

/-- Pieces with ASCII capitals made small. -/
def lowerPieces (pieces : List (Option Char)) : List (Option Char) :=
  pieces.map (Option.map Char.toLower)

theorem lowerPieces_cons {piece piece' : Option Char} {front front' : List (Option Char)}
    (hpiece : piece.map Char.toLower = piece'.map Char.toLower)
    (hfront : lowerPieces front = lowerPieces front') :
    lowerPieces (piece :: front) = lowerPieces (piece' :: front') := by
  rw [lowerPieces, List.map_cons, hpiece]
  exact congrArg (_ :: ·) hfront

/-- Once a character has begun, ASCII bytes do not go on with it. -/
theorem low_of_lead {b : UInt8} {p : Partial} (h : lead b = .start p) : 0x80 ≤ p.low.toNat := by
  unfold lead at h
  repeat' split at h
  all_goals
    cases h
    try simp

theorem lead_of_ascii {b : UInt8} (h : b.toNat < 0x80) : lead b = .whole (Char.ofNat b.toNat) := by
  rw [lead_eq, if_pos h]

/-- Pieces are read from bytes in small letters as from the bytes, but for the case of letters. -/
theorem lowerPieces_readFrom {p : Option Partial} (hp : ∀ q ∈ p, 0x80 ≤ q.low.toNat)
    {front front' : List (Option Char)} (hfront : lowerPieces front = lowerPieces front')
    (bytes : Bytes) :
    lowerPieces (readFrom p front (bytes.map Ascii.lowerByte)) =
      lowerPieces (readFrom p front' bytes) := by
  -- On the bytes. An ASCII byte is a character of its own, wherever it stands; any other byte is the
  -- same in small letters.
  induction bytes generalizing p front front' with
  | nil =>
    cases p with
    | none => exact hfront
    | some q => exact lowerPieces_cons rfl hfront
  | cons b rest ih =>
    have hnone : ∀ q ∈ (none : Option Partial), 0x80 ≤ q.low.toNat := nofun
    rw [List.map_cons]
    by_cases hascii : b.toNat < 0x80
    · obtain ⟨hsmall, hletter⟩ := Ascii.toLower_lowerByte hascii
      have hpiece : (some (Char.ofNat (Ascii.lowerByte b).toNat)).map Char.toLower =
          (some (Char.ofNat b.toNat)).map Char.toLower := by
        rw [Option.map_some, Option.map_some, hletter]
      cases p with
      | none =>
        rw [readFrom, readFrom, lead_of_ascii hascii, lead_of_ascii hsmall]
        exact ih hnone (lowerPieces_cons hpiece hfront)
      | some q =>
        have hout : ∀ x : UInt8, x.toNat < 0x80 → ¬(q.low ≤ x ∧ x ≤ q.high) := by
          rintro x hx ⟨hlow, -⟩
          have hlow : q.low.toNat ≤ x.toNat := hlow
          have hq := hp q rfl
          omega
        rw [readFrom, readFrom, if_neg (hout _ hascii), if_neg (hout _ hsmall),
          lead_of_ascii hascii, lead_of_ascii hsmall]
        exact ih hnone (lowerPieces_cons hpiece (lowerPieces_cons rfl hfront))
    · rw [Ascii.lowerByte_of_not_ascii hascii]
      cases p with
      | none =>
        rw [readFrom, readFrom]
        cases hlead : lead b with
        | whole c => exact ih hnone (lowerPieces_cons rfl hfront)
        | start q => exact ih (by rintro _ ⟨⟩; exact low_of_lead hlead) hfront
        | illFormed => exact ih hnone (lowerPieces_cons rfl hfront)
      | some q =>
        rw [readFrom, readFrom]
        by_cases hrange : q.low ≤ b ∧ b ≤ q.high
        · rw [if_pos hrange, if_pos hrange]
          dsimp only
          by_cases hdue : q.due ≤ 1
          · rw [if_pos hdue, if_pos hdue]
            exact ih hnone (lowerPieces_cons rfl hfront)
          · rw [if_neg hdue, if_neg hdue]
            exact ih (by rintro _ ⟨⟩; simp) hfront
        · rw [if_neg hrange, if_neg hrange]
          cases hlead : lead b with
          | whole c => exact ih hnone (lowerPieces_cons rfl (lowerPieces_cons rfl hfront))
          | start q' =>
            exact ih (by rintro _ ⟨⟩; exact low_of_lead hlead) (lowerPieces_cons rfl hfront)
          | illFormed => exact ih hnone (lowerPieces_cons rfl (lowerPieces_cons rfl hfront))

theorem lower_decodeLossy_map (bytes : Bytes) :
    Ascii.lower (decodeLossy (bytes.map Ascii.lowerByte)) = Ascii.lower (decodeLossy bytes) := by
  have hpieces : lowerPieces (pieces (bytes.map Ascii.lowerByte)) = lowerPieces (pieces bytes) := by
    have hnone : ∀ q ∈ (none : Option Partial), 0x80 ≤ q.low.toNat := nofun
    have hstart : lowerPieces [] = lowerPieces [] := rfl
    rw [pieces, pieces, lowerPieces, lowerPieces, List.map_reverse, List.map_reverse]
    exact congrArg List.reverse (lowerPieces_readFrom hnone hstart bytes)
  -- The replacement is no capital, so that it can be put in before or after.
  have hlower (pieces : List (Option Char)) :
      (pieces.map (·.getD replacement)).map Char.toLower =
        (lowerPieces pieces).map (·.getD replacement) := by
    rw [lowerPieces, List.map_map, List.map_map]
    congr 1
    funext piece
    cases piece with
    | none => rfl
    | some c => rfl
  rw [Ascii.lower, Ascii.lower, decodeLossy, decodeLossy, String.toList_ofList, String.toList_ofList,
    hlower, hlower, hpieces]

/-- Bytes that differ in the case of ASCII letters only read as texts that do so. -/
theorem lower_decodeLossy {bytes bytes' : Bytes}
    (h : bytes.map Ascii.lowerByte = bytes'.map Ascii.lowerByte) :
    Ascii.lower (decodeLossy bytes) = Ascii.lower (decodeLossy bytes') := by
  rw [← lower_decodeLossy_map bytes, h, lower_decodeLossy_map bytes']

end Utf8
end ObjectStream
