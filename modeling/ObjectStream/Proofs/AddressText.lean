/-
  ObjectStream.Proofs.AddressText

  The text of an IPv4 or IPv6 address is read as the address. What is left out of
  an IPv6 address is a run of zeros, and a reading puts as many zeros in its place
  as are missing to eight pieces.
-/

import ObjectStream.Proofs.HostText
import Mathlib.Tactic.IntervalCases

namespace ObjectStream.Url

theorem splitAtChar_eq_splitOn (separator : Char) (text : List Char) :
    splitAtChar separator text = text.splitOn separator := by
  induction text with
  | nil => rfl
  | cons c rest ih =>
    rw [splitAtChar, ih, List.splitOn_cons_eq_if_modifyHead]
    by_cases hc : c = separator
    · rw [if_pos hc, if_pos (beq_iff_eq.mpr hc)]
    · rw [if_neg hc, if_neg (by rw [beq_iff_eq]; exact hc)]
      rcases hpieces : rest.splitOn separator with _ | ⟨piece, pieces⟩
      · exact absurd hpieces (List.splitOn_ne_nil _ _)
      · rfl

/-! ## IPv4 -/

namespace Ipv4

theorem number?_toDigits (b : UInt8) : number? (Nat.toDigits 10 b.toNat) = some b.toNat := by
  have hall : ∀ n < 256, number? (Nat.toDigits 10 n) = some n := by decide +kernel
  exact hall _ b.toNat_lt

theorem splitAtChar_text (addr : Ipv4) :
    splitAtChar '.' addr.text.toList =
      [Nat.toDigits 10 addr.a.toNat, Nat.toDigits 10 addr.b.toNat, Nat.toDigits 10 addr.c.toNat,
        Nat.toDigits 10 addr.d.toNat] := by
  have hdot : ∀ n : Nat, '.' ∉ Nat.toDigits 10 n := by
    intro n hmem
    have hdigit := Nat.isDigit_of_mem_toDigits (by decide) (by decide) hmem
    revert hdigit
    decide
  rw [splitAtChar_eq_splitOn, toList_text, List.splitOn_intercalate _ _ (List.cons_ne_nil _ _)]
  simp only [List.forall_mem_cons, hdot, not_false_iff, List.not_mem_nil, false_implies, implies_true,
    and_self]

theorem endsInNumber_text (addr : Ipv4) : endsInNumber addr.text.toList = true := by
  have hne : Nat.toDigits 10 addr.d.toNat ≠ [] := Nat.toDigits_ne_nil
  rw [endsInNumber, splitAtChar_text]
  simp [number?_toDigits]

/-- The address of the number of four bytes. -/
theorem ofNat_bytes (addr : Ipv4) :
    ofNat (addr.a.toNat * 16777216 + addr.b.toNat * 65536 + addr.c.toNat * 256 + addr.d.toNat) =
      addr := by
  obtain ⟨a, b, c, d⟩ := addr
  have ha := a.toNat_lt
  have hb := b.toNat_lt
  have hc := c.toNat_lt
  have hd := d.toNat_lt
  have hbyte : ∀ {x : UInt8} {n : Nat}, n % 256 = x.toNat → UInt8.ofNat n = x := by
    intro x n h
    apply UInt8.toNat_inj.mp
    rw [UInt8.toNat_ofNat', h]
  rw [ofNat, Ipv4.mk.injEq]
  dsimp only
  exact ⟨hbyte (by omega), hbyte (by omega), hbyte (by omega), hbyte (by omega)⟩

/-- The four numbers make the address. -/
theorem ofHost?_text (addr : Ipv4) : ofHost? addr.text.toList = some addr := by
  have hne : Nat.toDigits 10 addr.d.toNat ≠ [] := Nat.toDigits_ne_nil
  have ha := addr.a.toNat_lt
  have hb := addr.b.toNat_lt
  have hc := addr.c.toNat_lt
  have hd := addr.d.toNat_lt
  have hparts : parts addr.text.toList =
      [Nat.toDigits 10 addr.a.toNat, Nat.toDigits 10 addr.b.toNat, Nat.toDigits 10 addr.c.toNat,
        Nat.toDigits 10 addr.d.toNat] := by
    rw [parts, splitAtChar_text]
    simp [hne]
  have hnumber : assemble? [addr.a.toNat, addr.b.toNat, addr.c.toNat] addr.d.toNat =
      some (addr.a.toNat * 16777216 + addr.b.toNat * 65536 + addr.c.toNat * 256 + addr.d.toNat) := by
    rw [assemble?, if_neg (by simp), if_neg (by show ¬ 256 ≤ _; omega), if_neg (by simp; omega)]
    apply congrArg some
    show _ + _ * 16777216 + _ * 65536 + _ * 256 = _
    omega
  rw [ofHost?, hparts]
  simp only [List.mapM_cons, List.mapM_nil, number?_toDigits]
  show (assemble? [addr.a.toNat, addr.b.toNat, addr.c.toNat] addr.d.toNat).map ofNat = _
  rw [hnumber]
  exact congrArg some (ofNat_bytes addr)

end Ipv4

/-! ## IPv6 -/

namespace Ipv6

/-! ### Pieces -/

theorem hexDigit?_digitChar {d : Nat} (h : d < 16) : Ascii.hexDigit? (Nat.digitChar d) = some d := by
  revert d
  decide

theorem hexDigit?_of_mem_toDigits {n : Nat} {c : Char} (h : c ∈ Nat.toDigits 16 n) :
    (Ascii.hexDigit? c).isSome = true := by
  obtain ⟨d, hd, rfl⟩ := mem_toDigits h
  rw [hexDigit?_digitChar hd]
  rfl

/-- The value of hexadecimal digits behind others. -/
def hexValue (value : Nat) (digits : List Char) : Nat :=
  digits.foldl (fun value c => value * 16 + (Ascii.hexDigit? c).getD 0) value

theorem hexValue_toDigits (n : Nat) : hexValue 0 (Nat.toDigits 16 n) = n := by
  induction n using Nat.strongRecOn with
  | _ n ih =>
    rw [Nat.toDigits_eq_if (by decide)]
    split
    · rename_i hlt
      show 0 * 16 + (Ascii.hexDigit? (Nat.digitChar n)).getD 0 = n
      rw [hexDigit?_digitChar hlt, Option.getD_some, Nat.zero_mul, Nat.zero_add]
    · rename_i hge
      have hrest := ih (n / 16) (by omega)
      unfold hexValue at hrest ⊢
      rw [List.foldl_append, hrest]
      show n / 16 * 16 + (Ascii.hexDigit? (Nat.digitChar (n % 16))).getD 0 = n
      rw [hexDigit?_digitChar (Nat.mod_lt _ (by decide)), Option.getD_some]
      exact Nat.div_add_mod' n 16

/-- A piece ends where something else than a digit stands. -/
theorem piece_append {digits rest : List Char} (hdigits : ∀ c ∈ digits, (Ascii.hexDigit? c).isSome = true)
    (hrest : ∀ c ∈ rest.head?, Ascii.hexDigit? c = none) {count : Nat} (hcount : digits.length ≤ count)
    (value : Nat) : piece count value (digits ++ rest) = (hexValue value digits, digits.length, rest) := by
  induction digits generalizing count value with
  | nil =>
    cases rest with
    | nil => rw [List.nil_append, piece]; rfl
    | cons c rest =>
      rw [List.nil_append, piece.eq_def]
      dsimp only
      rw [hrest c rfl]
      cases count <;> rfl
  | cons c digits ih =>
    obtain ⟨d, hd⟩ := Option.isSome_iff_exists.mp (hdigits c List.mem_cons_self)
    obtain ⟨n, rfl⟩ : ∃ n, count = n + 1 := Nat.exists_eq_add_one.mpr (Nat.zero_lt_of_lt hcount)
    have hmore := ih (fun c hc => hdigits c (List.mem_cons_of_mem _ hc)) (Nat.le_of_succ_le_succ hcount)
      (value * 16 + d)
    rw [List.cons_append, piece.eq_def]
    dsimp only
    rw [hd]
    dsimp only
    rw [hmore]
    show (hexValue (value * 16 + d) digits, _) = (hexValue (value * 16 + (Ascii.hexDigit? c).getD 0) digits, _)
    rw [hd]
    rfl

/-- The digits of a piece. -/
def hex (p : UInt16) : List Char := Nat.toDigits 16 p.toNat

theorem hex_head (p : UInt16) : ∃ c rest, hex p = c :: rest ∧ c ≠ ':' := by
  rcases hdigits : hex p with _ | ⟨c, rest⟩
  · exact absurd hdigits Nat.toDigits_ne_nil
  · refine ⟨c, rest, rfl, ?_⟩
    rintro rfl
    have hmem : ':' ∈ hex p := hdigits ▸ List.mem_cons_self
    have hsome := hexDigit?_of_mem_toDigits hmem
    revert hsome
    decide

theorem piece_hex (p : UInt16) {rest : List Char} (hrest : ∀ c ∈ rest.head?, Ascii.hexDigit? c = none) :
    piece 4 0 (hex p ++ rest) = (p.toNat, (hex p).length, rest) := by
  have hlength : (hex p).length ≤ 4 := (Nat.length_toDigits_le_iff (by decide) (by decide)).mpr p.toNat_lt
  have hdigits : ∀ c ∈ hex p, (Ascii.hexDigit? c).isSome = true := fun c => hexDigit?_of_mem_toDigits
  rw [piece_append hdigits hrest hlength, hex, hexValue_toDigits]

/-- A last piece. -/
theorem readPieces_last {fuel : Nat} {r : Reading} (hroom : r.pieces.length ≠ 8) (p : UInt16) :
    readPieces (fuel + 1) r (hex p) = some { r with pieces := r.pieces ++ [p.toNat] } := by
  obtain ⟨c, rest, hhex, hc⟩ := hex_head p
  have hpiece := @piece_hex p [] nofun
  rw [List.append_nil] at hpiece
  rw [readPieces.eq_4 _ _ _ (by rw [hhex]; nofun) (by rw [hhex]; rintro _ ⟨rfl, -⟩; exact hc rfl),
    if_neg hroom, hpiece]

/-- A piece with more behind it. -/
theorem readPieces_piece {fuel : Nat} {r : Reading} (hroom : r.pieces.length ≠ 8) (p : UInt16) (c : Char)
    (rest : List Char) :
    readPieces (fuel + 1) r (hex p ++ ':' :: c :: rest) =
      readPieces fuel { r with pieces := r.pieces ++ [p.toNat] } (c :: rest) := by
  obtain ⟨first, digits, hhex, hfirst⟩ := hex_head p
  have hpiece := @piece_hex p (':' :: c :: rest) (by rintro _ ⟨rfl⟩; decide)
  rw [readPieces.eq_4 _ _ _ (by rw [hhex]; nofun)
    (by rw [hhex]; rintro _ ⟨rfl, -⟩; exact hfirst rfl), if_neg hroom, hpiece]
  rfl

/-! ### Several pieces -/

/-- Pieces with colons between them. -/
def joinedHex (pieces : List UInt16) : List Char := List.intercalate [':'] (pieces.map hex)

theorem joinedHex_cons_cons (p q : UInt16) (rest : List UInt16) :
    joinedHex (p :: q :: rest) = hex p ++ ':' :: joinedHex (q :: rest) := by
  show List.intercalate [':'] (hex p :: hex q :: rest.map hex) = _
  rw [List.intercalate_cons_cons, List.append_assoc]
  rfl

theorem joinedHex_singleton (p : UInt16) : joinedHex [p] = hex p := List.intercalate_singleton

theorem joinedHex_head (p : UInt16) (rest : List UInt16) :
    ∃ c text, joinedHex (p :: rest) = c :: text ∧ c ≠ ':' := by
  obtain ⟨c, digits, hhex, hc⟩ := hex_head p
  cases rest with
  | nil => exact ⟨c, digits, by rw [joinedHex_singleton, hhex], hc⟩
  | cons q rest => exact ⟨c, _, by rw [joinedHex_cons_cons, hhex]; rfl, hc⟩

/-- The values of pieces. -/
def values (pieces : List UInt16) : List Nat := pieces.map UInt16.toNat

/-- Pieces to the end of the text. -/
theorem readPieces_joinedHex {fuel : Nat} {r : Reading} (pieces : List UInt16) (hfuel : pieces.length ≤ fuel)
    (hroom : r.pieces.length + pieces.length ≤ 8) :
    readPieces fuel r (joinedHex pieces) = some { r with pieces := r.pieces ++ values pieces } := by
  induction pieces generalizing fuel r with
  | nil =>
    show readPieces fuel r [] = some { r with pieces := r.pieces ++ [] }
    rw [readPieces, List.append_nil]
  | cons p pieces ih =>
    rw [List.length_cons] at hfuel hroom
    obtain ⟨n, rfl⟩ : ∃ n, fuel = n + 1 := Nat.exists_eq_add_one.mpr (by omega)
    cases pieces with
    | nil => rw [joinedHex_singleton, readPieces_last (by omega)]; rfl
    | cons q rest =>
      obtain ⟨c, text, hhead, -⟩ := joinedHex_head q rest
      rw [joinedHex_cons_cons, hhead, readPieces_piece (by omega), ← hhead,
        ih (by omega) (by rw [List.length_append, List.length_singleton]; omega), List.append_assoc]
      rfl

/-- Pieces in front of a run that is left out. -/
theorem readPieces_before_gap {fuel : Nat} {front : List Nat} (p : UInt16) (pieces : List UInt16)
    (hroom : front.length + (pieces.length + 1) < 8) (rest : List Char) :
    readPieces (fuel + pieces.length + 2) ⟨front, none⟩ (joinedHex (p :: pieces) ++ ':' :: ':' :: rest) =
      readPieces fuel ⟨front ++ values (p :: pieces) ++ [0], some (front.length + (pieces.length + 1) + 1)⟩
        rest := by
  induction pieces generalizing front p with
  | nil =>
    rw [List.length_nil] at hroom
    have hroom' : ¬ (front ++ [p.toNat]).length = 8 := by
      rw [List.length_append, List.length_singleton]
      omega
    rw [joinedHex_singleton, readPieces_piece (by dsimp only; omega), readPieces.eq_3, if_neg hroom']
    show readPieces fuel ⟨_, some ((front ++ [p.toNat]).length + 1)⟩ rest = _
    rw [List.length_append]
    rfl
  | cons q pieces ih =>
    rw [List.length_cons] at hroom
    obtain ⟨c, text, hhead, -⟩ := joinedHex_head q pieces
    have hmore := @ih (front ++ [p.toNat]) q
      (by rw [List.length_append, List.length_singleton]; omega)
    rw [hhead] at hmore
    rw [joinedHex_cons_cons, hhead, List.append_assoc, List.cons_append, List.cons_append,
      show fuel + (q :: pieces).length + 2 = fuel + pieces.length + 2 + 1 by rw [List.length_cons]; omega,
      readPieces_piece (by dsimp only; omega)]
    rw [List.cons_append] at hmore
    have hvalues : front ++ [p.toNat] ++ values (q :: pieces) = front ++ values (p :: q :: pieces) := by
      rw [List.append_assoc]
      rfl
    have hgap : (front ++ [p.toNat]).length + (pieces.length + 1) =
        front.length + ((q :: pieces).length + 1) := by
      rw [List.length_append, List.length_singleton, List.length_cons]
      omega
    rw [hmore, hvalues, hgap]

/-! ### The run of zeros -/

/-- The pieces from a place on are zero, as many as a length says. -/
def IsRun (pieces : List UInt16) (run : Nat × Nat) : Prop :=
  ∀ i < run.2, pieces[run.1 + i]? = some 0

theorem isRun_zero (pieces : List UInt16) (start : Nat) : IsRun pieces (start, 0) :=
  fun _ h => absurd h (Nat.not_lt_zero _)

/-- What is found is a run, wherever the search stands. -/
theorem isRun_zeroRun (before rest : List UInt16) {start length : Nat} {best : Nat × Nat}
    (hunder : IsRun (before ++ rest) (start, length)) (hplace : 0 < length → start + length = before.length)
    (hbest : IsRun (before ++ rest) best) :
    IsRun (before ++ rest) (zeroRun before.length start length best rest) := by
  induction rest generalizing before start length best with
  | nil => exact hbest
  | cons p rest ih =>
    have hnext : before ++ p :: rest = (before ++ [p]) ++ rest := by rw [List.append_assoc]; rfl
    have hcount : before.length + 1 = (before ++ [p]).length := by
      rw [List.length_append, List.length_singleton]
    rw [zeroRun]
    by_cases hp : p = 0
    · rw [if_pos hp]
      dsimp only
      -- The run under way is one longer now.
      have hlonger : IsRun (before ++ p :: rest)
          (if length = 0 then before.length else start, length + 1) := by
        intro i hi
        by_cases hlast : i = length
        · -- The piece that was added stands right behind the others.
          have hat : (if length = 0 then before.length else start) + i = before.length := by
            split
            · omega
            · rw [hlast]
              exact hplace (by omega)
          rw [hat, List.getElem?_append_right (Nat.le_refl _), Nat.sub_self]
          exact congrArg some hp
        · have hi : i < length := by
            have hi : i < length + 1 := hi
            omega
          rw [if_neg (by omega)]
          exact hunder i hi
      have hends : 0 < length + 1 →
          (if length = 0 then before.length else start) + (length + 1) = (before ++ [p]).length := by
        intro _
        rw [← hcount]
        split
        · omega
        · have hstart := hplace (by omega)
          omega
      rw [hcount, hnext]
      rw [hnext] at hlonger hbest
      refine ih (before ++ [p]) hlonger hends ?_
      split
      · exact hlonger
      · exact hbest
    · rw [if_neg hp, hcount, hnext]
      rw [hnext] at hbest
      exact ih (before ++ [p]) (isRun_zero _ _) (fun h => absurd h (Nat.lt_irrefl 0)) hbest

theorem eq_append_of_isRun {pieces : List UInt16} {run : Nat × Nat} (h : IsRun pieces run) :
    pieces = pieces.take run.1 ++ (List.replicate run.2 0 ++ pieces.drop (run.1 + run.2)) := by
  have hdrop : pieces.drop run.1 = List.replicate run.2 0 ++ pieces.drop (run.1 + run.2) := by
    apply List.ext_getElem?
    intro i
    rw [List.getElem?_drop, List.getElem?_append, List.length_replicate]
    split
    · rename_i hi
      rw [h i hi, List.getElem?_replicate, if_pos hi]
    · rw [List.getElem?_drop]
      congr 1
      omega
  rw [← hdrop, List.take_append_drop]

/-! ### Whole addresses -/

theorem length_values (pieces : List UInt16) : (values pieces).length = pieces.length := List.length_map _

theorem map_ofNat_values (pieces : List UInt16) : (values pieces).map UInt16.ofNat = pieces := by
  rw [values, List.map_map]
  exact List.map_id'' (fun p => UInt16.ofNat_toNat) pieces

theorem ofText?_of_head {c : Char} {text : List Char} (hc : c ≠ ':') :
    ofText? (c :: text) = ((readPieces 9 ⟨[], none⟩ (c :: text)).bind Reading.complete?).map
      fun pieces => ⟨pieces.map UInt16.ofNat⟩ := by
  rw [ofText?.eq_def]
  split
  · rename_i heq
    exact absurd (List.cons.inj heq).1 hc
  · rename_i heq
    exact absurd (List.cons.inj heq).1 hc
  · cases ‹c :: text = []›
  · rfl

/-- Eight pieces with nothing left out. -/
theorem ofText?_joinedHex {pieces : List UInt16} (h : pieces.length = 8) :
    ofText? (joinedHex pieces) = some ⟨pieces⟩ := by
  obtain ⟨p, rest, rfl⟩ := List.exists_cons_of_length_eq_add_one h
  obtain ⟨c, text, hhead, hc⟩ := joinedHex_head p rest
  have hread := @readPieces_joinedHex 9 ⟨[], none⟩ (p :: rest)
    (by rw [h]; decide) (by rw [h]; decide)
  rw [hhead, ofText?_of_head hc, ← hhead, hread, Option.bind_some, Reading.complete?]
  dsimp only
  rw [List.nil_append, if_pos (by rw [length_values, h]), Option.map_some, map_ofNat_values]

/-- Pieces with a run of zeros left out between them. -/
theorem ofText?_gap (front back : List UInt16) {count : Nat}
    (h : front.length + (count + 1) + back.length = 8) :
    ofText? (joinedHex front ++ ':' :: ':' :: joinedHex back) =
      some ⟨front ++ (List.replicate (count + 1) 0 ++ back)⟩ := by
  have hcomplete : Reading.complete? ⟨values front ++ [0] ++ values back, some (front.length + 1)⟩ =
      some (values front ++ (List.replicate (count + 1) 0 ++ values back)) := by
    have hfront : (values front ++ [0]).length = front.length + 1 := by
      rw [List.length_append, length_values, List.length_singleton]
    have hmissing : 8 - (values front ++ [0] ++ values back).length = count := by
      rw [List.length_append, hfront, length_values]
      omega
    rw [Reading.complete?, ← hfront]
    dsimp only
    rw [List.take_left, List.drop_left, hmissing, List.replicate_succ]
    simp only [List.append_assoc, List.cons_append, List.nil_append]
  have hbytes : (values front ++ (List.replicate (count + 1) 0 ++ values back)).map UInt16.ofNat =
      front ++ (List.replicate (count + 1) 0 ++ back) := by
    rw [List.map_append, List.map_append, map_ofNat_values, map_ofNat_values, List.map_replicate]
    rfl
  have hread : ∀ fuel, back.length ≤ fuel →
      readPieces fuel ⟨values front ++ [0], some (front.length + 1)⟩ (joinedHex back) =
        some ⟨values front ++ [0] ++ values back, some (front.length + 1)⟩ := by
    intro fuel hfuel
    rw [readPieces_joinedHex back hfuel]
    rw [List.length_append, length_values, List.length_singleton]
    omega
  cases front with
  | nil =>
    have hread : readPieces 9 ⟨[0], some 1⟩ (joinedHex back) =
        some ⟨values [] ++ [0] ++ values back, some (0 + 1)⟩ := hread 9 (by omega)
    rw [List.length_nil] at hcomplete
    show ofText? (':' :: ':' :: joinedHex back) = _
    rw [ofText?.eq_1, hread, Option.bind_some, hcomplete, Option.map_some, hbytes]
  | cons p front =>
    obtain ⟨c, text, hhead, hc⟩ := joinedHex_head p front
    rw [List.length_cons] at h
    have hbefore := @readPieces_before_gap (9 - front.length - 2) [] p front
      (by rw [List.length_nil]; omega) (joinedHex back)
    rw [show 9 - front.length - 2 + front.length + 2 = 9 by omega, List.nil_append, List.length_nil,
      Nat.zero_add, ← List.length_cons (a := p)] at hbefore
    have hread := hread (9 - front.length - 2) (by omega)
    rw [hhead, List.cons_append, ofText?_of_head hc, ← List.cons_append, ← hhead, hbefore, hread,
      Option.bind_some, hcomplete, Option.map_some, hbytes]

theorem byte?_toDigits (b : UInt8) : byte? (Nat.toDigits 10 b.toNat) = some b.toNat := by
  have hall : ∀ n < 256, byte? (Nat.toDigits 10 n) = some n := by decide +kernel
  exact hall _ b.toNat_lt

/-- An IPv4 address at the end, whose first number is tried as a piece before. -/
theorem readPieces_ipv4 {fuel : Nat} {r : Reading} (hroom : r.pieces.length ≤ 6) (addr : Ipv4) :
    readPieces (fuel + 1) r addr.text.toList =
      some { r with pieces := r.pieces ++
        [addr.a.toNat * 256 + addr.b.toNat, addr.c.toNat * 256 + addr.d.toNat] } := by
  have htext : ∃ rest, addr.text.toList = Nat.toDigits 10 addr.a.toNat ++ '.' :: rest := by
    rw [Ipv4.toList_text, List.intercalate_cons_cons, List.append_assoc]
    exact ⟨_, rfl⟩
  obtain ⟨rest, htext⟩ := htext
  have hdigits : ∀ c ∈ Nat.toDigits 10 addr.a.toNat, c.isDigit = true := fun c =>
    Nat.isDigit_of_mem_toDigits (by decide) (by decide)
  have hhex : ∀ c ∈ Nat.toDigits 10 addr.a.toNat, (Ascii.hexDigit? c).isSome = true := fun c hc =>
    @forall_below 58 (fun c => c.isDigit = true → (Ascii.hexDigit? c).isSome = true)
      (by decide) _ (lt_of_isDigit (hdigits c hc)) (hdigits c hc)
  have hlength : (Nat.toDigits 10 addr.a.toNat).length ≤ 4 :=
    (Nat.length_toDigits_le_iff (by decide) (by decide)).mpr (Nat.lt_trans addr.a.toNat_lt (by decide))
  have hdot : ∀ c ∈ ('.' :: rest).head?, Ascii.hexDigit? c = none := by
    rintro _ ⟨rfl⟩
    decide
  have hpiece := piece_append hhex hdot hlength 0
  have hembedded : embedded? addr.text.toList =
      some [addr.a.toNat * 256 + addr.b.toNat, addr.c.toNat * 256 + addr.d.toNat] := by
    rw [embedded?, Ipv4.splitAtChar_text]
    simp only [List.mapM_cons, List.mapM_nil, byte?_toDigits]
    rfl
  obtain ⟨c, digits, hfirst⟩ := List.exists_cons_of_ne_nil (Nat.toDigits_ne_nil (n := addr.a.toNat) (b := 10))
  have hcolon : c ≠ ':' := by
    rintro rfl
    have hdigit := hdigits ':' (hfirst ▸ List.mem_cons_self)
    revert hdigit
    decide
  have hcount : ¬ ((decide ((Nat.toDigits 10 addr.a.toNat).length = 0) ||
      decide (r.pieces.length > 6)) = true) := by
    rw [Bool.or_eq_true, decide_eq_true_eq, decide_eq_true_eq, hfirst, List.length_cons]
    omega
  rw [readPieces.eq_4 _ _ _ (by rw [htext, hfirst]; nofun)
    (by rw [htext, hfirst]; rintro _ ⟨rfl, -⟩; exact hcolon rfl), if_neg (by omega), hembedded, htext,
    hpiece]
  exact if_neg hcount

/-- An IPv4 address behind a run that is left out and one piece. -/
theorem ofText?_mapped (p : UInt16) (addr : Ipv4) :
    ofText? (':' :: ':' :: (hex p ++ ':' :: addr.text.toList)) =
      some ⟨[0, 0, 0, 0, 0, p, UInt16.ofNat (addr.a.toNat * 256 + addr.b.toNat),
        UInt16.ofNat (addr.c.toNat * 256 + addr.d.toNat)]⟩ := by
  have hread := @readPieces_ipv4 7 ⟨[0, p.toNat], some 1⟩ (show 2 ≤ 6 by decide) addr
  rcases htext : addr.text.toList with _ | ⟨c, rest⟩
  · rw [htext] at hread
    cases hread
  · rw [ofText?.eq_1, readPieces_piece (by decide), ← htext]
    show ((readPieces 8 ⟨[0, p.toNat], some 1⟩ addr.text.toList).bind Reading.complete?).map _ = _
    rw [hread]
    show some (Ipv6.mk [0, 0, 0, 0, 0, UInt16.ofNat p.toNat, _, _]) = _
    rw [UInt16.ofNat_toNat]

theorem toList_joined_eq (pieces : List UInt16) : (joined pieces).toList = joinedHex pieces :=
  toList_joined pieces

/-- The text of an address is read as the address. -/
theorem ofText?_text {addr : Ipv6} (h : addr.pieces.length = 8) : ofText? addr.text.toList = some addr := by
  obtain ⟨pieces⟩ := addr
  unfold text
  dsimp only
  split
  · rename_i high low
    have hhigh := high.toNat_lt
    have hlow := low.toNat_lt
    have hprefix : "::ffff:".toList = ':' :: ':' :: (hex 0xFFFF ++ [':']) := by decide
    have hbyte : ∀ n : Nat, (UInt8.ofNat n).toNat = n % 256 := fun n => UInt8.toNat_ofNat'
    have hpiece : ∀ {p : UInt16} {n : Nat}, n = p.toNat → UInt16.ofNat n = p := by
      rintro p _ rfl
      exact UInt16.ofNat_toNat
    rw [String.toList_append, hprefix, List.cons_append, List.cons_append, List.append_assoc]
    show ofText? (':' :: ':' :: (hex 0xFFFF ++ ':' :: (Ipv4.ofNat _).text.toList)) = _
    rw [ofText?_mapped]
    simp only [Ipv4.ofNat, hbyte]
    rw [hpiece (p := high) (by omega), hpiece (p := low) (by omega)]
  · rcases hrun : zeroRun 0 0 0 (0, 0) pieces with ⟨start, length⟩
    dsimp only
    split
    · rename_i hlong
      have hfound := isRun_zeroRun [] pieces (isRun_zero pieces 0) (fun h => absurd h (Nat.lt_irrefl 0))
        (isRun_zero pieces 0)
      rw [List.nil_append, List.length_nil, hrun] at hfound
      have hwhole := eq_append_of_isRun hfound
      dsimp only at hwhole
      obtain ⟨count, rfl⟩ : ∃ count, length = count + 1 := Nat.exists_eq_add_one.mpr (by omega)
      have hlength := congrArg List.length hwhole
      rw [List.length_append, List.length_append, List.length_replicate, h, ← Nat.add_assoc] at hlength
      have hgap := ofText?_gap _ _ hlength.symm
      rw [← hwhole] at hgap
      rw [String.toList_append, String.toList_append, toList_joined_eq, toList_joined_eq, List.append_assoc]
      exact hgap
    · rw [toList_joined_eq, ofText?_joinedHex h]

/-! ### The number of pieces -/

theorem length_embedded? {text : List Char} {last : List Nat} (h : embedded? text = some last) :
    last.length = 2 := by
  rw [embedded?] at h
  split at h
  · cases h
    rfl
  · cases h

theorem length_readPieces {fuel : Nat} {r r' : Reading} {text : List Char} (hroom : r.pieces.length ≤ 8)
    (h : readPieces fuel r text = some r') : r'.pieces.length ≤ 8 := by
  fun_induction readPieces fuel r text with
  | case1 => cases h; exact hroom
  | case2 => cases h
  | case3 => cases h
  | case4 fuel r rest hfull ih =>
    obtain ⟨next, hnext, h⟩ := Option.bind_eq_some_iff.mp h
    refine ih next ?_ h
    rw [Reading.withGap?] at hnext
    split at hnext
    · cases hnext
    · cases hnext
      rw [List.length_append, List.length_singleton]
      omega
  | case5 => cases h
  | case6 =>
    cases h
    rw [List.length_append, List.length_singleton]
    omega
  | case7 _ _ _ _ _ _ _ _ _ _ _ ih =>
    refine ih ?_ h
    rw [List.length_append, List.length_singleton]
    omega
  | case8 => cases h
  | case9 _ _ _ _ _ _ _ _ _ _ hcount =>
    obtain ⟨last, hlast, rfl⟩ := Option.map_eq_some_iff.mp h
    rw [Bool.or_eq_true, decide_eq_true_eq, decide_eq_true_eq] at hcount
    rw [List.length_append, length_embedded? hlast]
    omega
  | case10 => cases h

/-- What is read has eight pieces. -/
theorem length_ofText? {text : List Char} {addr : Ipv6} (h : ofText? text = some addr) :
    addr.pieces.length = 8 := by
  have hcomplete : ∀ {r : Reading} {pieces : List Nat}, r.pieces.length ≤ 8 → r.complete? = some pieces →
      pieces.length = 8 := by
    intro r pieces hroom h
    rw [Reading.complete?] at h
    split at h
    · cases h
      rw [List.length_append, List.length_append, List.length_take, List.length_drop,
        List.length_replicate]
      omega
    · split at h
      · cases h
        assumption
      · cases h
  rw [ofText?.eq_def] at h
  obtain ⟨pieces, hpieces, rfl⟩ := Option.map_eq_some_iff.mp h
  obtain ⟨r, hr, hpieces⟩ := Option.bind_eq_some_iff.mp hpieces
  show (pieces.map UInt16.ofNat).length = 8
  rw [List.length_map]
  refine hcomplete ?_ hpieces
  split at hr
  · exact length_readPieces (by decide) hr
  · cases hr
  · cases hr
  · exact length_readPieces (by decide) hr

end Ipv6

end ObjectStream.Url
