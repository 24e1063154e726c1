/-
  ObjectStream.Proofs.HostText

  The characters of host texts. A domain name in its ASCII form and an IPv4 address
  hold nothing that means something else in a URL (`IsNameChar`), whatever the host
  was written as; an IPv6 address holds colons besides.
-/

import ObjectStream.Url.Host
import Mathlib.Data.Bool.AllAny
import Mathlib.Data.List.TakeWhile
import Mathlib.Tactic.FinCases

namespace ObjectStream.Url

/-- The characters that can stand in a domain name in its ASCII form. -/
def IsNameChar (c : Char) : Prop := c.toNat < 0x80 ∧ DomainName.isForbidden c = false

instance (c : Char) : Decidable (IsNameChar c) := inferInstanceAs (Decidable (_ ∧ _))

/-- What holds of all code points below a bound holds of their characters. -/
theorem forall_below {bound : Nat} {P : Char → Prop} (h : ∀ n < bound, P (Char.ofNat n)) {c : Char}
    (hc : c.toNat < bound) : P c := by
  have hn := h c.toNat hc
  rwa [Char.ofNat_toNat] at hn

theorem lt_of_isDigit {c : Char} (h : c.isDigit = true) : c.toNat < 58 := by
  rw [Char.isDigit, Bool.and_eq_true, decide_eq_true_eq, decide_eq_true_eq] at h
  exact Nat.lt_succ_of_le (UInt32.le_iff_toNat_le.mp h.2)

theorem IsNameChar.of_isDigit {c : Char} (h : c.isDigit = true) : IsNameChar c :=
  @forall_below 58 (fun c => c.isDigit = true → IsNameChar c) (by decide) _
    (lt_of_isDigit h) h

/-! ## Punycode -/

namespace Punycode

theorem threshold_le (bias k : Nat) : threshold bias k ≤ 26 := Nat.min_le_left _ _

theorem isNameChar_digitChar {d : Nat} (h : d < 36) : IsNameChar (digitChar d) := by
  revert d
  decide

theorem isNameChar_writeNumber (bias k n : Nat) : ∀ c ∈ writeNumber bias k n, IsNameChar c := by
  fun_induction writeNumber bias k n with
  | case1 k n t hlt =>
    have hle : t ≤ 26 := threshold_le bias k
    intro c hc
    rw [List.mem_singleton.mp hc]
    exact isNameChar_digitChar (by omega)
  | case2 k n t hlt ih =>
    have hle : t ≤ 26 := threshold_le bias k
    have hmod : (n - t) % (base - t) < base - t := Nat.mod_lt _ (Nat.sub_pos_of_lt (by show t < 36; omega))
    have hbase : base - t = 36 - t := rfl
    intro c hc
    rcases List.mem_cons.mp hc with rfl | hc
    · exact isNameChar_digitChar (by omega)
    · exact ih c hc

theorem Writer.isNameChar_step {w : Writer} (h : ∀ c ∈ w.output, IsNameChar c)
    (basicCount point : Nat) (c : Char) :
    ∀ a ∈ (w.step basicCount point c).output, IsNameChar a := by
  unfold Writer.step
  split
  · exact h
  · split
    · intro a ha
      rcases List.mem_append.mp ha with ha | ha
      · exact isNameChar_writeNumber _ _ _ a (List.mem_reverse.mp ha)
      · exact h a ha
    · exact h

theorem isNameChar_writePoints (basicCount : Nat) (text : List Char) (next : Nat) {w : Writer}
    (h : ∀ c ∈ w.output, IsNameChar c) (points : List Nat) :
    ∀ c ∈ (writePoints basicCount text next w points).output, IsNameChar c := by
  have hfold : ∀ (l : List Char) (point : Nat) {w : Writer}, (∀ c ∈ w.output, IsNameChar c) →
      ∀ c ∈ (l.foldl (Writer.step basicCount point) w).output, IsNameChar c := by
    intro l point
    induction l with
    | nil => exact fun h => h
    | cons a l ih => exact fun h => ih (Writer.isNameChar_step h basicCount point a)
  induction points generalizing next w with
  | nil => exact h
  | cons point rest ih => exact ih _ (hfold text point h)

/-- What is written for a text is ASCII, and its own characters are those of the text. -/
theorem isNameChar_encode {text : List Char} (h : ∀ c ∈ text, DomainName.isForbidden c = false) :
    ∀ c ∈ encode text, IsNameChar c := by
  have hbasic : ∀ c ∈ text.filter (fun c => c.toNat < firstPoint), IsNameChar c := by
    intro c hc
    obtain ⟨hmem, hlt⟩ := List.mem_filter.mp hc
    exact ⟨of_decide_eq_true hlt, h c hmem⟩
  have hhead : ∀ basic : List Char, (∀ c ∈ basic, IsNameChar c) →
      ∀ c ∈ (if basic.isEmpty then [] else '-' :: basic.reverse), IsNameChar c := by
    intro basic hbasic c hc
    split at hc
    · cases hc
    · rcases List.mem_cons.mp hc with rfl | hc
      · decide
      · exact hbasic c (List.mem_reverse.mp hc)
  intro c hc
  exact isNameChar_writePoints _ text firstPoint (hhead _ hbasic) _ c (List.mem_reverse.mp hc)

theorem lt_of_digit? {c : Char} {d : Nat} (h : digit? c = some d) : c.toNat < 0x80 := by
  rw [digit?] at h
  have hle : ∀ {last : Char}, last.toNat < 0x80 → c ≤ last → c.toNat < 0x80 := fun hlast hc =>
    Nat.lt_of_le_of_lt (UInt32.le_iff_toNat_le.mp hc) hlast
  split at h
  · rename_i hrange
    exact hle (by decide) hrange.2
  · split at h
    · rename_i hrange
      exact hle (by decide) hrange.2
    · split at h
      · rename_i hrange
        exact hle (by decide) hrange.2
      · cases h

theorem digits_of_foldlM {numbers : List Char} {r r' : Reader}
    (h : numbers.foldlM Reader.step? r = some r') : ∀ c ∈ numbers, c.toNat < 0x80 := by
  induction numbers generalizing r with
  | nil => exact fun c hc => absurd hc List.not_mem_nil
  | cons a rest ih =>
    rw [List.foldlM_cons, Option.bind_eq_bind, Option.bind_eq_some_iff] at h
    obtain ⟨next, hstep, hrest⟩ := h
    rw [Reader.step?, Option.bind_eq_bind, Option.bind_eq_some_iff] at hstep
    obtain ⟨d, hd, -⟩ := hstep
    intro c hc
    rcases List.mem_cons.mp hc with rfl | hc
    · exact lt_of_digit? hd
    · exact ih hrest c hc

/-- Nothing but hyphens lies outside the two parts. -/
theorem mem_parts (text : List Char) {c : Char} (h : c ∈ text) :
    c ∈ (parts text).1 ∨ c ∈ (parts text).2 ∨ c = '-' := by
  have hall := List.takeWhile_append_dropWhile (p := fun c => decide (c ≠ '-')) (l := text.reverse)
  have hsplit : text = (text.reverse.dropWhile fun c => decide (c ≠ '-')).reverse ++
      (text.reverse.takeWhile fun c => decide (c ≠ '-')).reverse := by
    rw [← List.reverse_append, hall, List.reverse_reverse]
  have hlast : ∀ last ∈ (text.reverse.dropWhile fun c => decide (c ≠ '-')).head?, last = '-' := by
    intro last hhead
    have hnot := List.head?_dropWhile_not (fun c => decide (c ≠ '-')) text.reverse
    rw [Option.mem_def.mp hhead] at hnot
    simpa using hnot
  generalize hnumbers : (text.reverse.takeWhile fun c => decide (c ≠ '-')).reverse = numbers at hsplit
  generalize text.reverse.dropWhile (fun c => decide (c ≠ '-')) = front at hsplit hlast
  have htake : text.take (text.length - numbers.length) = front.reverse := by
    rw [hsplit, List.length_append, Nat.add_sub_cancel, List.take_left]
  unfold parts
  simp only [hnumbers, htake]
  split
  · exact .inr (.inl h)
  · rw [hsplit] at h
    rcases List.mem_append.mp h with h | h
    · cases front with
      | nil => cases h
      | cons last front =>
        rw [List.reverse_cons] at h ⊢
        rw [List.dropLast_concat]
        rcases List.mem_append.mp h with h | h
        · exact .inl h
        · rw [List.mem_singleton.mp h]
          exact .inr (.inr (hlast last rfl))
    · exact .inr (.inl h)

/-- Only ASCII text is read. -/
theorem lt_of_decode? {text decoded : List Char} (h : decode? text = some decoded) :
    ∀ c ∈ text, c.toNat < 0x80 := by
  rw [decode?] at h
  rcases hparts : parts text with ⟨basic, numbers⟩
  rw [hparts] at h
  dsimp only at h
  split at h
  · cases h
  · rename_i hbasic
    rw [Option.bind_eq_bind, Option.bind_eq_some_iff] at h
    obtain ⟨r, hr, -⟩ := h
    intro c hc
    have hmem := mem_parts text hc
    rw [hparts] at hmem
    rcases hmem with hmem | hmem | rfl
    · rw [List.any_eq_true] at hbasic
      by_contra hge
      exact hbasic ⟨c, hmem, decide_eq_true (Nat.le_of_not_lt hge)⟩
    · exact digits_of_foldlM hr c hmem
    · decide

end Punycode

/-! ## Domain names -/

namespace DomainName

theorem labels_eq_splitOn (name : List Char) : labels name = name.splitOn '.' := rfl

theorem mem_intercalate {separator : List Char} {pieces : List (List Char)} {c : Char}
    (h : c ∈ List.intercalate separator pieces) : c ∈ separator ∨ ∃ piece ∈ pieces, c ∈ piece := by
  induction pieces with
  | nil => cases h
  | cons piece rest ih =>
    cases rest with
    | nil =>
      rw [List.intercalate_singleton] at h
      exact .inr ⟨piece, List.mem_cons_self, h⟩
    | cons next rest =>
      rw [List.intercalate_cons_cons] at h
      rcases List.mem_append.mp h with h | h
      · rcases List.mem_append.mp h with h | h
        · exact .inr ⟨piece, List.mem_cons_self, h⟩
        · exact .inl h
      · rcases ih h with h | ⟨other, hother, h⟩
        · exact .inl h
        · exact .inr ⟨other, List.mem_cons_of_mem piece hother, h⟩

theorem mem_intercalate_of_mem (separator : List Char) {pieces : List (List Char)}
    {piece : List Char} {c : Char} (hpiece : piece ∈ pieces) (h : c ∈ piece) :
    c ∈ List.intercalate separator pieces := by
  induction pieces with
  | nil => cases hpiece
  | cons first rest ih =>
    cases rest with
    | nil =>
      rw [List.mem_singleton.mp hpiece] at h
      rwa [List.intercalate_singleton]
    | cons next rest =>
      rw [List.intercalate_cons_cons]
      rcases List.mem_cons.mp hpiece with rfl | hpiece
      · exact List.mem_append_left _ (List.mem_append_left _ h)
      · exact List.mem_append_right _ (ih hpiece)

theorem mem_of_mem_label {name label : List Char} (hlabel : label ∈ labels name) {c : Char}
    (h : c ∈ label) : c ∈ name := by
  rw [labels_eq_splitOn] at hlabel
  rw [← @List.intercalate_splitOn _ name _ _ '.']
  exact mem_intercalate_of_mem _ hlabel h

theorem not_forbidden_of_mapped? {name mapped : List Char} (h : mapped? name = some mapped) :
    ∀ c ∈ mapped, isForbidden c = false := by
  rw [mapped?, Option.bind_eq_bind, Option.bind_eq_some_iff] at h
  obtain ⟨pieces, -, h⟩ := h
  dsimp only at h
  split at h
  · cases h
  · rename_i hnone
    cases h
    intro c hc
    by_contra hforbidden
    exact hnone (List.any_eq_true.mpr ⟨c, hc, by simpa using hforbidden⟩)

theorem Label.ofEncoded?_eq_some {code : List Char} {label : Label}
    (h : Label.ofEncoded? code = some label) :
    label.ascii = encodedMark ++ code ∧ ∀ c ∈ code, c.toNat < 0x80 := by
  rw [Label.ofEncoded?] at h
  split at h
  · cases h
  · rw [Option.bind_eq_bind, Option.bind_eq_some_iff] at h
    obtain ⟨text, htext, h⟩ := h
    split at h
    · cases h
    · cases h
      exact ⟨rfl, Punycode.lt_of_decode? htext⟩

theorem Label.isNameChar_ascii {text : List Char} (htext : ∀ c ∈ text, isForbidden c = false)
    {label : Label} (h : Label.ofText? text = some label) : ∀ c ∈ label.ascii, IsNameChar c := by
  have hmark : ∀ c ∈ encodedMark, IsNameChar c := List.all_iff_forall_prop.mp (by decide)
  rw [Label.ofText?] at h
  split at h
  · obtain ⟨hascii, hlt⟩ := Label.ofEncoded?_eq_some h
    rw [hascii]
    intro c hc
    rcases List.mem_append.mp hc with hc | hc
    · exact hmark c hc
    · exact ⟨hlt c hc, htext c (List.mem_of_mem_drop hc)⟩
  · split at h
    · rename_i hascii
      cases h
      exact fun c hc => ⟨of_decide_eq_true (List.all_eq_true.mp hascii c hc), htext c hc⟩
    · split at h
      · cases h
      · cases h
        intro c hc
        rcases List.mem_append.mp hc with hc | hc
        · exact hmark c hc
        · exact Punycode.isNameChar_encode htext c hc

/-- What a name comes to, where its labels fit. -/
theorem toAscii?_eq_some {name ascii : List Char} (h : toAscii? name = some ascii) :
    ∃ mapped found, mapped? name = some mapped ∧ (labels mapped).mapM Label.ofText? = some found ∧
      ascii = List.intercalate ['.'] (found.map (·.ascii)) := by
  rw [toAscii?, Option.bind_eq_bind, Option.bind_eq_some_iff] at h
  obtain ⟨mapped, hmapped, h⟩ := h
  rw [Option.bind_eq_bind, Option.bind_eq_some_iff] at h
  obtain ⟨found, hfound, h⟩ := h
  dsimp only at h
  split at h
  · cases h
    exact ⟨mapped, found, hmapped, hfound, rfl⟩
  · cases h

theorem mem_of_mapM {α β : Type} {f : α → Option β} {l : List α} {l' : List β}
    (h : l.mapM f = some l') {b : β} (hb : b ∈ l') : ∃ a ∈ l, f a = some b := by
  induction l generalizing l' with
  | nil =>
    cases h
    cases hb
  | cons a rest ih =>
    rw [List.mapM_cons, Option.bind_eq_bind, Option.bind_eq_some_iff] at h
    obtain ⟨first, hfirst, h⟩ := h
    rw [Option.bind_eq_bind, Option.bind_eq_some_iff] at h
    obtain ⟨others, hothers, h⟩ := h
    cases h
    rcases List.mem_cons.mp hb with rfl | hb
    · exact ⟨a, List.mem_cons_self, hfirst⟩
    · obtain ⟨a', ha', hfa'⟩ := ih hothers hb
      exact ⟨a', List.mem_cons_of_mem a ha', hfa'⟩

theorem isNameChar_toAscii? {name ascii : List Char} (h : toAscii? name = some ascii) :
    ∀ c ∈ ascii, IsNameChar c := by
  obtain ⟨mapped, found, hmapped, hfound, rfl⟩ := toAscii?_eq_some h
  intro c hc
  rcases mem_intercalate hc with hc | ⟨piece, hpiece, hc⟩
  · rw [List.mem_singleton.mp hc]
    decide
  · obtain ⟨label, hlabel, rfl⟩ := List.mem_map.mp hpiece
    obtain ⟨text, htext, hof⟩ := mem_of_mapM hfound hlabel
    refine Label.isNameChar_ascii (fun d hd => ?_) hof c hc
    exact not_forbidden_of_mapped? hmapped d (mem_of_mem_label htext hd)

end DomainName

/-! ## Addresses -/

namespace Ipv4

theorem toList_text (addr : Ipv4) :
    addr.text.toList = List.intercalate ['.']
      [Nat.toDigits 10 addr.a.toNat, Nat.toDigits 10 addr.b.toNat, Nat.toDigits 10 addr.c.toNat,
        Nat.toDigits 10 addr.d.toNat] := by
  have hdot : ".".toList = ['.'] := rfl
  simp only [text, Nat.toString_eq_ofList_toDigits, String.toList_append, String.toList_ofList, hdot,
    List.intercalate_cons_cons, List.intercalate_singleton, List.append_assoc]

theorem dot_or_digit_of_mem_text (addr : Ipv4) : ∀ c ∈ addr.text.toList, c = '.' ∨ c.isDigit = true := by
  rw [toList_text]
  intro c hc
  rcases DomainName.mem_intercalate hc with hc | ⟨piece, hpiece, hc⟩
  · exact .inl (List.mem_singleton.mp hc)
  · right
    fin_cases hpiece <;> exact Nat.isDigit_of_mem_toDigits (by decide) (by decide) hc

theorem isNameChar_text (addr : Ipv4) : ∀ c ∈ addr.text.toList, IsNameChar c := by
  intro c hc
  rcases dot_or_digit_of_mem_text addr c hc with rfl | hdigit
  · decide
  · exact .of_isDigit hdigit

end Ipv4

namespace Ipv6

theorem mem_toDigits {n : Nat} {c : Char} (h : c ∈ Nat.toDigits 16 n) :
    ∃ d < 16, c = Nat.digitChar d := by
  induction n using Nat.strongRecOn with
  | _ n ih =>
    rw [Nat.toDigits_eq_if (by decide)] at h
    split at h
    · rename_i hlt
      exact ⟨n, hlt, List.mem_singleton.mp h⟩
    · rename_i hge
      rcases List.mem_append.mp h with h | h
      · exact ih (n / 16) (by omega) h
      · exact ⟨n % 16, Nat.mod_lt _ (by decide), List.mem_singleton.mp h⟩

theorem toList_joined (pieces : List UInt16) :
    (joined pieces).toList =
      List.intercalate [':'] (pieces.map fun p => Nat.toDigits 16 p.toNat) := by
  have hcolon : ":".toList = [':'] := rfl
  rw [joined, String.toList_intercalate, hcolon, List.map_map]
  congr 1
  exact List.map_congr_left fun p _ => String.toList_ofList

theorem isNameChar_joined (pieces : List UInt16) :
    ∀ c ∈ (joined pieces).toList, IsNameChar c ∨ c = ':' := by
  rw [toList_joined]
  intro c hc
  rcases DomainName.mem_intercalate hc with hc | ⟨piece, hpiece, hc⟩
  · exact .inr (List.mem_singleton.mp hc)
  · obtain ⟨p, -, rfl⟩ := List.mem_map.mp hpiece
    obtain ⟨d, hd, rfl⟩ := mem_toDigits hc
    have hall : ∀ d < 16, IsNameChar (Nat.digitChar d) := by decide
    exact .inl (hall d hd)

theorem isNameChar_text (addr : Ipv6) : ∀ c ∈ addr.text.toList, IsNameChar c ∨ c = ':' := by
  have hmapped : ∀ c ∈ "::ffff:".toList, IsNameChar c ∨ c = ':' :=
    List.all_iff_forall_prop.mp (by decide)
  have hgap : ∀ c ∈ "::".toList, IsNameChar c ∨ c = ':' :=
    List.all_iff_forall_prop.mp (by decide)
  intro c hc
  unfold text at hc
  split at hc
  · rw [String.toList_append] at hc
    rcases List.mem_append.mp hc with hc | hc
    · exact hmapped c hc
    · left
      rcases Ipv4.dot_or_digit_of_mem_text _ c hc with rfl | hdigit
      · decide
      · exact .of_isDigit hdigit
  · dsimp only at hc
    split at hc
    · rw [String.toList_append, String.toList_append] at hc
      rcases List.mem_append.mp hc with hc | hc
      · rcases List.mem_append.mp hc with hc | hc
        · exact isNameChar_joined _ c hc
        · exact hgap c hc
      · exact isNameChar_joined _ c hc
    · exact isNameChar_joined _ c hc

end Ipv6

/-! ## Hosts -/

namespace Host

/-- The name that the text of a host spells, its percent signs read. -/
def spelled? (text : List Char) : Option (List Char) :=
  (Utf8.decode? (Percent.decode (Utf8.encode (String.ofList text)))).map String.toList

/-- The host of a web URL: a name in its ASCII form that is no address, or an address. -/
theorem ofSpecial_eq_ok {text : List Char} {host : Host} (h : ofSpecial text = .ok host) :
    (∃ name ascii, spelled? text = some name ∧ ascii ≠ [] ∧ DomainName.toAscii? name = some ascii ∧
      ((Ipv4.endsInNumber ascii = false ∧ host = .domain (String.ofList ascii)) ∨
        ∃ addr, host = .ipv4 addr)) ∨
    ∃ addr, host = .ipv6 addr ∧ Ipv6.ofText? (text.drop 1).dropLast = some addr := by
  rw [ofSpecial] at h
  split at h
  · rw [ofBracketed] at h
    split at h
    · split at h
      · rename_i addr haddr
        cases h
        exact .inr ⟨addr, rfl, haddr⟩
      · cases h
    · cases h
  · left
    split at h
    · cases h
    · cases h
    · rename_i ascii hne hascii
      obtain ⟨name, hspelled, hname⟩ := Option.bind_eq_some_iff.mp hascii
      refine ⟨name.toList, ascii, by rw [spelled?, hspelled]; rfl, hne, hname, ?_⟩
      split at h
      · split at h
        · rename_i addr _
          cases h
          exact .inr ⟨addr, rfl⟩
        · cases h
      · rename_i hnumber
        cases h
        exact .inl ⟨Bool.eq_false_iff.mpr hnumber, rfl⟩

theorem isNameChar_text {text : List Char} {host : Host} (h : ofSpecial text = .ok host) :
    ∀ c ∈ host.text.toList, IsNameChar c ∨ c = ':' := by
  rcases ofSpecial_eq_ok h with ⟨name, ascii, -, -, hascii, ⟨-, rfl⟩ | ⟨addr, rfl⟩⟩ | ⟨addr, rfl, -⟩
  · intro c hc
    rw [Host.text, String.toList_ofList] at hc
    exact .inl (DomainName.isNameChar_toAscii? hascii c hc)
  · exact fun c hc => .inl (Ipv4.isNameChar_text addr c hc)
  · exact Ipv6.isNameChar_text addr

end Host

end ObjectStream.Url
