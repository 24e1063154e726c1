/-
  ObjectStream.Proofs.WrittenPath

  The path of an address is what stands in the URL. A text with a `://` in it is cut
  around its authority in one way (`existsUnique_cut`), also where its scheme ends in
  a colon or a slash and where there are more such marks behind. The offsets of bytes
  find that cut, since an ASCII byte of a text is a character of it
  (`path_verbatim`).
-/

import ObjectStream.ObjectAddress.Slices
import ObjectStream.Proofs.AuthorityEnd

namespace ObjectStream

/-! ## Offsets -/

namespace Utf8

/-- The bytes of some characters. -/
def encodeChars (text : List Char) : Bytes := text.flatMap String.utf8EncodeChar

theorem encodeChars_cons (c : Char) (rest : List Char) :
    encodeChars (c :: rest) = String.utf8EncodeChar c ++ encodeChars rest := List.flatMap_cons

theorem length_encodeChars_cons (c : Char) (rest : List Char) :
    (encodeChars (c :: rest)).length = c.utf8Size + (encodeChars rest).length := by
  rw [encodeChars_cons, List.length_append, String.length_utf8EncodeChar]

/-- A text is cut between two characters. -/
theorem sliceFrom?_append (front rest : List Char) :
    sliceFrom? (front ++ rest) (encodeChars front).length = some rest := by
  induction front with
  | nil => cases rest <;> rfl
  | cons c front ih =>
    -- No character is without bytes, so the cut is not in front of this one.
    obtain ⟨size, hsize⟩ := Nat.exists_eq_succ_of_ne_zero (Nat.ne_of_gt (Char.utf8Size_pos c))
    have hlength : (encodeChars (c :: front)).length = size + (encodeChars front).length + 1 := by
      rw [length_encodeChars_cons]
      omega
    rw [hlength, List.cons_append, sliceFrom?, if_pos (by omega)]
    have hrest : size + (encodeChars front).length + 1 - c.utf8Size = (encodeChars front).length := by
      omega
    rw [hrest, ih]

section OffsetWhere

variable {p : Char → Bool} {front : List Char} (hfront : ∀ c ∈ front, p c = false)
include hfront

theorem offsetWhere?_of_forall : offsetWhere? p front = none := by
  induction front with
  | nil => rfl
  | cons c front ih =>
    rw [offsetWhere?, hfront c List.mem_cons_self, ih fun d hd => hfront d (List.mem_cons_of_mem c hd)]
    rfl

theorem offsetWhere?_append {c : Char} (hc : p c = true) (rest : List Char) :
    offsetWhere? p (front ++ c :: rest) = some (encodeChars front).length := by
  induction front with
  | nil =>
    rw [List.nil_append, offsetWhere?, if_pos hc]
    rfl
  | cons d front ih =>
    rw [List.cons_append, offsetWhere?, hfront d List.mem_cons_self,
      ih fun a ha => hfront a (List.mem_cons_of_mem d ha), length_encodeChars_cons]
    rfl

end OffsetWhere

/-- An ASCII byte in front of the bytes of a text is its first character. -/
theorem eq_of_prefix_encodeChars {b : UInt8} {bytes : Bytes} {text : List Char} (hb : b < 0x80)
    (h : b :: bytes <+: encodeChars text) :
    ∃ c rest, text = c :: rest ∧ c.toNat = b.toNat ∧ bytes <+: encodeChars rest := by
  cases text with
  | nil => exact absurd (List.prefix_nil.mp h) (List.cons_ne_nil _ _)
  | cons c rest =>
    obtain ⟨d, more, hbytes⟩ := List.exists_cons_of_ne_nil (@String.utf8EncodeChar_ne_nil c)
    rw [encodeChars_cons, hbytes, List.cons_append, List.cons_prefix_cons] at h
    obtain ⟨rfl, h⟩ := h
    have hc := toNat_of_mem_utf8EncodeChar (c := c) (hbytes ▸ List.mem_cons_self) hb
    have hlow : c.val.toNat ≤ 0x7f := by
      have hlt : b.toNat < 128 := hb
      have heq : c.val.toNat = b.toNat := hc
      omega
    have hone : String.utf8EncodeChar c = [UInt8.ofNat c.toNat] := if_pos hlow
    obtain rfl := (List.cons.inj (hbytes.symm.trans hone)).2
    exact ⟨c, rest, rfl, hc, h⟩

end Utf8

/-- Bytes that no match starts at are passed over. -/
theorem Bytes.offsetOf?_append {needle front : Bytes} (rest : Bytes)
    (h : ∀ before after, before ++ after = front → after ≠ [] → ¬needle <+: after ++ rest) :
    offsetOf? needle (front ++ rest) = (offsetOf? needle rest).map (front.length + ·) := by
  induction front with
  | nil => simp
  | cons b front ih =>
    have hnot : needle.isPrefixOf (b :: (front ++ rest)) = false := by
      rw [Bool.eq_false_iff, Ne, List.isPrefixOf_iff_prefix]
      exact h [] (b :: front) rfl (List.cons_ne_nil _ _)
    have ih := ih fun before after heq => h (b :: before) after (congrArg (b :: ·) heq)
    rw [List.cons_append, offsetOf?, hnot, ih, List.length_cons]
    cases offsetOf? needle rest with
    | none => rfl
    | some i =>
      show some (front.length + i + 1) = some (front.length + 1 + i)
      congr 1
      omega

namespace ObjectAddress

/-! ## The first separator -/

theorem ne_separator_of_free {c : Char} {front rest : List Char}
    (hfree : ¬separator.toList <:+: c :: front) (hrest : rest.head? ≠ some '/') (after : List Char) :
    c :: (front ++ rest) ≠ ':' :: '/' :: '/' :: after := by
  intro htext
  rw [List.cons.injEq] at htext
  obtain ⟨rfl, htext⟩ := htext
  -- The separator does not reach into the rest, which starts with no slash.
  match front with
  | [] => exact hrest (congrArg List.head? htext)
  | [d] => exact hrest (congrArg List.head? (List.cons.inj htext).2)
  | d :: e :: front =>
    rw [List.cons_append, List.cons_append, List.cons.injEq, List.cons.injEq] at htext
    obtain ⟨rfl, rfl, -⟩ := htext
    exact hfree ⟨[], front, rfl⟩

theorem free_of_free_cons {c : Char} {front : List Char} (h : ¬separator.toList <:+: c :: front) :
    ¬separator.toList <:+: front := fun hwithin => h (hwithin.trans (List.suffix_cons c front).isInfix)

/-- No byte of a character starts a separator where the character does not. -/
theorem not_prefix_of_ne_separator {c : Char} {text : List Char}
    (h : ∀ after, c :: text ≠ ':' :: '/' :: '/' :: after) {before after : Bytes}
    (hbytes : before ++ after = String.utf8EncodeChar c) (hne : after ≠ []) :
    ¬[58, 47, 47] <+: after ++ Utf8.encodeChars text := by
  intro hprefix
  obtain ⟨b, more, rfl⟩ := List.exists_cons_of_ne_nil hne
  rw [List.cons_append, List.cons_prefix_cons] at hprefix
  obtain ⟨rfl, hprefix⟩ := hprefix
  have hc : c.toNat = 58 :=
    Utf8.toNat_of_mem_utf8EncodeChar (hbytes ▸ List.mem_append_right before List.mem_cons_self) (by decide)
  obtain rfl : c = ':' := Char.toNat_inj.mp hc
  -- The colon is one byte, so the slashes are in what follows.
  have hlength := congrArg List.length hbytes
  have hone : (String.utf8EncodeChar ':').length = 1 := by decide
  rw [hone, List.length_append, List.length_cons] at hlength
  obtain rfl : more = [] := List.eq_nil_of_length_eq_zero (by omega)
  obtain ⟨d, rest, rfl, hd, hprefix⟩ := Utf8.eq_of_prefix_encodeChars (by decide) hprefix
  obtain ⟨e, rest, rfl, he, -⟩ := Utf8.eq_of_prefix_encodeChars (by decide) hprefix
  obtain rfl : d = '/' := Char.toNat_inj.mp hd
  obtain rfl : e = '/' := Char.toNat_inj.mp he
  exact h rest rfl

section Free

variable {front rest : List Char} (hfree : ¬separator.toList <:+: front) (hrest : rest.head? ≠ some '/')
include hfree hrest

/-- The search goes past what the separator is not in. -/
theorem afterScheme?_append_of_free : afterScheme? (front ++ rest) = afterScheme? rest := by
  induction front with
  | nil => rfl
  | cons c front ih =>
    rw [List.cons_append, afterScheme?_cons (ne_separator_of_free hfree hrest), ih (free_of_free_cons hfree)]

/-- So does the search by bytes. -/
theorem offsetOf?_append_of_free :
    Bytes.offsetOf? [58, 47, 47] (Utf8.encodeChars (front ++ rest)) =
      (Bytes.offsetOf? [58, 47, 47] (Utf8.encodeChars rest)).map ((Utf8.encodeChars front).length + ·) := by
  induction front with
  | nil => simp [Utf8.encodeChars]
  | cons c front ih =>
    have hne := ne_separator_of_free hfree hrest
    rw [List.cons_append, Utf8.encodeChars_cons, Bytes.offsetOf?_append _ fun before after hbytes hafter =>
      not_prefix_of_ne_separator hne hbytes hafter, ih (free_of_free_cons hfree), Option.map_map,
      Utf8.encodeChars_cons, List.length_append]
    congr 1
    funext i
    exact (Nat.add_assoc _ _ _).symm

end Free

/-- A text with a separator has a first one. -/
theorem exists_first {text : List Char} (h : separator.toList <:+: text) :
    ∃ front rest, ¬separator.toList <:+: front ∧ text = front ++ ':' :: '/' :: '/' :: rest := by
  induction text with
  | nil => exact absurd (List.infix_nil.mp h) (by decide)
  | cons c text ih =>
    by_cases hstart : ∃ after, c :: text = ':' :: '/' :: '/' :: after
    · obtain ⟨after, hafter⟩ := hstart
      exact ⟨[], after, fun hnil => absurd (List.infix_nil.mp hnil) (by decide), hafter⟩
    · have hwithin : separator.toList <:+: text := by
        refine (List.infix_cons_iff.mp h).resolve_left fun ⟨after, hafter⟩ => hstart ⟨after, hafter.symm⟩
      obtain ⟨front, rest, hfree, rfl⟩ := ih hwithin
      refine ⟨c :: front, rest, fun hfront => ?_, rfl⟩
      rcases List.infix_cons_iff.mp hfront with ⟨after, hafter⟩ | hfront
      · exact hstart ⟨after ++ ':' :: '/' :: '/' :: rest, by rw [← List.cons_append, ← hafter]; rfl⟩
      · exact hfree hfront

/-! ## Cuts -/

/-- A URL in three parts, with a separator behind the first. -/
@[ext]
structure Cut where
  scheme : String
  authority : String
  tail : String

namespace Cut

/-- The text of the whole. -/
def text (cut : Cut) : String := cut.scheme ++ separator ++ cut.authority ++ cut.tail

/-- The separator is the first one, and the authority goes up to the first character that ends one. -/
structure IsFirst (cut : Cut) : Prop where
  scheme_free : ¬separator.toList <:+: cut.scheme.toList
  not_startsTail : ∀ c ∈ cut.authority.toList, startsTail c = false
  startsTail_head : ∀ c ∈ cut.tail.toList.head?, startsTail c = true

/-- The tail, with a slash in front if it has none there. -/
def path (cut : Cut) : String :=
  if cut.tail.toList.head? = some '/' then cut.tail else "/" ++ cut.tail

theorem toList_text (cut : Cut) : cut.text.toList =
    cut.scheme.toList ++ ':' :: '/' :: '/' :: (cut.authority.toList ++ cut.tail.toList) := by
  simp [text, separator]

theorem ofList_slashed (tail : List Char) :
    String.ofList (slashed tail) =
      if tail.head? = some '/' then String.ofList tail else "/" ++ String.ofList tail := by
  rw [slashed.eq_def]
  split
  · rfl
  · rename_i hhead
    rw [if_neg fun hslash => ?_]
    · rw [← List.singleton_append, String.ofList_append]
    · obtain ⟨rest, hrest⟩ := List.head?_eq_some_iff.mp hslash
      exact hhead rest hrest

namespace IsFirst

variable {cut : Cut} (h : cut.IsFirst)
include h

theorem afterScheme?_text :
    afterScheme? cut.text.toList = some (cut.authority.toList ++ cut.tail.toList) := by
  rw [toList_text, afterScheme?_append_of_free h.scheme_free (by simp), afterScheme?]

theorem dropWhile_rest :
    (cut.authority.toList ++ cut.tail.toList).dropWhile (fun c => !startsTail c) = cut.tail.toList :=
  dropWhile_append_stop (fun c hc => by rw [h.not_startsTail c hc]; rfl)
    fun c hc => by rw [h.startsTail_head c hc]; rfl

theorem writtenPath_text : writtenPath cut.text = .ok cut.path := by
  rw [writtenPath, rawPath?_eq, h.afterScheme?_text, Option.map_some, h.dropWhile_rest]
  dsimp only
  rw [ofList_slashed, String.ofList_toList, path]

theorem offsetOf?_text : (Utf8.encode separator).offsetOf? (Utf8.encode cut.text) =
    some (Utf8.encodeChars cut.scheme.toList).length := by
  have hseparator : Utf8.encode separator = [58, 47, 47] := by decide
  show Bytes.offsetOf? _ (Utf8.encodeChars cut.text.toList) = _
  rw [hseparator, toList_text, offsetOf?_append_of_free h.scheme_free (by simp)]
  rfl

/-- The text is cut behind the separator, and the rest of it where the authority ends. -/
theorem cutPath?_text : cutPath? cut.text = some (.ok cut.path) := by
  have hrest : Utf8.sliceFrom? cut.text.toList ((Utf8.encodeChars cut.scheme.toList).length + 3) =
      some (cut.authority.toList ++ cut.tail.toList) := by
    have hslice := Utf8.sliceFrom?_append (cut.scheme.toList ++ [':', '/', '/'])
      (cut.authority.toList ++ cut.tail.toList)
    rw [Utf8.encodeChars, List.flatMap_append, List.length_append, List.append_assoc] at hslice
    rw [toList_text]
    exact hslice
  rw [cutPath?, h.offsetOf?_text]
  dsimp only
  rw [hrest, Option.bind_some]
  cases htail : cut.tail.toList with
  | nil =>
    have hpath : cut.path = "/" := by
      rw [path, htail, String.toList_eq_nil_iff.mp htail]
      rfl
    rw [List.append_nil, Utf8.offsetWhere?_of_forall h.not_startsTail, hpath]
  | cons c tail =>
    have hc : startsTail c = true := h.startsTail_head c (by rw [htail]; rfl)
    rw [Utf8.offsetWhere?_append h.not_startsTail hc]
    dsimp only
    rw [Utf8.sliceFrom?_append, ← htail, Option.map_some, String.ofList_toList, path]

/-- The text behind the separator is the same in every cut, and so is where the authority ends. -/
theorem eq_of_text_eq {cut' : Cut} (h' : cut'.IsFirst) (htext : cut.text = cut'.text) : cut = cut' := by
  have hrest : cut.authority.toList ++ cut.tail.toList = cut'.authority.toList ++ cut'.tail.toList := by
    rw [← Option.some.injEq, ← h.afterScheme?_text, htext, h'.afterScheme?_text]
  have htail : cut.tail.toList = cut'.tail.toList := by
    rw [← h.dropWhile_rest, hrest, h'.dropWhile_rest]
  have hauthority : cut.authority.toList = cut'.authority.toList := by
    rw [htail] at hrest
    exact List.append_cancel_right hrest
  have hwhole : cut.text.toList = cut'.text.toList := congrArg String.toList htext
  rw [toList_text, toList_text, hrest] at hwhole
  exact Cut.ext (String.toList_inj.mp (List.append_cancel_right hwhole)) (String.toList_inj.mp hauthority)
    (String.toList_inj.mp htail)

end IsFirst

/-- A text with a separator is cut in one way. -/
theorem existsUnique_cut {text : String} (h : separator.toList <:+: text.toList) :
    ∃! cut : Cut, cut.IsFirst ∧ cut.text = text := by
  obtain ⟨front, rest, hfree, htext⟩ := exists_first h
  -- The authority is all of the rest up to the first character that ends one.
  let cut : Cut := ⟨String.ofList front, String.ofList (rest.takeWhile fun c => !startsTail c),
    String.ofList (rest.dropWhile fun c => !startsTail c)⟩
  have hfirst : cut.IsFirst := by
    refine ⟨?_, fun c hc => ?_, fun c hc => ?_⟩
    · rwa [String.toList_ofList]
    · rw [String.toList_ofList] at hc
      simpa using List.mem_takeWhile_imp hc
    · rw [String.toList_ofList] at hc
      simpa using head_dropWhile rest c hc
  have hcut : cut.text = text := by
    rw [← String.toList_inj, toList_text, htext, String.toList_ofList, String.toList_ofList,
      String.toList_ofList, List.takeWhile_append_dropWhile]
  exact ⟨cut, ⟨hfirst, hcut⟩, fun other ⟨hother, hothertext⟩ =>
    hother.eq_of_text_eq hfirst (hothertext.trans hcut.symm)⟩

end Cut

/-! ## The path of an address -/

theorem writtenPath_of_free {text : String} (hfree : ¬separator.toList <:+: text.toList) :
    writtenPath text = .error (refusal text "missing \"://\"") := by
  have hnone : afterScheme? (text.toList ++ []) = none := afterScheme?_append_of_free hfree (by simp)
  rw [List.append_nil] at hnone
  rw [writtenPath, rawPath?_eq, hnone]
  rfl

theorem offsetOf?_of_free {text : String} (hfree : ¬separator.toList <:+: text.toList) :
    (Utf8.encode separator).offsetOf? (Utf8.encode text) = none := by
  have hseparator : Utf8.encode separator = [58, 47, 47] := by decide
  have hnone : Bytes.offsetOf? [58, 47, 47] (Utf8.encodeChars (text.toList ++ [])) = none :=
    offsetOf?_append_of_free hfree (by simp)
  rw [List.append_nil] at hnone
  rw [hseparator]
  exact hnone

theorem cutPath?_eq (text : String) : cutPath? text = some (writtenPath text) := by
  by_cases hwithin : separator.toList <:+: text.toList
  · obtain ⟨cut, ⟨hfirst, rfl⟩, -⟩ := Cut.existsUnique_cut hwithin
    rw [hfirst.cutPath?_text, hfirst.writtenPath_text]
  · rw [writtenPath_of_free hwithin, cutPath?, offsetOf?_of_free hwithin]

theorem writtenPath_of_ofUrl {text : String} {address : ObjectAddress} (h : ofUrl text = .ok address) :
    writtenPath text = .ok address.path := by
  obtain ⟨-, -, -, -, -, -, -, hpath, -⟩ := ofUrl_eq_ok h
  rw [writtenPath, hpath]
  dsimp only
  rw [String.ofList_toList]

/-- In every text, the path is the tail of the one cut around the authority, character for character
and with a slash in front if it has none; a text that cannot be cut is refused. Cutting by offsets of
bytes comes to the same and never cuts within a character. -/
theorem path_verbatim (text : String) :
    (∀ cut : Cut, cut.IsFirst → cut.text = text → writtenPath text = .ok cut.path) ∧
    (separator.toList <:+: text.toList → ∃! cut : Cut, cut.IsFirst ∧ cut.text = text) ∧
    (¬separator.toList <:+: text.toList →
      (∃ message, writtenPath text = .error (.invalidUrl message)) ∧
        ∃ message, ofUrl text = .error (.invalidUrl message)) ∧
    cutPath? text = some (writtenPath text) ∧
    ∀ address, ofUrl text = .ok address → writtenPath text = .ok address.path := by
  refine ⟨?_, Cut.existsUnique_cut, fun hfree => ?_, cutPath?_eq text, fun _ => writtenPath_of_ofUrl⟩
  · rintro cut hfirst rfl
    exact hfirst.writtenPath_text
  · have hmissing := writtenPath_of_free hfree
    refine ⟨⟨_, hmissing⟩, ?_⟩
    cases hread : ofUrl text with
    | error e =>
      obtain ⟨message, rfl⟩ := exists_of_ofUrl_eq_error hread
      exact ⟨message, rfl⟩
    | ok address => cases hmissing.symm.trans (writtenPath_of_ofUrl hread)

example : writtenPath "é:/://ü??://#/" = .ok "/??://#/" := by decide

end ObjectAddress
end ObjectStream
