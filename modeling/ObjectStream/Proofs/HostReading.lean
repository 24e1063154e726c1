/-
  ObjectStream.Proofs.HostReading

  The host of a web URL, written out, is read as the same host (`ofSpecial_serialized`).
  For addresses, and for names spelled in ASCII, that is proved here. A name with
  other characters is written with Punycode in its ASCII form; that this form is
  its own ASCII form is asked of it.
-/

import ObjectStream.Proofs.AddressText

namespace ObjectStream.Url

/-! ## Names in ASCII -/

namespace DomainName

theorem mapM_of_forall {α β : Type} {f : α → Option β} {g : α → β} {l : List α}
    (h : ∀ a ∈ l, f a = some (g a)) : l.mapM f = some (l.map g) := by
  induction l with
  | nil => rfl
  | cons a rest ih =>
    rw [List.mapM_cons, h a List.mem_cons_self, ih fun b hb => h b (List.mem_cons_of_mem a hb)]
    rfl

theorem lt_of_isAscii {name : List Char} (h : isAscii name = true) {c : Char} (hc : c ∈ name) :
    c.toNat < 0x80 :=
  of_decide_eq_true (List.all_eq_true.mp h c hc)

theorem isAscii_lower {name : List Char} (h : isAscii name = true) :
    isAscii (name.map Char.toLower) = true := by
  refine List.all_eq_true.mpr fun c hc => decide_eq_true ?_
  obtain ⟨a, ha, rfl⟩ := List.mem_map.mp hc
  exact @forall_below 0x80 (fun a => a.toLower.toNat < 0x80) (by decide) _ (lt_of_isAscii h ha)

/-- Of an ASCII name only the capitals are replaced. -/
theorem mapped?_of_ascii {name : List Char} (h : isAscii name = true) :
    mapped? name =
      if (name.map Char.toLower).any isForbidden then none else some (name.map Char.toLower) := by
  have hpieces : name.mapM Mapping.ofChar? = some (name.map fun c => [c.toLower]) :=
    mapM_of_forall fun c hc => if_pos (lt_of_isAscii h hc)
  have hflat : ∀ l : List Char, (l.map fun c => [c.toLower]).flatten = l.map Char.toLower := by
    intro l
    induction l with
    | nil => rfl
    | cons c l ih => rw [List.map_cons, List.flatten_cons, ih]; rfl
  have hnormal : NormalForm.compose (name.map Char.toLower) = name.map Char.toLower :=
    if_pos (isAscii_lower h)
  rw [mapped?, hpieces]
  show (if (NormalForm.compose (name.map fun c => [c.toLower]).flatten).any isForbidden then none
    else some (NormalForm.compose (name.map fun c => [c.toLower]).flatten)) = _
  rw [hflat, hnormal]

theorem isAscii_of_mem_labels {name label : List Char} (h : isAscii name = true)
    (hlabel : label ∈ labels name) : isAscii label = true :=
  List.all_eq_true.mpr fun c hc => List.all_eq_true.mp h c (mem_of_mem_label hlabel hc)

/-- A label in ASCII stays as it is, whether it is marked as Punycode or not. -/
theorem Label.ascii_of_isAscii {text : List Char} {label : Label} (htext : isAscii text = true)
    (h : Label.ofText? text = some label) : label.ascii = text := by
  rw [Label.ofText?] at h
  split at h
  · rename_i hmark
    obtain ⟨rest, hrest⟩ := List.isPrefixOf_iff_prefix.mp hmark
    rw [(Label.ofEncoded?_eq_some h).1, ← hrest, List.drop_left]
  · cases h
    rfl

theorem intercalate_labels (name : List Char) : List.intercalate ['.'] (labels name) = name := by
  rw [labels_eq_splitOn, List.intercalate_splitOn]

/-- The ASCII form of a name that is spelled in ASCII is its own ASCII form. -/
theorem toAscii?_of_ascii {name ascii : List Char} (hname : isAscii name = true)
    (h : toAscii? name = some ascii) : toAscii? ascii = some ascii := by
  obtain ⟨lower, found, hmapped, hfound, rfl⟩ := toAscii?_eq_some h
  have hlower : lower = name.map Char.toLower ∧ lower.any isForbidden = false := by
    rw [mapped?_of_ascii hname] at hmapped
    split at hmapped
    · cases hmapped
    · rename_i hnone
      cases hmapped
      exact ⟨rfl, Bool.eq_false_iff.mpr hnone⟩
  obtain ⟨rfl, hforbidden⟩ := hlower
  have hascii := isAscii_lower hname
  have htwice : (name.map Char.toLower).map Char.toLower = name.map Char.toLower := by
    rw [List.map_map]
    exact List.map_congr_left fun c hc =>
      @forall_below 0x80 (fun c => c.toLower.toLower = c.toLower) (by decide) _ (lt_of_isAscii hname hc)
  -- The labels are the ones that the name has already, so putting them together gives it back.
  have hsame : List.intercalate ['.'] (found.map (·.ascii)) = name.map Char.toLower := by
    have hlabels : ∀ {l : List (List Char)} {found : List Label}, (∀ text ∈ l, isAscii text = true) →
        l.mapM Label.ofText? = some found → found.map (·.ascii) = l := by
      intro l
      induction l with
      | nil => rintro _ - ⟨⟩; rfl
      | cons text rest ih =>
        intro found hall h
        rw [List.mapM_cons, Option.bind_eq_bind, Option.bind_eq_some_iff] at h
        obtain ⟨label, hlabel, h⟩ := h
        rw [Option.bind_eq_bind, Option.bind_eq_some_iff] at h
        obtain ⟨others, hothers, h⟩ := h
        cases h
        rw [List.map_cons, Label.ascii_of_isAscii (hall text List.mem_cons_self) hlabel,
          ih (fun t ht => hall t (List.mem_cons_of_mem text ht)) hothers]
    rw [hlabels (fun _ => isAscii_of_mem_labels hascii) hfound, intercalate_labels]
  have hagain : mapped? (name.map Char.toLower) = mapped? name := by
    rw [mapped?_of_ascii hascii, htwice, hforbidden, hmapped]
    rfl
  rw [hsame] at h ⊢
  rw [← h, toAscii?, toAscii?, hagain]

/-- Digits and dots are their own ASCII form. -/
theorem toAscii?_of_digits {text : List Char} (h : ∀ c ∈ text, c = '.' ∨ c.isDigit = true) :
    toAscii? text = some text := by
  have hchar : ∀ c ∈ text, c.toNat < 0x80 ∧ c.toLower = c ∧ isForbidden c = false ∧ c ≠ 'x' := by
    intro c hc
    rcases h c hc with rfl | hdigit
    · decide
    · exact @forall_below 58 (fun c => c.isDigit = true → c.toNat < 0x80 ∧ c.toLower = c ∧
        isForbidden c = false ∧ c ≠ 'x') (by decide) _ (lt_of_isDigit hdigit) hdigit
  have hascii : isAscii text = true :=
    List.all_eq_true.mpr fun c hc => decide_eq_true (hchar c hc).1
  have hlower : text.map Char.toLower = text :=
    (List.map_congr_left fun c hc => (hchar c hc).2.1).trans (List.map_id _)
  have hallowed : text.any isForbidden = false := by
    rw [List.any_eq_false]
    exact fun c hc => Bool.eq_false_iff.mp (hchar c hc).2.2.1
  have hmapped : mapped? text = some text := by
    rw [mapped?_of_ascii hascii, hlower, hallowed]
    rfl
  have hlabels : (labels text).mapM Label.ofText? = some ((labels text).map fun l => ⟨l, l⟩) := by
    refine mapM_of_forall fun label hlabel => ?_
    have hplain : isEncoded label = false := by
      rw [Bool.eq_false_iff]
      intro hmark
      have hmem : 'x' ∈ label := (List.isPrefixOf_iff_prefix.mp hmark).subset List.mem_cons_self
      exact (hchar _ (mem_of_mem_label hlabel hmem)).2.2.2 rfl
    rw [Label.ofText?, hplain, isAscii_of_mem_labels hascii hlabel]
    rfl
  have htexts : ((labels text).map fun l => (⟨l, l⟩ : Label)).map (·.text) = labels text := by
    rw [List.map_map]
    exact List.map_id _
  have hforms : ((labels text).map fun l => (⟨l, l⟩ : Label)).map (·.ascii) = labels text := by
    rw [List.map_map]
    exact List.map_id _
  have hall : (labels text).all isAscii = true :=
    List.all_eq_true.mpr fun _ => isAscii_of_mem_labels hascii
  rw [toAscii?, hmapped]
  show ((labels text).mapM Label.ofText?).bind _ = _
  rw [hlabels, Option.bind_some, htexts, hforms, intercalate_labels]
  exact if_pos (by rw [hall, Bool.true_or])

end DomainName

/-! ## Hosts -/

theorem Percent.decode_of_not_mem {bytes : Bytes} (h : 37 ∉ bytes) : Percent.decode bytes = bytes := by
  fun_induction Percent.decode bytes with
  | case1 => rfl
  | case2 | case3 => exact absurd List.mem_cons_self h
  | case4 a rest _ ih => rw [ih fun hmem => h (List.mem_cons_of_mem a hmem)]

namespace Host

/-- The texts that spell a name as they are: ASCII without percent signs. -/
def IsPlain (text : List Char) : Prop := ∀ c ∈ text, c.toNat < 0x80 ∧ c ≠ '%'

instance (text : List Char) : Decidable (IsPlain text) := List.decidableBAll _ text

theorem spelled?_of_isPlain {text : List Char} (h : IsPlain text) : spelled? text = some text := by
  have hlt : ∀ b ∈ text.map fun c => UInt8.ofNat c.toNat, b < 0x80 ∧ b ≠ 37 := by
    intro b hb
    obtain ⟨c, hc, rfl⟩ := List.mem_map.mp hb
    exact @forall_below 0x80 (fun c => c ≠ '%' → UInt8.ofNat c.toNat < 0x80 ∧ UInt8.ofNat c.toNat ≠ 37)
      (by decide) _ (h c hc).1 (h c hc).2
  have hback : (text.map fun c => UInt8.ofNat c.toNat).map (fun b => Char.ofNat b.toNat) = text := by
    rw [List.map_map]
    refine (List.map_congr_left fun c hc => ?_).trans (List.map_id text)
    exact @forall_below 0x80 (fun c => Char.ofNat (UInt8.ofNat c.toNat).toNat = c) (by decide) _ (h c hc).1
  rw [spelled?, Utf8.encode_of_ascii fun c hc => (h c hc).1,
    Percent.decode_of_not_mem fun hmem => (hlt 37 hmem).2 rfl,
    Utf8.decode?_of_ascii fun b hb => (hlt b hb).1, hback, Option.map_some, String.toList_ofList]

theorem isPlain_of_isNameChar {name : List Char} (h : ∀ c ∈ name, IsNameChar c) : IsPlain name := by
  intro c hc
  refine ⟨(h c hc).1, ?_⟩
  rintro rfl
  have hforbidden := (h '%' hc).2
  revert hforbidden
  decide

/-- The host of a name that is its own ASCII form. -/
theorem ofSpecial_of_toAscii? {name : List Char} (hchars : ∀ c ∈ name, IsNameChar c) (hne : name ≠ [])
    (h : DomainName.toAscii? name = some name) {host : Host}
    (hhost : (Ipv4.endsInNumber name = false ∧ host = .domain (String.ofList name)) ∨
      Ipv4.endsInNumber name = true ∧ ∃ addr, Ipv4.ofHost? name = some addr ∧ host = .ipv4 addr) :
    ofSpecial name = .ok host := by
  have hbracket : name.head? ≠ some '[' := by
    intro hhead
    have hname := hchars '[' (List.mem_of_head? hhead)
    revert hname
    decide
  obtain ⟨text, htext, hlist⟩ :=
    Option.map_eq_some_iff.mp (spelled?_of_isPlain (isPlain_of_isNameChar hchars))
  obtain ⟨c, rest, rfl⟩ := List.exists_cons_of_ne_nil hne
  rw [ofSpecial, if_neg hbracket]
  simp only [htext, Option.bind_some, hlist, h]
  rcases hhost with ⟨hnumber, rfl⟩ | ⟨hnumber, addr, haddr, rfl⟩
  · simp [hnumber]
  · simp [hnumber, haddr]

/-- The host as a URL holds it, an IPv6 address in brackets. -/
def serialized : Host → String
  | ipv6 addr => "[" ++ addr.text ++ "]"
  | host => host.text

theorem toList_serialized_ipv6 (addr : Ipv6) :
    (serialized (.ipv6 addr)).toList = '[' :: (addr.text.toList ++ [']']) := by
  show ("[" ++ addr.text ++ "]").toList = _
  simp

/-- Names and IPv4 addresses are written in the characters of names, IPv6 addresses in brackets. -/
theorem serialized_chars {text : List Char} {host : Host} (h : ofSpecial text = .ok host) :
    (∀ c ∈ host.serialized.toList, IsNameChar c) ∨
      ∃ inner, host.serialized.toList = '[' :: (inner ++ [']']) ∧ ∀ c ∈ inner, IsNameChar c ∨ c = ':' := by
  rcases ofSpecial_eq_ok h with ⟨name, ascii, -, -, hascii, ⟨-, rfl⟩ | ⟨addr, rfl⟩⟩ | ⟨addr, rfl, -⟩
  · left
    show ∀ c ∈ (String.ofList ascii).toList, IsNameChar c
    rw [String.toList_ofList]
    exact DomainName.isNameChar_toAscii? hascii
  · exact .inl (Ipv4.isNameChar_text addr)
  · exact .inr ⟨_, toList_serialized_ipv6 addr, Ipv6.isNameChar_text addr⟩

/-- That the name which a text spells has an ASCII form that is its own ASCII form, unless it is spelled
in ASCII: for such names that is a theorem (`DomainName.toAscii?_of_ascii`). -/
def IsStable (text : List Char) : Prop :=
  ∀ name ascii, spelled? text = some name → DomainName.isAscii name = false →
    DomainName.toAscii? name = some ascii → DomainName.toAscii? ascii = some ascii

/-- A host that was read is read again from what it is written as. -/
theorem ofSpecial_serialized {text : List Char} {host : Host} (h : ofSpecial text = .ok host)
    (hstable : IsStable text) : ofSpecial host.serialized.toList = .ok host := by
  rcases ofSpecial_eq_ok h with ⟨name, ascii, hspelled, hne, hascii, hhost⟩ | ⟨addr, rfl, hread⟩
  · rcases hhost with ⟨hnumber, rfl⟩ | ⟨addr, rfl⟩
    · have hself : DomainName.toAscii? ascii = some ascii := by
        cases hcase : DomainName.isAscii name with
        | true => exact DomainName.toAscii?_of_ascii hcase hascii
        | false => exact hstable name ascii hspelled hcase hascii
      show ofSpecial (String.ofList ascii).toList = _
      rw [String.toList_ofList]
      exact ofSpecial_of_toAscii? (DomainName.isNameChar_toAscii? hascii) hne hself (.inl ⟨hnumber, rfl⟩)
    · have hne : addr.text.toList ≠ [] := by
        intro hnil
        have hnumber := Ipv4.endsInNumber_text addr
        rw [hnil] at hnumber
        revert hnumber
        decide
      exact ofSpecial_of_toAscii? (Ipv4.isNameChar_text addr) hne
        (DomainName.toAscii?_of_digits (Ipv4.dot_or_digit_of_mem_text addr))
        (.inr ⟨Ipv4.endsInNumber_text addr, addr, Ipv4.ofHost?_text addr, rfl⟩)
  · have hinner : Ipv6.ofText? (('[' :: (addr.text.toList ++ [']'])).drop 1).dropLast = some addr := by
      rw [List.drop_succ_cons, List.drop_zero, List.dropLast_concat]
      exact Ipv6.ofText?_text (Ipv6.length_ofText? hread)
    have hclose : ('[' :: (addr.text.toList ++ [']'])).getLast? = some ']' := by
      rw [← List.cons_append, List.getLast?_concat]
    rw [toList_serialized_ipv6, ofSpecial, if_pos List.head?_cons, ofBracketed, if_pos hclose]
    simp only [hinner]

end Host

end ObjectStream.Url
