/-
  ObjectStream.Proofs.AuthorityBlanks

  Blanks behind the authority of a web URL. They do not count at the end of a URL,
  but in front of anything else they belong to the host or to the port, and neither
  is read then (`readAuthority_of_blanks`). For a host that is said of the names
  that are spelled in ASCII: of other names it would take the tables of normal forms.
-/

import ObjectStream.Proofs.AuthorityPart
import ObjectStream.Proofs.HostReading

namespace ObjectStream.Url

/-! ## User information, host and port -/

theorem splitUserInfo_append (text : List Char) {more : List Char} (hmore : '@' ∉ more) :
    splitUserInfo (text ++ more) = ((splitUserInfo text).1, (splitUserInfo text).2 ++ more) := by
  have hbehind : (text ++ more).reverse.takeWhile (· ≠ '@') =
      more.reverse ++ text.reverse.takeWhile (· ≠ '@') := by
    rw [List.reverse_append, List.takeWhile_append_of_pos]
    intro c hc
    exact decide_eq_true fun heq => hmore (heq ▸ List.mem_reverse.mp hc)
  rw [splitUserInfo, splitUserInfo]
  by_cases hmem : '@' ∈ text
  · have hle := (List.takeWhile_prefix (l := text.reverse) (· ≠ '@')).length_le
    rw [List.length_reverse] at hle
    rw [if_pos (List.contains_iff_mem.mpr (List.mem_append_left _ hmem)),
      if_pos (List.contains_iff_mem.mpr hmem), hbehind]
    dsimp only
    rw [List.reverse_append, List.reverse_reverse, List.take_append_of_le_length]
    · simp only [List.length_append, List.length_reverse]
      congr 3
      omega
    · simp only [List.length_append, List.length_reverse]
      omega
  · have hnot : '@' ∉ text ++ more := fun h => (List.mem_append.mp h).elim hmem hmore
    rw [if_neg (mt List.contains_iff_mem.mp hnot), if_neg (mt List.contains_iff_mem.mp hmem)]

/-- A host that ended is not changed by what comes behind. -/
theorem splitHost_append_of_ended {inBrackets : Bool} {text name after : List Char}
    (h : splitHost inBrackets text = (name, after)) (hafter : after ≠ []) (more : List Char) :
    splitHost inBrackets (text ++ more) = (name, after ++ more) := by
  fun_induction splitHost inBrackets text generalizing name with
  | case1 =>
    cases h
    exact absurd rfl hafter
  | case2 inBrackets c rest hcolon =>
    cases h
    rw [List.cons_append, splitHost, if_pos hcolon]
  | case3 inBrackets c rest hcolon inside host left heq =>
    rename_i ih
    cases h
    rw [List.cons_append, splitHost, if_neg hcolon]
    dsimp only
    rw [ih heq]

/-- Without a colon a text is all host. -/
theorem splitHost_of_not_mem {text : List Char} (h : ':' ∉ text) (inBrackets : Bool) :
    splitHost inBrackets text = (text, []) := by
  induction text generalizing inBrackets with
  | nil => rfl
  | cons c rest ih =>
    obtain ⟨hc, hrest⟩ := not_or.mp (mt List.mem_cons.mpr h)
    rw [splitHost, if_neg (by simp [Ne.symm hc])]
    dsimp only
    rw [ih hrest]

/-- A host that did not end goes on. -/
theorem splitHost_append_of_open {inBrackets : Bool} {text name more : List Char}
    (h : splitHost inBrackets text = (name, [])) (hmore : ':' ∉ more) :
    splitHost inBrackets (text ++ more) = (name ++ more, []) := by
  fun_induction splitHost inBrackets text generalizing name with
  | case1 inBrackets =>
    cases h
    exact splitHost_of_not_mem hmore inBrackets
  | case2 inBrackets c rest hcolon => cases h
  | case3 inBrackets c rest hcolon inside host left heq =>
    rename_i ih
    cases h
    rw [List.cons_append, splitHost, if_neg hcolon]
    dsimp only
    rw [ih heq]
    rfl

/-- A port is not followed by anything else. -/
theorem readPort_append {text more : List Char} {port : Option UInt16}
    (h : readPort text = .ok (port, [])) (hne : text ≠ []) (hmore : more ≠ [])
    (hhead : ∀ c ∈ more.head?, c.isDigit = false ∧ c ≠ '\\') :
    readPort (text ++ more) = .error .invalidPort := by
  rw [readPort.eq_def] at h
  split at h
  · rename_i digits
    dsimp only at h
    split at h
    · cases h
    have hleft : digits.dropWhile Char.isDigit = [] := by
      split at h
      · exact (Prod.mk.inj (Except.ok.inj h)).2
      · split at h
        · exact (Prod.mk.inj (Except.ok.inj h)).2
        · cases h
    have hdrop : (digits ++ more).dropWhile Char.isDigit = more :=
      dropWhile_append_stop (List.dropWhile_eq_nil_iff.mp hleft) fun c hc => (hhead c hc).1
    rw [List.cons_append, readPort, hdrop]
    obtain ⟨c, behind, rfl⟩ := List.exists_cons_of_ne_nil hmore
    have hc := (hhead c rfl).2
    exact if_pos (by simp [hc])
  · exact absurd (Prod.mk.inj (Except.ok.inj h)).2 hne

/-! ## Blanks in them -/

/-- What a blank is not. -/
structure IsBlank (c : Char) : Prop where
  inAuthority : endsAuthority .web c = false
  forbidden : DomainName.isForbidden c.toLower = true
  ascii : c.toNat < 0x80
  ne_percent : c ≠ '%'
  ne_at : c ≠ '@'
  ne_colon : c ≠ ':'
  ne_close : c ≠ ']'
  ne_digit : c.isDigit = false
  ne_backslash : c ≠ '\\'

theorem IsBlank.of_isEdge {c : Char} (h : isEdge c = true) : IsBlank c := by
  have hlt : c.toNat < 0x21 := Nat.lt_succ_of_le (of_decide_eq_true h)
  obtain ⟨hin, hforbidden, hascii⟩ := @forall_below 0x21 (fun c => endsAuthority .web c = false ∧
    DomainName.isForbidden c.toLower = true ∧ c.toNat < 0x80) (by decide) _ hlt
  obtain ⟨hpercent, hat, hcolon, hclose, hdigit, hbackslash⟩ := @forall_below 0x21 (fun c =>
    c ≠ '%' ∧ c ≠ '@' ∧ c ≠ ':' ∧ c ≠ ']' ∧ c.isDigit = false ∧
    c ≠ '\\') (by decide) _ hlt
  exact ⟨hin, hforbidden, hascii, hpercent, hat, hcolon, hclose, hdigit, hbackslash⟩

section Blanks

variable {blanks : List Char} (hne : blanks ≠ []) (hblanks : ∀ c ∈ blanks, IsBlank c)
include hne hblanks

/-- A name with blanks behind it is no host. -/
theorem ofSpecial_append_blanks {name : List Char} (hname : name ≠ []) (hplain : Host.IsPlain name) :
    ∃ e, Host.ofSpecial (name ++ blanks) = .error e := by
  rw [Host.ofSpecial, List.head?_append_of_ne_nil _ hname]
  split
  · -- A bracket is not closed by a blank.
    refine ⟨.invalidIpv6, if_neg ?_⟩
    rw [List.getLast?_append_of_ne_nil _ hne]
    exact fun hlast => (hblanks _ (List.mem_of_getLast? hlast)).ne_close rfl
  · have hall : Host.IsPlain (name ++ blanks) := fun c hc =>
      (List.mem_append.mp hc).elim (hplain c) fun hc =>
        ⟨(hblanks c hc).ascii, (hblanks c hc).ne_percent⟩
    have hascii : DomainName.isAscii (name ++ blanks) = true :=
      List.all_eq_true.mpr fun c hc => decide_eq_true (hall c hc).1
    have hforbidden : ((name ++ blanks).map Char.toLower).any DomainName.isForbidden = true := by
      obtain ⟨c, others, rfl⟩ := List.exists_cons_of_ne_nil hne
      refine List.any_eq_true.mpr ⟨c.toLower, ?_, (hblanks c List.mem_cons_self).forbidden⟩
      exact List.mem_map_of_mem (List.mem_append_right name List.mem_cons_self)
    have hnone : DomainName.toAscii? (name ++ blanks) = none := by
      rw [DomainName.toAscii?, DomainName.mapped?_of_ascii hascii, if_pos hforbidden]
      rfl
    obtain ⟨text, htext, hlist⟩ := Option.map_eq_some_iff.mp (Host.spelled?_of_isPlain hall)
    rw [htext, Option.bind_some, hlist, hnone]
    exact ⟨_, rfl⟩

/-- A host and a port with blanks behind them are not read. -/
theorem readHost_append_blanks {text name after : List Char} {host : Host} {port : Option UInt16}
    (hsplit : splitHost false text = (name, after)) (hhost : Host.ofSpecial name = .ok host)
    (hread : readPort after = .ok (port, [])) (hplain : Host.IsPlain name) :
    ∃ e, readHost .web (text ++ blanks) = .error e := by
  have hname := Host.ne_nil_of_ofSpecial hhost
  by_cases hafter : after = []
  · -- The blanks belong to the host.
    rw [hafter] at hsplit
    obtain ⟨e, hbroken⟩ := ofSpecial_append_blanks hne hblanks hname hplain
    have hsplit' := splitHost_append_of_open hsplit fun hmem => (hblanks _ hmem).ne_colon rfl
    refine ⟨e, ?_⟩
    rw [readHost, hsplit']
    have hjoined : name ++ blanks ≠ [] := fun h => hname (List.append_eq_nil_iff.mp h).1
    simp only [List.isEmpty_iff, hjoined, if_false, SchemeKind.isSpecial, if_true, hbroken]
    rfl
  · -- The blanks belong to the port.
    have hsplit' := splitHost_append_of_ended hsplit hafter blanks
    have hbroken := readPort_append hread hafter hne fun c hc =>
      ⟨(hblanks c (List.mem_of_head? hc)).ne_digit, (hblanks c (List.mem_of_head? hc)).ne_backslash⟩
    refine ⟨.invalidPort, ?_⟩
    rw [readHost, hsplit']
    simp only [List.isEmpty_iff, hname, if_false, SchemeKind.isSpecial, if_true, hhost]
    rw [hbroken]
    rfl

/-- Blanks behind an authority are not read with it, if something else follows. -/
theorem readAuthority_of_blanks {inner rest : List Char} {a : Authority}
    (h : readAuthority .web inner = .ok a) (hinner : ∀ c ∈ inner, endsAuthority .web c = false)
    (hrest : BehindAuthority .web rest)
    (hplain : Host.IsPlain (splitHost false (splitUserInfo inner).2).1) :
    ∃ e, readAuthority .web (inner ++ blanks ++ rest) = .error e := by
  have hinner' : ∀ c ∈ inner ++ blanks, endsAuthority .web c = false := fun c hc =>
    (List.mem_append.mp hc).elim (hinner c) fun hc => (hblanks c hc).inAuthority
  obtain ⟨htake, hdrop⟩ := cut_authority hinner' hrest
  have hwhole : inner.takeWhile inAuthority = inner :=
    List.takeWhile_eq_self_iff.mpr fun c hc => by rw [inAuthority, hinner c hc]; rfl
  obtain ⟨name, after, read, hsplit, hhost, -, hread, -⟩ := readAuthority_web h
  rw [hwhole] at hsplit
  rw [hsplit] at hplain
  obtain ⟨e, hfail⟩ := readHost_append_blanks hne hblanks hsplit hhost hread hplain
  refine ⟨e, ?_⟩
  rw [readAuthority]
  dsimp only
  rw [htake, hdrop, splitUserInfo_append inner fun hmem => (hblanks _ hmem).ne_at rfl,
    if_neg (by simp [hne])]
  dsimp only
  rw [hfail]
  rfl

end Blanks

end ObjectStream.Url
