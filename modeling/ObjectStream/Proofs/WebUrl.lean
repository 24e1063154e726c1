/-
  ObjectStream.Proofs.WebUrl

  What the reading of an object's URL comes to, where its scheme is `http`: the
  scheme and the authority that were read, and the parts of the address that are
  made of them. Each function of the reading has one such lemma here.
-/

import ObjectStream.ObjectAddress
import ObjectStream.Proofs.HostText

namespace ObjectStream

/-- A sequence succeeds if both of its steps do. -/
theorem exists_of_bind_eq_ok {ε α β : Type} {x : Except ε α} {f : α → Except ε β} {b : β}
    (h : x >>= f = .ok b) : ∃ a, x = .ok a ∧ f a = .ok b := by
  cases x with
  | error e => cases h
  | ok a => exact ⟨a, rfl, h⟩

namespace Url

/-! ## The authority -/

theorem splitHost_append (inBrackets : Bool) (text : List Char) :
    (splitHost inBrackets text).1 ++ (splitHost inBrackets text).2 = text := by
  fun_induction splitHost inBrackets text with
  | case1 => rfl
  | case2 => rfl
  | case3 inBrackets c rest hcolon inside host left heq ih =>
    rw [heq] at ih
    rw [List.cons_append, ih]

/-- What follows a host starts with a colon. -/
theorem head_of_splitHost (inBrackets : Bool) (text : List Char) :
    (splitHost inBrackets text).2 = [] ∨ (splitHost inBrackets text).2.head? = some ':' := by
  fun_induction splitHost inBrackets text with
  | case1 => exact .inl rfl
  | case2 inBrackets c rest hcolon =>
    have hc : c = ':' := of_decide_eq_true (Bool.and_eq_true_iff.mp hcolon).1
    exact .inr (congrArg some hc)
  | case3 inBrackets c rest hcolon inside host left heq ih =>
    rw [heq] at ih
    exact ih

theorem mem_of_mem_splitUserInfo {text : List Char} {c : Char} (h : c ∈ (splitUserInfo text).2) :
    c ∈ text := by
  rw [splitUserInfo] at h
  split at h
  · exact List.mem_reverse.mp ((List.takeWhile_prefix _).subset (List.mem_reverse.mp h))
  · exact h

/-- A port is followed by nothing, or by a backslash. -/
theorem left_of_readPort {text left : List Char} {port : Option UInt16}
    (h : readPort text = .ok (port, left)) (hhead : text = [] ∨ text.head? = some ':')
    (hbackslash : '\\' ∉ text) : left = [] := by
  rw [readPort.eq_def] at h
  split at h
  · rename_i digits
    dsimp only at h
    split at h
    · cases h
    · rename_i hend
      have hleft : digits.dropWhile Char.isDigit = [] := by
        rcases hrest : digits.dropWhile Char.isDigit with _ | ⟨c, rest⟩
        · rfl
        · rw [hrest] at hend
          have hc : c = '\\' := by simpa using hend
          have hmem : c ∈ digits := (List.dropWhile_suffix _).subset (hrest ▸ List.mem_cons_self)
          exact absurd (List.mem_cons_of_mem _ (hc ▸ hmem)) hbackslash
      split at h
      · cases h
        exact hleft
      · split at h
        · cases h
          exact hleft
        · cases h
  · rename_i hcolon
    cases h
    rcases hhead with hnil | hhead
    · exact hnil
    · obtain ⟨rest, hrest⟩ := List.head?_eq_some_iff.mp hhead
      exact absurd hrest (hcolon rest)

theorem readHost_web {text left : List Char} {host : Option Host} {port : Option UInt16}
    (h : readHost .web text = .ok (host, port, left)) :
    ∃ name after read, splitHost false text = (name, after) ∧ Host.ofSpecial name = .ok read ∧
      host = some read ∧ readPort after = .ok (port, left) := by
  rw [readHost] at h
  rcases hsplit : splitHost false text with ⟨name, after⟩
  rw [hsplit] at h
  dsimp only at h
  split at h
  · cases h
  · obtain ⟨read, hhost, h⟩ := exists_of_bind_eq_ok h
    obtain ⟨answer, hport, h⟩ := exists_of_bind_eq_ok h
    cases h
    exact ⟨name, after, read, rfl, hhost, rfl, hport⟩

/-- Whether a character belongs to the authority of a web URL. -/
def inAuthority (c : Char) : Bool := !endsAuthority .web c

theorem backslash_not_mem_takeWhile (text : List Char) : '\\' ∉ text.takeWhile inAuthority := by
  intro h
  have hall := List.all_takeWhile (p := inAuthority) (l := text)
  have hin : inAuthority '\\' = true := List.all_eq_true.mp hall _ h
  revert hin
  decide

/-- The authority of a web URL reaches up to the first character that ends one. -/
theorem readAuthority_web {text : List Char} {a : Authority} (h : readAuthority .web text = .ok a) :
    ∃ name after read, splitHost false (splitUserInfo (text.takeWhile inAuthority)).2 = (name, after) ∧
      Host.ofSpecial name = .ok read ∧ a.host = some read ∧ readPort after = .ok (a.port, []) ∧
      a.rest = text.dropWhile inAuthority := by
  rw [readAuthority] at h
  dsimp only at h
  split at h
  · cases h
  · obtain ⟨⟨host, port, left⟩, hread, h⟩ := exists_of_bind_eq_ok h
    have hread : readHost .web (splitUserInfo (text.takeWhile inAuthority)).2 = _ := hread
    obtain ⟨name, after, read, hsplit, hhost, rfl, hport⟩ := readHost_web hread
    have hbackslash : '\\' ∉ after := by
      intro hmem
      have hall := splitHost_append false (splitUserInfo (text.takeWhile inAuthority)).2
      rw [hsplit] at hall
      exact backslash_not_mem_takeWhile text
        (mem_of_mem_splitUserInfo (hall ▸ List.mem_append_right name hmem))
    have hhead := head_of_splitHost false (splitUserInfo (text.takeWhile inAuthority)).2
    rw [hsplit] at hhead
    obtain rfl := left_of_readPort hport hhead hbackslash
    cases h
    exact ⟨name, after, read, hsplit, hhost, rfl, hport, rfl⟩

/-! ## Whole URLs -/

theorem host_withAuthority (scheme : String) (a : Authority) :
    (withAuthority scheme a).host = none ∨ (withAuthority scheme a).host = a.host := by
  unfold withAuthority
  dsimp only
  split
  · exact .inl rfl
  · exact .inr rfl

/-- The scheme of a URL is the one in front of its first colon. -/
theorem scheme_of_parse {text : String} {url : Url} (h : parse text = .ok url) :
    ∃ rest, splitScheme? (significant text.toList) = some (url.scheme, rest) := by
  rw [parse] at h
  split at h
  · cases h
  · rename_i scheme rest hsplit
    suffices hscheme : url.scheme = scheme from ⟨rest, by rw [hscheme]; exact hsplit⟩
    have hbound : ∀ {x : Except Error Authority},
        (x >>= fun a => .ok (withAuthority scheme a)) = .ok url → url.scheme = scheme := by
      intro x hx
      obtain ⟨a, -, hx⟩ := exists_of_bind_eq_ok hx
      cases hx
      rfl
    split at h
    · exact hbound h
    · split at h
      · split at h
        · exact hbound h
        · cases h
          rfl
      · cases h
        rfl
    · split at h
      · exact hbound h
      · cases h
        rfl

/-- The slashes after `http:` do not matter; then comes the authority. -/
theorem parse_http {text : String} {url : Url} (h : parse text = .ok url) (hhttp : url.scheme = "http") :
    ∃ rest a, splitScheme? (significant text.toList) = some ("http", rest) ∧
      readAuthority .web (rest.dropWhile SchemeKind.web.isSlash) = .ok a ∧
      url = withAuthority "http" a := by
  obtain ⟨rest, hsplit⟩ := scheme_of_parse h
  rw [hhttp] at hsplit
  have hkind : kindOf "http" = .web := by decide
  rw [parse, hsplit] at h
  dsimp only at h
  rw [hkind] at h
  dsimp only at h
  obtain ⟨a, hread, h⟩ := exists_of_bind_eq_ok h
  cases h
  exact ⟨rest, a, hsplit, hread, rfl⟩

end Url

namespace ObjectAddress

/-- The address that a URL is read as. -/
theorem ofUrl_eq_ok {text : String} {address : ObjectAddress} (h : ofUrl text = .ok address) :
    ∃ url, Url.parse text = .ok url ∧ url.username.isEmpty = true ∧ url.password.isEmpty = true ∧
      hostText? url = some address.host ∧ address.port = url.effectivePort?.getD 80 ∧
      address.port ≠ 0 ∧ rawPath? text.toList = some address.path.toList ∧
      address.scheme = url.scheme := by
  rw [ofUrl] at h
  split at h
  · cases h
  · rename_i url hparse
    split at h
    · cases h
    · rename_i hinfo
      rw [Bool.not_eq_true', Bool.not_eq_false, Bool.and_eq_true] at hinfo
      split at h
      · cases h
      · rename_i host hhost
        dsimp only at h
        split at h
        · cases h
        · rename_i hport
          split at h
          · cases h
          · rename_i path hpath
            cases h
            exact ⟨url, hparse, hinfo.1, hinfo.2, hhost, rfl, hport,
              by rw [hpath, String.toList_ofList], rfl⟩

/-- The host of an address is the one of its URL, as text. -/
theorem host_of_hostText? {scheme text : String} {a : Url.Authority} {host : Url.Host}
    (h : hostText? (Url.withAuthority scheme a) = some text) (ha : a.host = some host) :
    (Url.withAuthority scheme a).host = some host ∧ text = host.text := by
  rcases Url.host_withAuthority scheme a with hnone | hsame
  · rw [hostText?, hnone] at h
    cases h
  · rw [ha] at hsame
    refine ⟨hsame, ?_⟩
    rw [hostText?, hsame] at h
    cases host with
    | domain name =>
      dsimp only at h
      split at h
      · cases h
      · exact (Option.some.inj h).symm
    | ipv4 | ipv6 => exact (Option.some.inj h).symm

/-- The host of a web address is the text of one that was read. -/
theorem host_of_ofUrl {text : String} {address : ObjectAddress} (h : ofUrl text = .ok address)
    (hhttp : address.scheme = "http") :
    ∃ written read, Url.Host.ofSpecial written = .ok read ∧ address.host = read.text := by
  obtain ⟨url, hparse, -, -, hhost, -, -, -, hscheme⟩ := ofUrl_eq_ok h
  obtain ⟨rest, a, -, hread, rfl⟩ := Url.parse_http hparse (hscheme ▸ hhttp)
  obtain ⟨written, after, read, -, hof, hahost, -, -⟩ := Url.readAuthority_web hread
  exact ⟨written, read, hof, (host_of_hostText? hhost hahost).2⟩

end ObjectAddress
end ObjectStream
