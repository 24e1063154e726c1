/-
  ObjectStream.Proofs.ObjectPath

  The path of an object's address and the URL it was cut from. Where path and
  authority meet (`kept_rawPath_iff`), the host, the port and the path make a URL
  that is read as the one they come from (`path_follows_authority`). In any other
  text the path starts at some other place (`path_of_another_object`).
-/

import ObjectStream.Proofs.AuthorityEnd
import ObjectStream.Proofs.HostReading
import ObjectStream.Proofs.Verdict

namespace ObjectStream

/-! ## Ports -/

namespace Number

theorem isDigit_of_mem_toDigits {n : Nat} {c : Char} (h : c ∈ Nat.toDigits 10 n) : IsDigit c := by
  have hdigit := Nat.isDigit_of_mem_toDigits (by decide) (by decide) h
  simpa [IsDigit, Char.isDigit, Char.le_def] using hdigit

/-- A number is read from its digits. -/
theorem unsigned?_toDigits {limit n : Nat} (h : n < limit) :
    unsigned? limit (Nat.toDigits 10 n) = some n := by
  have hdigits : ∀ c ∈ Nat.toDigits 10 n, IsDigit c := fun c => isDigit_of_mem_toDigits
  have hread : ∀ {digits : List Char} (value : Nat), (∀ c ∈ digits, IsDigit c) →
      readDigits? 10 value digits = some (Nat.ofDigitChars 10 digits value) := by
    intro digits
    induction digits with
    | nil => intro value _; rfl
    | cons c rest ih =>
      intro value hall
      rw [readDigits?, (hall c List.mem_cons_self).digitIn?_eq, Option.bind_some,
        ih _ fun d hd => hall d (List.mem_cons_of_mem c hd)]
      simp [Nat.ofDigitChars, Nat.mul_comm]
  have hnat : natIn? 10 (Nat.toDigits 10 n) = some n := by
    rw [natIn?, if_neg (by simp [Nat.toDigits_ne_nil]), hread 0 hdigits, Nat.ofDigitChars_ten_toDigits]
  have hplus : ∀ rest, Nat.toDigits 10 n ≠ '+' :: rest := by
    intro rest heq
    have hdigit := hdigits '+' (by simp [heq])
    revert hdigit
    decide
  rw [unsigned?, hnat]
  · simp [h]
  · exact hplus

end Number

namespace Url

theorem readPort_toDigits (port : UInt16) :
    readPort (':' :: Nat.toDigits 10 port.toNat) = .ok (some port, []) := by
  have hdigits : ∀ c ∈ Nat.toDigits 10 port.toNat, c.isDigit = true := fun c =>
    Nat.isDigit_of_mem_toDigits (by decide) (by decide)
  have htaken : (Nat.toDigits 10 port.toNat).takeWhile Char.isDigit = Nat.toDigits 10 port.toNat :=
    List.takeWhile_eq_self_iff.mpr hdigits
  have hleft : (Nat.toDigits 10 port.toNat).dropWhile Char.isDigit = [] :=
    List.dropWhile_eq_nil_iff.mpr hdigits
  rw [readPort, htaken, hleft, Number.unsigned?_toDigits port.toNat_lt]
  simp [Nat.toDigits_ne_nil]

/-! ## URLs as they are written -/

/-- The URL of a host, a port and the text behind them; an IPv6 address stands in brackets. -/
def written (scheme : String) (host : Host) (port : UInt16) (path : String) : String :=
  scheme ++ "://" ++ host.serialized ++ ":" ++ toString port.toNat ++ path

/-- A host with its port, as they are written. -/
def hostPort (host : Host) (port : UInt16) : List Char :=
  host.serialized.toList ++ ':' :: Nat.toDigits 10 port.toNat

/-- A character that ends no authority, counts, and ends no user information. -/
structure InHostPort (c : Char) : Prop where
  inAuthority : inAuthority c = true
  counts : isBreak c = false
  ne_at : c ≠ '@'

theorem inHostPort_colon : InHostPort ':' := ⟨by decide, by decide, by decide⟩

theorem IsNameChar.inHostPort {c : Char} (h : IsNameChar c) : InHostPort c := by
  obtain ⟨hin, hcounts, hat⟩ := @forall_below 0x80
    (fun c => IsNameChar c → inAuthority c = true ∧ isBreak c = false ∧ c ≠ '@') (by decide) _ h.1 h
  exact ⟨hin, hcounts, hat⟩

theorem IsNameChar.ne_mark {c : Char} (h : IsNameChar c) : c ≠ ':' ∧ c ≠ '[' ∧ c ≠ ']' :=
  @forall_below 0x80 (fun c => IsNameChar c → c ≠ ':' ∧ c ≠ '[' ∧ c ≠ ']') (by decide) _ h.1 h

theorem splitHost_append_colon {name : List Char} (h : ∀ c ∈ name, IsNameChar c) (rest : List Char) :
    splitHost false (name ++ ':' :: rest) = (name, ':' :: rest) := by
  induction name with
  | nil => rfl
  | cons c name ih =>
    obtain ⟨hcolon, hopen, -⟩ := (h c List.mem_cons_self).ne_mark
    rw [List.cons_append, splitHost]
    simp [hcolon, hopen, ih fun d hd => h d (List.mem_cons_of_mem c hd)]

/-- Between brackets a colon ends no host. -/
theorem splitHost_inside {inner : List Char} (h : ']' ∉ inner) (rest : List Char) :
    splitHost true (inner ++ ']' :: ':' :: rest) = (inner ++ [']'], ':' :: rest) := by
  induction inner with
  | nil => rfl
  | cons c inner ih =>
    have hc : c ≠ ']' := fun heq => h (heq ▸ List.mem_cons_self)
    rw [List.cons_append, splitHost]
    simp [hc, ih fun hmem => h (List.mem_cons_of_mem c hmem)]

theorem splitScheme?_http (rest : List Char) :
    splitScheme? (['h', 't', 't', 'p'] ++ ':' :: rest) = some ("http", rest) := by
  have hchars : ∀ c ∈ ['h', 't', 't', 'p'], isSchemeChar c = true :=
    List.all_eq_true.mp (by decide)
  have hstop : ∀ c ∈ (':' :: rest).head?, isSchemeChar c = false := by
    intro c hc
    cases hc
    decide
  have hlower : Ascii.lower (String.ofList ['h', 't', 't', 'p']) = "http" := by decide
  rw [splitScheme?.eq_def, dropWhile_append_stop hchars hstop, takeWhile_append_stop hchars hstop, hlower]
  rfl

section Written

variable {host : Host} (hhost : Host.ofSpecial host.serialized.toList = .ok host)
include hhost

theorem splitHost_serialized (rest : List Char) :
    splitHost false (host.serialized.toList ++ ':' :: rest) = (host.serialized.toList, ':' :: rest) := by
  rcases Host.serialized_chars hhost with hname | ⟨inner, heq, hinner⟩
  · exact splitHost_append_colon hname rest
  · have hclose : ']' ∉ inner := by
      intro hmem
      rcases hinner _ hmem with hname | hcolon
      · exact hname.ne_mark.2.2 rfl
      · exact absurd hcolon (by decide)
    rw [heq, List.cons_append, List.append_assoc, List.singleton_append, splitHost]
    simp [splitHost_inside hclose]

theorem inHostPort_of_mem {port : UInt16} {c : Char} (hc : c ∈ hostPort host port) : InHostPort c := by
  rcases List.mem_append.mp hc with hc | hc
  · rcases Host.serialized_chars hhost with hname | ⟨inner, heq, hinner⟩
    · exact (hname c hc).inHostPort
    · rw [heq, List.mem_cons, List.mem_append, List.mem_singleton] at hc
      rcases hc with rfl | hc | rfl
      · exact ⟨by decide, by decide, by decide⟩
      · rcases hinner c hc with hname | rfl
        · exact hname.inHostPort
        · exact inHostPort_colon
      · exact ⟨by decide, by decide, by decide⟩
  · rcases List.mem_cons.mp hc with rfl | hc
    · exact inHostPort_colon
    · have hdigit := Nat.isDigit_of_mem_toDigits (by decide) (by decide) hc
      exact (IsNameChar.of_isDigit hdigit).inHostPort

/-- The authority of a URL that is written with host and port. -/
theorem readAuthority_written (port : UInt16) {rest : List Char} (hrest : rest.head? = some '/') :
    readAuthority .web (hostPort host port ++ rest) =
      .ok { username := "", password := "", host := some host, port := some port, rest } := by
  have hin : ∀ c ∈ hostPort host port, inAuthority c = true := fun c hc =>
    (inHostPort_of_mem hhost hc).inAuthority
  have hstop : ∀ c ∈ rest.head?, inAuthority c = false := by
    intro c hc
    rw [hrest] at hc
    cases hc
    decide
  have htaken : (hostPort host port ++ rest).takeWhile (fun c => !endsAuthority .web c) =
      hostPort host port := takeWhile_append_stop hin hstop
  have hleft : (hostPort host port ++ rest).dropWhile (fun c => !endsAuthority .web c) = rest :=
    dropWhile_append_stop hin hstop
  have hinfo : splitUserInfo (hostPort host port) = (none, hostPort host port) := by
    rw [splitUserInfo, if_neg]
    intro hmem
    exact (inHostPort_of_mem hhost (List.contains_iff_mem.mp hmem)).ne_at rfl
  have hread : readHost .web (hostPort host port) = .ok (some host, some port, []) := by
    rw [readHost, hostPort, splitHost_serialized hhost]
    simp [Host.ne_nil_of_ofSpecial hhost, SchemeKind.isSpecial, hhost, readPort_toDigits]
    rfl
  rw [readAuthority]
  dsimp only
  rw [htaken, hleft, hinfo]
  dsimp only
  rw [hread]
  rfl

/-- Of a URL that is written with host and port all counts but what does not count of its path. -/
theorem significant_written (port : UInt16) {path : String} (hpath : path.toList.head? = some '/') :
    significant (written "http" host port path).toList =
      ['h', 't', 't', 'p'] ++ ':' :: '/' :: '/' :: (hostPort host port ++ kept path.toList) := by
  obtain ⟨tail, htail⟩ := List.head?_eq_some_iff.mp hpath
  have htext : (written "http" host port path).toList =
      ['h', 't', 't', 'p', ':', '/', '/'] ++ hostPort host port ++ '/' :: tail := by
    simp [written, hostPort, htail]
  have hauthority : (hostPort host port).filter (fun c => !isBreak c) = hostPort host port := by
    rw [List.filter_eq_self]
    intro c hc
    simp [(inHostPort_of_mem hhost hc).counts]
  have hscheme : ['h', 't', 't', 'p', ':', '/', '/'].filter (fun c => !isBreak c) =
      ['h', 't', 't', 'p', ':', '/', '/'] := by decide
  have hedge : ∀ rest, (['h', 't', 't', 'p', ':', '/', '/'] ++ rest).dropWhile isEdge =
      ['h', 't', 't', 'p', ':', '/', '/'] ++ rest := fun _ => rfl
  rw [htext, significant_eq, List.append_assoc, hedge, ← List.append_assoc,
    kept_append_cons _ _ (by decide), List.filter_append, hauthority, hscheme, htail, kept_cons (by decide)]
  simp

/-- A URL of this form is read as its parts. -/
theorem parse_written (port : UInt16) {path : String} (hpath : path.toList.head? = some '/') :
    parse (written "http" host port path) =
      .ok (withAuthority "http"
        { username := "", password := "", host := some host, port := some port,
          rest := kept path.toList }) := by
  have hkept : (kept path.toList).head? = some '/' := by
    obtain ⟨tail, htail⟩ := List.head?_eq_some_iff.mp hpath
    rw [htail, kept_cons (by decide), List.head?_cons]
  have hkind : kindOf "http" = .web := by decide
  have hslashes : ('/' :: '/' :: (hostPort host port ++ kept path.toList)).dropWhile
      SchemeKind.web.isSlash = hostPort host port ++ kept path.toList := by
    obtain ⟨first, others, hcons⟩ : ∃ first others, hostPort host port = first :: others :=
      List.exists_cons_of_ne_nil (by simp [hostPort])
    have hfirst := (inHostPort_of_mem hhost (hcons ▸ List.mem_cons_self)).inAuthority
    have hnoslash : SchemeKind.web.isSlash first = false := by
      rw [inAuthority, endsAuthority] at hfirst
      simp_all
    rw [hcons]
    exact List.dropWhile_cons_of_neg (Bool.eq_false_iff.mp hnoslash)
  rw [parse, significant_written hhost port hpath, splitScheme?_http]
  dsimp only
  rw [hkind]
  dsimp only
  rw [hslashes, readAuthority_written hhost port hkept]
  rfl

end Written

/-- The slash in front of a path that is written without one does not count. -/
theorem splitBefore_slashed {rest : List Char} (h : ∀ c ∈ rest.head?, ObjectAddress.startsTail c = true) :
    Path.read .web (splitBefore ['?', '#'] (ObjectAddress.slashed rest)).1 =
        Path.read .web (splitBefore ['?', '#'] rest).1 ∧
      (splitBefore ['?', '#'] (ObjectAddress.slashed rest)).2 = (splitBefore ['?', '#'] rest).2 := by
  cases rest with
  | nil => exact ⟨rfl, rfl⟩
  | cons c rest =>
    rcases ObjectAddress.startsTail_iff.mp (h c rfl) with rfl | rfl | rfl <;> exact ⟨rfl, rfl⟩

/-- A port that a scheme stands for counts as no port. -/
theorem filter_getD_port (port : Option UInt16) :
    (some ((port.filter fun p => defaultPort? "http" ≠ some p).getD 80)).filter
        (fun p => defaultPort? "http" ≠ some p) = port.filter fun p => defaultPort? "http" ≠ some p := by
  have hdefault : defaultPort? "http" = some 80 := by decide
  rw [hdefault]
  cases port with
  | none => rfl
  | some p =>
    by_cases hp : p = 80
    · rw [hp]
      rfl
    · have hkept : (some p).filter (fun p => decide (some 80 ≠ some p)) = some p := by
        simp [Option.filter, Ne.symm hp]
      rw [hkept, Option.getD_some, hkept]

theorem effectivePort?_http {url : Url} (h : url.scheme = "http") :
    url.effectivePort? = some (url.port.getD 80) := by
  have hdefault : defaultPort? "http" = some 80 := by decide
  rw [effectivePort?, h, hdefault]
  cases url.port <;> rfl

/-- The URL of an authority is the one of its host with the port and the slash written out. -/
theorem withAuthority_slashed {a : Authority} (huser : a.username = "") (hpassword : a.password = "")
    (hrest : ∀ c ∈ a.rest.head?, ObjectAddress.startsTail c = true) :
    withAuthority "http"
      { username := "", password := "", host := a.host
        port := some ((withAuthority "http" a).port.getD 80)
        rest := ObjectAddress.slashed a.rest } = withAuthority "http" a := by
  have hkind : kindOf "http" = .web := by decide
  obtain ⟨hpath, htail⟩ := splitBefore_slashed hrest
  have hport := filter_getD_port a.port
  simp only [withAuthority, hkind, hpath, htail, huser, hpassword]
  rw [Url.mk.injEq]
  refine ⟨rfl, rfl, rfl, rfl, hport, rfl, rfl, rfl⟩

end Url

namespace ObjectAddress

theorem head_slashed (text : List Char) : (slashed text).head? = some '/' := by
  rw [slashed.eq_def]
  split <;> rfl

/-- The text that is read as the host of a URL. -/
def writtenHost (text : List Char) : List Char :=
  (Url.splitHost false (Url.splitUserInfo (Url.cutAuthority text).1).2).1

/-- The path of an address starts where the URL's authority ends in the regular texts and in no others.
There it names the object that the URL names: host, port and path make a URL that is read as the one
they come from. -/
theorem path_follows_authority {text : String} {address : ObjectAddress} (h : ofUrl text = .ok address)
    (hhttp : address.scheme = "http") :
    (Url.kept address.path.toList = slashed (Url.cutAuthority text.toList).2 ↔
      isRegular text.toList = true) ∧
    (isRegular text.toList = true → ∃ url host, Url.parse text = .ok url ∧
      url.host = some host ∧ address.host = host.text ∧ url.effectivePort? = some address.port ∧
      (Url.Host.IsStable (writtenHost text.toList) →
        Url.parse (Url.written address.scheme host address.port address.path) = .ok url)) := by
  obtain ⟨url, hparse, huser, hpassword, hhost, hport, -, hpath, hscheme⟩ := ofUrl_eq_ok h
  have hurlScheme : url.scheme = "http" := hscheme ▸ hhttp
  have hread := Url.cutAuthority_ne_nil hparse hurlScheme
  have hiff := kept_rawPath_iff hpath hread
  refine ⟨hiff, fun hregular => ?_⟩
  obtain ⟨a, name, after, host, hsplit, hof, hahost, -, hrest, rfl⟩ := Url.parse_cut hparse hurlScheme
  obtain ⟨hurlHost, htext⟩ := host_of_hostText? hhost hahost
  have heffective : (Url.withAuthority "http" a).effectivePort? = some _ := Url.effectivePort?_http rfl
  rw [heffective, Option.getD_some] at hport
  refine ⟨_, host, hparse, hurlHost, htext, by rw [heffective, hport], fun hstable => ?_⟩
  have hname : name = writtenHost text.toList := (congrArg Prod.fst hsplit).symm
  have hagain := Url.Host.ofSpecial_serialized hof (hname ▸ hstable)
  have hled : address.path.toList.head? = some '/' := by
    rw [rawPath?_eq, Option.map_eq_some_iff] at hpath
    obtain ⟨rest, -, hslashed⟩ := hpath
    rw [← hslashed, head_slashed]
  -- What is read behind host and port is the path as it counts, which is what was read at first.
  have hsame := Url.withAuthority_slashed (String.isEmpty_iff.mp huser) (String.isEmpty_iff.mp hpassword)
    (hrest ▸ head_cut_of_isRegular hpath hread hregular)
  rw [← hport, hahost, hrest, ← hiff.mpr hregular] at hsame
  rw [hhttp, Url.parse_written hagain _ hled, hsame]

/-- Backslashes in front of the host, a query right behind the port, and blanks and tabs: the path is the
one of the URL. -/
theorem path_follows_authority_of_query :
    ofUrl " http://\\Storage.local:0080?a\tb " = .ok ⟨"http", "storage.local", 80, "/?a\tb "⟩ ∧
      isRegular " http://\\Storage.local:0080?a\tb ".toList = true ∧
      ∃ url host, Url.parse " http://\\Storage.local:0080?a\tb " = .ok url ∧ url.host = some host ∧
        "storage.local" = host.text ∧ url.effectivePort? = some 80 ∧
        Url.parse (Url.written "http" host 80 "/?a\tb ") = .ok url := by
  have hof : ofUrl " http://\\Storage.local:0080?a\tb " = .ok ⟨"http", "storage.local", 80, "/?a\tb "⟩ := by
    decide +kernel
  have hregular : isRegular " http://\\Storage.local:0080?a\tb ".toList = true := by decide +kernel
  have hstable : Url.Host.IsStable (writtenHost " http://\\Storage.local:0080?a\tb ".toList) := by
    intro name ascii hspelled hascii
    have hname : Url.Host.spelled? (writtenHost " http://\\Storage.local:0080?a\tb ".toList) =
        some "Storage.local".toList := by decide +kernel
    rw [hname] at hspelled
    cases hspelled
    exact absurd hascii (by decide)
  obtain ⟨url, host, hparse, hhost, htext, hport, hagain⟩ := (path_follows_authority hof rfl).2 hregular
  exact ⟨hof, hregular, url, host, hparse, hhost, htext, hport, hagain hstable⟩

/-- One slash behind the scheme is enough to the reader of URLs, but the path is taken from behind the next
`://`, which is in the path: what is asked for is another object. -/
theorem path_of_another_object :
    ofUrl "http:/a://b/c" = .ok ⟨"http", "a", 80, "/c"⟩ ∧
      Url.parse "http:/a://b/c" = .ok
        { scheme := "http", username := "", password := "", host := some (.domain "a"), port := none
          path := .segments ["", "b", "c"], query := none, fragment := none } ∧
      Url.parse (Url.written "http" (.domain "a") 80 "/c") = .ok
        { scheme := "http", username := "", password := "", host := some (.domain "a"), port := none
          path := .segments ["c"], query := none, fragment := none } := by
  refine ⟨?_, ?_, ?_⟩ <;> decide +kernel

end ObjectAddress
end ObjectStream
