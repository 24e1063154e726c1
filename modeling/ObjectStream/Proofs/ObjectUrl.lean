/-
  ObjectStream.Proofs.ObjectUrl

  The URLs that settings make of their endpoint and the keys of objects. A key is
  joined to the text of the endpoint, and the endpoint was checked by reading it as
  a URL, which passes over the blanks at its ends. So the two go together only where
  such a blank does not come to stand in the authority, and where the slashes that
  are taken off were not those behind the scheme (`isJoinable`).
-/

import ObjectStream.Proofs.AuthorityBlanks
import ObjectStream.Settings

namespace ObjectStream

namespace ObjectAddress

/-! ## Joining texts -/

/-- The text without the slashes at its end. -/
def unslashed (text : List Char) : List Char := text.rdropWhile (· = '/')

/-- A text and a key with one slash between them. -/
def joined (text key : List Char) : List Char := unslashed text ++ '/' :: key.dropWhile (· = '/')

theorem exists_slashes (text : List Char) :
    ∃ slashes, text = unslashed text ++ slashes ∧ ∀ c ∈ slashes, c = '/' := by
  refine ⟨text.rtakeWhile (· = '/'), List.rdropWhile_append_rtakeWhile.symm, fun c hc => ?_⟩
  simpa using List.mem_rtakeWhile_imp hc

/-- The slashes that stand behind another character, or nothing, are all that are taken off. -/
theorem unslashed_append {front slashes : List Char} (hfront : front.getLast? ≠ some '/')
    (hslashes : ∀ c ∈ slashes, c = '/') : unslashed (front ++ slashes) = front := by
  have hall : ∀ c ∈ slashes.reverse, decide (c = '/') = true := fun c hc =>
    decide_eq_true (hslashes c (List.mem_reverse.mp hc))
  have hstop : ∀ c ∈ front.reverse.head?, decide (c = '/') = false := by
    intro c hc
    rw [List.head?_reverse] at hc
    exact decide_eq_false fun heq => hfront (heq ▸ hc)
  rw [unslashed, List.rdropWhile, List.reverse_append, dropWhile_append_stop hall hstop,
    List.reverse_reverse]

theorem getLast_unslashed (text : List Char) : (unslashed text).getLast? ≠ some '/' := by
  intro hlast
  have hhead := head_dropWhile (p := (· = '/')) text.reverse '/'
  rw [← List.getLast?_reverse] at hhead
  exact absurd (hhead hlast) (by decide)

/-! ## The path -/

theorem afterScheme?_append_right {text rest : List Char} (h : afterScheme? text = some rest)
    (more : List Char) : afterScheme? (text ++ more) = some (rest ++ more) := by
  fun_induction afterScheme? text with
  | case1 => cases h
  | case2 rest' =>
    cases h
    rfl
  | case3 c text hc ih =>
    -- There is a colon in the text, so that two slashes at its start do not come from behind it.
    have hc' : ∀ after, c :: (text ++ more) ≠ ':' :: '/' :: '/' :: after := by
      intro after heq
      obtain ⟨front, rfl⟩ := eq_of_afterScheme? h
      rcases front with - | ⟨a, - | ⟨b, front⟩⟩
      · cases heq
      · cases heq
      · cases heq
        exact hc _ rfl rfl
    rw [List.cons_append, afterScheme?_cons hc', ih h]

theorem slashed_append {text : List Char} (hne : text ≠ []) (more : List Char) :
    slashed (text ++ more) = slashed text ++ more := by
  cases text with
  | nil => exact absurd rfl hne
  | cons c rest =>
    rw [slashed.eq_def, slashed.eq_def, List.cons_append]
    split
    · rename_i heq
      cases heq
      rfl
    · rename_i hc
      split
      · rename_i heq
        cases heq
        exact absurd rfl (hc _)
      · rfl

theorem getLast?_of_suffix {suffix text : List Char} (h : suffix <:+ text) (hne : suffix ≠ []) :
    suffix.getLast? = text.getLast? := by
  obtain ⟨front, rfl⟩ := h
  rw [List.getLast?_append_of_ne_nil _ hne]

theorem getLast?_slashed {text : List Char} (hne : text ≠ []) :
    (slashed text).getLast? = text.getLast? := by
  rw [slashed.eq_def]
  split
  · rfl
  · exact (getLast?_of_suffix (List.suffix_cons _ _) hne).symm

/-- The path of the joined text is the joined path. -/
theorem rawPath?_joined {text path : List Char} (h : rawPath? text = some path)
    (hscheme : (afterScheme? (unslashed text)).isSome = true) (key : List Char) :
    rawPath? (joined text key) = some (joined path key) := by
  obtain ⟨rest, hrest⟩ := Option.isSome_iff_exists.mp hscheme
  obtain ⟨slashes, htext, hslashes⟩ := exists_slashes text
  have hstop : ∀ more, ('/' :: more).dropWhile (fun c => !startsTail c) = '/' :: more := fun _ => rfl
  rw [rawPath?_eq, joined, afterScheme?_append_right hrest, Option.map_some, List.dropWhile_append]
  rw [rawPath?_eq, htext, afterScheme?_append_right hrest, Option.map_some, List.dropWhile_append] at h
  obtain rfl := Option.some.inj h
  by_cases hempty : (rest.dropWhile fun c => !startsTail c) = []
  · -- The path of the text is all slashes.
    have hall : ∀ c ∈ slashed (slashes.dropWhile fun c => !startsTail c), c = '/' := by
      cases slashes with
      | nil => exact fun c hc => List.mem_singleton.mp hc
      | cons c more =>
        obtain rfl := hslashes c List.mem_cons_self
        exact hslashes
    have hnone : unslashed ([] ++ slashed (slashes.dropWhile fun c => !startsTail c)) = [] :=
      unslashed_append nofun hall
    rw [List.nil_append] at hnone
    rw [hempty, joined]
    simp only [List.isEmpty_nil, if_true]
    rw [hnone, hstop]
    rfl
  · have hsuffix : (rest.dropWhile fun c => !startsTail c) <:+ unslashed text := by
      obtain ⟨front, hfront⟩ := eq_of_afterScheme? hrest
      exact (List.dropWhile_suffix _).trans ⟨front ++ [':', '/', '/'], by simp [hfront]⟩
    have hlast : (slashed (rest.dropWhile fun c => !startsTail c)).getLast? ≠ some '/' := by
      rw [getLast?_slashed hempty, getLast?_of_suffix hsuffix hempty]
      exact getLast_unslashed text
    have hfalse : (rest.dropWhile fun c => !startsTail c).isEmpty = false := by
      rw [List.isEmpty_eq_false_iff]
      exact hempty
    simp only [hfalse, Bool.false_eq_true, if_false]
    rw [slashed_append hempty, slashed_append hempty, joined, unslashed_append hlast hslashes]

theorem afterScheme?_of_mem (front rest : List Char) :
    (afterScheme? (front ++ ':' :: '/' :: '/' :: rest)).isSome = true := by
  induction front with
  | nil => rfl
  | cons c front ih =>
    rw [List.cons_append, afterScheme?.eq_def]
    split
    · rename_i heq
      cases heq
    · rfl
    · rename_i heq
      cases heq
      exact ih

/-- Without the `://` of the text, only one of the key is found. -/
theorem length_of_afterScheme? {text key rest : List Char} (hlast : text.getLast? ≠ some '/')
    (hhead : key.head? ≠ some '/') (hnone : (afterScheme? text).isSome = false)
    (h : afterScheme? (text ++ '/' :: key) = some rest) : rest.length + 3 ≤ key.length := by
  obtain ⟨front, hfront⟩ := eq_of_afterScheme? h
  rcases List.append_eq_append_iff.mp hfront with ⟨more, -, hmore⟩ | ⟨more, rfl, hmore⟩
  · -- Not at the slash, but behind it.
    rcases more with - | ⟨c, more⟩
    · cases hmore
    · have hlength := congrArg List.length hmore
      simp only [List.length_cons, List.length_append] at hlength
      omega
  · rcases more with - | ⟨a, - | ⟨b, - | ⟨c, more⟩⟩⟩
    · cases hmore
    · cases hmore
      exact absurd rfl hhead
    · cases hmore
      rw [List.getLast?_append_of_ne_nil _ (List.cons_ne_nil _ _)] at hlast
      exact absurd rfl hlast
    · cases hmore
      rw [afterScheme?_of_mem] at hnone
      cases hnone

/-- If taking off the slashes takes the `://` apart, the path of the joined text is not the joined
path. -/
theorem rawPath?_joined_ne {text : List Char} (hscheme : (afterScheme? (unslashed text)).isSome = false)
    (path key : List Char) : rawPath? (joined text key) ≠ some (joined path key) := by
  intro h
  rw [rawPath?_eq] at h
  obtain ⟨rest, hrest, hpath⟩ := Option.map_eq_some_iff.mp h
  have hkey : (key.dropWhile (· = '/')).head? ≠ some '/' := fun hhead =>
    absurd (head_dropWhile (p := (· = '/')) key '/' hhead) (by decide)
  have hshort := length_of_afterScheme? (getLast_unslashed text) hkey hscheme hrest
  have hdrop := (List.dropWhile_suffix (l := rest) fun c => !startsTail c).length_le
  have hslashed := length_slashed_le (rest.dropWhile fun c => !startsTail c)
  have hlength := congrArg List.length hpath
  simp only [joined, List.length_append, List.length_cons] at hlength
  omega

end ObjectAddress

namespace Url

open ObjectAddress

/-! ## The characters that count -/

/-- The characters that count of a text that a key is joined to. -/
def counted (text : List Char) : List Char :=
  ((unslashed text).dropWhile isEdge).filter fun c => !isBreak c

theorem significant_joined (text key : List Char) :
    significant (joined text key) = counted text ++ '/' :: kept (key.dropWhile (· = '/')) := by
  rw [significant_eq, joined, dropWhile_append_cons _ _ (by decide), kept_append_cons _ _ (by decide),
    counted]

/-- Blanks behind a text that would count if something came behind them. -/
def blanksBehind (text : List Char) : List Char :=
  ((text.dropWhile isEdge).rtakeWhile isEdge).filter fun c => !isBreak c

/-- The text alone counts for less where there are blanks behind it, and otherwise for its slashes
more. -/
theorem significant_append_blanks (text : List Char) :
    ∃ slashes, (∀ c ∈ slashes, c = '/') ∧ (slashes = [] ∨ blanksBehind text = []) ∧
      significant text ++ blanksBehind text = counted text ++ slashes := by
  obtain ⟨slashes, htext, hslashes⟩ := exists_slashes text
  have hkept (rest : List Char) :
      kept rest ++ (rest.rtakeWhile isEdge).filter (fun c => !isBreak c) =
        rest.filter fun c => !isBreak c := by
    rw [kept, ← List.filter_append, List.rdropWhile_append_rtakeWhile]
  refine ⟨slashes, hslashes, ?_, ?_⟩
  · cases slashes with
    | nil => exact .inl rfl
    | cons c more =>
      obtain rfl : c = '/' := hslashes c List.mem_cons_self
      -- The last character is a slash, which is no blank.
      have hnone : (text.dropWhile isEdge).rtakeWhile isEdge = [] := by
        rw [htext, dropWhile_append_cons _ _ (by decide), List.rtakeWhile_eq_nil_iff]
        intro hne
        have hlast := List.getLast_mem (l := '/' :: more) (List.cons_ne_nil _ _)
        rw [List.getLast_append_of_ne_nil _ (List.cons_ne_nil _ _), hslashes _ hlast]
        decide
      rw [blanksBehind, hnone]
      exact .inr rfl
  · rw [significant_eq, blanksBehind, hkept, counted]
    cases slashes with
    | nil =>
      rw [List.append_nil] at htext ⊢
      rw [← htext]
    | cons c more =>
      obtain rfl : c = '/' := hslashes c List.mem_cons_self
      have hall : ('/' :: more).filter (fun c => !isBreak c) = '/' :: more := by
        rw [List.filter_eq_self]
        intro c hc
        rw [hslashes c hc]
        rfl
      conv_lhs => rw [htext]
      rw [dropWhile_append_cons _ _ (by decide), List.filter_append, hall]

/-- Whether the authority goes up to the end of the characters that count. -/
def endsInAuthority (text : List Char) : Bool :=
  (authorityPart? (significant text)).any fun (scheme, part) =>
    part.all fun c => !endsAuthority (kindOf scheme) c

/-- Joining leaves the text up to the end of the authority, if no blank comes to stand there. -/
theorem significant_joined_behind {kind : SchemeKind} {text front inner rest : List Char}
    (hsignificant : significant text = front ++ (inner ++ rest)) (hne : inner ≠ [])
    (hinner : ∀ c ∈ inner, endsAuthority kind c = false) (hrest : BehindAuthority kind rest)
    (hblanks : rest ≠ [] ∨ blanksBehind text = []) (key : List Char) :
    ∃ tail, BehindAuthority kind tail ∧
      significant (joined text key) = front ++ (inner ++ tail) := by
  obtain ⟨slashes, hslashes, hone, hsame⟩ := significant_append_blanks text
  rw [significant_joined]
  by_cases hnone : blanksBehind text = []
  · rw [hnone, List.append_nil, hsignificant, ← List.append_assoc] at hsame
    rcases List.append_eq_append_iff.mp hsame with ⟨more, hcounted, hmore⟩ | ⟨more, hfront, hmore⟩
    · rw [hcounted]
      refine ⟨more ++ '/' :: kept (key.dropWhile (· = '/')), ?_, by simp only [List.append_assoc]⟩
      cases more with
      | nil => exact behindAuthority_slash kind _
      | cons c more =>
        rw [hmore] at hrest
        exact hrest
    · -- The authority does not end in a slash, so there are none to be taken from it.
      have hnil : more = [] := by
        by_contra hmore'
        have hlast := congrArg List.getLast? hfront
        rw [List.getLast?_append_of_ne_nil _ hne, List.getLast?_append_of_ne_nil _ hmore',
          List.getLast?_eq_some_getLast hmore'] at hlast
        have hslash := hslashes _ (hmore ▸ List.mem_append_left rest (List.getLast_mem hmore'))
        have hin := hinner _ (List.mem_of_getLast? hlast)
        rw [hslash] at hin
        exact absurd hin (by cases kind <;> decide)
      rw [hnil, List.append_nil] at hfront
      rw [← hfront]
      exact ⟨_, behindAuthority_slash kind _, List.append_assoc _ _ _⟩
  · have hslash := hone.resolve_right hnone
    have hbehind := hblanks.resolve_right hnone
    rw [hslash, List.append_nil, hsignificant] at hsame
    rw [← hsame]
    refine ⟨rest ++ (blanksBehind text ++ '/' :: kept (key.dropWhile (· = '/'))), ?_, by
      simp only [List.append_assoc]⟩
    intro c hc
    rw [List.head?_append_of_ne_nil _ hbehind] at hc
    exact hrest c hc

/-- Whether the path that is read behind the authority starts with a drive, which leaves no host. -/
def hasDrive (text : List Char) : Bool :=
  (authorityPart? (significant text)).any fun (scheme, part) =>
    match readPart (kindOf scheme) part with
    | .ok a => (Path.read (kindOf scheme) (splitBefore ['?', '#'] a.rest).1).2
    | .error _ => false

/-- The URL of the joined text has the scheme, the user information, the port and the host of the
text, unless there is a drive in it. -/
theorem parse_joined {text : String} {url : Url} {host : Host} (h : parse text = .ok url)
    (hhost : url.host = some host)
    (hblanks : endsInAuthority text.toList = true → blanksBehind text.toList = []) (key : List Char) :
    ∃ url', parse (String.ofList (joined text.toList key)) = .ok url' ∧ url'.scheme = url.scheme ∧
      url'.username = url.username ∧ url'.password = url.password ∧ url'.port = url.port ∧
      (url'.host = if hasDrive (joined text.toList key) then none else some host) ∧
      (url.scheme ≠ "file" → hasDrive (joined text.toList key) = false) := by
  obtain ⟨scheme, part, a, hpart, hread, rfl, hahost⟩ := authorityPart?_of_host h hhost
  obtain ⟨inner, rest, rfl, hinner, hrest⟩ := exists_authority (kindOf scheme) part
  obtain ⟨hne, left, -, htail⟩ := readPart_tail hinner hrest hahost hread
  obtain ⟨front, hfront, hsame⟩ := front_of_authority hpart hne hinner
  have hblanks' : rest ≠ [] ∨ blanksBehind text.toList = [] := by
    rcases List.eq_nil_or_concat rest with rfl | ⟨others, last, rfl⟩
    · refine .inr (hblanks ?_)
      rw [endsInAuthority, hpart, Option.any_some, List.append_nil, List.all_eq_true]
      exact fun c hc => by rw [hinner c hc]; rfl
    · exact .inl (by simp)
  obtain ⟨tail, htailends, hjoined⟩ := significant_joined_behind hfront hne hinner hrest hblanks' key
  have hpart' := hsame tail
  rw [← hjoined] at hpart'
  have hread' := htail tail htailends
  have hdrive : hasDrive (joined text.toList key) =
      (Path.read (kindOf scheme) (splitBefore ['?', '#'] (left ++ tail)).1).2 := by
    rw [hasDrive, hpart', Option.any_some]
    dsimp only
    rw [hread']
  obtain ⟨hscheme, husername, hpassword, hport, hhost'⟩ := withAuthority_tail hhost (left ++ tail)
  rw [← hdrive] at hhost'
  have hparse : parse (String.ofList (joined text.toList key)) =
      .ok (withAuthority scheme { a with rest := left ++ tail }) := by
    rw [← String.toList_ofList (l := joined text.toList key)] at hpart'
    rw [parse_of_authorityPart? hpart', hread']
    rfl
  refine ⟨_, hparse, hscheme, husername, hpassword, hport, hhost', fun hfile => ?_⟩
  rw [hdrive]
  refine Path.drive_of_not_file (fun hkind => hfile ?_) _
  rw [kindOf] at hkind
  split at hkind
  · assumption
  · split at hkind <;> cases hkind

/-- The text of the authority that is read as the host. -/
def hostPart (text : List Char) : List Char :=
  match authorityPart? (significant text) with
  | some (scheme, part) =>
    (splitHost false (splitUserInfo (part.takeWhile fun c => !endsAuthority (kindOf scheme) c)).2).1
  | none => []

/-- Where blanks stand behind the authority of a web URL, none is read with a key joined to it. -/
theorem parse_joined_of_blanks {text : String} {url : Url} {host : Host} (h : parse text = .ok url)
    (hhost : url.host = some host) (hkind : kindOf url.scheme = .web)
    (hplain : Host.IsPlain (hostPart text.toList)) (hends : endsInAuthority text.toList = true)
    (hblanks : blanksBehind text.toList ≠ []) (key : List Char) :
    ∃ e, parse (String.ofList (joined text.toList key)) = .error e := by
  obtain ⟨scheme, part, a, hpart, hread, rfl, hahost⟩ := authorityPart?_of_host h hhost
  have hscheme : kindOf scheme = .web := hkind
  rw [endsInAuthority, hpart, Option.any_some, List.all_eq_true] at hends
  rw [hostPart, hpart] at hplain
  dsimp only at hplain
  rw [List.takeWhile_eq_self_iff.mpr hends] at hplain
  have hinner : ∀ c ∈ part, endsAuthority (kindOf scheme) c = false := fun c hc => by
    simpa using hends c hc
  rw [← List.append_nil part] at hread hpart
  obtain ⟨hne, -⟩ := readPart_tail hinner (behindAuthority_nil _) hahost hread
  obtain ⟨front, hfront, hsame⟩ := front_of_authority hpart hne hinner
  rw [hscheme] at hread hinner
  rw [List.append_nil] at hread hfront
  obtain ⟨slashes, -, hone, hcounted⟩ := significant_append_blanks text.toList
  rw [hone.resolve_right hblanks, List.append_nil, hfront] at hcounted
  -- What was passed over behind the authority stands in front of the key now.
  have hjoined : significant (joined text.toList key) = front ++
      (part ++ (blanksBehind text.toList ++ '/' :: kept (key.dropWhile (· = '/')))) := by
    rw [significant_joined, ← hcounted]
    simp only [List.append_assoc]
  have hblank : ∀ c ∈ blanksBehind text.toList, IsBlank c := fun c hc =>
    .of_isEdge (List.mem_rtakeWhile_imp (List.mem_filter.mp hc).1)
  obtain ⟨e, hfail⟩ := readAuthority_of_blanks hblanks hblank hread hinner
    (behindAuthority_slash _ (kept (key.dropWhile (· = '/')))) hplain
  have hpart' := hsame (blanksBehind text.toList ++ '/' :: kept (key.dropWhile (· = '/')))
  rw [← hjoined, ← String.toList_ofList (l := joined text.toList key)] at hpart'
  refine ⟨e, ?_⟩
  rw [parse_of_authorityPart? hpart', hscheme]
  rw [List.append_assoc] at hfail
  show (readAuthority .web _).map _ = _
  rw [hfail]
  rfl

end Url

namespace ObjectAddress

/-- Whether a key can be joined to the text of an endpoint: a `://` is left when the slashes at the end
are taken off, and nothing stands behind the authority that would become part of it. -/
def isJoinable (text : List Char) : Bool :=
  (afterScheme? (unslashed text)).isSome &&
    (!Url.endsInAuthority text || (Url.blanksBehind text).isEmpty)

theorem exists_host {url : Url} {text : String} (h : hostText? url = some text) :
    ∃ host, url.host = some host := by
  cases hcase : url.host with
  | none =>
    rw [hostText?, hcase] at h
    cases h
  | some host => exact ⟨host, rfl⟩

/-- The address of a text that a key was joined to. -/
theorem ofUrl_joined {text : String} {address : ObjectAddress} (h : ofUrl text = .ok address)
    (hjoinable : isJoinable text.toList = true) (key : List Char) :
    let url := String.ofList (joined text.toList key)
    (ofUrl url = if Url.hasDrive url.toList then .error (refusal url "missing host")
      else .ok { address with path := String.ofList (joined address.path.toList key) }) ∧
    (address.scheme ≠ "file" → Url.hasDrive url.toList = false) := by
  obtain ⟨url, hparse, huser, hpassword, hhost, hport, hzero, hpath, hscheme⟩ := ofUrl_eq_ok h
  obtain ⟨hkept, hblanks⟩ := Bool.and_eq_true_iff.mp hjoinable
  obtain ⟨host, hurlHost⟩ := exists_host hhost
  have hblanks' : Url.endsInAuthority text.toList = true → Url.blanksBehind text.toList = [] := by
    intro hends
    simpa [hends] using hblanks
  obtain ⟨url', hparse', hscheme', huser', hpassword', hport', hhost', hfile⟩ :=
    Url.parse_joined hparse hurlHost hblanks' key
  intro joinedUrl
  have htext : joinedUrl.toList = joined text.toList key := String.toList_ofList
  refine ⟨?_, fun hnot => ?_⟩
  · rw [ofUrl, hparse']
    dsimp only
    rw [huser', hpassword', huser, hpassword, htext]
    have heffective : url'.effectivePort? = url.effectivePort? := by
      rw [Url.effectivePort?, Url.effectivePort?, hport', hscheme']
    rw [if_neg (by decide)]
    cases hdrive : Url.hasDrive (joined text.toList key) with
    | true =>
      rw [hdrive] at hhost'
      rw [hostText?, hhost']
      rfl
    | false =>
      have hsameHost : hostText? url' = some address.host := by
        rw [hdrive, ← hurlHost] at hhost'
        rw [hostText?, hhost']
        exact hhost
      rw [hsameHost, heffective]
      dsimp only
      rw [if_neg (hport ▸ hzero), rawPath?_joined hpath hkept]
      dsimp only
      rw [← hport, hscheme', ← hscheme]
      rfl
  · rw [htext]
    exact hfile (hscheme ▸ hnot)

/-- A key that cannot be joined to a web URL with its host in ASCII gives no URL of the joined path. -/
theorem ofUrl_joined_ne {text : String} {address : ObjectAddress} (h : ofUrl text = .ok address)
    (hkind : Url.kindOf address.scheme = .web) (hplain : Url.Host.IsPlain (Url.hostPart text.toList))
    (hjoinable : isJoinable text.toList = false) (key : List Char) :
    ofUrl (String.ofList (joined text.toList key)) ≠
      .ok { address with path := String.ofList (joined address.path.toList key) } := by
  obtain ⟨url, hparse, -, -, hhost, -, -, -, hscheme⟩ := ofUrl_eq_ok h
  obtain ⟨host, hurlHost⟩ := exists_host hhost
  intro hof
  obtain ⟨url', hparse', -, -, -, -, -, hpath', -⟩ := ofUrl_eq_ok hof
  rw [String.toList_ofList, String.toList_ofList] at hpath'
  rcases Bool.and_eq_false_iff.mp hjoinable with hlost | hjoinable
  · exact rawPath?_joined_ne hlost _ _ hpath'
  · obtain ⟨hends, hblanks⟩ := Bool.or_eq_false_iff.mp hjoinable
    obtain ⟨e, hfail⟩ := Url.parse_joined_of_blanks hparse hurlHost (hscheme ▸ hkind) hplain
      (by simpa using hends) (by simpa using hblanks) key
    rw [hfail] at hparse'
    cases hparse'

example : isJoinable "http:a://".toList = false ∧ Url.Host.IsPlain (Url.hostPart "http:a://".toList) ∧
    ofUrl "http:a://" = .ok ⟨"http", "a", 80, "/"⟩ := by decide +kernel

end ObjectAddress

namespace Settings

open ObjectAddress

/-- Settings whose endpoint was checked. -/
theorem exists_of_check {s : Settings} {endpoint : String} (h : s.check = .ok ())
    (hendpoint : s.endpoint = some endpoint) : ∃ address, ofUrl endpoint = .ok address := by
  rw [check] at h
  split at h
  · cases h
  · rw [hendpoint] at h
    dsimp only at h
    cases hof : ofUrl endpoint with
    | ok address => exact ⟨address, rfl⟩
    | error e =>
      rw [hof] at h
      cases h

theorem objectUrl_eq {s : Settings} {endpoint : String} (h : s.endpoint = some endpoint)
    (key : String) : s.objectUrl key = .ok (String.ofList (joined endpoint.toList key.toList)) := by
  rw [objectUrl, h]
  rfl

/-- What the URLs of objects name, once the endpoint was checked. If keys can be joined to it, any key
gives a URL with the scheme, the host and the port of the endpoint, and with its path joined to the
key; only a drive in the path of a URL of the file scheme leaves no host. If keys cannot be joined to
it, a web URL whose host is spelled in ASCII is accepted as well, and no key gives such a URL. -/
theorem objectUrl_of_checked {s : Settings} {endpoint : String} (hcheck : s.check = .ok ())
    (hendpoint : s.endpoint = some endpoint) :
    ∃ address, ofUrl endpoint = .ok address ∧ ∀ key, ∃ url, s.objectUrl key = .ok url ∧
      let expected : ObjectAddress :=
        { address with path := String.ofList (joined address.path.toList key.toList) }
      (isJoinable endpoint.toList = true →
        (address.scheme ≠ "file" → ofUrl url = .ok expected) ∧
        ofUrl url = if Url.hasDrive url.toList then .error (refusal url "missing host")
          else .ok expected) ∧
      (isJoinable endpoint.toList = false → Url.kindOf address.scheme = .web →
        Url.Host.IsPlain (Url.hostPart endpoint.toList) → ofUrl url ≠ .ok expected) := by
  obtain ⟨address, hof⟩ := exists_of_check hcheck hendpoint
  refine ⟨address, hof, fun key => ⟨_, objectUrl_eq hendpoint key, ?_⟩⟩
  intro expected
  refine ⟨fun hjoinable => ?_, fun hjoinable hkind hplain => ?_⟩
  · obtain ⟨hread, hfile⟩ := ofUrl_joined hof hjoinable key.toList
    refine ⟨fun hscheme => ?_, hread⟩
    rw [hread, hfile hscheme]
    rfl
  · exact ofUrl_joined_ne hof hkind hplain hjoinable key.toList

/-- A line break behind an IPv6 address does not matter, nor do the slashes of the key. -/
theorem objectUrl_of_checked_line :
    let s : Settings := { endpoint := some "http://[::1]:9000\n" }
    s.check = .ok () ∧ isJoinable "http://[::1]:9000\n".toList = true ∧
      s.objectUrl "//a b" = .ok "http://[::1]:9000\n/a b" ∧
      ofUrl "http://[::1]:9000\n/a b" = .ok ⟨"http", "::1", 9000, "/a b"⟩ := by
  intro s
  have hcheck : s.check = .ok () := by decide +kernel
  have hof : ofUrl "http://[::1]:9000\n" = .ok ⟨"http", "::1", 9000, "/"⟩ := by decide +kernel
  have hjoinable : isJoinable "http://[::1]:9000\n".toList = true := by decide +kernel
  have hurl : s.objectUrl "//a b" = .ok "http://[::1]:9000\n/a b" := by decide +kernel
  obtain ⟨address, haddress, hkeys⟩ := objectUrl_of_checked hcheck (rfl : s.endpoint = _)
  obtain rfl := Except.ok.inj (hof.symm.trans haddress)
  obtain ⟨url, hurl', hjoined, -⟩ := hkeys "//a b"
  obtain rfl := Except.ok.inj (hurl.symm.trans hurl')
  refine ⟨hcheck, hjoinable, hurl, ((hjoined hjoinable).1 (by decide)).trans ?_⟩
  decide +kernel

/-- The blank behind this port is passed over when the endpoint is checked. With a key behind it, it is
part of the port. -/
theorem objectUrl_of_blank :
    let s : Settings := { endpoint := some "http://storage.local:9000 " }
    s.check = .ok () ∧
      ofUrl "http://storage.local:9000 " = .ok ⟨"http", "storage.local", 9000, "/"⟩ ∧
      s.objectUrl "a" = .ok "http://storage.local:9000 /a" ∧
      ofUrl "http://storage.local:9000 /a" =
        .error (refusal "http://storage.local:9000 /a" "invalid port number") := by
  refine ⟨?_, ?_, ?_, ?_⟩ <;> decide +kernel

end Settings
end ObjectStream
