/-
  ObjectStream.Proofs.AuthorityPart

  Reading a URL with another text behind its authority, for schemes of all kinds.
  `authorityPart?` is the text from the authority on. Of the text in front of it
  only the scheme matters (`front_of_authorityPart?`), and of the text behind the
  authority only that it starts with a character that ends one (`readPart_tail`).
-/

import ObjectStream.Proofs.AuthorityEnd

namespace ObjectStream.Url

/-! ## Where the authority starts -/

/-- A scheme is the same whatever comes behind its colon. -/
theorem front_of_splitScheme? {text rest : List Char} {scheme : String}
    (h : splitScheme? text = some (scheme, rest)) :
    ∃ name, text = name ++ ':' :: rest ∧
      ∀ rest', splitScheme? (name ++ ':' :: rest') = some (scheme, rest') := by
  rw [splitScheme?.eq_def] at h
  split at h
  · rename_i first others after hdrop
    split at h
    · rename_i halpha
      cases h
      have hfirst : isSchemeChar first = true := by
        rw [isSchemeChar, Char.isAlphanum, halpha]
        rfl
      have htake : (first :: others).takeWhile isSchemeChar = first :: others.takeWhile isSchemeChar :=
        List.takeWhile_cons_of_pos hfirst
      refine ⟨(first :: others).takeWhile isSchemeChar, ?_, fun rest' => ?_⟩
      · rw [← hdrop, List.takeWhile_append_dropWhile]
      · have hname : ∀ c ∈ (first :: others).takeWhile isSchemeChar, isSchemeChar c = true :=
          fun c hc => List.mem_takeWhile_imp hc
        have hcolon : ∀ c ∈ (':' :: rest').head?, isSchemeChar c = false := by
          rintro c ⟨⟩
          decide
        rw [splitScheme?.eq_def, dropWhile_append_stop hname hcolon, takeWhile_append_stop hname hcolon,
          htake]
        exact if_pos halpha
    · cases h
  · cases h

/-- The text behind a scheme from the authority on, if there is one: the slashes of a web URL do not
count, other URLs have two. -/
def partBehind? (kind : SchemeKind) (rest : List Char) : Option (List Char) :=
  match kind with
  | .web => some (rest.dropWhile SchemeKind.web.isSlash)
  | .file =>
    match rest with
    | a :: b :: after =>
      if SchemeKind.file.isSlash a && SchemeKind.file.isSlash b then some after else none
    | _ => none
  | .other =>
    match rest with
    | '/' :: '/' :: after => some after
    | _ => none

/-- The scheme of a text, and the text from the authority on, if there is one. -/
def authorityPart? (text : List Char) : Option (String × List Char) :=
  (splitScheme? text).bind fun (scheme, rest) => (partBehind? (kindOf scheme) rest).map (scheme, ·)

theorem front_of_partBehind? {kind : SchemeKind} {rest part : List Char}
    (h : partBehind? kind rest = some part) :
    ∃ front, rest = front ++ part ∧ ∀ part', (∀ c ∈ part'.head?, kind.isSlash c = false) →
      partBehind? kind (front ++ part') = some part' := by
  cases kind with
  | web =>
    cases h
    refine ⟨rest.takeWhile SchemeKind.web.isSlash, List.takeWhile_append_dropWhile.symm, ?_⟩
    intro part' hpart
    have hslashes : ∀ c ∈ rest.takeWhile SchemeKind.web.isSlash, SchemeKind.web.isSlash c = true :=
      fun c hc => List.mem_takeWhile_imp hc
    exact congrArg some (dropWhile_append_stop hslashes hpart)
  | file =>
    dsimp only [partBehind?] at h
    split at h
    · rename_i a b after
      split at h
      · rename_i hslashes
        cases h
        exact ⟨[a, b], rfl, fun part' _ => if_pos hslashes⟩
      · cases h
    · cases h
  | other =>
    dsimp only [partBehind?] at h
    split at h
    · cases h
      exact ⟨['/', '/'], rfl, fun part' _ => rfl⟩
    · cases h

/-- What comes behind the slashes does not matter to where the authority starts, as long as it is no
slash itself. -/
theorem front_of_authorityPart? {text part : List Char} {scheme : String}
    (h : authorityPart? text = some (scheme, part)) :
    ∃ front, text = front ++ part ∧
      ∀ part', (∀ c ∈ part'.head?, (kindOf scheme).isSlash c = false) →
        authorityPart? (front ++ part') = some (scheme, part') := by
  obtain ⟨⟨scheme', rest⟩, hsplit, h⟩ := Option.bind_eq_some_iff.mp h
  obtain ⟨part'', hpart, heq⟩ := Option.map_eq_some_iff.mp h
  cases heq
  obtain ⟨name, rfl, hname⟩ := front_of_splitScheme? hsplit
  obtain ⟨slashes, rfl, hslashes⟩ := front_of_partBehind? hpart
  refine ⟨name ++ ':' :: slashes, by rw [List.append_assoc, List.cons_append], fun part' hpart' => ?_⟩
  rw [authorityPart?, List.append_assoc, List.cons_append, hname, Option.bind_some]
  dsimp only
  rw [hslashes part' hpart', Option.map_some]

/-! ## Reading it -/

/-- Reads the authority at the start of a text, as URLs of this kind are read. -/
def readPart (kind : SchemeKind) (text : List Char) : Except Error Authority :=
  match kind with
  | .file => readFileHost text
  | .web | .other => readAuthority kind text

/-- A URL in terms of the text from its authority on, or one without. -/
theorem parse_eq (text : String) : parse text =
    match splitScheme? (significant text.toList) with
    | none => .error .relative
    | some (scheme, rest) =>
      match partBehind? (kindOf scheme) rest with
      | some part => (readPart (kindOf scheme) part).map (withAuthority scheme)
      | none => .ok (withoutAuthority scheme rest) := by
  have hmap (scheme : String) (x : Except Error Authority) :
      (x >>= fun a => .ok (withAuthority scheme a)) = x.map (withAuthority scheme) := by
    cases x <;> rfl
  rw [parse]
  cases splitScheme? (significant text.toList) with
  | none => rfl
  | some found =>
    obtain ⟨scheme, rest⟩ := found
    dsimp only
    simp only [hmap]
    cases kindOf scheme with
    | web => rfl
    | file =>
      rcases rest with - | ⟨a, - | ⟨b, after⟩⟩
      · rfl
      · rfl
      · dsimp only [partBehind?]
        split <;> rfl
    | other =>
      by_cases hslashes : ∃ after, rest = '/' :: '/' :: after
      · obtain ⟨after, rfl⟩ := hslashes
        rfl
      · have hnone : partBehind? .other rest = none := by
          rw [partBehind?.eq_def]
          dsimp only
          split
          · exact absurd ⟨_, rfl⟩ hslashes
          · rfl
        rw [hnone]
        dsimp only
        split
        · exact absurd ⟨_, rfl⟩ hslashes
        · rfl

/-- A URL with a host has an authority, and the host is read there. -/
theorem authorityPart?_of_host {text : String} {url : Url} {host : Host} (h : parse text = .ok url)
    (hhost : url.host = some host) :
    ∃ scheme part a, authorityPart? (significant text.toList) = some (scheme, part) ∧
      readPart (kindOf scheme) part = .ok a ∧ url = withAuthority scheme a ∧ a.host = some host := by
  rw [parse_eq] at h
  split at h
  · cases h
  · rename_i scheme rest hsplit
    split at h
    · rename_i part hpart
      cases hread : readPart (kindOf scheme) part with
      | error e =>
        rw [hread] at h
        cases h
      | ok a =>
        rw [hread] at h
        cases h
        refine ⟨scheme, part, a, ?_, hread, rfl, ?_⟩
        · rw [authorityPart?, hsplit, Option.bind_some]
          dsimp only
          rw [hpart, Option.map_some]
        · rcases host_withAuthority scheme a with hnone | hsame
          · rw [hnone] at hhost
            cases hhost
          · exact hsame.symm.trans hhost
    · cases h
      cases hhost

theorem parse_of_authorityPart? {text : String} {scheme : String} {part : List Char}
    (h : authorityPart? (significant text.toList) = some (scheme, part)) :
    parse text = (readPart (kindOf scheme) part).map (withAuthority scheme) := by
  obtain ⟨⟨scheme', rest⟩, hsplit, h⟩ := Option.bind_eq_some_iff.mp h
  obtain ⟨part', hpart, heq⟩ := Option.map_eq_some_iff.mp h
  cases heq
  rw [parse_eq, hsplit]
  dsimp only at hpart ⊢
  rw [hpart]

/-! ## What stands behind it -/

theorem not_isSlash {kind : SchemeKind} {c : Char} (h : endsAuthority kind c = false) :
    kind.isSlash c = false := by
  rw [endsAuthority, Bool.or_eq_false_iff, Bool.or_eq_false_iff] at h
  exact h.1.1

/-- The authority starts where it did, whatever comes behind it. -/
theorem front_of_authority {text inner rest : List Char} {scheme : String}
    (h : authorityPart? text = some (scheme, inner ++ rest)) (hne : inner ≠ [])
    (hinner : ∀ c ∈ inner, endsAuthority (kindOf scheme) c = false) :
    ∃ front, text = front ++ (inner ++ rest) ∧
      ∀ rest', authorityPart? (front ++ (inner ++ rest')) = some (scheme, inner ++ rest') := by
  obtain ⟨front, hfront, hsame⟩ := front_of_authorityPart? h
  refine ⟨front, hfront, fun rest' => hsame _ fun c hc => ?_⟩
  rw [List.head?_append_of_ne_nil _ hne] at hc
  exact not_isSlash (hinner c (List.mem_of_head? hc))

/-- Whether a text can stand right behind an authority. -/
def BehindAuthority (kind : SchemeKind) (rest : List Char) : Prop :=
  ∀ c ∈ rest.head?, endsAuthority kind c = true

theorem behindAuthority_nil (kind : SchemeKind) : BehindAuthority kind [] := nofun

theorem behindAuthority_slash (kind : SchemeKind) (rest : List Char) :
    BehindAuthority kind ('/' :: rest) := by
  rintro c ⟨⟩
  cases kind <;> decide

/-- An authority goes up to the first character that ends one. -/
theorem cut_authority {kind : SchemeKind} {inner rest : List Char}
    (hinner : ∀ c ∈ inner, endsAuthority kind c = false) (hrest : BehindAuthority kind rest) :
    (inner ++ rest).takeWhile (fun c => !endsAuthority kind c) = inner ∧
      (inner ++ rest).dropWhile (fun c => !endsAuthority kind c) = rest := by
  have hinner : ∀ c ∈ inner, (!endsAuthority kind c) = true := fun c hc => by rw [hinner c hc]; rfl
  have hrest : ∀ c ∈ rest.head?, (!endsAuthority kind c) = false := fun c hc => by rw [hrest c hc]; rfl
  exact ⟨takeWhile_append_stop hinner hrest, dropWhile_append_stop hinner hrest⟩

theorem exists_authority (kind : SchemeKind) (text : List Char) :
    ∃ inner rest, text = inner ++ rest ∧ (∀ c ∈ inner, endsAuthority kind c = false) ∧
      BehindAuthority kind rest := by
  refine ⟨text.takeWhile fun c => !endsAuthority kind c, text.dropWhile fun c => !endsAuthority kind c,
    List.takeWhile_append_dropWhile.symm, fun c hc => ?_, fun c hc => ?_⟩
  · simpa using List.mem_takeWhile_imp hc
  · simpa using head_dropWhile text c hc

theorem ne_nil_of_readHost {kind : SchemeKind} {text left : List Char} {host : Host}
    {port : Option UInt16} (h : readHost kind text = .ok (some host, port, left)) : text ≠ [] := by
  rintro rfl
  cases kind <;> cases h

section Tail

variable {kind : SchemeKind} {inner rest : List Char} {a : Authority} {host : Host}
  (hinner : ∀ c ∈ inner, endsAuthority kind c = false) (hrest : BehindAuthority kind rest)
  (hhost : a.host = some host)
include hinner hrest hhost

theorem readAuthority_tail (h : readAuthority kind (inner ++ rest) = .ok a) :
    inner ≠ [] ∧ ∃ left, a.rest = left ++ rest ∧ ∀ rest', BehindAuthority kind rest' →
      readAuthority kind (inner ++ rest') = .ok { a with rest := left ++ rest' } := by
  obtain ⟨htake, hdrop⟩ := cut_authority hinner hrest
  rw [readAuthority] at h
  dsimp only at h
  rw [htake, hdrop] at h
  split at h
  · cases h
  obtain ⟨⟨found, port, left⟩, hread, h⟩ := exists_of_bind_eq_ok h
  dsimp only at h
  split at h
  · cases h
  cases h
  obtain rfl : found = some host := hhost
  have hne := ne_nil_of_readHost hread
  refine ⟨fun hnil => hne (by rw [hnil]; rfl), left, rfl, fun rest' hrest' => ?_⟩
  obtain ⟨htake', hdrop'⟩ := cut_authority hinner hrest'
  rw [readAuthority]
  dsimp only
  rw [htake', hdrop', if_neg (by simp [hne]), hread]
  rfl

theorem readFileHost_tail (hkind : kind = .file) (h : readFileHost (inner ++ rest) = .ok a) :
    inner ≠ [] ∧ a.rest = rest ∧ ∀ rest', BehindAuthority kind rest' →
      readFileHost (inner ++ rest') = .ok { a with rest := rest' } := by
  subst hkind
  obtain ⟨htake, hdrop⟩ := cut_authority hinner hrest
  rw [readFileHost] at h
  dsimp only at h
  rw [htake, hdrop] at h
  split at h
  · cases h
    cases hhost
  rename_i hdrive
  split at h
  · cases h
    cases hhost
  rename_i hempty
  obtain ⟨found, hread, h⟩ := exists_of_bind_eq_ok h
  cases h
  refine ⟨fun hnil => hempty (by rw [hnil]; rfl), rfl, fun rest' hrest' => ?_⟩
  obtain ⟨htake', hdrop'⟩ := cut_authority hinner hrest'
  rw [readFileHost]
  dsimp only
  rw [htake', hdrop', if_neg hdrive, if_neg hempty, hread]
  rfl

/-- An authority is read the same, host and port and all, whatever stands behind it. -/
theorem readPart_tail (h : readPart kind (inner ++ rest) = .ok a) :
    inner ≠ [] ∧ ∃ left, a.rest = left ++ rest ∧ ∀ rest', BehindAuthority kind rest' →
      readPart kind (inner ++ rest') = .ok { a with rest := left ++ rest' } := by
  cases kind with
  | web => exact readAuthority_tail hinner hrest hhost h
  | file =>
    obtain ⟨hne, hleft, htail⟩ := readFileHost_tail hinner hrest hhost rfl h
    exact ⟨hne, [], hleft, htail⟩
  | other => exact readAuthority_tail hinner hrest hhost h

end Tail

/-! ## Whole URLs -/

/-- Only the paths of the file scheme start with drives. -/
theorem Path.drive_of_not_file {kind : SchemeKind} (hkind : kind ≠ .file) (text : List Char) :
    (Path.read kind text).2 = false := by
  have hstep : ∀ (w : Walk) (segment : List Char) (last : Bool), w.drive = false →
      (w.step kind segment last).drive = false := by
    intro w segment last hw
    have hup : (w.up kind).drive = w.drive := by
      rw [Walk.up.eq_def]
      split
      · split <;> rfl
      · rfl
    rw [Walk.step]
    dsimp only
    split
    · split
      · exact hup.trans hw
      · exact hup.trans hw
    · split
      · split
        · exact hw
        · exact hw
      · rw [if_neg (by simp [hkind])]
        exact hw
  have hwalk : ∀ (pieces : List (List Char)) (w : Walk), w.drive = false →
      (walk kind w pieces).drive = false := by
    intro pieces
    induction pieces with
    | nil => exact fun w hw => hw
    | cons segment rest ih =>
      intro w hw
      cases rest with
      | nil => exact hstep w segment true hw
      | cons next rest => exact ih _ (hstep w segment false hw)
  rw [read.eq_def]
  dsimp only
  split
  · rfl
  · exact hwalk _ _ rfl

/-- The URL of an authority with another text behind it: user information, host and port are the same,
but a drive in front of the path leaves no host. -/
theorem withAuthority_tail {scheme : String} {a : Authority} {host : Host}
    (hhost : (withAuthority scheme a).host = some host) (rest : List Char) :
    let url := withAuthority scheme { a with rest }
    url.scheme = scheme ∧ url.username = a.username ∧ url.password = a.password ∧
      url.port = (withAuthority scheme a).port ∧
      url.host = if (Path.read (kindOf scheme) (splitBefore ['?', '#'] rest).1).2 then none
        else some host := by
  have hsame : a.host = some host := by
    rcases host_withAuthority scheme a with hnone | hsame
    · rw [hnone] at hhost
      cases hhost
    · exact hsame.symm.trans hhost
  refine ⟨rfl, rfl, rfl, rfl, ?_⟩
  rw [← hsame]
  rfl

end ObjectStream.Url
