/-
  ObjectStream.Proofs.AuthorityEnd

  Where the authority of a URL ends. The reader of URLs leaves out the characters
  that do not count, takes the text up to the first colon for the scheme, skips
  all slashes and backslashes and ends the authority at the first character that
  ends one. The path of an address comes from the text as it is written, from the
  first `/`, `?` or `#` after the first `://`. Both find the same place in exactly
  the texts that `isRegular` tells (`kept_rawPath_iff`).
-/

import ObjectStream.Proofs.WebUrl
import Mathlib.Data.List.DropRight

namespace ObjectStream

/-! ## Dropping from lists -/

section Dropping

variable {α : Type} {p : α → Bool}

/-- Dropping goes no further than an element that is not to be dropped. -/
theorem dropWhile_append_cons (front rest : List α) {a : α} (ha : p a = false) :
    (front ++ a :: rest).dropWhile p = front.dropWhile p ++ a :: rest := by
  induction front with
  | nil => exact List.dropWhile_cons_of_neg (Bool.eq_false_iff.mp ha)
  | cons b front ih =>
    rw [List.cons_append, List.dropWhile_cons, List.dropWhile_cons, ih]
    split <;> rfl

/-- What is dropped up to where a text goes on with an element that is not to be dropped, or ends. -/
theorem dropWhile_append_stop {front rest : List α} (hfront : ∀ a ∈ front, p a = true)
    (hrest : ∀ a ∈ rest.head?, p a = false) :
    (front ++ rest).dropWhile p = rest := by
  rw [List.dropWhile_append_of_pos hfront]
  cases rest with
  | nil => rfl
  | cons a rest => exact List.dropWhile_cons_of_neg (Bool.eq_false_iff.mp (hrest a rfl))

theorem takeWhile_append_stop {front rest : List α} (hfront : ∀ a ∈ front, p a = true)
    (hrest : ∀ a ∈ rest.head?, p a = false) :
    (front ++ rest).takeWhile p = front := by
  rw [List.takeWhile_append_of_pos hfront]
  cases rest with
  | nil => exact List.append_nil front
  | cons a rest =>
    rw [List.takeWhile_cons_of_neg (Bool.eq_false_iff.mp (hrest a rfl)), List.append_nil]

theorem head_dropWhile (l : List α) : ∀ a ∈ (l.dropWhile p).head?, p a = false := by
  intro a ha
  have hnot := List.head?_dropWhile_not p l
  rw [Option.mem_def.mp ha] at hnot
  exact Bool.eq_false_iff.mpr (by simpa using hnot)

end Dropping

namespace Url

/-! ## Characters that count -/

/-- The characters that count of a text that a URL ends with. -/
def kept (text : List Char) : List Char := (text.rdropWhile isEdge).filter fun c => !isBreak c

theorem significant_eq (text : List Char) : significant text = kept (text.dropWhile isEdge) := rfl

theorem isBreak_of_not_isEdge {c : Char} (h : isEdge c = false) : isBreak c = false := by
  rw [Bool.eq_false_iff]
  intro hbreak
  rw [isBreak, Bool.or_eq_true, Bool.or_eq_true, decide_eq_true_eq, decide_eq_true_eq,
    decide_eq_true_eq] at hbreak
  rcases hbreak with (rfl | rfl) | rfl <;> revert h <;> decide

/-- In front of a character that is no blank only line breaks and tabs do not count. -/
theorem kept_append_cons (front rest : List Char) {c : Char} (hc : isEdge c = false) :
    kept (front ++ c :: rest) = (front.filter fun c => !isBreak c) ++ c :: kept rest := by
  have hdrop : (front ++ c :: rest).rdropWhile isEdge = front ++ c :: rest.rdropWhile isEdge := by
    rw [List.rdropWhile, List.reverse_append, List.reverse_cons, List.append_assoc, List.singleton_append,
      dropWhile_append_cons _ _ hc, List.reverse_append, List.reverse_cons, List.reverse_reverse,
      List.append_assoc, List.singleton_append, List.rdropWhile]
  rw [kept, hdrop, List.filter_append, List.filter_cons_of_pos (by rw [isBreak_of_not_isEdge hc]; rfl),
    kept]

theorem kept_cons {c : Char} (hc : isEdge c = false) (rest : List Char) :
    kept (c :: rest) = c :: kept rest :=
  kept_append_cons [] rest hc

theorem kept_suffix {text suffix : List Char} (h : suffix <:+ text) : kept suffix <:+ kept text := by
  obtain ⟨front, rfl⟩ := h
  rw [kept, kept, List.rdropWhile, List.rdropWhile, List.reverse_append, List.dropWhile_append]
  split
  · rename_i hempty
    rw [List.isEmpty_iff.mp hempty]
    exact List.nil_suffix
  · rw [List.reverse_append, List.reverse_reverse, List.filter_append]
    exact List.suffix_append _ _

/-! ## The two cuts -/

/-- The authority behind some slashes, and the text after it. -/
def cutSlashes (text : List Char) : List Char × List Char :=
  ((text.dropWhile SchemeKind.web.isSlash).takeWhile inAuthority,
    (text.dropWhile SchemeKind.web.isSlash).dropWhile inAuthority)

/-- The authority of a web URL, and the text after it, as they are read. -/
def cutAuthority (text : List Char) : List Char × List Char :=
  cutSlashes (((significant text).dropWhile (· ≠ ':')).drop 1)

/-- What follows the scheme of a text is read without what does not count. -/
theorem cutAuthority_append {front : List Char} (hfront : ':' ∉ front) (rest : List Char) :
    cutAuthority (front ++ ':' :: rest) = cutSlashes (kept rest) := by
  have hsignificant : significant (front ++ ':' :: rest) =
      ((front.dropWhile isEdge).filter fun c => !isBreak c) ++ ':' :: kept rest := by
    rw [significant_eq, dropWhile_append_cons _ _ (by decide), kept_append_cons _ _ (by decide)]
  have hbefore : ∀ c ∈ (front.dropWhile isEdge).filter (fun c => !isBreak c), decide (c ≠ ':') = true := by
    intro c hc
    have hmem : c ∈ front := (List.dropWhile_suffix _).subset (List.mem_filter.mp hc).1
    exact decide_eq_true fun heq => hfront (heq ▸ hmem)
  rw [cutAuthority, hsignificant, dropWhile_append_stop hbefore (by simp)]
  rfl

theorem eq_of_splitScheme? {text rest : List Char} {scheme : String}
    (h : splitScheme? text = some (scheme, rest)) : ∃ front, ':' ∉ front ∧ text = front ++ ':' :: rest := by
  rw [splitScheme?.eq_def] at h
  split at h
  · rename_i first others after hdrop
    split at h
    · cases h
      refine ⟨(first :: others).takeWhile isSchemeChar, fun hmem => ?_, ?_⟩
      · have hcolon := List.mem_takeWhile_imp hmem
        revert hcolon
        decide
      · rw [← hdrop, List.takeWhile_append_dropWhile]
    · cases h
  · cases h

/-- The reading of an `http` URL in terms of the cut. -/
theorem parse_cut {text : String} {url : Url} (h : parse text = .ok url) (hhttp : url.scheme = "http") :
    ∃ a name after read,
      splitHost false (splitUserInfo (cutAuthority text.toList).1).2 = (name, after) ∧
      Host.ofSpecial name = .ok read ∧ a.host = some read ∧ readPort after = .ok (a.port, []) ∧
      a.rest = (cutAuthority text.toList).2 ∧ url = withAuthority "http" a := by
  obtain ⟨rest, a, hscheme, hread, hurl⟩ := parse_http h hhttp
  obtain ⟨name, after, read, hsplit, hhost, ha, hport, hrest⟩ := readAuthority_web hread
  obtain ⟨front, hfront, hsignificant⟩ := eq_of_splitScheme? hscheme
  have hbefore : ∀ c ∈ front, decide (c ≠ ':') = true := fun c hc =>
    decide_eq_true fun heq => hfront (heq ▸ hc)
  have hcut : ((significant text.toList).dropWhile (· ≠ ':')).drop 1 = rest := by
    rw [hsignificant, dropWhile_append_stop hbefore (by simp)]
    rfl
  refine ⟨a, name, after, read, ?_, hhost, ha, hport, ?_, hurl⟩
  · rw [cutAuthority, hcut]
    exact hsplit
  · rw [cutAuthority, hcut]
    exact hrest

theorem Host.ne_nil_of_ofSpecial {text : List Char} {host : Host} (h : Host.ofSpecial text = .ok host) :
    text ≠ [] := by
  rintro rfl
  have hnone : (Host.ofSpecial []).toOption = none := by decide +kernel
  rw [h] at hnone
  cases hnone

/-- There is no host of no characters, so an authority that was read is not empty. -/
theorem cutAuthority_ne_nil {text : String} {url : Url} (h : parse text = .ok url)
    (hhttp : url.scheme = "http") : (cutAuthority text.toList).1 ≠ [] := by
  obtain ⟨a, name, after, read, hsplit, hhost, -⟩ := parse_cut h hhttp
  intro hnil
  rw [hnil] at hsplit
  exact Host.ne_nil_of_ofSpecial hhost (congrArg Prod.fst hsplit).symm

end Url

namespace ObjectAddress

/-- A path is led by a slash. -/
def slashed : List Char → List Char
  | '/' :: tail => '/' :: tail
  | tail => '/' :: tail

theorem rawPath?_eq (text : List Char) :
    rawPath? text = (afterScheme? text).map fun rest => slashed (rest.dropWhile fun c => !startsTail c) := rfl

theorem afterScheme?_cons {c : Char} {rest : List Char}
    (h : ∀ after, c :: rest ≠ ':' :: '/' :: '/' :: after) : afterScheme? (c :: rest) = afterScheme? rest := by
  rw [afterScheme?.eq_def]
  split
  · rename_i hnil
    cases hnil
  · rename_i after heq
    exact absurd heq (h after)
  · rename_i heq
    cases heq
    rfl

theorem afterScheme?_append {front : List Char} (hfront : ':' ∉ front) (rest : List Char) :
    afterScheme? (front ++ rest) = afterScheme? rest := by
  induction front with
  | nil => rfl
  | cons c front ih =>
    have hc : ∀ after, c :: (front ++ rest) ≠ ':' :: '/' :: '/' :: after := fun after heq =>
      hfront ((List.cons.inj heq).1 ▸ List.mem_cons_self)
    rw [List.cons_append, afterScheme?_cons hc, ih fun h => hfront (List.mem_cons_of_mem c h)]

/-- The text after the first `://` is after some `://`. -/
theorem eq_of_afterScheme? {text rest : List Char} (h : afterScheme? text = some rest) :
    ∃ front, text = front ++ ':' :: '/' :: '/' :: rest := by
  fun_induction afterScheme? text with
  | case1 => cases h
  | case2 rest' =>
    cases h
    exact ⟨[], rfl⟩
  | case3 c text _ ih =>
    obtain ⟨front, rfl⟩ := ih h
    exact ⟨c :: front, rfl⟩

theorem length_slashed_le (text : List Char) : (slashed text).length ≤ text.length + 1 := by
  rw [slashed.eq_def]
  split
  · exact Nat.le_succ _
  · exact Nat.le_refl _

theorem length_le_slashed (text : List Char) : text.length ≤ (slashed text).length := by
  rw [slashed.eq_def]
  split
  · exact Nat.le_refl _
  · exact Nat.le_succ _

/-- A character that is no slash is not the one that leads a path. -/
theorem length_slashed_append (front rest : List Char) {c : Char} (hc : c ≠ '/') :
    rest.length + 2 ≤ (slashed (front ++ c :: rest)).length := by
  cases front with
  | nil =>
    have hled : slashed (c :: rest) = '/' :: c :: rest := by
      rw [slashed.eq_def]
      split
      · rename_i heq
        cases heq
        exact absurd rfl hc
      · rfl
    rw [List.nil_append, hled, List.length_cons, List.length_cons]
  | cons a front =>
    have hle := length_le_slashed (a :: front ++ c :: rest)
    simp only [List.length_append, List.length_cons] at hle
    omega

theorem startsTail_iff {c : Char} : startsTail c = true ↔ c = '/' ∨ c = '?' ∨ c = '#' := by
  rw [startsTail, Bool.or_eq_true, Bool.or_eq_true, decide_eq_true_eq, decide_eq_true_eq,
    decide_eq_true_eq, or_assoc]

theorem not_isEdge_of_startsTail {c : Char} (h : startsTail c = true) : Url.isEdge c = false := by
  rcases startsTail_iff.mp h with rfl | rfl | rfl <;> decide

/-- To a web URL a backslash ends the authority too. -/
theorem inAuthority_iff {c : Char} :
    Url.inAuthority c = true ↔ startsTail c = false ∧ c ≠ '\\' := by
  rw [Url.inAuthority, Url.endsAuthority, Url.SchemeKind.isSlash, startsTail]
  by_cases hslash : c = '\\'
  · rw [hslash]
    decide
  · simp [hslash, Url.SchemeKind.isSpecial]

/-! ## Where both find the same end -/

/-- The characters that count of an authority as it is written, less the backslashes in front. -/
def authorityText (written : List Char) : List Char :=
  (written.filter fun c => !Url.isBreak c).dropWhile (· = '\\')

/-- Whether `://` follows the scheme at once, and after it comes an authority that has a character, no
matter how many backslashes are in front, and no backslash after that. -/
def isRegular (text : List Char) : Bool :=
  match text.dropWhile (· ≠ ':') with
  | ':' :: '/' :: '/' :: rest =>
    let authority := authorityText (rest.takeWhile fun c => !startsTail c)
    !authority.isEmpty && !authority.contains '\\'
  | _ => false

theorem ne_slash_of_not_startsTail {c : Char} (h : startsTail c = false) : c ≠ '/' := by
  rintro rfl
  cases h

/-- Where there are no slashes only backslashes count as such. -/
theorem dropWhile_isSlash {text : List Char} (h : ∀ c ∈ text, c ≠ '/') :
    text.dropWhile Url.SchemeKind.web.isSlash = text.dropWhile (· = '\\') := by
  induction text with
  | nil => rfl
  | cons c rest ih =>
    have hc : Url.SchemeKind.web.isSlash c = decide (c = '\\') := by
      simp [Url.SchemeKind.isSlash, Url.SchemeKind.isSpecial, h c List.mem_cons_self]
    rw [List.dropWhile_cons, List.dropWhile_cons, hc, ih fun d hd => h d (List.mem_cons_of_mem c hd)]

section Tail

variable {written tail : List Char} (hwritten : ∀ c ∈ written, startsTail c = false)
  (htail : ∀ c ∈ tail.head?, startsTail c = true)
include htail

/-- What is left of a path is led by a slash, too. -/
theorem kept_slashed : Url.kept (slashed tail) = slashed (Url.kept tail) := by
  cases tail with
  | nil => rfl
  | cons c tail =>
    have hc := htail c rfl
    have hkept := Url.kept_cons (not_isEdge_of_startsTail hc) tail
    have hslash := Url.kept_cons (c := '/') (by decide) (c :: tail)
    rw [hkept] at hslash ⊢
    rcases startsTail_iff.mp hc with rfl | rfl | rfl
    · exact hkept
    · exact hslash
    · exact hslash

theorem head_kept_tail : ∀ c ∈ (Url.kept tail).head?, startsTail c = true := by
  cases tail with
  | nil => exact fun c hc => nomatch hc
  | cons c tail =>
    have hc := htail c rfl
    rw [Url.kept_cons (not_isEdge_of_startsTail hc)]
    intro a ha
    cases ha
    exact hc

/-- Blanks at the end of an authority do not count only where nothing follows it. -/
theorem kept_append_tail :
    ∃ body blanks, written.filter (fun c => !Url.isBreak c) = body ++ blanks ∧
      (∀ c ∈ blanks, Url.isEdge c = true) ∧ (blanks = [] ∨ tail = []) ∧
      Url.kept (written ++ tail) = body ++ Url.kept tail := by
  cases tail with
  | nil =>
    refine ⟨Url.kept written, (written.rtakeWhile Url.isEdge).filter fun c => !Url.isBreak c, ?_, ?_,
      .inr rfl, ?_⟩
    · rw [Url.kept, ← List.filter_append, List.rdropWhile_append_rtakeWhile]
    · exact fun c hc => List.mem_rtakeWhile_imp (List.mem_filter.mp hc).1
    · rw [List.append_nil]
      exact (List.append_nil _).symm
  | cons c tail =>
    have hc := not_isEdge_of_startsTail (htail c rfl)
    refine ⟨_, [], (List.append_nil _).symm, fun c hc => absurd hc List.not_mem_nil, .inl rfl, ?_⟩
    rw [Url.kept_append_cons _ _ hc, Url.kept_cons hc]

include hwritten

/-- What is read of an authority and its tail, once slashes and backslashes in front are skipped. -/
theorem skip_append_tail :
    ∃ body blanks, written.filter (fun c => !Url.isBreak c) = body ++ blanks ∧
      (∀ c ∈ blanks, Url.isEdge c = true) ∧ (blanks = [] ∨ tail = []) ∧
      (∀ c ∈ body, startsTail c = false) ∧
      (Url.kept (written ++ tail)).dropWhile Url.SchemeKind.web.isSlash =
        if (body.dropWhile (· = '\\')).isEmpty then (Url.kept tail).dropWhile Url.SchemeKind.web.isSlash
        else body.dropWhile (· = '\\') ++ Url.kept tail := by
  obtain ⟨body, blanks, hfilter, hblanks, hend, hkept⟩ := @kept_append_tail written tail htail
  have hbody : ∀ c ∈ body, startsTail c = false := by
    intro c hc
    exact hwritten c (List.mem_filter.mp (hfilter ▸ List.mem_append_left blanks hc)).1
  refine ⟨body, blanks, hfilter, hblanks, hend, hbody, ?_⟩
  rw [hkept, List.dropWhile_append, dropWhile_isSlash fun c hc => ne_slash_of_not_startsTail (hbody c hc)]

/-- An authority with no backslash in it ends where it is written to end. -/
theorem cut_of_plain (hempty : authorityText written ≠ []) (hplain : '\\' ∉ authorityText written)
    (hread : (Url.cutSlashes (Url.kept (written ++ tail))).1 ≠ []) :
    (Url.cutSlashes (Url.kept (written ++ tail))).2 = Url.kept tail := by
  obtain ⟨body, blanks, hfilter, -, hend, hbody, hskip⟩ := skip_append_tail hwritten htail
  rw [authorityText, hfilter, List.dropWhile_append] at hempty hplain
  rw [Url.cutSlashes, hskip] at hread ⊢
  -- If all that counts are backslashes, the text ends here, and then there was nothing to be read.
  split at hplain
  · rename_i hnone
    rw [if_pos hnone] at hempty hread
    rcases hend with rfl | rfl
    · exact absurd rfl hempty
    · exact absurd rfl hread
  · rename_i hsome
    rw [if_neg hsome]
    refine dropWhile_append_stop (fun c hc => inAuthority_iff.mpr ⟨?_, ?_⟩) fun c hc => ?_
    · exact hbody c ((List.dropWhile_suffix _).subset hc)
    · rintro rfl
      exact hplain (List.mem_append_left blanks hc)
    · rw [Bool.eq_false_iff, Ne, inAuthority_iff, head_kept_tail htail c hc]
      exact fun h => nomatch h.1

/-- Where nothing is written between the slashes and the path, part of the path is read as authority. -/
theorem cut_of_empty (hempty : authorityText written = [])
    (hread : (Url.cutSlashes (Url.kept (written ++ tail))).1 ≠ []) :
    slashed (Url.kept tail) ≠ slashed (Url.cutSlashes (Url.kept (written ++ tail))).2 := by
  obtain ⟨body, blanks, hfilter, -, -, -, hskip⟩ := skip_append_tail hwritten htail
  have hnone : (body.dropWhile (· = '\\')).isEmpty = true := by
    rw [authorityText, hfilter, List.dropWhile_append] at hempty
    split at hempty
    · assumption
    · rw [(List.append_eq_nil_iff.mp hempty).1]
      rfl
  rw [Url.cutSlashes, hskip, if_pos hnone] at hread ⊢
  cases tail with
  | nil => exact absurd rfl hread
  | cons c tail =>
    have hc := htail c rfl
    rw [Url.kept_cons (not_isEdge_of_startsTail hc)] at hread ⊢
    rcases startsTail_iff.mp hc with rfl | rfl | rfl
    · -- The slash is skipped, and then at least one character more.
      show slashed ('/' :: Url.kept tail) ≠ slashed
        (((Url.kept tail).dropWhile Url.SchemeKind.web.isSlash).dropWhile Url.inAuthority)
      intro heq
      have hlong : (Url.kept tail).length + 1 ≤ _ := Nat.le_of_eq (congrArg List.length heq)
      have hshort := length_slashed_le
        (((Url.kept tail).dropWhile Url.SchemeKind.web.isSlash).dropWhile Url.inAuthority)
      have htaken : 0 < (((Url.kept tail).dropWhile Url.SchemeKind.web.isSlash).takeWhile
        Url.inAuthority).length := List.length_pos_iff.mpr hread
      have hsum := congrArg List.length (List.takeWhile_append_dropWhile (p := Url.inAuthority)
        (l := (Url.kept tail).dropWhile Url.SchemeKind.web.isSlash))
      have hskipped := List.length_dropWhile_le Url.SchemeKind.web.isSlash (Url.kept tail)
      rw [List.length_append] at hsum
      omega
    · exact absurd rfl hread
    · exact absurd rfl hread

/-- A backslash in an authority ends it, and the path is written to start behind it. -/
theorem cut_of_backslash (hbackslash : '\\' ∈ authorityText written) :
    slashed (Url.kept tail) ≠ slashed (Url.cutSlashes (Url.kept (written ++ tail))).2 := by
  obtain ⟨body, blanks, hfilter, hblanks, -, -, hskip⟩ := skip_append_tail hwritten htail
  have hmem : '\\' ∈ body.dropWhile (· = '\\') := by
    have hnot : '\\' ∉ blanks := fun hc => nomatch hblanks _ hc
    rw [authorityText, hfilter, List.dropWhile_append] at hbackslash
    split at hbackslash
    · exact absurd ((List.dropWhile_suffix _).subset hbackslash) hnot
    · exact (List.mem_append.mp hbackslash).resolve_right hnot
  -- The reader keeps the backslash and all behind it, which is longer than the path.
  obtain ⟨front, rest, hsplit⟩ := List.append_of_mem hmem
  rw [Url.cutSlashes, hskip, if_neg (by rw [hsplit]; simp), hsplit, List.append_assoc,
    List.cons_append, dropWhile_append_cons _ _ (by decide)]
  intro heq
  have hle := length_slashed_append (front.dropWhile Url.inAuthority) (rest ++ Url.kept tail)
    (c := '\\') (by decide)
  rw [← heq, List.length_append] at hle
  have hshort := length_slashed_le (Url.kept tail)
  omega

theorem slashed_cut_iff (hread : (Url.cutSlashes (Url.kept (written ++ tail))).1 ≠ []) :
    slashed (Url.kept tail) = slashed (Url.cutSlashes (Url.kept (written ++ tail))).2 ↔
      (!(authorityText written).isEmpty && !(authorityText written).contains '\\') = true := by
  by_cases hempty : authorityText written = []
  · rw [hempty]
    exact iff_of_false (cut_of_empty hwritten htail hempty hread) Bool.false_ne_true
  · by_cases hplain : '\\' ∈ authorityText written
    · exact iff_of_false (cut_of_backslash hwritten htail hplain) (by simp [hplain])
    · exact iff_of_true (congrArg slashed (cut_of_plain hwritten htail hempty hplain hread).symm)
        (by simp [hempty, hplain])

end Tail

/-- A `://` further behind is in what the reader has cut off. -/
theorem cut_of_late {text rest : List Char} (h : afterScheme? text = some rest) :
    (Url.kept rest).length + 2 ≤ (Url.cutSlashes (Url.kept text)).2.length := by
  obtain ⟨front, rfl⟩ := eq_of_afterScheme? h
  -- The colon is not skipped with the slashes, and the slash behind it ends an authority.
  rw [Url.cutSlashes, Url.kept_append_cons _ _ (by decide), Url.kept_cons (by decide),
    Url.kept_cons (by decide), dropWhile_append_cons _ _ (by decide),
    List.append_cons, dropWhile_append_cons _ _ (by decide)]
  simp only [List.length_append, List.length_cons]
  omega

/-- Where the `://` of the path is right behind the scheme the authority goes on as it is written, and
otherwise the reader has more behind the authority than the path has. -/
theorem rawPath?_cases {text path : List Char} (h : rawPath? text = some path) :
    (∃ written tail, (∀ c ∈ written, startsTail c = false) ∧ (∀ c ∈ tail.head?, startsTail c = true) ∧
      path = slashed tail ∧ Url.cutAuthority text = Url.cutSlashes (Url.kept (written ++ tail)) ∧
      isRegular text = (!(authorityText written).isEmpty && !(authorityText written).contains '\\')) ∨
    (isRegular text = false ∧ (Url.kept path).length < (Url.cutAuthority text).2.length) := by
  rw [rawPath?_eq, Option.map_eq_some_iff] at h
  obtain ⟨rest, hrest, rfl⟩ := h
  have htail : ∀ c ∈ (rest.dropWhile fun c => !startsTail c).head?, startsTail c = true := fun c hc => by
    simpa using head_dropWhile rest c hc
  have hcolon : ':' ∈ text := by
    obtain ⟨front, rfl⟩ := eq_of_afterScheme? hrest
    exact List.mem_append_right _ List.mem_cons_self
  -- Both look for the first colon; what is in front of it does not matter.
  obtain ⟨front, behind, rfl, hfront⟩ := List.eq_append_cons_of_mem hcolon
  have hbefore : ∀ c ∈ front, decide (c ≠ ':') = true := fun c hc =>
    decide_eq_true fun heq => hfront (heq ▸ hc)
  rw [Url.cutAuthority_append hfront, isRegular, dropWhile_append_stop hbefore (by simp)]
  rw [afterScheme?_append hfront] at hrest
  split
  · rename_i after heq
    left
    obtain rfl : behind = '/' :: '/' :: after := (List.cons.inj heq).2
    obtain rfl : after = rest := Option.some.inj hrest
    refine ⟨_, _, fun c hc => ?_, htail, rfl, ?_, rfl⟩
    · simpa using List.mem_takeWhile_imp hc
    · rw [List.takeWhile_append_dropWhile, Url.kept_cons (by decide), Url.kept_cons (by decide)]
      rfl
  · rename_i hslashes
    refine .inr ⟨rfl, ?_⟩
    rw [afterScheme?_cons hslashes] at hrest
    have hlong := cut_of_late hrest
    have hshort := length_slashed_le (Url.kept (rest.dropWhile fun c => !startsTail c))
    have hle := (Url.kept_suffix (List.dropWhile_suffix (l := rest) fun c => !startsTail c)).length_le
    rw [kept_slashed htail]
    omega

section Path

variable {text path : List Char} (h : rawPath? text = some path) (hread : (Url.cutAuthority text).1 ≠ [])
include h hread

/-- The path of an address starts where the reader ends the authority in the regular texts, and in no
others. -/
theorem kept_rawPath_iff : Url.kept path = slashed (Url.cutAuthority text).2 ↔ isRegular text = true := by
  rcases rawPath?_cases h with ⟨written, tail, hwritten, htail, rfl, hcut, hregular⟩ | ⟨hregular, hlonger⟩
  · rw [hcut] at hread ⊢
    rw [hregular, kept_slashed htail]
    exact slashed_cut_iff hwritten htail hread
  · refine iff_of_false (fun heq => ?_) (Bool.eq_false_iff.mp hregular)
    have hle := length_le_slashed (Url.cutAuthority text).2
    rw [← heq] at hle
    omega

-- Here the host is taken into the path, and there the front of the path is lost.
example : isRegular "http:///h/x".toList = false := by decide +kernel

example : isRegular "http://h\\x/y".toList = false := by decide +kernel

/-- What is read behind the authority of a regular text starts with the character that starts the path. -/
theorem head_cut_of_isRegular (hregular : isRegular text = true) :
    ∀ c ∈ (Url.cutAuthority text).2.head?, startsTail c = true := by
  rcases rawPath?_cases h with ⟨written, tail, hwritten, htail, rfl, hcut, hcond⟩ | ⟨hirregular, -⟩
  · obtain ⟨hempty, hplain⟩ : authorityText written ≠ [] ∧ '\\' ∉ authorityText written := by
      simpa [hcond] using hregular
    rw [hcut] at hread ⊢
    rw [cut_of_plain hwritten htail hempty hplain hread]
    exact head_kept_tail htail
  · rw [hirregular] at hregular
    cases hregular

end Path

end ObjectAddress
end ObjectStream
