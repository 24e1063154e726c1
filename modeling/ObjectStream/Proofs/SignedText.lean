/-
  ObjectStream.Proofs.SignedText

  What a signature is about. The text that a request signs has one part on each
  line, and only the last part, the path, may hold line feeds; so the parts can be
  told from the text (`subject_inj`). Two requests of one account sign the same
  text exactly if they have the same method, date and path. Neither the host nor
  the length of the body is signed (`signed_text_identifies`).
-/

import ObjectStream.Proofs.RequestLines

namespace ObjectStream

/-! ## Parts and separators -/

/-- Two lists that are cut at their first separator are the same if their parts are. -/
theorem append_separator_inj {α : Type} {separator : α} {front front' : List α}
    (h : separator ∉ front) (h' : separator ∉ front') (back back' : List α) :
    front ++ separator :: back = front' ++ separator :: back' ↔ front = front' ∧ back = back' := by
  constructor
  · intro heq
    -- One front begins with the other; what it has beyond that would begin with the separator.
    rcases List.append_eq_append_iff.mp heq with ⟨more, hfront, hmore⟩ | ⟨more, hfront, hmore⟩
    · cases more with
      | nil => exact ⟨by simpa using hfront.symm, (List.cons.inj hmore).2⟩
      | cons c more =>
        obtain ⟨rfl, -⟩ := List.cons.inj hmore
        exact absurd (by simp [hfront]) h'
    · cases more with
      | nil => exact ⟨by simpa using hfront, (List.cons.inj hmore).2.symm⟩
      | cons c more =>
        obtain ⟨rfl, -⟩ := List.cons.inj hmore
        exact absurd (by simp [hfront]) h
  · rintro ⟨rfl, rfl⟩
    rfl

namespace Signature

theorem toList_subject (method type date path : String) :
    (subject method type date path).toList =
      method.toList ++ '\n' :: '\n' :: (type.toList ++ '\n' :: (date.toList ++ '\n' :: path.toList)) := by
  have hempty : "\n\n".toList = ['\n', '\n'] := rfl
  have hend : "\n".toList = ['\n'] := rfl
  simp only [subject, String.toList_append, hempty, hend, List.append_assoc, List.cons_append,
    List.nil_append]

/-- The parts of a signed text can be told from it when no part in front of the path holds a line
feed. -/
theorem subject_inj {method type date method' type' date' : String}
    (hmethod : '\n' ∉ method.toList) (htype : '\n' ∉ type.toList) (hdate : '\n' ∉ date.toList)
    (hmethod' : '\n' ∉ method'.toList) (htype' : '\n' ∉ type'.toList) (hdate' : '\n' ∉ date'.toList)
    (path path' : String) :
    subject method type date path = subject method' type' date' path' ↔
      method = method' ∧ type = type' ∧ date = date' ∧ path = path' := by
  rw [← String.toList_inj, toList_subject, toList_subject]
  -- The lines come off from the front: the method with the empty line, the type, the date.
  rw [append_separator_inj hmethod hmethod', List.cons_inj_right, append_separator_inj htype htype',
    append_separator_inj hdate hdate']
  simp only [String.toList_inj]

end Signature

/-! ## The text of a request -/

namespace Method

theorem word_inj {m m' : Method} : m.word = m'.word ↔ m = m' := by
  cases m <;> cases m' <;> decide

theorem lf_not_mem_word (m : Method) : '\n' ∉ m.word.toList := by
  cases m <;> decide

end Method

theorem Clean.lf_not_mem {text : String} (h : Clean text) : '\n' ∉ text.toList :=
  fun hmem => (h '\n' hmem).2 rfl

namespace RequestHead

/-- The text that a draft signs at an instant; nothing for an instant without a date text. -/
def Draft.signedText? (d : Draft) (now : Instant) : Option String :=
  now.httpDate?.map fun date => Signature.subject d.method.word contentType date d.path

/-- A head carries the signature of a text, whose parts are its own method, fields and path. -/
structure Signs (credentials : Credentials) (head : RequestHead) (text : String) : Prop where
  subject : ∃ type date, head.field? "Content-Type" = some type ∧ head.field? "Date" = some date ∧
    text = Signature.subject head.method.word type date head.path
  signature : head.field? "Authorization" = some (Signature.authorization credentials.accessKey
    (Signature.sign (Utf8.encode credentials.secretKey) (Utf8.encode text)))

/-- The fields of a signed head that tell what was signed, and with what. -/
theorem fields_signWith (d : Draft) (date : String) (credentials : Credentials) :
    (d.signWith date credentials).field? "Content-Type" = some contentType ∧
      (d.signWith date credentials).field? "Date" = some date ∧
      (d.signWith date credentials).field? "Authorization" = some
        (Signature.authorization credentials.accessKey (d.signature date credentials.secretKey)) := by
  have hhost : Ascii.equalFold "Host" "Content-Type" = false ∧ Ascii.equalFold "Host" "Date" = false ∧
      Ascii.equalFold "Host" "Authorization" = false := by decide
  have htype : Ascii.equalFold "Content-Type" "Content-Type" = true ∧
      Ascii.equalFold "Content-Type" "Date" = false ∧
      Ascii.equalFold "Content-Type" "Authorization" = false := by decide
  have hdate : Ascii.equalFold "Date" "Date" = true ∧
      Ascii.equalFold "Date" "Authorization" = false := by decide
  have hauthorization : Ascii.equalFold "Authorization" "Authorization" = true := by decide
  simp [field?, Draft.signWith, Draft.fields, hhost, htype, hdate, hauthorization]

/-- A request signs the text of its draft. -/
theorem signs_of_sign? {d : Draft} {now : Instant} {credentials : Credentials} {head : RequestHead}
    (h : d.sign? now credentials = some head) :
    ∃ text, d.signedText? now = some text ∧ Signs credentials head text := by
  obtain ⟨date, hdate, rfl⟩ := Option.map_eq_some_iff.mp h
  obtain ⟨htype, hdated, hauthorization⟩ := fields_signWith d date credentials
  refine ⟨Signature.subject d.method.word contentType date d.path, ?_, ?_⟩
  · rw [Draft.signedText?, hdate]
    rfl
  · exact ⟨⟨contentType, date, htype, hdated, rfl⟩, hauthorization⟩

/-- Two requests sign the same text exactly if they agree in method, date and path. -/
theorem signedText?_eq_iff {d d' : Draft} {now now' : Instant} {credentials : Credentials}
    {head head' : RequestHead} (h : d.sign? now credentials = some head)
    (h' : d'.sign? now' credentials = some head') :
    d.signedText? now = d'.signedText? now' ↔
      head.method = head'.method ∧ head.field? "Date" = head'.field? "Date" ∧
        head.path = head'.path := by
  obtain ⟨date, hdate, rfl⟩ := Option.map_eq_some_iff.mp h
  obtain ⟨date', hdate', rfl⟩ := Option.map_eq_some_iff.mp h'
  have htype : '\n' ∉ contentType.toList := by decide
  have hlf := (Instant.clean_httpDate? hdate).lf_not_mem
  have hlf' := (Instant.clean_httpDate? hdate').lf_not_mem
  have hparts := Signature.subject_inj d.method.lf_not_mem_word htype hlf d'.method.lf_not_mem_word
    htype hlf' d.path d'.path
  rw [Draft.signedText?, Draft.signedText?, hdate, hdate', (fields_signWith d date credentials).2.1,
    (fields_signWith d' date' credentials).2.1, Option.map_some, Option.map_some, Option.some_inj,
    Option.some_inj, hparts, Method.word_inj]
  -- All requests have the one content type.
  show _ ↔ d.method = d'.method ∧ date = date' ∧ d.path = d'.path
  rw [eq_self, true_and]

/-- The signed text identifies the request. From any method, content type and date without a line feed
and any path, the text is made in such a way that all four can be told from it. Every signed head
carries the signature of the text that its own method, fields and path make, and two of them, signed
with the same credentials, sign the same text exactly if they have the same method, the same `Date`
field and the same path, whatever their hosts and the lengths of their bodies. -/
theorem signed_text_identifies :
    (∀ method type date path method' type' date' path' : String,
      '\n' ∉ method.toList → '\n' ∉ type.toList → '\n' ∉ date.toList →
      '\n' ∉ method'.toList → '\n' ∉ type'.toList → '\n' ∉ date'.toList →
      (Signature.subject method type date path = Signature.subject method' type' date' path' ↔
        method = method' ∧ type = type' ∧ date = date' ∧ path = path')) ∧
    ∀ (credentials : Credentials) (d d' : Draft) (now now' : Instant) (head head' : RequestHead),
      d.sign? now credentials = some head → d'.sign? now' credentials = some head' →
      (∃ text, d.signedText? now = some text ∧ Signs credentials head text) ∧
      (∃ text, d'.signedText? now' = some text ∧ Signs credentials head' text) ∧
      (d.signedText? now = d'.signedText? now' ↔
        head.method = head'.method ∧ head.field? "Date" = head'.field? "Date" ∧
          head.path = head'.path) := by
  constructor
  · intro method type date path method' type' date' path' hmethod htype hdate hmethod' htype' hdate'
    exact Signature.subject_inj hmethod htype hdate hmethod' htype' hdate' path path'
  · intro credentials d d' now now' head head' h h'
    exact ⟨signs_of_sign? h, signs_of_sign? h', signedText?_eq_iff h h'⟩

/-- A line feed in the date could as well stand in the path. -/
example : Signature.subject "GET" "text" "now\nor" "/a" = Signature.subject "GET" "text" "now" "or\n/a" := by
  decide

/-- An upload and one of another length to another host sign the same text, and one to another path
signs another; the path holds a line feed. -/
theorem signed_text_identifies_path :
    let d : Draft := ⟨.put, "h", "/a\nb", some 3⟩
    let elsewhere : Draft := ⟨.put, "other", "/a\nb", none⟩
    let another : Draft := ⟨.put, "h", "/a", some 3⟩
    Signature.subject "PUT" "text" "now" "/a\nb" ≠ Signature.subject "PUT" "text" "now" "/a" ∧
      d.signedText? ⟨0⟩ = elsewhere.signedText? ⟨0⟩ ∧ d.signedText? ⟨0⟩ ≠ another.signedText? ⟨0⟩ := by
  intro d elsewhere another
  obtain ⟨head, hsign⟩ : ∃ head, d.sign? ⟨0⟩ ⟨"a", "s"⟩ = some head := ⟨_, rfl⟩
  obtain ⟨head', hsign'⟩ : ∃ head, elsewhere.sign? ⟨0⟩ ⟨"a", "s"⟩ = some head := ⟨_, rfl⟩
  obtain ⟨head'', hsign''⟩ : ∃ head, another.sign? ⟨0⟩ ⟨"a", "s"⟩ = some head := ⟨_, rfl⟩
  obtain ⟨hparts, hrequests⟩ := signed_text_identifies
  refine ⟨fun heq => ?_, ?_, fun heq => ?_⟩
  · have hsame := (hparts "PUT" "text" "now" "/a\nb" "PUT" "text" "now" "/a" (by decide) (by decide)
      (by decide) (by decide) (by decide) (by decide)).mp heq
    exact absurd hsame.2.2.2 (by decide)
  · obtain ⟨-, -, hiff⟩ := hrequests ⟨"a", "s"⟩ d elsewhere ⟨0⟩ ⟨0⟩ head head' hsign hsign'
    rw [hiff, (eq_of_sign? hsign).1, (eq_of_sign? hsign').1, (eq_of_sign? hsign).2.1,
      (eq_of_sign? hsign').2.1]
    refine ⟨rfl, ?_, rfl⟩
    obtain ⟨date, hdate, rfl⟩ := Option.map_eq_some_iff.mp hsign
    obtain ⟨date', hdate', rfl⟩ := Option.map_eq_some_iff.mp hsign'
    rw [(fields_signWith d date _).2.1, (fields_signWith elsewhere date' _).2.1, ← hdate, ← hdate']
  · obtain ⟨-, -, hiff⟩ := hrequests ⟨"a", "s"⟩ d another ⟨0⟩ ⟨0⟩ head head'' hsign hsign''
    have hpath := (hiff.mp heq).2.2
    rw [(eq_of_sign? hsign).2.1, (eq_of_sign? hsign'').2.1] at hpath
    exact absurd hpath (by decide)

end RequestHead
end ObjectStream
