/-
  ObjectStream.Proofs.RequestLines

  The lines that a stream meets in the request head it is offered. They are the
  request line, the lines of the fields and the empty line exactly if neither the
  path nor the host nor the access key holds a line end (`one_request`). The host
  of a URL never does. The path does where the text of the URL does: reading a URL
  passes over its line breaks, the path that goes on the request line keeps them
  (`split_request`).
-/

import ObjectStream.Proofs.Exchange
import ObjectStream.Proofs.HeadFirst
import ObjectStream.Proofs.Lines
import ObjectStream.Proofs.Signing
import ObjectStream.Proofs.WebUrl
import Mathlib.Data.List.GetD

namespace ObjectStream

/-! ## Texts on one line -/

/-- No line end stands in a text. -/
def OneLine (text : String) : Prop := Bytes.NoBreak (Utf8.encode text)

/-- Neither half of a line end stands in a text. -/
def Clean (text : String) : Prop := ∀ c ∈ text.toList, c ≠ '\r' ∧ c ≠ '\n'

instance (text : String) : Decidable (Clean text) := List.decidableBAll _ text.toList

theorem clean_append {s t : String} : Clean (s ++ t) ↔ Clean s ∧ Clean t := by
  unfold Clean
  rw [String.toList_append, List.forall_mem_append]

theorem clean_iff {text : String} :
    Clean text ↔ Bytes.cr ∉ Utf8.encode text ∧ Bytes.lf ∉ Utf8.encode text := by
  have hmem : ∀ {b : UInt8} {c : Char}, b < 0x80 → c.toNat = b.toNat →
      String.utf8EncodeChar c = [b] → (b ∈ Utf8.encode text ↔ c ∈ text.toList) := by
    intro b c hb hc hencode
    unfold Utf8.encode
    rw [List.mem_flatMap]
    constructor
    · rintro ⟨a, ha, hmem⟩
      have hval := Utf8.toNat_of_mem_utf8EncodeChar hmem hb
      have hsame : a = c := Char.toNat_inj.mp (hval.trans hc.symm)
      exact hsame ▸ ha
    · exact fun h => ⟨c, h, hencode ▸ List.mem_singleton_self b⟩
  have hcr : Bytes.cr ∈ Utf8.encode text ↔ '\r' ∈ text.toList := hmem (by decide) (by decide) (by decide)
  have hlf : Bytes.lf ∈ Utf8.encode text ↔ '\n' ∈ text.toList := hmem (by decide) (by decide) (by decide)
  rw [hcr, hlf, Clean]
  constructor
  · exact fun h => ⟨fun hc => (h _ hc).1 rfl, fun hc => (h _ hc).2 rfl⟩
  · rintro ⟨hcr, hlf⟩ c hc
    exact ⟨fun heq => hcr (heq ▸ hc), fun heq => hlf (heq ▸ hc)⟩

theorem Clean.oneLine {text : String} (h : Clean text) : OneLine text :=
  Bytes.noBreak_of_not_mem (clean_iff.mp h).1

/-- Clean text in front does not matter. -/
theorem oneLine_append_left {s t : String} (h : Clean s) : OneLine (s ++ t) ↔ OneLine t := by
  unfold OneLine
  rw [Utf8.encode_append, Bytes.noBreak_append]
  constructor
  · exact fun hall => hall.2.1
  · refine fun ht => ⟨h.oneLine, ht, fun hpair => (clean_iff.mp h).1 ?_⟩
    exact List.mem_of_getLast? hpair.1

/-- Clean text behind does not matter. -/
theorem oneLine_append_right {s t : String} (h : Clean t) : OneLine (s ++ t) ↔ OneLine s := by
  unfold OneLine
  rw [Utf8.encode_append, Bytes.noBreak_append]
  constructor
  · exact fun hall => hall.1
  · refine fun hs => ⟨hs, h.oneLine, fun hpair => (clean_iff.mp h).2 ?_⟩
    exact List.mem_of_head? hpair.2

theorem clean_toString (n : Nat) : Clean (toString n) := by
  intro c hc
  rw [Nat.toString_eq_ofList_toDigits, String.toList_ofList] at hc
  have hdigit := Nat.isDigit_of_mem_toDigits (by decide) (by decide) hc
  constructor <;> (rintro rfl; revert hdigit; decide)

/-! ## Dates and signatures -/

namespace Date

theorem clean_digits (width n : Nat) : Clean (String.ofList (digits width n)) := by
  have hdigit : ∀ d < 10, Char.ofNat (48 + d) ≠ '\r' ∧ Char.ofNat (48 + d) ≠ '\n' := by decide
  unfold Clean
  rw [String.toList_ofList]
  induction width generalizing n with
  | zero => exact fun c hc => absurd hc List.not_mem_nil
  | succ width ih =>
    intro c hc
    rw [digits] at hc
    rcases List.mem_append.mp hc with hc | hc
    · exact ih (n / 10) c hc
    · rw [List.mem_singleton.mp hc]
      exact hdigit _ (Nat.mod_lt _ (by decide))

theorem clean_getD {names : List String} (h : ∀ name ∈ names, Clean name) (i : Nat) :
    Clean (names.getD i "") := by
  by_cases hi : i < names.length
  · rw [List.getD_eq_getElem _ _ hi]
    exact h _ (List.getElem_mem hi)
  · rw [List.getD_eq_default _ _ (Nat.le_of_not_lt hi)]
    decide

theorem clean_text (date : Date) : Clean date.text := by
  have hweekday := @clean_getD weekdayNames (by decide) date.weekday
  have hmonth := @clean_getD monthNames (by decide) (date.month - 1)
  have hcomma : Clean ", " := by decide
  have hblank : Clean " " := by decide
  have hcolon : Clean ":" := by decide
  have hzone : Clean " GMT" := by decide
  simp only [text, clean_append, clean_digits, hweekday, hmonth, hcomma, hblank, hcolon, hzone, and_self]

end Date

theorem Instant.clean_httpDate? {now : Instant} {date : String} (h : now.httpDate? = some date) :
    Clean date := by
  obtain ⟨d, -, rfl⟩ := Option.map_eq_some_iff.mp h
  exact d.clean_text

theorem Signature.clean_text_sign (key message : Bytes) : Clean (sign key message).text := by
  have hall : ∀ b ∈ Base64.Standard.alphabet, Char.ofNat b.toNat ≠ '\r' ∧ Char.ofNat b.toNat ≠ '\n' :=
    List.all_iff_forall_prop.mp (by decide)
  intro c hc
  rw [text_sign, String.toList_ofList] at hc
  obtain ⟨b, hb, rfl⟩ := List.mem_map.mp hc
  rw [(bytes_sign_eq_append key message).1] at hb
  rcases List.mem_append.mp hb with hb | hb
  · exact hall b (Base64.Standard.mem_alphabet_of_mem_symbols hb)
  · rw [List.mem_singleton.mp hb]
    decide

/-! ## The lines of a head -/

namespace RequestHead.Draft

/-- The request line and the fields of a request, as they are meant to be read. -/
def lines (d : Draft) (date : String) (credentials : Credentials) : List String :=
  [d.method.word ++ " " ++ d.path ++ " HTTP/1.1",
    "Host: " ++ d.host,
    "Content-Type: application/octet-stream",
    "Date: " ++ date,
    "Authorization: AWS " ++ credentials.accessKey ++ ":" ++
      (d.signature date credentials.secretKey).text] ++
    (d.contentLength.map fun n => "Content-Length: " ++ toString n).toList

/-- The texts that a request takes from its caller. -/
def given (d : Draft) (credentials : Credentials) : List String :=
  [d.path, d.host, credentials.accessKey]

theorem encode_signWith (d : Draft) (date : String) (credentials : Credentials) :
    (d.signWith date credentials).encode =
      Bytes.written ((d.lines date credentials).map Utf8.encode ++ [[]]) := by
  have hauthorization : Utf8.encode "Authorization: AWS " =
      Utf8.encode "Authorization" ++ Utf8.encode ": " ++ Utf8.encode "AWS " := by decide
  have htype : Utf8.encode "Content-Type: application/octet-stream" =
      Utf8.encode "Content-Type" ++ Utf8.encode ": " ++ Utf8.encode contentType := by decide
  have hhost : Utf8.encode "Host: " = Utf8.encode "Host" ++ Utf8.encode ": " := by decide
  have hdate : Utf8.encode "Date: " = Utf8.encode "Date" ++ Utf8.encode ": " := by decide
  have hlength : Utf8.encode "Content-Length: " =
      Utf8.encode "Content-Length" ++ Utf8.encode ": " := by decide
  unfold lines
  cases hcase : d.contentLength <;>
    simp [encode, signWith, fields, hcase, encodeField, Signature.authorization, Utf8.encode_append,
      hauthorization, htype, hhost, hdate, hlength]

variable {d : Draft} {date : String} {credentials : Credentials}

/-- What holds of a text whatever clean text stands beside it holds of all lines if it holds of the
texts that were given. -/
theorem forall_lines {P : String → Prop} (hleft : ∀ {s t}, Clean s → (P (s ++ t) ↔ P t))
    (hright : ∀ {s t}, Clean t → (P (s ++ t) ↔ P s)) (hclean : ∀ {s}, Clean s → P s)
    (hdate : Clean date) :
    (∀ line ∈ d.lines date credentials, P line) ↔ ∀ text ∈ d.given credentials, P text := by
  have hword : Clean (d.method.word ++ " ") := by cases d.method <;> decide
  have hrequest : P (d.method.word ++ " " ++ d.path ++ " HTTP/1.1") ↔ P d.path := by
    rw [hright (by decide), hleft hword]
  have hhost : P ("Host: " ++ d.host) ↔ P d.host := hleft (by decide)
  have htype : P "Content-Type: application/octet-stream" := hclean (by decide)
  have hdated : P ("Date: " ++ date) := hclean (clean_append.mpr ⟨by decide, hdate⟩)
  have hsignature : Clean (d.signature date credentials.secretKey).text :=
    Signature.clean_text_sign _ _
  have hauthorization : P ("Authorization: AWS " ++ credentials.accessKey ++ ":" ++
      (d.signature date credentials.secretKey).text) ↔ P credentials.accessKey := by
    rw [hright hsignature, hright (by decide), hleft (by decide)]
  have hlength : ∀ line ∈ (d.contentLength.map fun n => "Content-Length: " ++ toString n).toList,
      P line := by
    intro line hline
    obtain ⟨n, -, rfl⟩ := Option.map_eq_some_iff.mp (Option.mem_toList.mp hline)
    exact hclean (clean_append.mpr ⟨by decide, clean_toString n⟩)
  unfold lines given
  simp only [List.forall_mem_append, List.forall_mem_cons, List.not_mem_nil, false_implies,
    implies_true, and_true, hrequest, hhost, htype, hdated, hauthorization, true_and]
  exact ⟨fun h => h.1, fun h => ⟨h, hlength⟩⟩

theorem oneLine_lines (hdate : Clean date) :
    (∀ line ∈ d.lines date credentials, OneLine line) ↔ ∀ text ∈ d.given credentials, OneLine text :=
  forall_lines oneLine_append_left oneLine_append_right Clean.oneLine hdate

theorem clean_lines (hdate : Clean date) :
    (∀ line ∈ d.lines date credentials, Clean line) ↔ ∀ text ∈ d.given credentials, Clean text :=
  forall_lines (fun hs => clean_append.trans (and_iff_right hs))
    (fun ht => clean_append.trans (and_iff_left ht)) id hdate

theorem encode_line_ne_nil {line : String} (h : line ∈ d.lines date credentials) :
    Utf8.encode line ≠ [] := by
  have happend : ∀ {s t : String}, Utf8.encode s ≠ [] → Utf8.encode (s ++ t) ≠ [] := by
    intro s t hs
    rw [Utf8.encode_append]
    exact List.append_ne_nil_of_left_ne_nil hs _
  have hword : Utf8.encode d.method.word ≠ [] := by cases d.method <;> decide
  unfold lines at h
  rcases List.mem_append.mp h with h | h
  · simp only [List.mem_cons, List.not_mem_nil, or_false] at h
    rcases h with rfl | rfl | rfl | rfl | rfl
    · exact happend (happend (happend hword))
    · exact happend (by decide)
    · decide
    · exact happend (by decide)
    · exact happend (happend (happend (by decide)))
  · obtain ⟨n, -, rfl⟩ := Option.map_eq_some_iff.mp (Option.mem_toList.mp h)
    exact happend (by decide)

end RequestHead.Draft

namespace Bytes

/-- Lines and an empty line are met as they were written unless one of them holds a line end. -/
theorem splitLines_block_iff {ls : List Bytes} :
    splitLines (written (ls ++ [[]])) = (ls ++ [[]], []) ↔ ∀ l ∈ ls, NoBreak l := by
  constructor
  · intro h l hl
    refine noBreak_of_mem_lines (s := written (ls ++ [[]])) ?_
    rw [lines, h]
    exact List.mem_append_left _ hl
  · intro h
    have hall : ∀ l ∈ ls ++ [[]], NoBreak l := by
      intro l hl
      rcases List.mem_append.mp hl with hl | hl
      · exact h l hl
      · rw [List.mem_singleton.mp hl]
        exact noBreak_nil
    have hsplit := splitLines_written_append hall []
    rw [List.append_nil] at hsplit
    rw [hsplit]
    show (_ ++ [], []) = _
    rw [List.append_nil]

/-- Nothing follows two line ends in a row, if the only empty line is the last. -/
theorem eq_nil_of_two_ends {ls : List Bytes} (hne : [] ∉ ls) {front back : Bytes}
    (h : splitLines (front ++ crlf ++ crlf ++ back) = (ls ++ [[]], [])) : back = [] := by
  have hempty := splitLines_line noBreak_nil back
  rw [List.nil_append] at hempty
  have hfront := splitLines_line (noBreak_unfinished front) (crlf ++ back)
  rw [List.append_assoc, List.append_assoc, splitLines_append, ← List.append_assoc] at h
  obtain ⟨hlines, hunfinished⟩ := Prod.mk.inj h
  have hrest : lines (unfinished front ++ crlf ++ (crlf ++ back)) =
      unfinished front :: [] :: lines back := by
    rw [lines, hfront, lines, hempty]
  rw [hrest] at hlines
  have hend : unfinished (unfinished front ++ crlf ++ (crlf ++ back)) = unfinished back := by
    rw [unfinished, hfront]
    show unfinished (crlf ++ back) = _
    rw [unfinished, hempty]
  rw [hend] at hunfinished
  -- The empty line of the two ends is the last one, so no line ends after it.
  have hback : lines back = [] := by
    cases hmore : lines back with
    | nil => rfl
    | cons line more =>
      have hinit := congrArg List.dropLast hlines
      rw [hmore, List.dropLast_concat, List.dropLast_append_cons, List.dropLast_cons_cons,
        List.dropLast_cons_cons] at hinit
      have hmem : [] ∈ ls := by
        rw [← hinit]
        exact List.mem_append_right _ (List.mem_cons_of_mem _ List.mem_cons_self)
      exact absurd hmem hne
  have hall := written_lines_append_unfinished back
  rw [hback, hunfinished] at hall
  exact hall.symm

end Bytes

/-! ## What a stream is offered -/

/-- The bytes that a call offered to a stream. -/
def Call.offered? : Call → Option Bytes
  | .send offered _ => some offered
  | .connect _ _ _ _ | .receive _ _ | .disconnect _ => none

/-- The buffers that a stream was offered, in order. -/
def offered (calls : List Call) : List Bytes := calls.filterMap Call.offered?

theorem offered_append (calls more : List Call) :
    offered (calls ++ more) = offered calls ++ offered more := List.filterMap_append

theorem offered_of_silent {calls : List Call} (h : Silent calls) : offered calls = [] := by
  unfold offered
  rw [List.filterMap_eq_nil_iff]
  intro call hcall
  cases call with
  | send offered answer => exact absurd hcall (h offered answer)
  | connect | receive | disconnect => rfl

section

variable {τ κ : Type} [Transport τ]

/-- Each send is offered what is left of the byte string. -/
theorem SendsAll.offered_suffix {t : τ} {bytes : Bytes} {o : Outcome Error τ Unit}
    (h : SendsAll t bytes o) : ∀ b ∈ offered o.calls, b <:+ bytes := by
  induction h with
  | done t => exact List.forall_mem_nil _
  | failed | nothing => exact List.forall_mem_singleton.mpr List.suffix_rfl
  | more t t' bytes n o hne hsend _ ih =>
    refine List.forall_mem_cons.mpr ⟨List.suffix_rfl, fun b hb => ?_⟩
    exact (ih b hb).trans (List.drop_suffix _ _)

/-- A byte string is offered as a whole, and then what is left of it. -/
theorem offered_sendAll (t : τ) {bytes : Bytes} (hne : bytes ≠ []) :
    ∃ later, offered (sendAll t bytes).calls = bytes :: later ∧ ∀ b ∈ later, b <:+ bytes := by
  have hrun := sendsAll_sendAll t bytes
  have hsuffix := hrun.offered_suffix
  generalize sendAll t bytes = o at hrun hsuffix ⊢
  cases hrun with
  | done t => exact absurd rfl hne
  | failed | nothing => exact ⟨[], rfl, List.forall_mem_nil _⟩
  | more t t' bytes n o _ hsend hmore =>
    exact ⟨offered o.calls, rfl, fun b hb => hsuffix b (List.mem_cons_of_mem _ hb)⟩

/-! ## The request of an opening -/

/-- What a request for a target is about, with a method. -/
def Target.draft (target : Target) (method : Method) (mode : Mode) (size : Nat) : RequestHead.Draft :=
  ⟨method, target.host, target.path, if mode = .writing ∧ 0 < size then some size else none⟩

/-- The bytes of a request, and how they are met by one who reads them line by line. -/
structure IsRequest (d : RequestHead.Draft) (date : String) (credentials : Credentials)
    (bytes : Bytes) : Prop where
  /-- Each line with its end, and an empty line. -/
  written : bytes = Bytes.written ((d.lines date credentials).map Utf8.encode ++ [[]])
  /-- The lines are met as they were meant. -/
  met_iff : Bytes.splitLines bytes = ((d.lines date credentials).map Utf8.encode ++ [[]], []) ↔
    ∀ text ∈ d.given credentials, OneLine text
  /-- Two line ends in a row stand at the end. -/
  ends : ∃ front, bytes = front ++ Bytes.crlf ++ Bytes.crlf
  /-- If the lines are met as they were meant, two stand there only. -/
  ends_once : (∀ text ∈ d.given credentials, OneLine text) →
    ∀ front back, bytes = front ++ Bytes.crlf ++ Bytes.crlf ++ back → back = []
  /-- Not even one half of a line end stands in a line. -/
  clean_iff : (∀ line ∈ d.lines date credentials, Clean line) ↔
    ∀ text ∈ d.given credentials, Clean text

omit [Transport τ] in
theorem isRequest_signWith (d : RequestHead.Draft) {date : String} (hdate : Clean date)
    (credentials : Credentials) : IsRequest d date credentials (d.signWith date credentials).encode := by
  have hlines : (∀ l ∈ (d.lines date credentials).map Utf8.encode, Bytes.NoBreak l) ↔
      ∀ text ∈ d.given credentials, OneLine text := by
    rw [List.forall_mem_map]
    exact RequestHead.Draft.oneLine_lines hdate
  have hmet := @Bytes.splitLines_block_iff ((d.lines date credentials).map Utf8.encode)
  rw [hlines, ← RequestHead.Draft.encode_signWith] at hmet
  refine ⟨d.encode_signWith date credentials, hmet, ?_, fun hgiven front back heq => ?_,
    RequestHead.Draft.clean_lines hdate⟩
  · obtain ⟨init, last, hlast⟩ : ∃ init last, (d.lines date credentials).map Utf8.encode =
        init ++ [last] := by
      have hne : (d.lines date credentials).map Utf8.encode ≠ [] := List.cons_ne_nil _ _
      exact ⟨_, _, (List.dropLast_concat_getLast hne).symm⟩
    refine ⟨Bytes.written init ++ last, ?_⟩
    rw [d.encode_signWith date credentials, hlast, Bytes.written_append, Bytes.written_append]
    show Bytes.written init ++ (last ++ Bytes.crlf ++ []) ++ ([] ++ Bytes.crlf ++ []) = _
    simp only [List.append_nil, List.nil_append, List.append_assoc]
  · have hne : [] ∉ (d.lines date credentials).map Utf8.encode := by
      intro hmem
      obtain ⟨line, hline, hnil⟩ := List.mem_map.mp hmem
      exact RequestHead.Draft.encode_line_ne_nil hline hnil
    have hsplit := hmet.mpr hgiven
    rw [heq] at hsplit
    exact Bytes.eq_nil_of_two_ends hne hsplit

/-- The stream that an opening sets up is offered nothing, and the opening fails; or it is offered the
request for the target, and then only what is left of that. -/
def OffersRequest (credentials : Credentials) (target : Target) (mode : Mode) (size : Nat) (now : Instant)
    {σ α : Type} (o : Outcome Error σ α) : Prop :=
  (offered o.calls = [] ∧ ∃ e, o.result = .error e) ∨
    ∃ method date request later, mode.method? = some method ∧ now.httpDate? = some date ∧
      offered o.calls = request :: later ∧ (∀ b ∈ later, b <:+ request) ∧
      IsRequest (target.draft method mode size) date credentials request

variable [Connector κ τ]

theorem Connection.offersRequest_openTo (c : Connection τ) (k : κ) (target : Target)
    (credentials : Credentials) (mode : Mode) (size : Nat) (timeouts : Timeouts) (now : Instant) :
    OffersRequest credentials target mode size now
      (c.openTo k target credentials mode size timeouts now) := by
  have hcases := openTo_cases c k target credentials mode size timeouts now
  -- Wherever the head was signed, the calls for it come after the one that set the stream up.
  have hsent : ∀ {t : τ} {method : Method} {head : RequestHead} {calls more : List Call},
      mode.method? = some method →
      RequestHead.Draft.sign? ⟨method, target.host, target.path, (c.begin t mode size).bodyLength⟩
        now credentials = some head →
      (sendAll t head.encode).calls = calls → Silent more →
      ∃ method date request later, mode.method? = some method ∧ now.httpDate? = some date ∧
        offered (.connect target.host target.port timeouts (.ok ()) :: calls ++ more) =
          request :: later ∧
        (∀ b ∈ later, b <:+ request) ∧
        IsRequest (target.draft method mode size) date credentials request := by
    rintro t method head _ more hmethod hsign rfl hsilent
    rw [begin_bodyLength] at hsign
    obtain ⟨date, hdate, rfl⟩ := Option.map_eq_some_iff.mp hsign
    obtain ⟨later, hoffered, hsuffix⟩ :=
      offered_sendAll t (RequestHead.encode_ne_nil ((target.draft method mode size).signWith date
        credentials))
    refine ⟨method, date, _, later, hmethod, hdate, ?_, hsuffix,
      isRequest_signWith _ (Instant.clean_httpDate? hdate) credentials⟩
    rw [offered_append, offered_of_silent hsilent, List.append_nil]
    exact hoffered
  generalize c.openTo k target credentials mode size timeouts now = o at hcases ⊢
  cases hcases with
  | refused e hwhy => exact .inl ⟨rfl, e, rfl⟩
  | unreachable k' e hclosed hconnect => exact .inl ⟨rfl, e, rfl⟩
  | undated k' t method hclosed hmethod hconnect hsign => exact .inl ⟨rfl, _, rfl⟩
  | unsent k' t t' method head e calls hclosed hmethod hconnect hsign hsend =>
    have h := hsent hmethod hsign (congrArg Outcome.calls hsend) silent_nil
    rw [List.append_nil] at h
    exact .inr h
  | ready k' t t' method head calls hclosed hwriting hmethod hconnect hsign hsend =>
    have h := hsent hmethod hsign (congrArg Outcome.calls hsend) silent_nil
    rw [List.append_nil] at h
    exact .inr h
  | asked k' t t' method head calls hclosed hreading hmethod hconnect hsign hsend =>
    exact .inr (hsent hmethod hsign (congrArg Outcome.calls hsend)
      (silent_of_receives (isReceive_of_mem_readResponse _)))

namespace Client

theorem offersRequest_openTarget (client : Client) (k : κ) (target : Target) (mode : Mode) (size : Nat)
    (now : Instant) :
    OffersRequest client.credentials target mode size now
      (client.openTarget k target mode size now) := by
  rw [openTarget]
  cases targetError? target mode with
  | some e => exact .inl ⟨rfl, e, rfl⟩
  | none =>
    dsimp only
    have hopened := Connection.offersRequest_openTo (Connection.new client.bufferCapacity : Connection τ)
      k target client.credentials mode size client.timeouts now
    generalize (Connection.new client.bufferCapacity : Connection τ).openTo k target
      client.credentials mode size client.timeouts now = o at hopened ⊢
    have hdrop : Silent o.state.1.drop := by
      rw [← Connection.close_calls]
      exact Connection.silent_close _
    rcases hopened with ⟨hnone, e, hresult⟩ | ⟨method, date, request, later, hmethod, hdate, hoffered, h⟩
    · rw [hresult]
      refine .inl ⟨?_, e, rfl⟩
      show offered (o.calls ++ o.state.1.drop) = []
      rw [offered_append, hnone, offered_of_silent hdrop]
      rfl
    · refine .inr ⟨method, date, request, later, hmethod, hdate, ?_, h⟩
      cases o.result with
      | ok => exact hoffered
      | error e =>
        show offered (o.calls ++ o.state.1.drop) = _
        rw [offered_append, hoffered, offered_of_silent hdrop, List.append_nil]

/-- What a client asks for. Whatever target or URL it opens, its stream is offered nothing, and the
opening fails; or it is offered the request line, the fields and the empty line, each with its end,
and after that only what is left of them. One who reads line by line meets these lines, and two line
ends in a row at the end only, exactly if neither the path nor the host nor the access key holds a
line end. The host of a URL never holds one, and its path is the text of the URL after the authority
as it is written there. -/
theorem one_request (client : Client) (k : κ) (mode : Mode) (size : Nat) (now : Instant) :
    (∀ target, OffersRequest client.credentials target mode size now
      (client.openTarget k target mode size now)) ∧
    ∀ url, let o := client.openUrl k url mode size now
      (offered o.calls = [] ∧ ∃ e, o.result = .error e) ∨
        ∃ address, ObjectAddress.ofUrl url = .ok address ∧ address.scheme = "http" ∧
          ObjectAddress.rawPath? url.toList = some address.path.toList ∧ Clean address.host ∧
          OffersRequest client.credentials ⟨address.host, address.port, address.path⟩ mode size now o := by
  refine ⟨fun target => offersRequest_openTarget client k target mode size now, fun url => ?_⟩
  dsimp only
  rw [openUrl]
  cases hof : ObjectAddress.ofUrl url with
  | error e => exact .inl ⟨rfl, e, rfl⟩
  | ok address =>
    dsimp only
    split
    · exact .inl ⟨rfl, _, rfl⟩
    · rename_i hhttp
      rw [Decidable.not_not] at hhttp
      obtain ⟨written, read, hread, hhost⟩ := ObjectAddress.host_of_ofUrl hof hhttp
      obtain ⟨-, -, -, -, -, -, -, hpath, -⟩ := ObjectAddress.ofUrl_eq_ok hof
      refine .inr ⟨address, rfl, hhttp, hpath, fun c hc => ?_,
        offersRequest_openTarget client k _ mode size now⟩
      rw [hhost] at hc
      rcases Url.Host.isNameChar_text hread c hc with hname | rfl
      · constructor <;> (rintro rfl; revert hname; decide)
      · decide

end Client

end

/-! ### A path with a line end -/

/-- The URL is read without its line end, and the path keeps it: the stream is offered a head with a
second line that is no field. -/
theorem split_request :
    let client : Client := ⟨⟨"a", "s"⟩, Timeouts.none, 0⟩
    let o := client.openUrl (⟨[{ sends := [.error .timeout] }]⟩ : Scripts)
      "http://storage.local/a\r\nb" .reading 0 ⟨0⟩
    Url.parse "http://storage.local/a\r\nb" = Url.parse "http://storage.local/ab" ∧
      ∃ request rest, offered o.calls = [request] ∧
        Bytes.lines request = Utf8.encode "GET /a" :: Utf8.encode "b HTTP/1.1" :: rest := by
  intro client o
  have hof : ObjectAddress.ofUrl "http://storage.local/a\r\nb" =
      .ok ⟨"http", "storage.local", 80, "/a\r\nb"⟩ := by decide +kernel
  refine ⟨by decide +kernel, ?_⟩
  obtain ⟨head, hsign⟩ : ∃ head, RequestHead.Draft.sign? ⟨.get, "storage.local", "/a\r\nb", none⟩ ⟨0⟩
      ⟨"a", "s"⟩ = some head := ⟨_, rfl⟩
  have hsend : sendAll ({ sends := [.error .timeout] } : Script) head.encode =
      ⟨.error .timeout, {}, [.send head.encode (.error .timeout)]⟩ :=
    sendAll_of_error head.encode_ne_nil rfl
  have hopen : (Connection.new 0 : Connection Script).openTo
      (⟨[{ sends := [.error .timeout] }]⟩ : Scripts) ⟨"storage.local", 80, "/a\r\nb"⟩ ⟨"a", "s"⟩ .reading 0
      Timeouts.none ⟨0⟩ = _ :=
    Connection.openTo_of_unsent rfl rfl (by decide) rfl hsign hsend
  obtain ⟨hget, hpath, -⟩ := RequestHead.eq_of_sign? hsign
  have hrequest : head.encode = Utf8.encode "GET /a" ++ Bytes.crlf ++ (Utf8.encode "b HTTP/1.1" ++
      Bytes.crlf ++ (head.fields.flatMap RequestHead.encodeField ++ Bytes.crlf)) := by
    have hline : Utf8.encode "GET" ++ Utf8.encode " " ++ Utf8.encode "/a\r\nb" ++
        Utf8.encode " HTTP/1.1" ++ Bytes.crlf =
        Utf8.encode "GET /a" ++ Bytes.crlf ++ (Utf8.encode "b HTTP/1.1" ++ Bytes.crlf) := by decide
    rw [RequestHead.encode, hget, hpath, Method.word, hline]
    simp only [List.append_assoc]
  refine ⟨head.encode, Bytes.lines (head.fields.flatMap RequestHead.encodeField ++ Bytes.crlf), ?_, ?_⟩
  · have htarget : Client.targetError? ⟨"storage.local", 80, "/a\r\nb"⟩ .reading = none := by decide
    have hurl : o = client.openTarget (⟨[{ sends := [.error .timeout] }]⟩ : Scripts)
        ⟨"storage.local", 80, "/a\r\nb"⟩ .reading 0 ⟨0⟩ := by
      unfold o
      rw [Client.openUrl, hof]
      exact if_neg (by decide)
    rw [hurl, Client.openTarget, htarget]
    dsimp only
    rw [hopen]
    rfl
  · rw [hrequest, Bytes.lines, Bytes.splitLines_line (Bytes.noBreak_of_not_mem (by decide))]
    dsimp only
    rw [Bytes.lines, Bytes.splitLines_line (Bytes.noBreak_of_not_mem (by decide))]

end ObjectStream
