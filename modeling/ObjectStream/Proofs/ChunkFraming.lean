/-
  ObjectStream.Proofs.ChunkFraming

  Bodies that come in chunks, which are not read. `ResponseHead.Unreadable` says
  which bodies are refused, and `read_refused_iff` that every read of them is and
  that no read of another one is.

  A response tells of chunks in its transfer codings, whose names have no case. The
  rule goes by small letters. So a body in chunks is refused where the coding is
  named in small letters (`chunked_response_refused`), and one that is named in
  others is handed out with its framing, if a length is announced beside it
  (`capital_chunks_handed_out`).
-/

import ObjectStream.Proofs.FieldLookup

namespace ObjectStream

open Bytes

/-! ## Transfer codings -/

/-- The names in a list of transfer codings: what stands between the commas, without parameters. -/
def codings (value : String) : List String :=
  (value.toList.splitOn ',').map fun part =>
    Ascii.trimText (String.ofList (part.takeWhile (· ≠ ';')))

/-- A value that names the coding in chunks, in any case of ASCII letters. -/
def NamesChunks (value : String) : Prop :=
  ∃ coding ∈ codings value, Ascii.equalFold coding "chunked" = true

instance (value : String) : Decidable (NamesChunks value) := inferInstanceAs (Decidable (∃ _ ∈ _, _))

theorem infix_intercalate {α : Type} (separator : List α) {parts : List (List α)} {part : List α}
    (h : part ∈ parts) : part <:+: separator.intercalate parts := by
  induction parts with
  | nil => cases h
  | cons first rest ih =>
    cases rest with
    | nil => rw [List.mem_singleton.mp h, List.intercalate_singleton]
    | cons next rest =>
      rw [List.intercalate_cons_cons]
      rcases List.mem_cons.mp h with rfl | h
      · rw [List.append_assoc]
        exact (List.prefix_append _ _).isInfix
      · exact (ih h).trans (List.suffix_append _ _).isInfix

theorem Ascii.infix_trimText (text : String) : (trimText text).toList <:+: text.toList := by
  have hback : ∀ chars : List Char, (chars.reverse.dropWhile isBlankChar).reverse <:+: chars := by
    intro chars
    have hsuffix := List.reverse_prefix.mpr (List.dropWhile_suffix (l := chars.reverse) isBlankChar)
    rw [List.reverse_reverse] at hsuffix
    exact hsuffix.isInfix
  rw [trimText, String.toList_ofList]
  exact (hback _).trans (List.dropWhile_suffix _).isInfix

/-- A coding stands in the value as it is written there. -/
theorem infix_of_mem_codings {value coding : String} (h : coding ∈ codings value) :
    coding.toList <:+: value.toList := by
  obtain ⟨part, hpart, rfl⟩ := List.mem_map.mp h
  have hvalue : part <:+: value.toList := by
    have hinfix := infix_intercalate [','] hpart
    rwa [List.intercalate_splitOn] at hinfix
  have hname : (String.ofList (part.takeWhile (· ≠ ';'))).toList <:+: part := by
    rw [String.toList_ofList]
    exact (List.takeWhile_prefix _).isInfix
  exact (Ascii.infix_trimText _).trans (hname.trans hvalue)

/-! ## Bodies that are not read -/

/-- The heads of bodies that are not read: the transfer coding tells of chunks, in small letters, or no
length is announced. -/
def ResponseHead.Unreadable (head : ResponseHead) : Prop :=
  (∃ value, head.field? "transfer-encoding" = some value ∧ "chunked".toList <:+: value.toList) ∨
    ∀ n, ¬head.Announces (some n)

/-- They are those that leave the length of the body open, or tell of chunks. -/
theorem ResponseHead.unreadable_iff {head : ResponseHead} :
    head.Unreadable ↔ head.framing.1 = none ∨ head.framing.2 = true := by
  rw [Unreadable, ← isChunked_iff]
  cases hfield : head.field? "content-length" with
  | none =>
    have hopen : head.Announces none := hfield
    have hnone : ∀ n, ¬head.Announces (some n) := by
      rintro n ⟨value, hvalue, -⟩
      rw [hfield] at hvalue
      cases hvalue
    rw [framing_of_announces hopen]
    exact ⟨fun _ => .inl rfl, fun _ => .inr hnone⟩
  | some value =>
    by_cases hnumeral : ∃ n, Number.Numeral value n
    · obtain ⟨n, hn⟩ := hnumeral
      have hlength : head.Announces (some n) := ⟨value, hfield, hn⟩
      rw [framing_of_announces hlength]
      constructor
      · rintro (hchunked | hno)
        · exact .inr hchunked
        · exact absurd hlength (hno n)
      · rintro (hno | hchunked)
        · cases hno
        · exact .inl hchunked
    · -- A length that is no number counts as none.
      have hno : ∀ n, ¬Number.Numeral value n := fun n hn => hnumeral ⟨n, hn⟩
      rw [(judged_of_not_numeral hfield hno).1]
      refine ⟨fun _ => .inl rfl, fun _ => .inr ?_⟩
      rintro n ⟨value', hvalue', hn⟩
      obtain rfl : value = value' := Option.some.inj (hfield.symm.trans hvalue')
      exact hno n hn

namespace Connection

variable {τ κ : Type} [Transport τ]

/-- A connection whose reads are all refused, without a call. -/
def RefusesReads (c : Connection τ) : Prop := ∀ room, c.read room = .fail c .unboundedBody

/-- Reads are refused when the framing of the body is not supported, and only then. -/
theorem refusesReads_iff {c : Connection τ} (hmode : c.mode = .reading) :
    c.RefusesReads ↔ c.framingError? ≠ none := by
  cases hframing : c.framingError? with
  | some e =>
    refine ⟨fun _ => Option.some_ne_none e, fun _ room => ?_⟩
    rw [read_of_framingError hmode hframing, eq_of_framingError? hframing]
  | none =>
    refine ⟨fun hrefused => ?_, fun h => absurd rfl h⟩
    -- A read without room reports what was deferred, or nothing.
    have hread := hrefused 0
    rw [read, if_neg (not_not_intro hmode), hframing] at hread
    cases hdeferred : c.deferred with
    | some e =>
      rw [hdeferred] at hread
      have hkept := congrArg (·.state.deferred) hread
      exact absurd (hkept.trans hdeferred) (Option.some_ne_none e).symm
    | none =>
      rw [hdeferred] at hread
      dsimp only at hread
      rw [Nat.zero_min, if_pos rfl] at hread
      cases congrArg Outcome.result hread

/-- Bytes that came with the head are handed out first. -/
theorem read_of_buffered {c : Connection τ} (hmode : c.mode = .reading)
    (hframing : c.framingError? = none) (hdeferred : c.deferred = none) {room : Nat}
    (henough : min room c.remaining ≤ c.buffer.unread.length) :
    (c.read room).result = .ok (c.buffer.unread.take (min room c.remaining)) := by
  rw [read, if_neg (not_not_intro hmode), hframing, hdeferred]
  dsimp only [ReceiveBuffer.take]
  split
  · rename_i hzero
    rw [hzero]
    rfl
  · rw [if_pos (List.length_take_of_le henough)]
    rfl

/-- On a connection that is open for reading, all reads are refused before the response head is complete
and when it is that of an unreadable body, and otherwise none is. -/
theorem read_refused_iff {c : Connection τ} (hc : Consistent c) (hmode : c.mode = .reading) :
    c.RefusesReads ↔ c.responseReceived = false ∨ c.response.Unreadable := by
  have hframed := hc.framed hmode
  rw [refusesReads_iff hmode, Ne, framingError?_eq_none]
  cases hheard : c.responseReceived with
  | false =>
    rw [hheard, if_neg Bool.false_ne_true] at hframed
    obtain ⟨hlength, -⟩ := Prod.mk.inj hframed
    refine ⟨fun _ => .inl rfl, fun _ hknown => ?_⟩
    rw [hlength] at hknown
    cases hknown.2
  | true =>
    rw [hheard, if_pos rfl] at hframed
    rw [ResponseHead.unreadable_iff, ← hframed]
    dsimp only
    -- A body is framed when its length is known and no chunks are told of.
    cases c.bodyLength <;> cases c.chunked <;> simp

/-! ## The response of an opening -/

omit [Transport τ] in
/-- Bytes come from receives. -/
theorem received_of_no_receive {calls : List Call} (h : ∀ call ∈ calls, call.isReceive = false) :
    calls.flatMap Call.received = [] := by
  rw [List.flatMap_eq_nil_iff]
  intro call hcall
  cases call with
  | receive room answer => cases h _ hcall
  | connect | send | disconnect => rfl

variable [Connector κ τ]

/-- With any peer, an opening for reading that completes the response head has the lines that were
received. -/
theorem answers_openTo (c : Connection τ) (k : κ) (target : Target) (credentials : Credentials)
    (size : Nat) (timeouts : Timeouts) (now : Instant) (hclosed : c.mode = .unopened) :
    let o := c.openTo k target credentials .reading size timeouts now
    o.state.1.mode = .reading → o.state.1.responseReceived = true →
      Answers (.ofLines (headLines (o.calls.flatMap Call.received))) o.state.1 := by
  have hcases := openTo_cases c k target credentials .reading size timeouts now
  generalize c.openTo k target credentials .reading size timeouts now = o at hcases ⊢
  intro o hmode hheard
  cases hcases with
  | refused | unreachable => cases hclosed.symm.trans hmode
  -- No head is complete before it is asked for.
  | undated | unsent => simp [o] at hheard
  | ready k' t t' method head calls _ hwriting => cases hwriting
  | asked k' t t' method head calls _ _ hmethod hconnect hsign hsend =>
    have hopen : (c.begin t .reading size).mode ≠ .unopened := by
      rw [begin_mode]
      decide
    have hbegun : Consistent ({ c.begin t .reading size with transport := some t' } : Connection τ) :=
      (consistent_begin c (by decide) size t).withTransport hopen t'
    have hawaits : Awaits [] ({ c.begin t .reading size with transport := some t' } : Connection τ) :=
      .start rfl rfl rfl
    have hanswers := hawaits.answers hbegun hopen hheard
    have hsends := (sendAll_calls t head.encode).1
    rw [hsend] at hsends
    -- All that was received came after the request.
    have hnothing : (Call.connect target.host target.port timeouts (.ok ()) :: calls).flatMap
        Call.received = [] :=
      received_of_no_receive (List.forall_mem_cons.mpr ⟨rfl, hsends⟩)
    show Answers (.ofLines (headLines ((_ ++ _ : List Call).flatMap Call.received))) _
    rw [List.flatMap_append, hnothing]
    exact hanswers

/-- A body in chunks is not read where it is told of in small letters. In every state of a session that
reads, each read is refused without a call and without a change, before the response head is complete
and when it is that of an unreadable body, and otherwise none is refused so. After an opening with any
peer that has completed the head, whatever is done but closing: the head is that of the lines that were
received. So reads are refused if the last line of the transfer encoding names the coding in small
letters, whatever length is announced beside it; where that line has the name in small letters nowhere,
they are refused only for the want of a length. -/
theorem chunked_response_refused {s : Connection τ × κ} (hs : Reachable s) :
    (s.1.mode = .reading →
      (s.1.RefusesReads ↔ s.1.responseReceived = false ∨ s.1.response.Unreadable)) ∧
    (s.1.mode = .unopened → ∀ target credentials size timeouts now,
      let o := s.1.openTo s.2 target credentials .reading size timeouts now
      o.state.1.mode = .reading → o.state.1.responseReceived = true →
      let lines := headLines (o.calls.flatMap Call.received)
      ∀ ops : List Operation, (∀ op ∈ ops, op ≠ .close) →
        let c := (Outcome.last o.state (Outcome.series (fun s op => perform op s) o.state ops)).1
        c.response = .ofLines lines ∧ (c.RefusesReads ↔ c.response.Unreadable) ∧
        ∀ line, FieldLine.lastLine? "transfer-encoding" lines.tail = some line →
          ("chunked" ∈ codings (FieldLine.value line) → c.RefusesReads) ∧
          (¬"chunked".toList <:+: (FieldLine.value line).toList →
            (c.RefusesReads ↔ ∀ n, ¬c.response.Announces (some n)))) := by
  have hc := consistent_of_reachable hs
  refine ⟨read_refused_iff hc, ?_⟩
  intro hclosed target credentials size timeouts now o hmode hheard lines ops hops c
  have hopened : Answers (.ofLines lines) o.state.1 :=
    answers_openTo s.1 s.2 target credentials size timeouts now hclosed hmode hheard
  have hlater : Answers (.ofLines lines) c := hopened.series hops
  have hreading : c.mode = .reading :=
    (mode_series hopened.consistent hopened.opened hops).trans hmode
  have hrefused := read_refused_iff hlater.consistent hreading
  have hknown : c.responseReceived ≠ false := by
    rw [hlater.heard]
    decide
  -- The head is complete, so what is left is whether its body is readable.
  rw [or_iff_right hknown] at hrefused
  refine ⟨hlater.response, hrefused, fun line hline => ?_⟩
  have hfield : c.response.field? "transfer-encoding" = some (FieldLine.value line) := by
    have hlookup := FieldLine.field?_ofLines "transfer-encoding" lines
    have hname : Ascii.lower "transfer-encoding" = "transfer-encoding" := by decide
    rw [hline, hname, ← hlater.response] at hlookup
    exact hlookup
  constructor
  · intro hnamed
    exact hrefused.mpr (.inl ⟨_, hfield, infix_of_mem_codings hnamed⟩)
  · intro hno
    rw [hrefused, ResponseHead.Unreadable, or_iff_right]
    rintro ⟨value, hvalue, hchunked⟩
    obtain rfl : FieldLine.value line = value := Option.some.inj (hfield.symm.trans hvalue)
    exact hno hchunked

/-! ## Downloads of one piece -/

/-- Opening for reading, over a stream that gives these bytes at once. -/
def downloading (bytes : Bytes) : Outcome Error (Connection Script × Scripts) Unit :=
  (new 128).openTo (⟨[{ receipts := [.data bytes] }]⟩ : Scripts) ⟨"h", 80, "/o"⟩ ⟨"a", "s"⟩ .reading 0
    ⟨none, none⟩ ⟨0⟩

/-- The head is judged, and what follows it is left in the buffer. -/
theorem downloading_opens (bytes : Bytes) {p : Nat} (hend : headEnd? bytes = some p)
    (hroom : bytes.length ≤ 128) :
    ∃ (t : Script) (progress : HeadProgress), progress.head = .ofLines (headLines bytes) ∧
      progress.buffer.unread = bytes.drop p ∧
      (downloading bytes).result = progress.head.verdict ∧
      (downloading bytes).calls.flatMap Call.received = bytes ∧
      (downloading bytes).state.1 =
        { (((new 128).begin { receipts := [.data bytes] } .reading 0).beforeHead.withHead t progress) with
          responseReceived := true
          bodyLength := progress.head.framing.1
          remaining := progress.head.framing.1.getD 0
          chunked := progress.head.framing.2 } := by
  obtain ⟨head, hsign⟩ :
      ∃ head, RequestHead.Draft.sign? ⟨.get, "h", "/o", none⟩ ⟨0⟩ ⟨"a", "s"⟩ = some head := ⟨_, rfl⟩
  obtain ⟨calls, hsend⟩ :=
    Script.sendAll_of_unbounded (s := { receipts := [.data bytes] }) rfl rfl head.encode
  have hawaits : Awaits [] ((new 128).begin { receipts := [.data bytes] } .reading 0 :
      Connection Script) := .start rfl rfl rfl
  have hrecv : Transport.receive ({ receipts := [.data bytes] } : Script) 128 =
      (.ok bytes, { receipts := [] }) := by
    change Script.receive _ 128 = _
    rw [Script.receive_data rfl, Script.leave, if_pos (List.drop_eq_nil_of_le hroom),
      List.take_of_length_le hroom]
  have hle : p ≤ maxHeadLength := (headEnd?_le hend).trans (hroom.trans (by decide))
  obtain ⟨progress, hhead, hunread, heard⟩ := hawaits.complete_of_piece rfl hrecv hend hle
  rw [afterHead_withHead_of_reading rfl] at heard
  have hopen : downloading bytes = _ := openTo_of_sent rfl rfl (by decide) rfl hsign hsend
  rw [if_pos rfl] at hopen
  change downloading bytes = (Outcome.after _ (((new 128).begin _ .reading 0 :
    Connection Script).readResponse)).mapState _ at hopen
  rw [heard] at hopen
  have hnothing : (Call.connect "h" 80 ⟨none, none⟩ (.ok ()) :: calls).flatMap Call.received = [] := by
    have hsends := (sendAll_calls ({ receipts := [.data bytes] } : Script) head.encode).1
    rw [hsend] at hsends
    exact received_of_no_receive (List.forall_mem_cons.mpr ⟨rfl, hsends⟩)
  refine ⟨{ receipts := [] }, progress, hhead, hunread, ?_, ?_, ?_⟩
  · rw [hopen]
    rfl
  · rw [hopen]
    show ((_ ++ _ : List Call).flatMap Call.received) = bytes
    rw [List.flatMap_append, hnothing]
    exact List.append_nil bytes
  · rw [hopen]
    rfl

/-- A response whose transfer coding is written so, with a length beside it, and the first chunk. -/
def chunkedResponse (coding : String) : Bytes :=
  Utf8.encode ("HTTP/1.1 200 O\r\nTransfer-Encoding: " ++ coding ++
    "\r\nContent-Length: 3\r\n\r\n1\r\n")

/-- In small letters it is refused. -/
theorem chunked_response_refused_beside_length :
    (downloading (chunkedResponse "chunked")).state.1.response.Announces (some 3) ∧
      (downloading (chunkedResponse "chunked")).state.1.RefusesReads := by
  obtain ⟨t, progress, hhead, -, -, hreceived, hstate⟩ :=
    downloading_opens (chunkedResponse "chunked") (p := 65) (by decide) (by decide)
  have hmode : (downloading (chunkedResponse "chunked")).state.1.mode = .reading := by
    rw [hstate]
    rfl
  have hheard : (downloading (chunkedResponse "chunked")).state.1.responseReceived = true := by
    rw [hstate]
  have hstart : Reachable ((new 128, ⟨[{ receipts := [.data (chunkedResponse "chunked")] }]⟩) :
      Connection Script × Scripts) := .new 128 _
  obtain ⟨hresponse, -, hline⟩ :=
    (chunked_response_refused hstart).2 rfl ⟨"h", 80, "/o"⟩ ⟨"a", "s"⟩ 0 ⟨none, none⟩ ⟨0⟩ hmode hheard []
      (List.forall_mem_nil _)
  change (downloading (chunkedResponse "chunked")).state.1.response =
    .ofLines (headLines ((downloading (chunkedResponse "chunked")).calls.flatMap Call.received))
    at hresponse
  change ∀ line, FieldLine.lastLine? "transfer-encoding" (headLines
    ((downloading (chunkedResponse "chunked")).calls.flatMap Call.received)).tail = some line → _ at hline
  rw [hreceived] at hresponse hline
  obtain ⟨hnamed, -⟩ := hline (Utf8.encode "Transfer-Encoding: chunked") (by decide)
  refine ⟨?_, hnamed (by decide)⟩
  rw [hresponse]
  exact ⟨"3", by decide, Number.word64?_eq_some.mp (by decide)⟩

/-- In other letters it is handed out, with the size line of the chunk for the bytes of the object. -/
theorem capital_chunks_handed_out :
    NamesChunks "Chunked" ∧
      (downloading (chunkedResponse "Chunked")).result = .ok () ∧
      (downloading (chunkedResponse "Chunked")).state.1.responseField "Transfer-Encoding" =
        .ok "Chunked" ∧
      ((downloading (chunkedResponse "Chunked")).state.1.read 8).result =
        .ok (Utf8.encode "1\r\n") ∧
      ¬(downloading (chunkedResponse "Chunked")).state.1.RefusesReads := by
  obtain ⟨t, progress, hhead, hunread, hresult, -, hstate⟩ :=
    downloading_opens (chunkedResponse "Chunked") (p := 65) (by decide) (by decide)
  have hverdict : progress.head.verdict = .ok () := by
    rw [hhead]
    decide
  have hframing : progress.head.framing = (some 3, false) := by
    rw [hhead]
    decide
  have hbody : progress.buffer.unread = Utf8.encode "1\r\n" := by
    rw [hunread]
    decide
  rw [hframing] at hstate
  have hread : ((downloading (chunkedResponse "Chunked")).state.1.read 8).result =
      .ok (Utf8.encode "1\r\n") := by
    have henough : min 8 3 ≤ progress.buffer.unread.length := by
      rw [hbody]
      decide
    rw [hstate, read_of_buffered rfl rfl rfl henough]
    show Except.ok (progress.buffer.unread.take 3) = _
    rw [hbody]
    rfl
  refine ⟨by decide, hresult.trans hverdict, ?_, hread, fun hrefused => ?_⟩
  · have hfield : (downloading (chunkedResponse "Chunked")).state.1.response.field?
        "transfer-encoding" = some "Chunked" := by
      rw [hstate]
      show progress.head.field? _ = _
      rw [hhead]
      decide
    have hopen : (downloading (chunkedResponse "Chunked")).state.1.isOpen = true := by
      rw [hstate]
      rfl
    have hname : Ascii.lower "Transfer-Encoding" = "transfer-encoding" := by decide
    rw [responseField, if_pos hopen, hname, hfield]
  · rw [hrefused 8] at hread
    cases hread

end Connection
end ObjectStream
