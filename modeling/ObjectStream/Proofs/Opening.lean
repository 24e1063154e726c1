/-
  ObjectStream.Proofs.Opening

  Opening a connection for reading. However the peer cuts its response, the
  outcome is that of the response as a whole: `Hears` lists what reading the
  response head comes to, and `openTo_for_reading` what opening comes to.

  A response head can also be taken up where an earlier reading of it left off;
  `Awaits` tells how far that was, and `HearsSince` what becomes of the rest.
-/

import ObjectStream.Proofs.HeadReception
import ObjectStream.Proofs.Operations
import ObjectStream.Proofs.Sending

namespace ObjectStream

open Bytes

variable {τ κ : Type} [Transport τ]

/-- When the peer has closed the stream, reading a head ends there. -/
theorem receiveHeadFrom_of_ended {made : List Call} {t : τ} {p : HeadProgress}
    (hdrained : p.buffer.unread = []) (h : Ended t) :
    ∃ t' buffer calls, receiveHeadFrom made t p =
      ⟨.error .connectionReset, (t', { p with buffer }), calls⟩ := by
  have hend := h p.buffer.capacity p.buffer.capacity_pos
  rcases hrecv : Transport.receive t p.buffer.capacity with ⟨received, t'⟩
  rw [hrecv] at hend
  dsimp only at hend
  rw [hend] at hrecv
  exact ⟨_, _, _, receiveHeadFrom_of_end hdrained hrecv⟩

namespace Connection

/-! ## A response head under way -/

/-- A connection that has received these bytes of its response head, and no more. -/
structure Awaits (read : Bytes) (c : Connection τ) : Prop where
  unheard : c.responseReceived = false
  drained : c.buffer.unread = []
  reader : c.reader = .after read
  unended : headEnd? read = none
  within : read.length ≤ maxHeadLength

namespace Awaits

variable {read : Bytes} {c : Connection τ} {t : τ}

section

omit [Transport τ]

/-- Nothing was received yet. -/
theorem start (hunheard : c.responseReceived = false) (hdrained : c.buffer.unread = [])
    (hreader : c.reader = .new) : Awaits [] c :=
  ⟨hunheard, hdrained, hreader, rfl, Nat.zero_le _⟩

theorem congr {c' : Connection τ} (h : Awaits read c)
    (hreceived : c'.responseReceived = c.responseReceived) (hbuffer : c'.buffer = c.buffer)
    (hreader : c'.reader = c.reader) : Awaits read c' := by
  refine ⟨hreceived.trans h.unheard, ?_, hreader.trans h.reader, h.unended, h.within⟩
  rw [hbuffer]
  exact h.drained

/-- Reading goes on with an empty head: it lacks all lines that have ended. -/
theorem progress_eq (h : Awaits read c) :
    (⟨c.buffer, c.reader, .empty⟩ : HeadProgress) =
      .after (lines read).length c.buffer read := by
  rw [HeadProgress.after, List.drop_length, h.reader]
  rfl

/-- A reading that stops between two pieces leaves the connection as far as it came. -/
theorem withHead {read' : Bytes} (hunheard : c.responseReceived = false)
    (hopen : headEnd? read' = none) (hlen : read'.length ≤ maxHeadLength) (t : τ) (skip : Nat)
    {buffer : ReceiveBuffer} (hdrained : buffer.unread = []) :
    Awaits read' (c.beforeHead.withHead t (.after skip buffer read')) := by
  have hunheard' : c.beforeHead.responseReceived = false :=
    (beforeHead_responseReceived c).trans hunheard
  exact ⟨hunheard', hdrained, rfl, hopen, hlen⟩

end

/-- With any peer, reading on completes the head, finds it too large, or comes to a later pause. -/
theorem readResponse (h : Awaits read c) (ht : c.transport = some t) :
    c.readResponse.state.responseReceived = true ∨
      c.readResponse.result = .error HeadReader.tooLarge ∨
      ∃ read', Awaits read' c.readResponse.state := by
  have hpauses := receiveHeadFrom_pauses read [] t h.unended h.within
    (Nat.le_refl (lines read).length) h.drained
  dsimp only at hpauses
  rw [← h.progress_eq] at hpauses
  rcases hloop : receiveHeadFrom [] t ⟨c.buffer, c.reader, .empty⟩ with ⟨result, ⟨t', p⟩, calls⟩
  rw [hloop] at hpauses
  cases result with
  | ok =>
    rw [readResponse_of_complete h.unheard ht hloop]
    exact .inl (afterHead_responseReceived _)
  | error e =>
    rw [readResponse_of_broken h.unheard ht hloop]
    obtain hok | hlarge | ⟨read', buffer', hopen, hlen, hdrained, hp⟩ := hpauses
    · cases hok
    · exact .inr (.inl hlarge)
    · have hp : p = .after (lines read).length buffer' read' := hp
      rw [hp]
      exact .inr (.inr ⟨read', withHead h.unheard hopen hlen t' _ hdrained⟩)

end Awaits

/-- What reading on comes to with a peer that closes the stream after `all`, of which the head lacks
the first `skip` lines. -/
inductive HearsSince (skip : Nat) (c : Connection τ) (all : Bytes) :
    Outcome Error (Connection τ) Unit → Prop where
  /-- The head is complete and is judged; what follows it is the body. -/
  | complete (p : Nat) (t : τ) (progress : HeadProgress) (calls : List Call) (left : Bytes) :
      headEnd? all = some p → p ≤ maxHeadLength → Delivers Ended t left →
      progress.buffer.unread ++ left = all.drop p →
      progress.head = .ofLines ((headLines all).drop skip) →
      HearsSince skip c all ⟨(c.beforeHead.withHead t progress).afterHead.1,
        (c.beforeHead.withHead t progress).afterHead.2, calls⟩
  /-- The head goes on past the largest size. -/
  | overflow (t : τ) (progress : HeadProgress) (calls : List Call) :
      maxHeadLength < all.length → [] ∉ lines (all.take maxHeadLength) →
      progress.head = .ofLines ((lines (all.take maxHeadLength)).drop skip) →
      HearsSince skip c all
        ⟨.error HeadReader.tooLarge, c.beforeHead.withHead t progress, calls⟩
  /-- The peer closes the stream before the head is complete. -/
  | starved (t : τ) (progress : HeadProgress) (calls : List Call) :
      headEnd? all = none → all.length ≤ maxHeadLength →
      progress.head = .ofLines ((lines all).drop skip) →
      HearsSince skip c all ⟨.error .connectionReset, c.beforeHead.withHead t progress, calls⟩

/-- Reading on to the end of the stream gives what all bytes give, those received before included,
but for the lines that had ended by then. -/
theorem Awaits.hearsSince {read last : Bytes} {c : Connection τ} {t : τ} (h : Awaits read c)
    (ht : c.transport = some t) (hpeer : Delivers Ended t last) :
    HearsSince (lines read).length c (read ++ last) c.readResponse := by
  have hreceives := receiveHeadFrom_delivers_since hpeer read [] h.unended h.within
    (Nat.le_refl (lines read).length) h.drained
  rw [← h.progress_eq] at hreceives
  generalize hloop : receiveHeadFrom [] t ⟨c.buffer, c.reader, .empty⟩ = loop at hreceives
  cases hreceives with
  | complete p t' reader buffer calls left hend hle hleft hunread =>
    rw [readResponse_of_complete h.unheard ht hloop]
    exact .complete p t' _ calls left hend hle hleft hunread rfl
  | overflow t' reader buffer calls hover hopen =>
    rw [readResponse_of_broken h.unheard ht hloop]
    exact .overflow t' _ calls hover hopen rfl
  | starved t' buffer made hnone hle hended hempty =>
    -- All bytes were read, and the next receive finds the stream closed.
    obtain ⟨t'', buffer', calls, hend⟩ :=
      receiveHeadFrom_of_ended (p := .after (lines read).length buffer (read ++ last)) hempty hended
    rw [readResponse_of_broken h.unheard ht (hloop.trans hend)]
    exact .starved t'' _ calls hnone hle rfl

/-! ## The response head of a peer -/

/-- What reading the response head comes to, when reading, with a peer that sends `all` and then
closes the stream. -/
inductive Hears (c : Connection τ) (all : Bytes) : Outcome Error (Connection τ) Unit → Prop where
  /-- The head is complete and is judged; what follows it is the body. -/
  | complete (p : Nat) (t : τ) (progress : HeadProgress) (calls : List Call) (left : Bytes) :
      headEnd? all = some p → p ≤ maxHeadLength → Delivers Ended t left →
      progress.buffer.unread ++ left = all.drop p → progress.head = .ofLines (headLines all) →
      Hears c all ⟨progress.head.verdict,
        { c.beforeHead.withHead t progress with
          responseReceived := true
          bodyLength := progress.head.framing.1
          remaining := progress.head.framing.1.getD 0
          chunked := progress.head.framing.2 }, calls⟩
  /-- The head goes on past the largest size. -/
  | overflow (t : τ) (progress : HeadProgress) (calls : List Call) :
      maxHeadLength < all.length → [] ∉ lines (all.take maxHeadLength) →
      Hears c all ⟨.error HeadReader.tooLarge, c.beforeHead.withHead t progress, calls⟩
  /-- The peer closes the stream before the head is complete. -/
  | starved (t : τ) (progress : HeadProgress) (calls : List Call) :
      headEnd? all = none → all.length ≤ maxHeadLength →
      Hears c all ⟨.error .connectionReset, c.beforeHead.withHead t progress, calls⟩

/-- Reading a response head from its first byte comes to one of these. -/
theorem readResponse_hears {c : Connection τ} {t : τ} {all : Bytes} (hmode : c.mode = .reading)
    (hreceived : c.responseReceived = false) (ht : c.transport = some t)
    (hdrained : c.buffer.unread = []) (hreader : c.reader = .new) (hpeer : Delivers Ended t all) :
    Hears c all c.readResponse := by
  have hhears := (Awaits.start hreceived hdrained hreader).hearsSince ht hpeer
  rw [List.nil_append] at hhears
  generalize c.readResponse = o at hhears
  cases hhears with
  | complete p t' progress calls left hend hle hleft hunread hhead =>
    rw [afterHead_withHead_of_reading hmode]
    exact .complete p t' progress calls left hend hle hleft hunread hhead
  | overflow t' progress calls hover hopen => exact .overflow t' progress calls hover hopen
  | starved t' progress calls hnone hle => exact .starved t' progress calls hnone hle

/-- A head that ends in time is complete after it was read. -/
theorem Hears.heard {c : Connection τ} {all : Bytes} {o : Outcome Error (Connection τ) Unit}
    (h : Hears c all o) {p : Nat} (hend : headEnd? all = some p) (hle : p ≤ maxHeadLength) :
    o.state.responseReceived = true ∧ o.state.response = .ofLines (headLines all) ∧
      o.state.mode = c.mode := by
  cases h with
  | complete p t progress calls left _ _ hleft hunread hhead =>
    exact ⟨rfl, hhead, beforeHead_mode c⟩
  | overflow t progress calls hover hlines => exact absurd (nil_mem_lines_take hend hle) hlines
  | starved t progress calls hnone _ =>
    rw [hend] at hnone
    cases hnone

/-! ## Opening for reading -/

variable [Connector κ τ]

/-- With a peer that sends `all` and closes the stream, opening for reading comes to what reading
the response head does. -/
theorem openTo_hears (c : Connection τ) (k : κ) (target : Target) (credentials : Credentials)
    (size : Nat) (timeouts : Timeouts) (now : Instant) {k' : κ} {t t' : τ} {head : RequestHead}
    {calls : List Call} {all : Bytes} (hclosed : c.mode = .unopened) (hport : target.port ≠ 0)
    (hconnect : Connector.connect k target.host target.port timeouts = (.ok t, k'))
    (hsign :
      RequestHead.Draft.sign? ⟨.get, target.host, target.path, none⟩ now credentials = some head)
    (hsend : sendAll t head.encode = ⟨.ok (), t', calls⟩) (hpeer : Delivers Ended t' all) :
    ∃ o, Hears { c.begin t .reading size with transport := some t' } all o ∧
      c.openTo k target credentials .reading size timeouts now =
        (o.after (.connect target.host target.port timeouts (.ok ()) :: calls)).mapState
          (·, k') := by
  -- When reading, the size is not used: no length is declared.
  have hlength : (c.begin t .reading size).bodyLength = none := by
    rw [begin_bodyLength, if_neg (by simp)]
  rw [← hlength] at hsign
  exact ⟨_, readResponse_hears rfl rfl rfl rfl rfl hpeer,
    openTo_of_sent rfl hclosed hport hconnect hsign hsend⟩

/-- Opening for reading, with a peer that sends these bytes in any pieces and closes the stream. The
checks come in the order of the stream: first whether the head ends, which it must do within the
largest size and before the peer closes the stream, then its announced length, then its status line.
Whatever fails, the connection stays open, and a head that is complete tells of the body unless its
length is no number. -/
theorem openTo_for_reading (c : Connection τ) (k : κ) (target : Target) (credentials : Credentials)
    (size : Nat) (timeouts : Timeouts) (now : Instant) {k' : κ} {t t' : τ} {head : RequestHead}
    {calls : List Call} {bytes : Bytes} (hclosed : c.mode = .unopened) (hport : target.port ≠ 0)
    (hconnect : Connector.connect k target.host target.port timeouts = (.ok t, k'))
    (hsign :
      RequestHead.Draft.sign? ⟨.get, target.host, target.path, none⟩ now credentials = some head)
    (hsend : sendAll t head.encode = ⟨.ok (), t', calls⟩) (hpeer : Delivers Ended t' bytes) :
    let o := c.openTo k target credentials .reading size timeouts now
    let opened := o.state.1
    let response := ResponseHead.ofLines (headLines bytes)
    opened.mode = .reading ∧ opened.transport.isSome = true ∧
    (headEnd? bytes = none → bytes.length ≤ maxHeadLength →
      o.result = .error .connectionReset ∧ opened.responseReceived = false) ∧
    ((∀ p, headEnd? bytes = some p → maxHeadLength < p) → maxHeadLength < bytes.length →
      o.result = .error (.other "response header block too large") ∧
        opened.responseReceived = false) ∧
    (∀ p, headEnd? bytes = some p → p ≤ maxHeadLength →
      opened.responseReceived = true ∧ opened.response = response ∧
      (∃ stream left, opened.transport = some stream ∧ Delivers Ended stream left ∧
        opened.buffer.unread ++ left = bytes.drop p) ∧
      (∀ value, response.field? "content-length" = some value → (∀ n, ¬Number.Numeral value n) →
        o.result = .error (.other ("invalid content-length: " ++ Quoted.encode value)) ∧
        opened.contentLength = .error (.noSuchField "content-length") ∧ opened.remaining = 0 ∧
        opened.chunked = false) ∧
      (∀ length, response.Announces length →
        opened.contentLength = (match length with
          | some n => .ok n
          | none => .error (.noSuchField "content-length")) ∧
        opened.remaining = length.getD 0 ∧
        (opened.chunked = true ↔ ∃ value, response.field? "transfer-encoding" = some value ∧
          "chunked".toList <:+: value.toList) ∧
        ((∀ code, ¬Status.Line response.statusLine code) →
          o.result = .error (.unsupported "response is not HTTP/1.1")) ∧
        (∀ code, Status.Line response.statusLine code →
          o.result =
            if code = 200 then .ok ()
            else if code = 403 then .error .forbidden
            else if code = 404 then .error .notFound
            else .error (.other ("unexpected HTTP status " ++ toString code))))) := by
  intro o opened response
  obtain ⟨heard, hears, hopen⟩ :=
    openTo_hears c k target credentials size timeouts now hclosed hport hconnect hsign hsend hpeer
  have hresult : o.result = heard.result := congrArg Outcome.result hopen
  have hopened : opened = heard.state := congrArg (·.state.1) hopen
  rw [hresult, hopened]
  clear_value o opened
  cases hears with
  | complete p t progress calls left hend hle hleft hunread hhead =>
    have hresponse : progress.head = response := hhead
    refine ⟨rfl, rfl, fun hnone _ => ?_, fun hlate _ => ?_, fun q hq _ => ?_⟩
    · rw [hend] at hnone
      cases hnone
    · exact absurd (hlate p hend) (Nat.not_lt.mpr hle)
    · -- The head is complete, and is judged: first its announced length, then its status line.
      obtain rfl : p = q := Option.some.inj (hend.symm.trans hq)
      refine ⟨rfl, hhead, ⟨t, left, rfl, hleft, hunread⟩, fun value hfield hnumeral => ?_,
        fun length hlength => ?_⟩
      · rw [← hresponse] at hfield
        obtain ⟨hframing, hverdict⟩ := ResponseHead.judged_of_not_numeral hfield hnumeral
        rw [contentLength_of_open (show Mode.reading ≠ .unopened by decide), hframing]
        exact ⟨hverdict, rfl, rfl, rfl⟩
      · rw [← hresponse] at hlength ⊢
        have hframing := ResponseHead.framing_of_announces hlength
        rw [contentLength_of_open (show Mode.reading ≠ .unopened by decide), hframing]
        refine ⟨rfl, rfl, ResponseHead.isChunked_iff, fun hline => ?_, fun code hline => ?_⟩
        · exact ResponseHead.verdict_of_not_line hlength hline
        · rw [← Status.result_ofCode]
          exact ResponseHead.verdict_of_line hlength hline
  | overflow t progress calls hover hlines =>
    refine ⟨rfl, rfl, fun _ hle => ?_, fun _ _ => ⟨rfl, rfl⟩, fun q hq hle => ?_⟩
    · exact absurd hover (Nat.not_lt.mpr hle)
    · exact absurd (nil_mem_lines_take hq hle) hlines
  | starved t progress calls hnone hle =>
    refine ⟨rfl, rfl, fun _ _ => ⟨rfl, rfl⟩, fun _ hover => ?_, fun q hq _ => ?_⟩
    · exact absurd hover (Nat.not_lt.mpr hle)
    · rw [hnone] at hq
      cases hq

/-- A refusal in three pieces: `HTTP/1.1 403 N`, `Content-Length: 3`, and the body `abc`. -/
def refusal : List Bytes :=
  [[72, 84, 84, 80, 47, 49, 46, 49, 32, 52, 48, 51, 32, 78, 13],
    [10, 67, 111, 110, 116, 101, 110, 116, 45, 76, 101, 110, 103, 116, 104, 58, 32, 51, 13, 10, 13],
    [10, 97, 98, 99]]

/-- A refused request leaves the connection open, with a body of three bytes to read. -/
theorem openTo_for_reading_refused :
    let o := (new 0 : Connection Script).openTo (⟨[{ receipts := refusal.map .data }]⟩ : Scripts)
      ⟨"h", 80, "/o"⟩ ⟨"a", "s"⟩ .reading 0 ⟨none, none⟩ ⟨0⟩
    o.result = .error .forbidden ∧ o.state.1.mode = .reading ∧ o.state.1.remaining = 3 := by
  obtain ⟨head, hsign⟩ :
      ∃ head, RequestHead.Draft.sign? ⟨.get, "h", "/o", none⟩ ⟨0⟩ ⟨"a", "s"⟩ = some head := ⟨_, rfl⟩
  obtain ⟨calls, hsend⟩ :=
    Script.sendAll_of_unbounded (s := { receipts := refusal.map .data }) rfl rfl head.encode
  have hpeer : Delivers Ended ({ receipts := refusal.map .data } : Script) refusal.flatten :=
    Script.delivers refusal (by decide) rfl
  have hnumeral : Number.Numeral "3" 3 := Number.word64?_eq_some.mp (by decide)
  obtain ⟨hmode, -, -, -, hcomplete⟩ :=
    openTo_for_reading (new 0) (⟨[{ receipts := refusal.map .data }]⟩ : Scripts) ⟨"h", 80, "/o"⟩
      ⟨"a", "s"⟩ 0 ⟨none, none⟩ ⟨0⟩ rfl (by decide) rfl hsign hsend hpeer
  obtain ⟨-, -, -, -, hlength⟩ := hcomplete 37 (by decide) (by decide)
  obtain ⟨-, hremaining, -, -, hstatus⟩ := hlength (some 3) ⟨"3", by decide, hnumeral⟩
  exact ⟨hstatus 403 ⟨'4', '0', '3', " N".toList, by decide⟩, hmode, hremaining⟩

end Connection
end ObjectStream
