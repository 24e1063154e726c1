/-
  ObjectStream.Proofs.Upload

  Writing a body of declared length, whatever the stream does. `WritesBody` is what
  every write keeps, also the one that reads the response; what the stream has
  accepted and what remains always add up to the declared length.
-/

import ObjectStream.Proofs.Sending
import ObjectStream.Proofs.Session

namespace ObjectStream

/-! ## The request head of an upload -/

namespace RequestHead

/-- A signed head asks for what its draft does, and has its length in the `Content-Length` field. -/
theorem eq_of_sign? {d : Draft} {now : Instant} {credentials : Credentials} {head : RequestHead}
    (h : d.sign? now credentials = some head) :
    head.method = d.method ∧ head.path = d.path ∧
      head.field? "Content-Length" = d.contentLength.map toString := by
  -- The fields that stand before it have other names.
  have hhost : Ascii.equalFold "Host" "Content-Length" = false := by decide
  have htype : Ascii.equalFold "Content-Type" "Content-Length" = false := by decide
  have hdate : Ascii.equalFold "Date" "Content-Length" = false := by decide
  have hauthorization : Ascii.equalFold "Authorization" "Content-Length" = false := by decide
  have hlength : Ascii.equalFold "Content-Length" "Content-Length" = true := by decide
  rw [Draft.sign?, Option.map_eq_some_iff] at h
  obtain ⟨date, -, rfl⟩ := h
  refine ⟨rfl, rfl, ?_⟩
  cases hd : d.contentLength with
  | none => simp [field?, Draft.signWith, Draft.fields, hd, hhost, htype, hdate, hauthorization]
  | some n =>
    simp [field?, Draft.signWith, Draft.fields, hd, hhost, htype, hdate, hauthorization, hlength]

end RequestHead

variable {τ : Type} [Transport τ]

namespace Connection

/-! ## One write -/

section

variable {τ : Type} {size : Nat} {c : Connection τ}

/-- A connection that writes a body of `size` bytes. -/
structure WritesBody (size : Nat) (c : Connection τ) : Prop where
  consistent : Consistent c
  writing : c.mode = .writing
  length : c.bodyLength = some size
  whole : c.chunked = false
  /-- The response is not read before the body is complete. -/
  unheard : 0 < c.remaining → c.responseReceived = false

theorem WritesBody.framing (h : WritesBody size c) : c.framingError? = none :=
  framingError?_eq_none.mpr ⟨h.whole, by rw [h.length]; rfl⟩

/-- The bytes that the stream accepted in a write. -/
def acceptedIn (o : Outcome Error (Connection τ) Nat) : Bytes := o.calls.flatMap Call.accepted

/-- What the stream accepted in a write is a front of what was offered, of the length that the write
tells if it tells one. -/
def AcceptsFront (bytes : Bytes) (o : Outcome Error (Connection τ) Nat) : Prop :=
  acceptedIn o <+: bytes ∧ ∀ n, o.result = .ok n → acceptedIn o = bytes.take n

end

variable {size : Nat} {c : Connection τ}

/-- What a write does while a body is being written. -/
theorem WritesBody.write_cases (h : WritesBody size c) (bytes : Bytes) :
    Writes c bytes (c.write bytes) := by
  obtain ⟨t, ht⟩ := h.consistent.exists_transport (by rw [h.writing]; decide)
  exact Connection.write_cases h.writing h.framing ht bytes

/-- The response changes nothing of a body that was written. -/
theorem WritesBody.readResponse_afterSend (h : WritesBody size c) (t : τ) (count : Nat) :
    (c.afterSend t count).readResponse.state.bodyLength = some size ∧
      (c.afterSend t count).readResponse.state.remaining = c.remaining - count ∧
      (c.afterSend t count).readResponse.state.chunked = false := by
  have hnot : (c.afterSend t count).mode ≠ .reading := by
    show c.mode ≠ .reading
    rw [h.writing]
    decide
  obtain ⟨hlength, hremaining, hchunked⟩ := readResponse_of_not_reading hnot
  exact ⟨hlength.trans h.length, hremaining, hchunked.trans h.whole⟩

/-- A write keeps the declared length, whatever the response says. -/
theorem WritesBody.write (h : WritesBody size c) (bytes : Bytes) :
    WritesBody size (c.write bytes).state := by
  have hcases := h.write_cases bytes
  have hconsistent := consistent_write h.consistent bytes
  have hwriting := (write_mode h.consistent bytes).trans h.writing
  generalize c.write bytes = o at hcases hconsistent hwriting ⊢
  cases hcases with
  | refused hlong => exact h
  | failed t t' e hfits ht hsend => exact ⟨hconsistent, hwriting, h.length, h.whole, h.unheard⟩
  | accepted t t' count hfits ht hsend hle hlt =>
    have hdue : 0 < c.remaining := Nat.zero_lt_of_lt hlt
    exact ⟨hconsistent, hwriting, h.length, h.whole, fun _ => h.unheard hdue⟩
  | completed t t' count hfits ht hsend hle hall =>
    obtain ⟨hlength, hremaining, hchunked⟩ := h.readResponse_afterSend t' count
    -- Nothing remains, so that the response may have been read.
    have hdone : c.remaining - count = 0 := by omega
    refine ⟨hconsistent, hwriting, hlength, hchunked, fun hpos => ?_⟩
    exact absurd (hremaining.trans hdone) (Nat.ne_of_gt hpos)

/-- In a write that completes the body nothing is accepted after the send. -/
theorem accepted_of_completed (c : Connection τ) (bytes : Bytes) (count : Nat) :
    (Call.send bytes (.ok count) :: c.readResponse.calls).flatMap Call.accepted =
      bytes.take count := by
  rw [List.flatMap_cons, accepted_readResponse, List.append_nil]
  rfl

/-- The stream accepts a front of what a write offers. -/
theorem Writes.acceptsFront {bytes : Bytes} {o : Outcome Error (Connection τ) Nat}
    (h : Writes c bytes o) : AcceptsFront bytes o := by
  cases h with
  | refused hlong => exact ⟨List.nil_prefix, nofun⟩
  | failed t t' e hfits ht hsend => exact ⟨List.nil_prefix, nofun⟩
  | accepted t t' count hfits ht hsend hle hlt =>
    have haccepted : [Call.send bytes (.ok count)].flatMap Call.accepted = bytes.take count :=
      List.append_nil _
    refine ⟨?_, fun n hn => ?_⟩
    · rw [acceptedIn, haccepted]
      exact List.take_prefix count bytes
    · cases hn
      exact haccepted
  | completed t t' count hfits ht hsend hle hall =>
    have haccepted := accepted_of_completed (c.afterSend t' count) bytes count
    refine ⟨?_, fun n hn => ?_⟩
    · rw [acceptedIn]
      exact haccepted ▸ List.take_prefix count bytes
    · -- The count is told of only when the response head is read without a failure.
      have hcount : count = n := by
        cases hparse : (c.afterSend t' count).readResponse.result with
        | ok => simpa [Outcome.after, Outcome.map, hparse, Except.map] using hn
        | error e => simp [Outcome.after, Outcome.map, hparse, Except.map] at hn
      rw [← hcount]
      exact haccepted

/-- What a write brings to the stream is no longer due. -/
theorem WritesBody.write_count (h : WritesBody size c) (bytes : Bytes) :
    (acceptedIn (c.write bytes)).length + (c.write bytes).state.remaining = c.remaining := by
  have hcases := h.write_cases bytes
  generalize c.write bytes = o at hcases ⊢
  cases hcases with
  | refused hlong => exact Nat.zero_add _
  | failed t t' e hfits ht hsend => exact Nat.zero_add _
  | accepted t t' count hfits ht hsend hle hlt =>
    have haccepted : [Call.send bytes (.ok count)].flatMap Call.accepted = bytes.take count :=
      List.append_nil _
    have hlength : (bytes.take count).length = count := List.length_take_of_le hle
    rw [acceptedIn, haccepted, hlength]
    show count + (c.remaining - count) = c.remaining
    omega
  | completed t t' count hfits ht hsend hle hall =>
    have haccepted := accepted_of_completed (c.afterSend t' count) bytes count
    have hlength : (bytes.take count).length = count := List.length_take_of_le hle
    have hremaining := (h.readResponse_afterSend t' count).2.1
    show ((Call.send bytes (.ok count) :: (c.afterSend t' count).readResponse.calls).flatMap
      Call.accepted).length + (c.afterSend t' count).readResponse.state.remaining = c.remaining
    rw [haccepted, hlength, hremaining]
    omega

/-- Nothing is received while more of the body is due. -/
theorem WritesBody.write_silent (h : WritesBody size c) {bytes : Bytes}
    (hdue : 0 < (c.write bytes).state.remaining) :
    ∀ call ∈ (c.write bytes).calls, call.isReceive = false := by
  have hcases := h.write_cases bytes
  generalize c.write bytes = o at hcases hdue ⊢
  cases hcases with
  | refused hlong => exact fun call hcall => absurd hcall List.not_mem_nil
  | failed | accepted =>
    intro call hcall
    obtain rfl := List.mem_singleton.mp hcall
    rfl
  | completed t t' count hfits ht hsend hle hall =>
    have hremaining : (c.afterSend t' count).readResponse.state.remaining = c.remaining - count :=
      (h.readResponse_afterSend t' count).2.1
    -- The response is received only when nothing is due any more.
    have hdue' : 0 < (c.afterSend t' count).readResponse.state.remaining := hdue
    omega

/-! ## A series of writes -/

/-- What a series of writes keeps: the declared length, the fronts of what was offered, and the
count of what the stream has accepted. -/
theorem WritesBody.series (h : WritesBody size c) (buffers : List Bytes) :
    let os := Outcome.series Connection.write c buffers
    WritesBody size (Outcome.last c os) ∧ List.Forall₂ AcceptsFront buffers os ∧
      (os.flatMap acceptedIn).length + (Outcome.last c os).remaining = c.remaining ∧
      (0 < (Outcome.last c os).remaining → ∀ call ∈ Outcome.log os, call.isReceive = false) := by
  -- On the buffers; the first write and the others share the state between them.
  induction buffers generalizing c with
  | nil => exact ⟨h, .nil, Nat.zero_add _, fun _ call hcall => absurd hcall List.not_mem_nil⟩
  | cons bytes rest ih =>
    obtain ⟨hlast, hfronts, hcount, hsilent⟩ := ih (h.write bytes)
    have hfirst := h.write_count bytes
    refine ⟨hlast, .cons (h.write_cases bytes).acceptsFront hfronts, ?_, fun hdue call hcall => ?_⟩
    · rw [Outcome.series_cons, List.flatMap_cons, Outcome.last_cons, List.length_append]
      omega
    · rw [Outcome.series_cons, Outcome.last_cons] at hdue
      rw [Outcome.series_cons, Outcome.log_cons, List.mem_append] at hcall
      rcases hcall with hcall | hcall
      · -- What is due after all writes was due after the first.
        exact h.write_silent (by omega) call hcall
      · exact hsilent hdue call hcall

/-! ## An upload -/

/-- More bytes than remain are refused. -/
theorem WritesBody.write_of_long (h : WritesBody size c) (bytes : Bytes)
    (hlong : c.remaining < bytes.length) : c.write bytes = .fail c .writeTooLong := by
  have hcases := h.write_cases bytes
  generalize c.write bytes = o at hcases ⊢
  cases hcases with
  | refused => rfl
  | failed | accepted | completed => omega

/-- What a write of a body comes to, in terms of what the stream answers. -/
theorem WritesBody.write_eq (h : WritesBody size c) (bytes : Bytes)
    (hfits : bytes.length ≤ c.remaining) :
    ∃ t t' answer, c.transport = some t ∧ Transport.send t bytes = (answer, t') ∧
      match answer with
      | .error e =>
        c.write bytes = ⟨.error e, { c with transport := some t' }, [.send bytes (.error e)]⟩
      | .ok count =>
        count ≤ bytes.length ∧
        (count < c.remaining →
          c.write bytes = ⟨.ok count, c.afterSend t' count, [.send bytes (.ok count)]⟩) ∧
        (count = c.remaining →
          let heard := (c.afterSend t' count).readResponse
          c.write bytes =
            ⟨heard.result.map fun _ => count, heard.state,
              .send bytes (.ok count) :: heard.calls⟩) := by
  have hcases := h.write_cases bytes
  generalize c.write bytes = o at hcases ⊢
  cases hcases with
  | refused hlong => omega
  | failed t t' e _ ht hsend => exact ⟨t, t', .error e, ht, hsend, rfl⟩
  | accepted t t' count _ ht hsend hle hlt =>
    exact ⟨t, t', .ok count, ht, hsend, hle, fun _ => rfl, fun hall => by omega⟩
  | completed t t' count _ ht hsend hle hall =>
    exact ⟨t, t', .ok count, ht, hsend, hle, fun hlt => by omega, fun _ => rfl⟩

variable {κ : Type} [Connector κ τ]

/-- Opening for writing, with a declared length, sends the request head with that length. -/
theorem openTo_for_writing {c : Connection τ} {k : κ} {target : Target} {credentials : Credentials}
    {size : Nat} {timeouts : Timeouts} {now : Instant} (hsize : 0 < size)
    (hopen : (c.openTo k target credentials .writing size timeouts now).result = .ok ()) :
    let o := c.openTo k target credentials .writing size timeouts now
    WritesBody size o.state.1 ∧ o.state.1.remaining = size ∧
      (∀ call ∈ o.calls, call.isReceive = false) ∧
      ∃ head : RequestHead, o.calls.flatMap Call.accepted = head.encode ∧ head.method = .put ∧
        head.path = target.path ∧ head.field? "Content-Length" = some (toString size) := by
  have hcases := openTo_cases c k target credentials .writing size timeouts now
  generalize c.openTo k target credentials .writing size timeouts now = o at hcases hopen ⊢
  cases hcases with
  | refused => cases hopen
  | unreachable => cases hopen
  | undated => cases hopen
  | unsent => cases hopen
  | asked k' t t' method head calls hclosed hreading => cases hreading
  | ready k' t t' method head calls hclosed hwriting hmethod hconnect hsign hsend =>
    cases hmethod
    -- The declared length is in the request head and counts what is still to be written.
    have hbegun : c.begin t .writing size =
        { c.reset with
          mode := .writing
          transport := some t
          bodyLength := some size
          remaining := size } := by
      rw [begin, if_pos rfl, if_pos hsize]
    have hwriting : (c.begin t .writing size).mode ≠ .unopened := by
      rw [hbegun]
      exact Mode.noConfusion
    have hconsistent := (consistent_begin c (by decide) size t).withTransport hwriting t'
    obtain ⟨hsends, haccepted⟩ := sendAll_calls t head.encode
    rw [hsend] at hsends haccepted
    obtain ⟨hput, hpath, hfield⟩ := RequestHead.eq_of_sign? hsign
    rw [hbegun] at hconsistent hfield ⊢
    refine ⟨⟨hconsistent, rfl, rfl, rfl, fun _ => rfl⟩, rfl, fun call hcall => ?_,
      head, haccepted rfl, hput, hpath, hfield⟩
    rcases List.mem_cons.mp hcall with rfl | hcall
    · rfl
    · exact hsends call hcall

/-- Uploading a body of declared length, over any stream and in any buffers. The stream has accepted
the request head with that length, and then a front of each buffer, in order; what it has accepted
and what remains always add up to the length. Nothing is received while more is due. Of any further
write: more bytes than remain are refused without a call; otherwise the buffer is sent once; a
failing send changes nothing; and when nothing remains, the response head is read, and its failure
is the result. -/
theorem upload_conserves (c : Connection τ) (k : κ) (target : Target) (credentials : Credentials)
    {size : Nat} (timeouts : Timeouts) (now : Instant) (hsize : 0 < size)
    (hopen : (c.openTo k target credentials .writing size timeouts now).result = .ok ())
    (buffers : List Bytes) :
    let o := c.openTo k target credentials .writing size timeouts now
    let os := Outcome.series write o.state.1 buffers
    let c' := Outcome.last o.state.1 os
    (∃ head : RequestHead, o.calls.flatMap Call.accepted = head.encode ∧ head.method = .put ∧
      head.path = target.path ∧ head.field? "Content-Length" = some (toString size)) ∧
    (Outcome.log os).flatMap Call.accepted = os.flatMap acceptedIn ∧
    List.Forall₂ AcceptsFront buffers os ∧
    (os.flatMap acceptedIn).length = size - c'.remaining ∧ c'.remaining ≤ size ∧
    (0 < c'.remaining → c'.responseReceived = false ∧
      ∀ call ∈ o.calls ++ Outcome.log os, call.isReceive = false) ∧
    c'.contentLength = .ok size ∧
    ∀ bytes,
      (c'.remaining < bytes.length →
        c'.write bytes =
          ⟨.error (.invalidOperation "write exceeds the declared content length"), c', []⟩) ∧
      (bytes.length ≤ c'.remaining →
        ∃ t t' answer, c'.transport = some t ∧ Transport.send t bytes = (answer, t') ∧
          match answer with
          | .error e =>
            c'.write bytes = ⟨.error e, { c' with transport := some t' }, [.send bytes (.error e)]⟩
          | .ok count =>
            count ≤ bytes.length ∧
            (count < c'.remaining →
              c'.write bytes = ⟨.ok count, c'.afterSend t' count, [.send bytes (.ok count)]⟩) ∧
            (count = c'.remaining →
              let heard := (c'.afterSend t' count).readResponse
              c'.write bytes =
                ⟨heard.result.map fun _ => count, heard.state,
                  .send bytes (.ok count) :: heard.calls⟩ ∧
              ∀ call ∈ heard.calls, call.isReceive = true)) := by
  intro o os c'
  obtain ⟨hwrites, hremaining, hsilent, hhead⟩ := openTo_for_writing hsize hopen
  obtain ⟨hlast, hfronts, hcount, hquiet⟩ := hwrites.series buffers
  have htotal : (os.flatMap acceptedIn).length + c'.remaining = size := hcount.trans hremaining
  refine ⟨hhead, List.flatMap_assoc, hfronts, by omega, by omega, fun hdue => ?_, ?_,
    fun bytes => ⟨?_, ?_⟩⟩
  · refine ⟨hlast.unheard hdue, fun call hcall => ?_⟩
    rcases List.mem_append.mp hcall with hcall | hcall
    · exact hsilent call hcall
    · exact hquiet hdue call hcall
  · have hopened : c'.mode ≠ .unopened := by
      rw [hlast.writing]
      decide
    rw [contentLength_of_open hopened, hlast.length]
  · exact hlast.write_of_long bytes
  · intro hfits
    obtain ⟨t, t', answer, ht, hsend, hwrite⟩ := hlast.write_eq bytes hfits
    refine ⟨t, t', answer, ht, hsend, ?_⟩
    cases answer with
    | error e => exact hwrite
    | ok count =>
      obtain ⟨hle, hmore, hall⟩ := hwrite
      exact ⟨hle, hmore, fun hcount => ⟨hall hcount, isReceive_of_mem_readResponse _⟩⟩

/-- An upload of three bytes, over a stream that accepts everything. -/
def uploading : Outcome Error (Connection Script × Scripts) Unit :=
  (new 0).openTo ⟨[{}]⟩ ⟨"h", 80, "/o"⟩ ⟨"a", "s"⟩ .writing 3 ⟨none, none⟩ ⟨0⟩

/-- After two bytes of it the length is still that of all three. -/
theorem upload_conserves_two_of_three :
    uploading.result = .ok () ∧
      (Outcome.last uploading.state.1
        (Outcome.series write uploading.state.1 [[97, 98]])).contentLength = .ok 3 := by
  obtain ⟨head, hsign⟩ :
      ∃ head, RequestHead.Draft.sign? ⟨.put, "h", "/o", some 3⟩ ⟨0⟩ ⟨"a", "s"⟩ = some head :=
    ⟨_, rfl⟩
  obtain ⟨calls, hsend⟩ := Script.sendAll_of_unbounded (s := {}) rfl rfl head.encode
  have hopen : uploading.result = .ok () := by
    rw [uploading, openTo_of_sent rfl rfl (by decide) rfl hsign hsend]
    rfl
  obtain ⟨-, -, -, -, -, -, hlength, -⟩ :=
    upload_conserves (new 0) _ _ _ _ _ (by decide) hopen [[97, 98]]
  exact ⟨hopen, hlength⟩

end Connection
end ObjectStream
