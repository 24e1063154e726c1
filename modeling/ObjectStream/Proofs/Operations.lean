/-
  ObjectStream.Proofs.Operations

  All that an operation on a connection can do: for each one, its outcomes as the
  cases of a predicate, with what the stream answered in each case, and the lemma
  that there are no others (`readResponse_cases`, `read_cases`, `write_cases`,
  `openTo_cases`). What is proved about connections goes through these cases.
-/

import ObjectStream.Connection
import ObjectStream.Proofs.Verdict

namespace ObjectStream

namespace Connection

variable {τ κ : Type}

/-! ## Reading the response head -/

/-- The connection as far as its response head was read. -/
def withHead (c : Connection τ) (t : τ) (p : HeadProgress) : Connection τ :=
  { c with
    transport := some t
    buffer := p.buffer
    reader := p.reader
    response := p.head }

@[simp] theorem beforeHead_mode (c : Connection τ) : c.beforeHead.mode = c.mode := by
  rw [beforeHead]
  split <;> rfl

@[simp] theorem withHead_mode (c : Connection τ) (t : τ) (p : HeadProgress) :
    (c.withHead t p).mode = c.mode := rfl

@[simp] theorem beforeHead_responseReceived (c : Connection τ) :
    c.beforeHead.responseReceived = c.responseReceived := by
  rw [beforeHead]
  split <;> rfl

@[simp] theorem beforeHead_deferred (c : Connection τ) : c.beforeHead.deferred = c.deferred := by
  rw [beforeHead]
  split <;> rfl

@[simp] theorem beforeHead_buffer (c : Connection τ) : c.beforeHead.buffer = c.buffer := by
  rw [beforeHead]
  split <;> rfl

@[simp] theorem beforeHead_reader (c : Connection τ) : c.beforeHead.reader = c.reader := by
  rw [beforeHead]
  split <;> rfl

@[simp] theorem beforeHead_response (c : Connection τ) : c.beforeHead.response = .empty := by
  rw [beforeHead]
  split <;> rfl

/-- When reading, a complete head sets what is known of the body. -/
theorem afterHead_of_reading {c : Connection τ} (hmode : c.mode = .reading)
    (hlength : c.bodyLength = none) (hremaining : c.remaining = 0) (hchunked : c.chunked = false) :
    c.afterHead = (c.response.verdict,
      { c with
        responseReceived := true
        bodyLength := c.response.framing.1
        remaining := c.response.framing.1.getD 0
        chunked := c.response.framing.2 }) := by
  rw [afterHead, ResponseHead.verdict, ResponseHead.framing]
  dsimp only
  rw [if_pos hmode]
  -- Without a length, nothing was known before, so nothing is to be dropped.
  cases c.response.contentLength with
  | error e => rw [hlength, hremaining, hchunked]; rfl
  | ok length =>
    cases length with
    | none => rw [hlength, hremaining]; rfl
    | some n => rfl

/-- When reading, what was known of the body is dropped before the head is read, so the head tells
all there is to know. -/
theorem afterHead_withHead_of_reading {c : Connection τ} (hmode : c.mode = .reading) (t : τ)
    (p : HeadProgress) :
    (c.beforeHead.withHead t p).afterHead = (p.head.verdict,
      { c.beforeHead.withHead t p with
        responseReceived := true
        bodyLength := p.head.framing.1
        remaining := p.head.framing.1.getD 0
        chunked := p.head.framing.2 }) := by
  apply afterHead_of_reading <;> simp [withHead, beforeHead, hmode]

/-- When not reading, it changes nothing that is known of the body. -/
theorem afterHead_of_not_reading {c : Connection τ} (hmode : c.mode ≠ .reading) :
    c.afterHead = (c.response.status.bind Status.result, { c with responseReceived := true }) := by
  rw [afterHead]
  exact if_neg hmode

/-- A complete head changes nothing but what is known of the body. -/
theorem afterHead_frame (c : Connection τ) :
    ∃ bodyLength remaining chunked, c.afterHead.2 =
      { c with responseReceived := true, bodyLength, remaining, chunked } := by
  rw [afterHead]
  dsimp only
  split
  · split <;> exact ⟨_, _, _, rfl⟩
  · exact ⟨_, _, _, rfl⟩

@[simp] theorem afterHead_mode (c : Connection τ) : c.afterHead.2.mode = c.mode := by
  obtain ⟨_, _, _, hframe⟩ := afterHead_frame c
  rw [hframe]

@[simp] theorem afterHead_responseReceived (c : Connection τ) :
    c.afterHead.2.responseReceived = true := by
  obtain ⟨_, _, _, hframe⟩ := afterHead_frame c
  rw [hframe]

/-- The body length that an open connection tells. -/
theorem contentLength_of_open {c : Connection τ} (hopen : c.mode ≠ .unopened) :
    c.contentLength = match c.bodyLength with
      | some n => .ok n
      | none => .error (.noSuchField "content-length") := by
  have hisOpen : c.isOpen = true := bne_iff_ne.mpr hopen
  rw [contentLength]
  cases c.bodyLength <;> exact if_pos hisOpen

section

variable [Transport τ]

/-- The outcomes of reading the response head. -/
inductive Responds (c : Connection τ) : Outcome Error (Connection τ) Unit → Prop where
  /-- It was read before. -/
  | known : c.responseReceived = true → Responds c (.ok c ())
  /-- There is no stream. -/
  | closed : c.responseReceived = false → c.transport = none → Responds c (.fail c .notOpen)
  /-- The head cannot be read to its end. -/
  | broken (t t' : τ) (p : HeadProgress) (e : Error) (calls : List Call) :
      c.responseReceived = false → c.transport = some t →
      receiveHeadFrom [] t ⟨c.buffer, c.reader, .empty⟩ = ⟨.error e, (t', p), calls⟩ →
      Responds c ⟨.error e, c.beforeHead.withHead t' p, calls⟩
  /-- The head is complete, and is judged. -/
  | complete (t t' : τ) (p : HeadProgress) (calls : List Call) :
      c.responseReceived = false → c.transport = some t →
      receiveHeadFrom [] t ⟨c.buffer, c.reader, .empty⟩ = ⟨.ok (), (t', p), calls⟩ →
      Responds c ⟨(c.beforeHead.withHead t' p).afterHead.1,
        (c.beforeHead.withHead t' p).afterHead.2, calls⟩

/-- A head that cannot be read to its end is left as far as it was read. -/
theorem readResponse_of_broken {c : Connection τ} {t t' : τ} {p : HeadProgress} {e : Error}
    {calls : List Call} (hreceived : c.responseReceived = false) (ht : c.transport = some t)
    (hloop : receiveHeadFrom [] t ⟨c.buffer, c.reader, .empty⟩ = ⟨.error e, (t', p), calls⟩) :
    c.readResponse = ⟨.error e, c.beforeHead.withHead t' p, calls⟩ := by
  rw [readResponse, if_neg (by rw [hreceived]; decide), ht]
  dsimp only
  rw [beforeHead_buffer, beforeHead_reader, beforeHead_response, hloop]
  rfl

theorem readResponse_of_complete {c : Connection τ} {t t' : τ} {p : HeadProgress}
    {calls : List Call} (hreceived : c.responseReceived = false) (ht : c.transport = some t)
    (hloop : receiveHeadFrom [] t ⟨c.buffer, c.reader, .empty⟩ = ⟨.ok (), (t', p), calls⟩) :
    c.readResponse = ⟨(c.beforeHead.withHead t' p).afterHead.1,
      (c.beforeHead.withHead t' p).afterHead.2, calls⟩ := by
  rw [readResponse, if_neg (by rw [hreceived]; decide), ht]
  dsimp only
  rw [beforeHead_buffer, beforeHead_reader, beforeHead_response, hloop]
  rfl

/-- A head that was read is not read again, whether or not there still is a stream. -/
theorem readResponse_of_received {c : Connection τ} (hreceived : c.responseReceived = true) :
    c.readResponse = .ok c () := by
  rw [readResponse, if_pos hreceived]

theorem readResponse_of_no_stream {c : Connection τ} (hunheard : c.responseReceived = false)
    (ht : c.transport = none) : c.readResponse = .fail c .notOpen := by
  rw [readResponse, if_neg (by rw [hunheard]; decide), ht]

/-- Reading the response head does one of these things. -/
theorem readResponse_cases (c : Connection τ) : Responds c c.readResponse := by
  cases hreceived : c.responseReceived with
  | true =>
    rw [readResponse_of_received hreceived]
    exact .known hreceived
  | false =>
    cases ht : c.transport with
    | none =>
      rw [readResponse_of_no_stream hreceived ht]
      exact .closed hreceived ht
    | some t =>
      rcases hloop : receiveHeadFrom [] t ⟨c.buffer, c.reader, .empty⟩ with ⟨result, ⟨t', p⟩, calls⟩
      cases result with
      | error e =>
        rw [readResponse_of_broken hreceived ht hloop]
        exact .broken t t' p e calls hreceived ht hloop
      | ok =>
        rw [readResponse_of_complete hreceived ht hloop]
        exact .complete t t' p calls hreceived ht hloop

/-! ## What a read can do -/

/-- The bytes that a read with some room asks the stream for. -/
def due (c : Connection τ) (room : Nat) : Nat := min room c.remaining - c.buffer.unread.length

/-- The connection after a read that used the stream, apart from what the body has advanced. -/
def afterReceive (c : Connection τ) (room : Nat) (t : τ) : Connection τ :=
  { c with
    buffer := c.buffer.skip (min room c.remaining)
    transport := some t }

/-- The outcomes of a read on a connection that is open for reading a body of known length. -/
inductive Reads (c : Connection τ) (room : Nat) : Outcome Error (Connection τ) Bytes → Prop where
  /-- A failure that was met before is reported. -/
  | deferred (e : Error) : c.deferred = some e → Reads c room (.fail { c with deferred := none } e)
  /-- There is no room, or no byte is due. -/
  | nothing : c.deferred = none → min room c.remaining = 0 → Reads c room (.ok c [])
  /-- The bytes that came with the head are enough. -/
  | buffered : c.deferred = none → min room c.remaining ≠ 0 →
      min room c.remaining ≤ c.buffer.unread.length →
      Reads c room (.ok
        ({ c with buffer := c.buffer.skip (min room c.remaining) }.advance (min room c.remaining))
        (c.buffer.unread.take (min room c.remaining)))
  /-- They are not, and a receive brings more, or nothing more where some can be handed out. -/
  | received (t t' : τ) (bytes : Bytes) : c.deferred = none →
      c.buffer.unread.length < min room c.remaining → c.transport = some t →
      Transport.receive t (c.due room) = (.ok bytes, t') → c.buffer.unread ++ bytes ≠ [] →
      Reads c room ⟨.ok (c.buffer.unread ++ bytes),
        (c.afterReceive room t').advance (c.buffer.unread.length + bytes.length),
        [.receive (c.due room) (.ok bytes)]⟩
  /-- The stream is at its end, with nothing to hand out. -/
  | ended (t t' : τ) : c.deferred = none → c.buffer.unread.length < min room c.remaining →
      c.buffer.unread = [] → c.transport = some t →
      Transport.receive t (c.due room) = (.ok [], t') →
      Reads c room ⟨.error .connectionReset, c.afterReceive room t',
        [.receive (c.due room) (.ok [])]⟩
  /-- The receive fails, with nothing to hand out. -/
  | failed (t t' : τ) (e : Error) : c.deferred = none →
      c.buffer.unread.length < min room c.remaining → c.buffer.unread = [] → c.transport = some t →
      Transport.receive t (c.due room) = (.error e, t') →
      Reads c room ⟨.error e, c.afterReceive room t', [.receive (c.due room) (.error e)]⟩
  /-- The receive fails, but there are bytes to hand out first. -/
  | interrupted (t t' : τ) (e : Error) : c.deferred = none →
      c.buffer.unread.length < min room c.remaining → c.buffer.unread ≠ [] → c.transport = some t →
      Transport.receive t (c.due room) = (.error e, t') →
      Reads c room ⟨.ok c.buffer.unread,
        { (c.afterReceive room t').advance c.buffer.unread.length with deferred := some e },
        [.receive (c.due room) (.error e)]⟩

theorem read_of_not_reading {c : Connection τ} (hmode : c.mode ≠ .reading) (room : Nat) :
    c.read room = .fail c .notReading := by
  rw [read, if_pos hmode]

theorem read_of_framingError {c : Connection τ} {e : Error} (hmode : c.mode = .reading)
    (hframing : c.framingError? = some e) (room : Nat) : c.read room = .fail c e := by
  rw [read, if_neg (not_not_intro hmode), hframing]

/-- A read of a body does one of these things. -/
theorem read_cases {c : Connection τ} {t : τ} (hmode : c.mode = .reading)
    (hframing : c.framingError? = none) (ht : c.transport = some t) (room : Nat) :
    Reads c room (c.read room) := by
  obtain ⟨mode, transport, buffer, reader, response, responseReceived, bodyLength, remaining,
    chunked, deferred⟩ := c
  dsimp only at hmode ht
  subst hmode ht
  rw [read, if_neg (by simp), hframing]
  cases deferred with
  | some e => exact .deferred e rfl
  | none =>
    -- The buffer gives what it has; only when that is short does the stream come in.
    dsimp only [ReceiveBuffer.take]
    split
    · rename_i hzero
      exact .nothing rfl hzero
    · rename_i hpos
      rw [List.length_take]
      split
      · rename_i henough
        exact .buffered rfl hpos (by dsimp only; omega)
      · rename_i hshort
        -- All of the buffer is taken, so what it gives is `unread` and what is due is the rest.
        have hlt : buffer.unread.length < min room remaining := by omega
        rw [List.take_of_length_le (Nat.le_of_lt hlt), Nat.min_eq_right (Nat.le_of_lt hlt)]
        rcases hrecv : Transport.receive t (min room remaining - buffer.unread.length)
          with ⟨received, t'⟩
        split
        · rename_i hunread hreceived
          cases hreceived
          exact .ended t t' rfl hlt hunread rfl hrecv
        · rename_i e hunread hreceived
          cases hreceived
          exact .failed t t' e rfl hlt hunread rfl hrecv
        · rename_i b rest e hunread hreceived
          cases hreceived
          exact .interrupted t t' e rfl hlt (by dsimp only; simp [hunread]) rfl hrecv
        · rename_i back hreceived hempty
          cases hreceived
          -- The first case has taken out that both parts are empty.
          refine .received t t' back rfl hlt rfl hrecv fun hnil => ?_
          obtain ⟨hunread, hback⟩ := List.append_eq_nil_iff.mp hnil
          exact hempty hunread (by rw [hback])

/-! ## What a write can do -/

/-- The connection after the stream has accepted some bytes of the body. -/
def afterSend (c : Connection τ) (t : τ) (count : Nat) : Connection τ :=
  ({ c with transport := some t } : Connection τ).advance count

/-- The outcomes of a write on a connection that is open for writing a body of known length. -/
inductive Writes (c : Connection τ) (bytes : Bytes) : Outcome Error (Connection τ) Nat → Prop where
  /-- More bytes than are due are refused. -/
  | refused : c.remaining < bytes.length → Writes c bytes (.fail c .writeTooLong)
  /-- The send fails. -/
  | failed (t t' : τ) (e : Error) : bytes.length ≤ c.remaining → c.transport = some t →
      Transport.send t bytes = (.error e, t') →
      Writes c bytes ⟨.error e, { c with transport := some t' }, [.send bytes (.error e)]⟩
  /-- Some bytes are accepted, and more are due. -/
  | accepted (t t' : τ) (count : Nat) : bytes.length ≤ c.remaining → c.transport = some t →
      Transport.send t bytes = (.ok count, t') → count ≤ bytes.length → count < c.remaining →
      Writes c bytes ⟨.ok count, c.afterSend t' count, [.send bytes (.ok count)]⟩
  /-- With the bytes that are accepted the body is complete, and the response head is read. -/
  | completed (t t' : τ) (count : Nat) : bytes.length ≤ c.remaining → c.transport = some t →
      Transport.send t bytes = (.ok count, t') → count ≤ bytes.length → c.remaining = count →
      Writes c bytes
        (((c.afterSend t' count).readResponse.map fun _ => count).after [.send bytes (.ok count)])

theorem write_of_not_writing {c : Connection τ} (hmode : c.mode ≠ .writing) (bytes : Bytes) :
    c.write bytes = .fail c .notWriting := by
  rw [write, if_pos hmode]

theorem write_of_framingError {c : Connection τ} {e : Error} (hmode : c.mode = .writing)
    (hframing : c.framingError? = some e) (bytes : Bytes) : c.write bytes = .fail c e := by
  rw [write, if_neg (not_not_intro hmode), hframing]

/-- A write of a body does one of these things. -/
theorem write_cases {c : Connection τ} {t : τ} (hmode : c.mode = .writing)
    (hframing : c.framingError? = none) (ht : c.transport = some t) (bytes : Bytes) :
    Writes c bytes (c.write bytes) := by
  rw [write, if_neg (by simp [hmode]), hframing]
  dsimp only
  by_cases hlong : bytes.length > c.remaining
  · rw [if_pos hlong]
    exact .refused hlong
  · rw [if_neg hlong, ht]
    have hfits : bytes.length ≤ c.remaining := Nat.not_lt.mp hlong
    dsimp only
    rcases hsend : Transport.send t bytes with ⟨accepted, t'⟩
    cases accepted with
    | error e => exact .failed t t' e hfits ht hsend
    | ok count =>
      -- No stream accepts more than it is offered, so the count that remains is exact.
      have hcount : count ≤ bytes.length := Transport.send_le t bytes count (by rw [hsend])
      dsimp only
      split
      · rename_i hdone
        have hall : c.remaining = count := by
          dsimp only [advance] at hdone
          omega
        exact .completed t t' count hfits ht hsend hcount hall
      · rename_i hdue
        have hmore : count < c.remaining := by
          dsimp only [advance] at hdue
          omega
        exact .accepted t t' count hfits ht hsend hcount hmore

end

/-! ## Opening -/

@[simp] theorem begin_transport (c : Connection τ) (t : τ) (mode : Mode) (size : Nat) :
    (c.begin t mode size).transport = some t := by
  rw [begin]
  split
  · split <;> rfl
  · rfl

@[simp] theorem begin_responseReceived (c : Connection τ) (t : τ) (mode : Mode) (size : Nat) :
    (c.begin t mode size).responseReceived = false := by
  rw [begin]
  split
  · split <;> rfl
  · rfl

@[simp] theorem begin_mode (c : Connection τ) (t : τ) (mode : Mode) (size : Nat) :
    (c.begin t mode size).mode = mode := by
  rw [begin]
  split
  · split <;> rfl
  · rfl

@[simp] theorem begin_buffer (c : Connection τ) (t : τ) (mode : Mode) (size : Nat) :
    (c.begin t mode size).buffer = c.buffer.clear := by
  rw [begin]
  split
  · split <;> rfl
  · rfl

@[simp] theorem begin_reader (c : Connection τ) (t : τ) (mode : Mode) (size : Nat) :
    (c.begin t mode size).reader = .new := by
  rw [begin]
  split
  · split <;> rfl
  · rfl

theorem ne_unopened_of_method? {mode : Mode} {method : Method} (h : mode.method? = some method) :
    mode ≠ .unopened := by
  rintro rfl
  cases h

/-- The length of the body that an opening connection knows of: the declared one when writing. -/
theorem begin_bodyLength (c : Connection τ) (t : τ) (mode : Mode) (size : Nat) :
    (c.begin t mode size).bodyLength = if mode = .writing ∧ 0 < size then some size else none := by
  rw [begin]
  by_cases hmode : mode = .writing <;> by_cases hsize : 0 < size <;> simp [hmode, hsize, reset]

variable [Transport τ] [Connector κ τ]

/-- The outcomes of opening a connection. -/
inductive Opens (c : Connection τ) (k : κ) (target : Target) (credentials : Credentials)
    (mode : Mode) (size : Nat) (timeouts : Timeouts) (now : Instant) :
    Outcome Error (Connection τ × κ) Unit → Prop where
  /-- It is refused. -/
  | refused (e : Error) : target.port = 0 ∨ c.mode ≠ .unopened ∨ mode = .unopened →
      Opens c k target credentials mode size timeouts now (.fail (c, k) e)
  /-- No stream can be set up. -/
  | unreachable (k' : κ) (e : Error) : c.mode = .unopened →
      Connector.connect k target.host target.port timeouts = (.error e, k') →
      Opens c k target credentials mode size timeouts now
        ⟨.error e, (c, k'), [.connect target.host target.port timeouts (.error e)]⟩
  /-- The request cannot be dated. -/
  | undated (k' : κ) (t : τ) (method : Method) : c.mode = .unopened → mode.method? = some method →
      Connector.connect k target.host target.port timeouts = (.ok t, k') →
      RequestHead.Draft.sign? ⟨method, target.host, target.path, (c.begin t mode size).bodyLength⟩
        now credentials = none →
      Opens c k target credentials mode size timeouts now
        ⟨.error .undatable, (c.begin t mode size, k'),
          [.connect target.host target.port timeouts (.ok ())]⟩
  /-- The request head cannot be sent. -/
  | unsent (k' : κ) (t t' : τ) (method : Method) (head : RequestHead) (e : Error)
      (calls : List Call) :
      c.mode = .unopened → mode.method? = some method →
      Connector.connect k target.host target.port timeouts = (.ok t, k') →
      RequestHead.Draft.sign? ⟨method, target.host, target.path, (c.begin t mode size).bodyLength⟩
        now credentials = some head →
      sendAll t head.encode = ⟨.error e, t', calls⟩ →
      Opens c k target credentials mode size timeouts now
        ⟨.error e, ({ c.begin t mode size with transport := some t' }, k'),
          .connect target.host target.port timeouts (.ok ()) :: calls⟩
  /-- The request head is sent, and the body can be written. -/
  | ready (k' : κ) (t t' : τ) (method : Method) (head : RequestHead) (calls : List Call) :
      c.mode = .unopened → mode = .writing → mode.method? = some method →
      Connector.connect k target.host target.port timeouts = (.ok t, k') →
      RequestHead.Draft.sign? ⟨method, target.host, target.path, (c.begin t mode size).bodyLength⟩
        now credentials = some head →
      sendAll t head.encode = ⟨.ok (), t', calls⟩ →
      Opens c k target credentials mode size timeouts now
        ⟨.ok (), ({ c.begin t mode size with transport := some t' }, k'),
          .connect target.host target.port timeouts (.ok ()) :: calls⟩
  /-- The request head is sent, and the response head is read. -/
  | asked (k' : κ) (t t' : τ) (method : Method) (head : RequestHead) (calls : List Call) :
      c.mode = .unopened → mode = .reading → mode.method? = some method →
      Connector.connect k target.host target.port timeouts = (.ok t, k') →
      RequestHead.Draft.sign? ⟨method, target.host, target.path, (c.begin t mode size).bodyLength⟩
        now credentials = some head →
      sendAll t head.encode = ⟨.ok (), t', calls⟩ →
      Opens c k target credentials mode size timeouts now
        ((({ c.begin t mode size with transport := some t' } : Connection τ).readResponse.after
          (.connect target.host target.port timeouts (.ok ()) :: calls)).mapState (·, k'))

/-- Opening a connection does one of these things. -/
theorem openTo_cases (c : Connection τ) (k : κ) (target : Target) (credentials : Credentials)
    (mode : Mode) (size : Nat) (timeouts : Timeouts) (now : Instant) :
    Opens c k target credentials mode size timeouts now
      (c.openTo k target credentials mode size timeouts now) := by
  rw [openTo]
  by_cases hport : target.port = 0
  · rw [if_pos hport]
    exact .refused _ (.inl hport)
  rw [if_neg hport]
  by_cases hclosed : c.mode ≠ .unopened
  · rw [if_pos hclosed]
    exact .refused _ (.inr (.inl hclosed))
  rw [if_neg hclosed]
  rw [Decidable.not_not] at hclosed
  cases hmethod : mode.method? with
  | none =>
    -- Only the mode of a closed connection has no method.
    have hmode : mode = .unopened := by cases mode <;> first | rfl | cases hmethod
    exact .refused _ (.inr (.inr hmode))
  | some method =>
    dsimp only
    rcases hconnect : Connector.connect k target.host target.port timeouts with ⟨connected, k'⟩
    cases connected with
    | error e => exact .unreachable k' e hclosed hconnect
    | ok t =>
      dsimp only
      cases hsign : RequestHead.Draft.sign?
          ⟨method, target.host, target.path, (c.begin t mode size).bodyLength⟩ now credentials with
      | none => exact .undated k' t method hclosed hmethod hconnect hsign
      | some head =>
        dsimp only
        rw [sendHead, begin_transport]
        dsimp only [Outcome.mapState]
        rcases hsend : sendAll t head.encode with ⟨sent, t', calls⟩
        cases sent with
        | error e => exact .unsent k' t t' method head e calls hclosed hmethod hconnect hsign hsend
        | ok =>
          dsimp only [Outcome.andThen]
          cases mode with
          | unopened => cases hmethod
          | reading =>
            exact .asked k' t t' method head calls hclosed rfl hmethod hconnect hsign hsend
          | writing =>
            rw [if_neg (by decide)]
            dsimp only [Outcome.after, Outcome.ok]
            rw [List.append_nil]
            exact .ready k' t t' method head calls hclosed rfl hmethod hconnect hsign hsend

/-- Once the request head is sent, all that is left is to read the response head, when reading. -/
theorem openTo_of_sent {c : Connection τ} {k k' : κ} {target : Target} {credentials : Credentials}
    {mode : Mode} {size : Nat} {timeouts : Timeouts} {now : Instant} {method : Method} {t t' : τ}
    {head : RequestHead} {calls : List Call} (hmethod : mode.method? = some method)
    (hclosed : c.mode = .unopened) (hport : target.port ≠ 0)
    (hconnect : Connector.connect k target.host target.port timeouts = (.ok t, k'))
    (hsign : RequestHead.Draft.sign?
      ⟨method, target.host, target.path, (c.begin t mode size).bodyLength⟩ now credentials =
        some head)
    (hsend : sendAll t head.encode = ⟨.ok (), t', calls⟩) :
    c.openTo k target credentials mode size timeouts now =
      (((if mode = .reading then
          ({ c.begin t mode size with transport := some t' } : Connection τ).readResponse
        else .ok { c.begin t mode size with transport := some t' } ()).after
          (.connect target.host target.port timeouts (.ok ()) :: calls)).mapState (·, k')) := by
  rw [openTo, if_neg hport, if_neg (not_not_intro hclosed), hmethod]
  dsimp only
  rw [hconnect]
  dsimp only
  rw [hsign]
  dsimp only
  rw [sendHead, begin_transport]
  dsimp only [Outcome.mapState]
  rw [hsend]
  rfl

/-- A request head that cannot be sent leaves the connection open on the stream. -/
theorem openTo_of_unsent {c : Connection τ} {k k' : κ} {target : Target} {credentials : Credentials}
    {mode : Mode} {size : Nat} {timeouts : Timeouts} {now : Instant} {method : Method} {t t' : τ}
    {head : RequestHead} {e : Error} {calls : List Call} (hmethod : mode.method? = some method)
    (hclosed : c.mode = .unopened) (hport : target.port ≠ 0)
    (hconnect : Connector.connect k target.host target.port timeouts = (.ok t, k'))
    (hsign : RequestHead.Draft.sign?
      ⟨method, target.host, target.path, (c.begin t mode size).bodyLength⟩ now credentials =
        some head)
    (hsend : sendAll t head.encode = ⟨.error e, t', calls⟩) :
    c.openTo k target credentials mode size timeouts now =
      ⟨.error e, ({ c.begin t mode size with transport := some t' }, k'),
        .connect target.host target.port timeouts (.ok ()) :: calls⟩ := by
  rw [openTo, if_neg hport, if_neg (not_not_intro hclosed), hmethod]
  dsimp only
  rw [hconnect]
  dsimp only
  rw [hsign]
  dsimp only
  rw [sendHead, begin_transport]
  dsimp only [Outcome.mapState]
  rw [hsend]
  rfl

end Connection
end ObjectStream
