/-
  ObjectStream.Proofs.Failures

  What a failure leaves behind. `MovesNothing` lists the failures with which no
  byte has moved: each leaves the connection as it was, on a stream that has only
  seen the calls of the failing operation. `FailsLate` lists those that come after
  something has changed, with the change, and `failure_keeps_connection` shows that
  there are no others.
-/

import ObjectStream.Proofs.HeadFirst
import ObjectStream.Proofs.Lifecycle
import ObjectStream.Proofs.Likeness

namespace ObjectStream

/-- Going past nothing leaves a buffer as it is. -/
theorem ReceiveBuffer.skip_of_drained {b : ReceiveBuffer} (h : b.unread = []) (n : Nat) :
    b.skip n = b := by
  obtain ⟨capacity, position, unread, floor, within⟩ := b
  have hnil : unread = [] := h
  subst hnil
  simp [skip]

namespace Connection

variable {τ κ : Type}

/-- With nothing in the buffer, a read asks the stream for all that is due. -/
theorem due_of_drained {c : Connection τ} (h : c.buffer.unread = []) (room : Nat) :
    c.due room = min room c.remaining := by
  rw [due, h]
  rfl

theorem afterReceive_of_drained {c : Connection τ} (h : c.buffer.unread = []) (room : Nat) (t : τ) :
    c.afterReceive room t = { c with transport := some t } := by
  rw [afterReceive, ReceiveBuffer.skip_of_drained h]

variable [Transport τ] [Connector κ τ]

/-! ## Failures before anything has moved -/

/-- The operation fails, and not one byte moves. -/
inductive MovesNothing (s : Connection τ × κ) : Operation → Prop where
  /-- Nothing listens on the port. -/
  | port {target : Target} {credentials : Credentials} {mode : Mode} {size : Nat}
      {timeouts : Timeouts} {now : Instant} : target.port = 0 →
      MovesNothing s (.openTo target credentials mode size timeouts now)
  /-- The connection is open already. -/
  | opened {target : Target} {credentials : Credentials} {mode : Mode} {size : Nat}
      {timeouts : Timeouts} {now : Instant} : s.1.mode ≠ .unopened →
      MovesNothing s (.openTo target credentials mode size timeouts now)
  /-- There is nothing to be opened for. -/
  | aimless {target : Target} {credentials : Credentials} {mode : Mode} {size : Nat}
      {timeouts : Timeouts} {now : Instant} : mode = .unopened →
      MovesNothing s (.openTo target credentials mode size timeouts now)
  /-- No stream can be set up. -/
  | unreachable {target : Target} {credentials : Credentials} {mode : Mode} {size : Nat}
      {timeouts : Timeouts} {now : Instant} {e : Error} :
      (Connector.connect s.2 target.host target.port timeouts).1 = .error e →
      MovesNothing s (.openTo target credentials mode size timeouts now)
  /-- There is no stream that a response head could come from. -/
  | unheard : s.1.mode = .unopened → s.1.responseReceived = false → MovesNothing s .readResponse
  | notReading {room : Nat} : s.1.mode ≠ .reading → MovesNothing s (.read room)
  /-- The length of the body is not known, or it comes in chunks. -/
  | unreadable {room : Nat} : s.1.framingError? ≠ none → MovesNothing s (.read room)
  /-- The stream is asked for bytes, with none to hand out before them, and fails or is at its end. -/
  | starved {room : Nat} {t : τ} : s.1.deferred = none → s.1.buffer.unread = [] →
      0 < min room s.1.remaining → s.1.transport = some t →
      (∃ e, (Transport.receive t (min room s.1.remaining)).1 = .error e) ∨
        (Transport.receive t (min room s.1.remaining)).1 = .ok [] →
      MovesNothing s (.read room)
  | notWriting {bytes : Bytes} : s.1.mode ≠ .writing → MovesNothing s (.write bytes)
  | unwritable {bytes : Bytes} : s.1.framingError? ≠ none → MovesNothing s (.write bytes)
  /-- More bytes are to be written than are due. -/
  | tooLong {bytes : Bytes} : s.1.remaining < bytes.length → MovesNothing s (.write bytes)
  /-- The stream does not take the bytes. -/
  | unsent {bytes : Bytes} {t : τ} {e : Error} : s.1.transport = some t →
      (Transport.send t bytes).1 = .error e → MovesNothing s (.write bytes)
  | closed : s.1.mode = .unopened → MovesNothing s .close

/-- The operation fails, and the connection after it is the one before it, on a stream that has seen
just the calls of the operation. -/
def Unmoved {α : Type} (c : Connection τ) (o : Outcome Error (Connection τ) α) : Prop :=
  (∃ e, o.result = .error e) ∧ Alike (fun t t' => Thread t o.calls t') c o.state

theorem unmoved_fail {α : Type} (c : Connection τ) (e : Error) :
    Unmoved c (.fail c e : Outcome Error (Connection τ) α) :=
  ⟨⟨e, rfl⟩, .refl .nil c⟩

theorem Unmoved.map {α β : Type} {c : Connection τ} {o : Outcome Error (Connection τ) α}
    (h : Unmoved c o) (f : α → β) : Unmoved c (o.map f) := by
  obtain ⟨⟨e, he⟩, halike⟩ := h
  refine ⟨⟨e, ?_⟩, halike⟩
  show o.result.map f = _
  rw [he]
  rfl

theorem unmoved_starved {c : Connection τ} {room : Nat} {t : τ} (hc : Consistent c)
    (hnone : c.deferred = none) (hdrained : c.buffer.unread = []) (hpos : 0 < min room c.remaining)
    (ht : c.transport = some t)
    (hstarved : (∃ e, (Transport.receive t (min room c.remaining)).1 = .error e) ∨
      (Transport.receive t (min room c.remaining)).1 = .ok []) :
    Unmoved c (c.read room) := by
  rcases hc.read_cases room with ⟨e, -, hfail⟩ | ⟨-, -, hcases⟩
  · rw [hfail]
    exact unmoved_fail c e
  have hlength : c.buffer.unread.length = 0 := by rw [hdrained]; rfl
  generalize c.read room = o at hcases
  cases hcases with
  | deferred e he =>
    rw [hnone] at he
    cases he
  | nothing _ hzero => omega
  | buffered _ _ henough => omega
  | received t₁ t' bytes _ hlt ht₁ hrecv hne =>
    obtain rfl : t = t₁ := Option.some.inj (ht.symm.trans ht₁)
    rw [due_of_drained hdrained] at hrecv
    rw [hrecv] at hstarved
    rw [hdrained, List.nil_append] at hne
    rcases hstarved with ⟨e, he⟩ | hend
    · cases he
    · exact absurd (Except.ok.inj hend) hne
  | ended t₁ t' _ hlt _ ht₁ hrecv =>
    refine ⟨⟨_, rfl⟩, ?_⟩
    rw [afterReceive_of_drained hdrained]
    exact .held ht₁ (.received hrecv)
  | failed t₁ t' e _ hlt _ ht₁ hrecv =>
    refine ⟨⟨_, rfl⟩, ?_⟩
    rw [afterReceive_of_drained hdrained]
    exact .held ht₁ (.received hrecv)
  | interrupted t₁ t' e _ hlt hunread => exact absurd hdrained hunread

theorem unmoved_unsent {c : Connection τ} {bytes : Bytes} {t : τ} {e : Error} (hc : Consistent c)
    (ht : c.transport = some t) (hunsent : (Transport.send t bytes).1 = .error e) :
    Unmoved c (c.write bytes) := by
  rcases hc.write_cases bytes with ⟨e, -, hfail⟩ | ⟨-, -, hcases⟩
  · rw [hfail]
    exact unmoved_fail c e
  generalize c.write bytes = o at hcases
  cases hcases with
  | refused hlong => exact unmoved_fail c _
  | failed t₁ t' e hfits ht₁ hsend => exact ⟨⟨e, rfl⟩, .held ht₁ (.sent hsend)⟩
  | accepted t₁ t' count hfits ht₁ hsend =>
    obtain rfl : t = t₁ := Option.some.inj (ht.symm.trans ht₁)
    rw [hsend] at hunsent
    cases hunsent
  | completed t₁ t' count hfits ht₁ hsend =>
    obtain rfl : t = t₁ := Option.some.inj (ht.symm.trans ht₁)
    rw [hsend] at hunsent
    cases hunsent

/-- An opening that does not get a stream leaves the connection as it is. -/
theorem unmoved_openTo {c : Connection τ} {k : κ} {target : Target} {credentials : Credentials}
    {mode : Mode} {size : Nat} {timeouts : Timeouts} {now : Instant} (hc : Consistent c)
    (hwhy : target.port = 0 ∨ c.mode ≠ .unopened ∨ mode = .unopened ∨
      ∃ e, (Connector.connect k target.host target.port timeouts).1 = .error e) :
    Unmoved c ((c.openTo k target credentials mode size timeouts now).mapState Prod.fst) := by
  rw [openTo]
  by_cases hport : target.port = 0
  · rw [if_pos hport]
    exact unmoved_fail c _
  rw [if_neg hport]
  by_cases hopen : c.mode ≠ .unopened
  · rw [if_pos hopen]
    exact unmoved_fail c _
  rw [if_neg hopen]
  cases hmethod : mode.method? with
  | none => exact unmoved_fail c _
  | some method =>
    -- The checks are passed, so it is the maker of streams that fails.
    have hmode := ne_unopened_of_method? hmethod
    obtain ⟨e, he⟩ := ((hwhy.resolve_left hport).resolve_left hopen).resolve_left hmode
    have hconnect : Connector.connect k target.host target.port timeouts =
        (.error e, (Connector.connect k target.host target.port timeouts).2) := by rw [← he]
    dsimp only
    rw [hconnect]
    exact ⟨⟨e, rfl⟩, .closed (hc.transport_eq_none (not_not.mp hopen))⟩

theorem unmoved_read {c : Connection τ} {room : Nat}
    (hrefused : c.mode ≠ .reading ∨ c.framingError? ≠ none) : Unmoved c (c.read room) := by
  by_cases hmode : c.mode = .reading
  · obtain ⟨e, hframing⟩ := Option.ne_none_iff_exists'.mp (hrefused.resolve_left (not_not_intro hmode))
    rw [read_of_framingError hmode hframing]
    exact unmoved_fail c e
  · rw [read_of_not_reading hmode]
    exact unmoved_fail c _

theorem unmoved_write {c : Connection τ} {bytes : Bytes} (hc : Consistent c)
    (hrefused : c.mode ≠ .writing ∨ c.framingError? ≠ none ∨ c.remaining < bytes.length) :
    Unmoved c (c.write bytes) := by
  rcases hc.write_cases bytes with ⟨e, -, hfail⟩ | ⟨hmode, hframing, hcases⟩
  · rw [hfail]
    exact unmoved_fail c e
  -- The write is not refused for its mode or its framing, so it is too long.
  have hlong := (hrefused.resolve_left (not_not_intro hmode)).resolve_left (not_not_intro hframing)
  generalize c.write bytes = o at hcases
  cases hcases with
  | refused => exact unmoved_fail c _
  | failed t t' e hfits | accepted t t' count hfits | completed t t' count hfits => omega

theorem MovesNothing.unmoved {s : Connection τ × κ} {op : Operation} (hc : Consistent s.1)
    (h : MovesNothing s op) : Unmoved s.1 ((perform op s).mapState Prod.fst) := by
  cases h with
  | port hport => exact (unmoved_openTo hc (.inl hport)).map _
  | opened hopen => exact (unmoved_openTo hc (.inr (.inl hopen))).map _
  | aimless hmode => exact (unmoved_openTo hc (.inr (.inr (.inl hmode)))).map _
  | unreachable hconnect => exact (unmoved_openTo hc (.inr (.inr (.inr ⟨_, hconnect⟩)))).map _
  | unheard hclosed hunheard =>
    have hfail := readResponse_of_no_stream hunheard (hc.transport_eq_none hclosed)
    have hunmoved : Unmoved s.1 s.1.readResponse := hfail ▸ unmoved_fail s.1 .notOpen
    exact hunmoved.map _
  | notReading hmode => exact (unmoved_read (.inl hmode)).map _
  | unreadable hframing => exact (unmoved_read (.inr hframing)).map _
  | starved hnone hdrained hpos ht hstarved =>
    exact (unmoved_starved hc hnone hdrained hpos ht hstarved).map _
  | notWriting hmode => exact (unmoved_write hc (.inl hmode)).map _
  | unwritable hframing => exact (unmoved_write hc (.inr (.inl hframing))).map _
  | tooLong hlong => exact (unmoved_write hc (.inr (.inr hlong))).map _
  | unsent ht hunsent => exact (unmoved_unsent hc ht hunsent).map _
  | closed hclosed =>
    have hunmoved : Unmoved s.1 s.1.close := close_of_closed hclosed ▸ unmoved_fail s.1 .notOpen
    exact hunmoved.map _

/-! ## Failures after something has changed -/

/-- The operation fails with an error that may come after a change, with the outcome of such a
failure. -/
inductive FailsLate (s : Connection τ × κ) :
    Operation → Error → Outcome Error (Connection τ × κ) Reply → Prop where
  /-- A failure that waited is handed out, and waits no more. -/
  | waited {room : Nat} {e : Error} : s.1.mode = .reading → s.1.deferred = some e →
      FailsLate s (.read room) e (.fail ({ s.1 with deferred := none }, s.2) e)
  /-- The stream was set up, but the exchange did not begin as it should: the connection stays open. -/
  | opening {target : Target} {credentials : Credentials} {mode : Mode} {size : Nat}
      {timeouts : Timeouts} {now : Instant} {t : τ} {e : Error}
      {o : Outcome Error (Connection τ × κ) Reply} : target.port ≠ 0 → mode ≠ .unopened →
      s.1.mode = .unopened → (Connector.connect s.2 target.host target.port timeouts).1 = .ok t →
      o.state.1.mode = mode →
      FailsLate s (.openTo target credentials mode size timeouts now) e o
  /-- The response head is not read to its end, or tells of a failure. -/
  | answered {e : Error} : s.1.mode ≠ .unopened → s.1.responseReceived = false →
      s.1.readResponse.result = .error e →
      FailsLate s .readResponse e
        ((s.1.readResponse.map fun _ => .done).mapState (·, s.2))
  /-- So it is with the response head that is read after the last byte of the body. -/
  | answeredLast {bytes : Bytes} {t t' : τ} {e : Error} : s.1.mode = .writing →
      s.1.transport = some t → Transport.send t bytes = (.ok s.1.remaining, t') →
      (s.1.afterSend t' s.1.remaining).readResponse.result = .error e →
      FailsLate s (.write bytes) e ⟨.error e,
        ((s.1.afterSend t' s.1.remaining).readResponse.state, s.2),
        .send bytes (.ok s.1.remaining) :: (s.1.afterSend t' s.1.remaining).readResponse.calls⟩
  /-- The stream is taken down with a failure: the connection is closed, and has no stream. -/
  | closing {t : τ} {e : Error} : s.1.mode ≠ .unopened → s.1.transport = some t →
      Transport.disconnect t = .error e →
      FailsLate s .close e
        ⟨.error e, ({ s.1 with mode := .unopened, transport := none, deferred := none }, s.2),
          [.disconnect (.error e)]⟩

theorem error_of_map {α β : Type} {r : Except Error α} {f : α → β} {e : Error}
    (h : r.map f = .error e) : r = .error e := by
  cases r with
  | ok => cases h
  | error => exact congrArg Except.error (Except.error.inj h)

theorem fails_openTo (s : Connection τ × κ) (target : Target) (credentials : Credentials)
    (mode : Mode) (size : Nat) (timeouts : Timeouts) (now : Instant) {e : Error}
    (he : (perform (.openTo target credentials mode size timeouts now) s).result = .error e) :
    MovesNothing s (.openTo target credentials mode size timeouts now) ∨
      FailsLate s (.openTo target credentials mode size timeouts now) e
        (perform (.openTo target credentials mode size timeouts now) s) := by
  by_cases hport : target.port = 0
  case pos => exact .inl (.port hport)
  have hcases := openTo_cases s.1 s.2 target credentials mode size timeouts now
  rw [perform] at he ⊢
  generalize s.1.openTo s.2 target credentials mode size timeouts now = o at hcases he ⊢
  replace he := error_of_map he
  have hopening : ∀ {t : τ} {k' : κ} {method : Method}, s.1.mode = .unopened →
      mode.method? = some method →
      Connector.connect s.2 target.host target.port timeouts = (.ok t, k') → o.state.1.mode = mode →
      FailsLate s (.openTo target credentials mode size timeouts now) e (o.map fun _ => .done) :=
    fun hclosed hmethod hconnect hmode => .opening hport (ne_unopened_of_method? hmethod) hclosed
      (congrArg Prod.fst hconnect) hmode
  cases hcases with
  | refused e hwhy =>
    rcases hwhy with hport | hopen | hmode
    · exact .inl (.port hport)
    · exact .inl (.opened hopen)
    · exact .inl (.aimless hmode)
  | unreachable k' e hclosed hconnect => exact .inl (.unreachable (congrArg Prod.fst hconnect))
  | undated k' t method hclosed hmethod hconnect hsign =>
    exact .inr (hopening hclosed hmethod hconnect (begin_mode s.1 t mode size))
  | unsent k' t t' method head e calls hclosed hmethod hconnect hsign hsend =>
    exact .inr (hopening hclosed hmethod hconnect (begin_mode s.1 t mode size))
  | ready => cases he
  | asked k' t t' method head calls hclosed hreading hmethod hconnect hsign hsend =>
    apply Or.inr
    apply hopening hclosed hmethod hconnect
    show Connection.mode (Outcome.state (readResponse _)) = mode
    rw [readResponse_mode]
    exact begin_mode s.1 t mode size

theorem fails_readResponse {s : Connection τ × κ} {e : Error}
    (he : (perform .readResponse s).result = .error e) :
    MovesNothing s .readResponse ∨ FailsLate s .readResponse e (perform .readResponse s) := by
  replace he : s.1.readResponse.result = .error e := error_of_map he
  cases hheard : s.1.responseReceived with
  | true =>
    rw [readResponse_of_received hheard] at he
    cases he
  | false =>
    by_cases hclosed : s.1.mode = .unopened
    · exact .inl (.unheard hclosed hheard)
    · exact .inr (.answered hclosed hheard he)

theorem fails_read {s : Connection τ × κ} (hc : Consistent s.1) {room : Nat} {e : Error}
    (he : (perform (.read room) s).result = .error e) :
    MovesNothing s (.read room) ∨ FailsLate s (.read room) e (perform (.read room) s) := by
  by_cases hmode : s.1.mode = .reading
  case neg => exact .inl (.notReading hmode)
  by_cases hframing : s.1.framingError? = none
  case neg => exact .inl (.unreadable hframing)
  obtain ⟨t, ht⟩ := hc.exists_transport (by rw [hmode]; decide)
  have hcases := read_cases hmode hframing ht room
  rw [perform] at he ⊢
  generalize s.1.read room = o at hcases he ⊢
  replace he := error_of_map he
  cases hcases with
  | deferred e' hwaits =>
    obtain rfl : e' = e := Except.error.inj he
    exact .inr (.waited hmode hwaits)
  | nothing | buffered | received | interrupted => cases he
  | ended t₁ t' hnone hlt hdrained ht₁ hrecv =>
    rw [due_of_drained hdrained] at hrecv
    exact .inl (.starved hnone hdrained (by omega) ht₁ (.inr (congrArg Prod.fst hrecv)))
  | failed t₁ t' e' hnone hlt hdrained ht₁ hrecv =>
    rw [due_of_drained hdrained] at hrecv
    exact .inl (.starved hnone hdrained (by omega) ht₁ (.inl ⟨e', congrArg Prod.fst hrecv⟩))

theorem fails_write {s : Connection τ × κ} (hc : Consistent s.1) {bytes : Bytes} {e : Error}
    (he : (perform (.write bytes) s).result = .error e) :
    MovesNothing s (.write bytes) ∨ FailsLate s (.write bytes) e (perform (.write bytes) s) := by
  by_cases hmode : s.1.mode = .writing
  case neg => exact .inl (.notWriting hmode)
  by_cases hframing : s.1.framingError? = none
  case neg => exact .inl (.unwritable hframing)
  obtain ⟨t, ht⟩ := hc.exists_transport (by rw [hmode]; decide)
  have hcases := write_cases hmode hframing ht bytes
  rw [perform] at he ⊢
  generalize s.1.write bytes = o at hcases he ⊢
  replace he := error_of_map he
  cases hcases with
  | refused hlong => exact .inl (.tooLong hlong)
  | failed t₁ t' e' hfits ht₁ hsend => exact .inl (.unsent ht₁ (congrArg Prod.fst hsend))
  | accepted => cases he
  | completed t₁ t' count hfits ht₁ hsend hle hall =>
    subst hall
    have hanswer : (s.1.afterSend t' s.1.remaining).readResponse.result = .error e :=
      error_of_map he
    have hlate : FailsLate s (.write bytes) e _ := .answeredLast hmode ht₁ hsend hanswer
    rcases hresponse : (s.1.afterSend t' s.1.remaining).readResponse with ⟨answer, c, calls⟩
    rw [hresponse] at hanswer hlate
    obtain rfl : answer = .error e := hanswer
    exact .inr hlate

theorem fails_close {s : Connection τ × κ} (hc : Consistent s.1) {e : Error}
    (he : (perform .close s).result = .error e) :
    MovesNothing s .close ∨ FailsLate s .close e (perform .close s) := by
  by_cases hclosed : s.1.mode = .unopened
  · exact .inl (.closed hclosed)
  · obtain ⟨t, ht⟩ := hc.exists_transport hclosed
    rw [perform, close_of_open hclosed ht] at he ⊢
    have hdown : Transport.disconnect t = .error e := error_of_map he
    rw [hdown]
    exact .inr (.closing hclosed ht hdown)

/-- A failure with which no byte has moved leaves the connection as it was. All other failures come
from what waited, from an exchange that was begun, from the response head, or from a stream that was
taken down. -/
theorem failure_keeps_connection {s : Connection τ × κ} (hs : Reachable s) (op : Operation) :
    (MovesNothing s op → Unmoved s.1 ((perform op s).mapState Prod.fst)) ∧
      ∀ e, (perform op s).result = .error e →
        MovesNothing s op ∨ FailsLate s op e (perform op s) := by
  have hc := consistent_of_reachable hs
  refine ⟨fun hnothing => hnothing.unmoved hc, fun e he => ?_⟩
  cases op with
  | openTo target credentials mode size timeouts now =>
    exact fails_openTo s target credentials mode size timeouts now he
  | readResponse => exact fails_readResponse he
  | read room => exact fails_read hc he
  | write bytes => exact fails_write hc he
  | close => exact fails_close hc he

/-- An upload whose stream accepts everything is open once its head is sent. -/
theorem perform_openUpload {size : Nat} (hsize : 0 < size) :
    ∃ calls, perform (openUpload size) (uploadOver {}) =
      ⟨.ok .done, ((new 0 : Connection Script).begin {} .writing size, ⟨[]⟩), calls⟩ := by
  obtain ⟨head, hsign⟩ :
      ∃ head, RequestHead.Draft.sign? ⟨.put, "h", "/o", some size⟩ ⟨0⟩ ⟨"a", "s"⟩ = some head :=
    ⟨_, rfl⟩
  have hlength : ((new 0 : Connection Script).begin {} .writing size).bodyLength = some size := by
    rw [begin_bodyLength, if_pos ⟨rfl, hsize⟩]
  obtain ⟨calls, hsend⟩ := Script.sendAll_of_unbounded (s := {}) rfl rfl head.encode
  refine ⟨.connect "h" 80 ⟨none, none⟩ (.ok ()) :: (calls ++ []), ?_⟩
  show ((new 0 : Connection Script).openTo (⟨[{}]⟩ : Scripts) ⟨"h", 80, "/o"⟩ ⟨"a", "s"⟩ .writing size
    ⟨none, none⟩ ⟨0⟩).map _ = _
  rw [openTo_of_sent rfl rfl (by decide) rfl (by rw [hlength]; exact hsign) hsend]
  rw [begin, if_pos rfl, if_pos hsize]
  rfl

/-- When two of three bytes are written, two more are refused, and nothing has changed. -/
theorem failure_keeps_connection_too_long :
    let s := (perform (.write [97, 98]) (perform (openUpload 3) (uploadOver {})).state).state
    let refused := perform (.write [99, 100]) s
    Reachable s ∧ MovesNothing s (.write [99, 100]) ∧
      refused.result = .error .writeTooLong ∧ refused.state.1.report = s.1.report := by
  intro s refused
  have hs : Reachable s := .step _ (.step _ (.new 0 _))
  obtain ⟨calls, hopen⟩ := perform_openUpload (Nat.zero_lt_succ 2)
  have hstate : s = (((new 0 : Connection Script).begin {} .writing 3).afterSend {} 2, ⟨[]⟩) := by
    show (perform (.write [97, 98]) (perform (openUpload 3) (uploadOver {})).state).state = _
    rw [hopen]
    rfl
  have hlong : MovesNothing s (.write [99, 100]) := by
    apply MovesNothing.tooLong
    rw [hstate]
    exact Nat.lt_succ_self 1
  have hresult : refused.result = .error .writeTooLong := by
    show (perform (.write [99, 100]) s).result = _
    rw [hstate]
    rfl
  obtain ⟨-, halike⟩ := (failure_keeps_connection hs (.write [99, 100])).1 hlong
  exact ⟨hs, hlong, hresult, halike.report_eq⟩

end Connection
end ObjectStream
