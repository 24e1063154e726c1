/-
  ObjectStream.Proofs.Session

  The states that a connection can get into, whatever is done with it and
  whatever its streams answer. What holds in all of them is `Consistent`: every
  operation keeps it, as its cases show.
-/

import ObjectStream.Proofs.Operations
import ObjectStream.Proofs.Series

namespace ObjectStream

variable {τ κ : Type}

/-! ## The calls of reading a head -/

/-- A fill receives, if it uses the stream at all. -/
theorem isReceive_of_mem_fill [Transport τ] {b : ReceiveBuffer} {t : τ} {call : Call}
    (h : call ∈ (b.fill t).calls) : call.isReceive = true := by
  rw [ReceiveBuffer.fill] at h
  split at h
  · cases h
  · split at h
    · obtain rfl := List.mem_singleton.mp h
      rfl
    · obtain rfl := List.mem_singleton.mp h
      rfl

theorem isReceive_of_mem_receiveHeadFrom [Transport τ] {made : List Call} {t : τ} {p : HeadProgress}
    (hmade : ∀ call ∈ made, call.isReceive = true) :
    ∀ call ∈ (receiveHeadFrom made t p).calls, call.isReceive = true := by
  -- One round puts the calls of a fill before those that were made.
  have hcalls : ∀ (made : List Call) (t : τ) (p : HeadProgress),
      (∀ call ∈ made, call.isReceive = true) →
        ∀ call ∈ List.reverseAux (p.buffer.fill t).calls made, call.isReceive = true := by
    intro made t p hmade call hcall
    rw [List.reverseAux_eq, List.mem_append, List.mem_reverse] at hcall
    exact hcall.elim isReceive_of_mem_fill (hmade call)
  fun_induction receiveHeadFrom made t p with
  | case1 | case2 | case3 | case4 =>
    intro call hcall
    exact hcalls _ _ _ hmade call (List.mem_reverse.mp hcall)
  | case5 made t p filled calls buffer t' n hfill absorbed p' habsorb ih =>
    exact ih (hcalls made t p hmade)

namespace Connection

/-! ## Consistent connections -/

/-- What holds in every state of a session. -/
structure Consistent (c : Connection τ) : Prop where
  /-- There is a stream exactly while the connection is open. -/
  stream : c.transport.isSome = true ↔ c.mode ≠ .unopened
  /-- No more bytes are to come than the body has. -/
  bounded : c.remaining ≤ c.bodyLength.getD 0
  /-- When reading, what is known of the body is what a complete head tells. -/
  framed : c.mode = .reading →
    (c.bodyLength, c.chunked) = if c.responseReceived then c.response.framing else (none, false)
  /-- When writing, a body without a declared length comes in chunks. -/
  declared : c.mode = .writing → c.chunked = c.bodyLength.isNone
  /-- A failure waits only while a body is read, when all that came before it was handed out. -/
  waiting : c.deferred.isSome = true →
    c.mode = .reading ∧ c.framingError? = none ∧ 0 < c.remaining ∧ c.buffer.unread = []

variable {c : Connection τ}

theorem framingError?_eq_none :
    c.framingError? = none ↔ c.chunked = false ∧ c.bodyLength.isSome = true := by
  rw [framingError?]
  cases c.chunked <;> cases c.bodyLength <;> simp

theorem not_waiting {deferred : Option Error} {P : Prop} (h : deferred = none) :
    deferred.isSome = true → P := by
  rw [h]
  exact nofun

namespace Consistent

/-- When reading, no body can be read before the response head is complete. -/
theorem framing_ne_none (h : Consistent c) (hmode : c.mode = .reading)
    (hreceived : c.responseReceived = false) : c.framingError? ≠ none := by
  intro hframing
  have hframed := h.framed hmode
  rw [hreceived, if_neg Bool.false_ne_true, Prod.mk.injEq] at hframed
  have hlength := (framingError?_eq_none.mp hframing).2
  rw [hframed.1] at hlength
  cases hlength

/-- No failure waits before the response head is complete. -/
theorem deferred_eq_none (h : Consistent c) (hreceived : c.responseReceived = false) :
    c.deferred = none := by
  rw [← Option.not_isSome_iff_eq_none]
  intro hdeferred
  obtain ⟨hmode, hframing, -, -⟩ := h.waiting hdeferred
  exact h.framing_ne_none hmode hreceived hframing

theorem exists_transport (h : Consistent c) (hmode : c.mode ≠ .unopened) :
    ∃ t, c.transport = some t :=
  Option.isSome_iff_exists.mp (h.stream.mpr hmode)

theorem transport_eq_none (h : Consistent c) (hclosed : c.mode = .unopened) :
    c.transport = none := by
  rw [← Option.not_isSome_iff_eq_none, h.stream]
  exact not_not_intro hclosed

theorem mode_eq_unopened (h : Consistent c) (hnone : c.transport = none) : c.mode = .unopened := by
  by_contra hopen
  obtain ⟨t, ht⟩ := h.exists_transport hopen
  rw [hnone] at ht
  cases ht

theorem mode_ne_unopened (h : Consistent c) {t : τ} (ht : c.transport = some t) :
    c.mode ≠ .unopened :=
  h.stream.mp (by rw [ht]; rfl)

/-- One stream may stand for another. -/
theorem withTransport (h : Consistent c) (hmode : c.mode ≠ .unopened) (t : τ) :
    Consistent { c with transport := some t } :=
  ⟨⟨fun _ => hmode, fun _ => rfl⟩, h.bounded, h.framed, h.declared, h.waiting⟩

end Consistent

theorem consistent_new (capacity : Nat) : Consistent (new capacity : Connection τ) := by
  constructor <;> simp [new]

theorem consistent_begin (c : Connection τ) {mode : Mode} (hmode : mode ≠ .unopened) (size : Nat)
    (t : τ) : Consistent (c.begin t mode size) := by
  cases mode with
  | unopened => exact absurd rfl hmode
  | reading => constructor <;> simp [begin, reset]
  | writing =>
    by_cases hsize : 0 < size
    · constructor <;> simp [begin, reset, hsize]
    · constructor <;> simp [begin, reset, hsize]

/-! ## Every operation keeps a connection consistent -/

/-- A head that was not read to its end tells nothing of the body. -/
theorem consistent_withHead (h : Consistent c) (hmode : c.mode ≠ .unopened)
    (hreceived : c.responseReceived = false) (t : τ) (p : HeadProgress) :
    Consistent (c.beforeHead.withHead t p) := by
  have hdeferred := h.deferred_eq_none hreceived
  -- When reading, what was known of the body was dropped with the old head.
  by_cases hreading : c.mode = .reading
  · rw [beforeHead, if_pos hreading]
    constructor <;> simp [withHead, hreading, hreceived, hdeferred]
  · rw [beforeHead, if_neg hreading]
    refine ⟨⟨fun _ => hmode, fun _ => rfl⟩, h.bounded, fun h' => absurd h' hreading, h.declared, ?_⟩
    simp [withHead, hdeferred]

/-- A complete head tells what is known of the body when reading. -/
theorem consistent_afterHead (h : Consistent c) (hmode : c.mode ≠ .unopened)
    (hreceived : c.responseReceived = false) (t : τ) (p : HeadProgress) :
    Consistent (c.beforeHead.withHead t p).afterHead.2 := by
  have hdeferred := h.deferred_eq_none hreceived
  by_cases hreading : c.mode = .reading
  · rw [afterHead_withHead_of_reading hreading]
    constructor <;> simp [withHead, beforeHead, hreading, hdeferred]
  · -- When writing, the length is the declared one, and stays.
    rw [afterHead_of_not_reading (by simpa using hreading), beforeHead, if_neg hreading]
    refine ⟨⟨fun _ => hmode, fun _ => rfl⟩, h.bounded, fun h' => absurd h' hreading, h.declared, ?_⟩
    simp [withHead, hdeferred]

section

variable [Transport τ]

theorem consistent_readResponse (h : Consistent c) : Consistent c.readResponse.state := by
  have hcases := readResponse_cases c
  generalize c.readResponse = o at hcases
  cases hcases with
  | known hreceived => exact h
  | closed hreceived ht => exact h
  | broken t t' p e calls hreceived ht ho =>
    exact consistent_withHead h (h.mode_ne_unopened ht) hreceived t' p
  | complete t t' p calls hreceived ht ho =>
    exact consistent_afterHead h (h.mode_ne_unopened ht) hreceived t' p

theorem isReceive_of_mem_readResponse (c : Connection τ) :
    ∀ call ∈ c.readResponse.calls, call.isReceive = true := by
  have hloop : ∀ t : τ, ∀ call ∈ (receiveHeadFrom [] t ⟨c.buffer, c.reader, .empty⟩).calls,
      call.isReceive = true := fun t => isReceive_of_mem_receiveHeadFrom nofun
  have hcases := readResponse_cases c
  generalize c.readResponse = o at hcases ⊢
  cases hcases with
  | known | closed => exact fun call hcall => absurd hcall List.not_mem_nil
  | broken t t' p e calls hreceived ht ho =>
    have hcalls := hloop t
    rw [ho] at hcalls
    exact hcalls
  | complete t t' p calls hreceived ht ho =>
    have hcalls := hloop t
    rw [ho] at hcalls
    exact hcalls

theorem accepted_readResponse (c : Connection τ) :
    c.readResponse.calls.flatMap Call.accepted = [] := by
  rw [List.flatMap_eq_nil_iff]
  intro call hcall
  have hreceive := isReceive_of_mem_readResponse c call hcall
  cases call with
  | receive => rfl
  | connect | send | disconnect => cases hreceive

@[simp] theorem readResponse_mode (c : Connection τ) : c.readResponse.state.mode = c.mode := by
  have hcases := readResponse_cases c
  generalize c.readResponse = o at hcases
  cases hcases with
  | known hreceived => rfl
  | closed hreceived ht => rfl
  | broken t t' p e calls hreceived ht ho => simp
  | complete t t' p calls hreceived ht ho => simp

/-- When not reading, the response head tells nothing of the body. -/
theorem readResponse_of_not_reading (hmode : c.mode ≠ .reading) :
    c.readResponse.state.bodyLength = c.bodyLength ∧ c.readResponse.state.remaining = c.remaining ∧
      c.readResponse.state.chunked = c.chunked := by
  have hbefore : c.beforeHead = { c with response := .empty } := by rw [beforeHead, if_neg hmode]
  have hcases := readResponse_cases c
  generalize c.readResponse = o at hcases ⊢
  cases hcases with
  | known | closed => exact ⟨rfl, rfl, rfl⟩
  | broken t t' p e calls hreceived ht ho =>
    rw [hbefore]
    exact ⟨rfl, rfl, rfl⟩
  | complete t t' p calls hreceived ht ho =>
    rw [afterHead_of_not_reading (by simpa using hmode), hbefore]
    exact ⟨rfl, rfl, rfl⟩

/-- A response head that was completed tells how many bytes are still to be read. -/
theorem remaining_of_readResponse (hmode : c.mode = .reading)
    (hreceived : c.responseReceived = false)
    (hdone : c.readResponse.state.responseReceived = true) :
    c.readResponse.state.remaining = c.readResponse.state.bodyLength.getD 0 ∧
      c.readResponse.state.deferred = c.deferred := by
  have hcases := readResponse_cases c
  generalize c.readResponse = o at hcases hdone ⊢
  cases hcases with
  | known hknown =>
    rw [hreceived] at hknown
    cases hknown
  | closed _ ht =>
    have hsame : c.responseReceived = true := hdone
    rw [hreceived] at hsame
    cases hsame
  | broken t t' p e calls _ ht ho =>
    -- A head that was not read to its end is not received.
    have hsame : c.beforeHead.responseReceived = true := hdone
    rw [beforeHead_responseReceived, hreceived] at hsame
    cases hsame
  | complete t t' p calls _ ht ho =>
    rw [afterHead_withHead_of_reading hmode]
    exact ⟨rfl, beforeHead_deferred c⟩

omit [Transport τ] in
theorem eq_of_framingError? {e : Error} (h : c.framingError? = some e) : e = .unboundedBody := by
  rw [framingError?] at h
  split at h
  · exact (Option.some.inj h).symm
  · cases h

/-- A read of a consistent connection is refused, but not for the want of a stream, or reads a
body. -/
theorem Consistent.read_cases (h : Consistent c) (room : Nat) :
    (∃ e, e ≠ .notOpen ∧ c.read room = .fail c e) ∨
      (c.mode = .reading ∧ c.framingError? = none ∧ Reads c room (c.read room)) := by
  by_cases hmode : c.mode = .reading
  · cases hframing : c.framingError? with
    | some e =>
      refine .inl ⟨e, ?_, read_of_framingError hmode hframing room⟩
      rw [eq_of_framingError? hframing]
      decide
    | none =>
      obtain ⟨t, ht⟩ := h.exists_transport (by rw [hmode]; decide)
      exact .inr ⟨hmode, rfl, Connection.read_cases hmode hframing ht room⟩
  · exact .inl ⟨.notReading, by decide, read_of_not_reading hmode room⟩

/-- A write to a consistent connection is refused, but not for the want of a stream, or writes a
body. -/
theorem Consistent.write_cases (h : Consistent c) (bytes : Bytes) :
    (∃ e, e ≠ .notOpen ∧ c.write bytes = .fail c e) ∨
      (c.mode = .writing ∧ c.framingError? = none ∧ Writes c bytes (c.write bytes)) := by
  by_cases hmode : c.mode = .writing
  · cases hframing : c.framingError? with
    | some e =>
      refine .inl ⟨e, ?_, write_of_framingError hmode hframing bytes⟩
      rw [eq_of_framingError? hframing]
      decide
    | none =>
      obtain ⟨t, ht⟩ := h.exists_transport (by rw [hmode]; decide)
      exact .inr ⟨hmode, rfl, Connection.write_cases hmode hframing ht bytes⟩
  · exact .inl ⟨.notWriting, by decide, write_of_not_writing hmode bytes⟩

theorem consistent_read (h : Consistent c) (room : Nat) : Consistent (c.read room).state := by
  rcases h.read_cases room with ⟨e, -, hfail⟩ | ⟨hmode, hframing, hcases⟩
  · rw [hfail]
    exact h
  have hopen : c.mode ≠ .unopened := by
    rw [hmode]
    decide
  have hbounded := h.bounded
  generalize c.read room = o at hcases
  cases hcases with
  -- The failure is told of, and waits no more.
  | deferred e he => exact ⟨h.stream, h.bounded, h.framed, h.declared, not_waiting rfl⟩
  | nothing hnone hzero => exact h
  | buffered hnone hpos henough =>
    refine ⟨h.stream, ?_, h.framed, h.declared, not_waiting hnone⟩
    exact Nat.le_trans (Nat.sub_le ..) hbounded
  | received t t' bytes hnone hlt ht hrecv hne =>
    refine ⟨⟨fun _ => hopen, fun _ => rfl⟩, ?_, h.framed, h.declared, not_waiting hnone⟩
    exact Nat.le_trans (Nat.sub_le ..) hbounded
  | ended t t' hnone hlt hunread ht hrecv =>
    exact ⟨⟨fun _ => hopen, fun _ => rfl⟩, hbounded, h.framed, h.declared, not_waiting hnone⟩
  | failed t t' e hnone hlt hunread ht hrecv =>
    exact ⟨⟨fun _ => hopen, fun _ => rfl⟩, hbounded, h.framed, h.declared, not_waiting hnone⟩
  | interrupted t t' e hnone hlt hunread ht hrecv =>
    refine ⟨⟨fun _ => hopen, fun _ => rfl⟩, ?_, h.framed, h.declared, fun _ => ?_⟩
    · exact Nat.le_trans (Nat.sub_le ..) hbounded
    · -- Fewer bytes were handed out than were asked for, so some are still to come.
      have hdue : 0 < c.remaining - c.buffer.unread.length := by omega
      exact ⟨hmode, hframing, hdue, List.drop_eq_nil_of_le (Nat.le_of_lt hlt)⟩

/-- A read changes nothing but how far the body has come. -/
theorem read_frame (h : Consistent c) (room : Nat) :
    (c.read room).state.mode = c.mode ∧ (c.read room).state.bodyLength = c.bodyLength ∧
      (c.read room).state.responseReceived = c.responseReceived := by
  rcases h.read_cases room with ⟨e, -, hfail⟩ | ⟨-, -, hcases⟩
  · rw [hfail]
    exact ⟨rfl, rfl, rfl⟩
  generalize c.read room = o at hcases
  cases hcases <;> exact ⟨rfl, rfl, rfl⟩

omit [Transport τ] in
/-- Whatever was accepted of the body, the connection is consistent before the response is read. -/
theorem Consistent.afterSend (h : Consistent c) (hmode : c.mode = .writing) (t : τ) (count : Nat) :
    Consistent (c.afterSend t count) := by
  have hopen : c.mode ≠ .unopened := by
    rw [hmode]
    decide
  refine ⟨⟨fun _ => hopen, fun _ => rfl⟩, ?_, h.framed, h.declared, fun hdeferred => ?_⟩
  · exact Nat.le_trans (Nat.sub_le ..) h.bounded
  · -- Failures wait only while reading.
    have hreading := (h.waiting hdeferred).1
    rw [hmode] at hreading
    cases hreading

theorem consistent_write (h : Consistent c) (bytes : Bytes) : Consistent (c.write bytes).state := by
  rcases h.write_cases bytes with ⟨e, -, hfail⟩ | ⟨hmode, hframing, hcases⟩
  · rw [hfail]
    exact h
  have hopen : c.mode ≠ .unopened := by
    rw [hmode]
    decide
  generalize c.write bytes = o at hcases
  cases hcases with
  | refused hlong => exact h
  | failed t t' e hfits ht hsend => exact h.withTransport hopen t'
  | accepted t t' count hfits ht hsend hle hlt => exact h.afterSend hmode t' count
  | completed t t' count hfits ht hsend hle hall =>
    exact consistent_readResponse (h.afterSend hmode t' count)

theorem write_mode (h : Consistent c) (bytes : Bytes) : (c.write bytes).state.mode = c.mode := by
  rcases h.write_cases bytes with ⟨e, -, hfail⟩ | ⟨-, -, hcases⟩
  · rw [hfail]
    rfl
  generalize c.write bytes = o at hcases
  cases hcases with
  | refused | failed | accepted => rfl
  | completed t t' count hfits ht hsend hle hall => exact readResponse_mode _

/-- Nothing is read before the response head is complete. -/
theorem read_of_unheard (h : Consistent c)
    (hbefore : c.mode = .unopened ∨ c.responseReceived = false) (room : Nat) :
    (c.read room).state = c := by
  rcases h.read_cases room with ⟨e, -, hfail⟩ | ⟨hmode, hframing, -⟩
  · rw [hfail]
    rfl
  · have hreceived : c.responseReceived = false :=
      hbefore.resolve_left (by rw [hmode]; decide)
    exact absurd hframing (h.framing_ne_none hmode hreceived)

theorem close_of_closed (hclosed : c.mode = .unopened) : c.close = .fail c .notOpen := by
  rw [close, if_pos hclosed]

theorem close_mode (c : Connection τ) : c.close.state.mode = .unopened := by
  rw [close]
  split
  · assumption
  · dsimp only
    split <;> rfl

theorem consistent_close (h : Consistent c) : Consistent c.close.state := by
  rw [close]
  split
  · exact h
  · have hclosed : Consistent
        ({ c with mode := .unopened, transport := none, deferred := none } : Connection τ) :=
      ⟨by simp, h.bounded, nofun, nofun, nofun⟩
    dsimp only
    split <;> exact hclosed

end

section

variable [Transport τ] [Connector κ τ]

theorem consistent_openTo (h : Consistent c) (k : κ) (target : Target) (credentials : Credentials)
    (mode : Mode) (size : Nat) (timeouts : Timeouts) (now : Instant) :
    Consistent (c.openTo k target credentials mode size timeouts now).state.1 := by
  have hcases := openTo_cases c k target credentials mode size timeouts now
  -- The stream that sent the request head stands in for the one that was set up.
  have hbegun : ∀ t t', mode ≠ .unopened →
      Consistent ({ c.begin t mode size with transport := some t' } : Connection τ) := by
    intro t t' hmode
    have hopen : (c.begin t mode size).mode ≠ .unopened :=
      (consistent_begin c hmode size t).mode_ne_unopened (begin_transport c t mode size)
    exact (consistent_begin c hmode size t).withTransport hopen t'
  generalize c.openTo k target credentials mode size timeouts now = o at hcases
  cases hcases with
  | refused e hwhy => exact h
  | unreachable k' e hclosed hconnect => exact h
  | undated k' t method hclosed hmethod hconnect hsign =>
    exact consistent_begin c (ne_unopened_of_method? hmethod) size t
  | unsent k' t t' method head e calls hclosed hmethod hconnect hsign hsend =>
    exact hbegun t t' (ne_unopened_of_method? hmethod)
  | ready k' t t' method head calls hclosed hwriting hmethod hconnect hsign hsend =>
    exact hbegun t t' (ne_unopened_of_method? hmethod)
  | asked k' t t' method head calls hclosed hreading hmethod hconnect hsign hsend =>
    exact consistent_readResponse (hbegun t t' (ne_unopened_of_method? hmethod))

/-- Opening that completes the response head does so by reading it, and then all of the body is
still to be read. -/
theorem remaining_of_openTo (c : Connection τ) (k : κ) (target : Target) (credentials : Credentials)
    (mode : Mode) (size : Nat) (timeouts : Timeouts) (now : Instant) :
    let opened := (c.openTo k target credentials mode size timeouts now).state.1
    opened ≠ c → opened.responseReceived = true →
      opened.remaining = opened.bodyLength.getD 0 ∧ opened.deferred = none := by
  have hcases := openTo_cases c k target credentials mode size timeouts now
  generalize c.openTo k target credentials mode size timeouts now = o at hcases
  intro opened hchanged hreceived
  cases hcases with
  | refused e hwhy => exact absurd rfl hchanged
  | unreachable k' e hclosed hconnect => exact absurd rfl hchanged
  -- Before the response head is read, it is not received.
  | undated k' t method hclosed hmethod hconnect hsign => simp [opened] at hreceived
  | unsent k' t t' method head e calls hclosed hmethod hconnect hsign hsend =>
    simp [opened] at hreceived
  | ready k' t t' method head calls hclosed hwriting hmethod hconnect hsign hsend =>
    simp [opened] at hreceived
  | asked k' t t' method head calls hclosed hmode hmethod hconnect hsign hsend =>
    subst hmode
    exact remaining_of_readResponse rfl rfl hreceived

/-! ## Sessions -/

/-- What can be asked of a connection, questions apart. -/
inductive Operation where
  | openTo (target : Target) (credentials : Credentials) (mode : Mode) (size : Nat)
      (timeouts : Timeouts) (now : Instant)
  | readResponse
  | read (room : Nat)
  | write (bytes : Bytes)
  | close

/-- What an operation answers. -/
inductive Reply where
  | done
  | data (bytes : Bytes)
  | count (n : Nat)

/-- Carries an operation out. -/
def perform (op : Operation) (s : Connection τ × κ) : Outcome Error (Connection τ × κ) Reply :=
  match op with
  | .openTo target credentials mode size timeouts now =>
    (s.1.openTo s.2 target credentials mode size timeouts now).map fun _ => .done
  | .readResponse => (s.1.readResponse.map fun _ => .done).mapState (·, s.2)
  | .read room => ((s.1.read room).map .data).mapState (·, s.2)
  | .write bytes => ((s.1.write bytes).map .count).mapState (·, s.2)
  | .close => (s.1.close.map fun _ => .done).mapState (·, s.2)

/-- The states of a session that starts with a new connection. -/
inductive Reachable : Connection τ × κ → Prop where
  | new (capacity : Nat) (k : κ) : Reachable (Connection.new capacity, k)
  | step {s : Connection τ × κ} (op : Operation) : Reachable s → Reachable (perform op s).state

theorem consistent_perform (op : Operation) {s : Connection τ × κ} (h : Consistent s.1) :
    Consistent (perform op s).state.1 := by
  cases op with
  | openTo target credentials mode size timeouts now =>
    exact consistent_openTo h s.2 target credentials mode size timeouts now
  | readResponse => exact consistent_readResponse h
  | read room => exact consistent_read h room
  | write bytes => exact consistent_write h bytes
  | close => exact consistent_close h

/-- Every connection that a session gets to is consistent. -/
theorem consistent_of_reachable {s : Connection τ × κ} (h : Reachable s) : Consistent s.1 := by
  induction h with
  | new capacity k => exact consistent_new capacity
  | step op _ ih => exact consistent_perform op ih

/-- An open connection stays open for what it was opened for until it is closed. -/
theorem mode_perform {s : Connection τ × κ} (hc : Consistent s.1) (hopen : s.1.mode ≠ .unopened)
    {op : Operation} (hop : op ≠ .close) : (perform op s).state.1.mode = s.1.mode := by
  cases op with
  | openTo target credentials mode size timeouts now =>
    have hcases := openTo_cases s.1 s.2 target credentials mode size timeouts now
    show (s.1.openTo s.2 target credentials mode size timeouts now).state.1.mode = s.1.mode
    generalize s.1.openTo s.2 target credentials mode size timeouts now = o at hcases ⊢
    cases hcases with
    | refused => rfl
    | unreachable | undated | unsent | ready | asked => exact absurd ‹_› hopen
  | readResponse => exact readResponse_mode s.1
  | read room => exact (read_frame hc room).1
  | write bytes => exact write_mode hc bytes
  | close => exact absurd rfl hop

theorem mode_series {s : Connection τ × κ} (hc : Consistent s.1) (hopen : s.1.mode ≠ .unopened)
    {ops : List Operation} (hops : ∀ op ∈ ops, op ≠ .close) :
    (Outcome.last s (Outcome.series (fun s op => perform op s) s ops)).1.mode = s.1.mode := by
  induction ops generalizing s with
  | nil => rfl
  | cons op rest ih =>
    obtain ⟨hop, hrest⟩ := List.forall_mem_cons.mp hops
    have hmode := mode_perform hc hopen hop
    have hstill : (perform op s).state.1.mode ≠ .unopened := by
      rw [hmode]
      exact hopen
    rw [Outcome.series_cons, Outcome.last_cons, ih (consistent_perform op hc) hstill hrest, hmode]

/-! ## Completing the response head -/

/-- An operation after which a response head is complete that was not before, when reading. -/
structure CompletesHead (op : Operation) (s : Connection τ × κ) : Prop where
  before : s.1.mode = .unopened ∨ s.1.responseReceived = false
  reading : (perform op s).state.1.mode = .reading
  received : (perform op s).state.1.responseReceived = true

/-- It leaves all of the body to be read, and no failure waiting. -/
theorem CompletesHead.remaining {op : Operation} {s : Connection τ × κ} (h : CompletesHead op s)
    (hs : Consistent s.1) :
    (perform op s).state.1.remaining = (perform op s).state.1.bodyLength.getD 0 ∧
      (perform op s).state.1.deferred = none := by
  obtain ⟨hbefore, hreading, hreceived⟩ := h
  -- An operation that changes nothing completes nothing.
  have hchanged : (perform op s).state.1 ≠ s.1 := by
    intro hsame
    rw [hsame] at hreading hreceived
    have hunheard : s.1.responseReceived = false :=
      hbefore.resolve_left (by rw [hreading]; decide)
    rw [hreceived] at hunheard
    cases hunheard
  cases op with
  | openTo target credentials mode size timeouts now =>
    exact remaining_of_openTo s.1 s.2 target credentials mode size timeouts now hchanged hreceived
  | readResponse =>
    have hmode : s.1.mode = .reading := (readResponse_mode s.1).symm.trans hreading
    have hunheard : s.1.responseReceived = false :=
      hbefore.resolve_left (by rw [hmode]; decide)
    obtain ⟨hremaining, hdeferred⟩ := remaining_of_readResponse hmode hunheard hreceived
    exact ⟨hremaining, hdeferred.trans (hs.deferred_eq_none hunheard)⟩
  | read room => exact absurd (read_of_unheard hs hbefore room) hchanged
  | write bytes =>
    -- A write keeps the mode and happens only when writing, so nothing is read after it.
    by_cases hmode : s.1.mode = .writing
    · cases hmode.symm.trans ((write_mode hs bytes).symm.trans hreading)
    · have hsame : (s.1.write bytes).state = s.1 := by
        rw [write_of_not_writing hmode]
        rfl
      exact absurd hsame hchanged
  | close => cases hreading.symm.trans (close_mode s.1)

end

end Connection
end ObjectStream
