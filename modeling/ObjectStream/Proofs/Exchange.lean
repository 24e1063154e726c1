/-
  ObjectStream.Proofs.Exchange

  What holds of a connection at any moment of a session, in terms of the exchange
  that it is in: the size that was declared for it, and whether its response head
  was found too large. `Follows` is what every operation keeps, and
  `session_sound` says what it comes to: `Sound`, that an open connection never
  lacks its stream, and that no more bytes are counted than remain.
-/

import ObjectStream.Proofs.Opening
import ObjectStream.Proofs.Session

namespace ObjectStream

theorem RequestHead.encode_ne_nil (head : RequestHead) : head.encode ≠ [] := by
  rw [encode]
  exact List.append_ne_nil_of_right_ne_nil _ (by decide)

namespace Connection

variable {τ κ : Type}

/-! ## Exchanges -/

/-- What is remembered of an exchange apart from the connection. -/
structure Exchange where
  /-- The size that was declared for it. -/
  declared : Nat
  /-- Whether it was told that the response head is too large. -/
  overflowed : Bool

namespace Exchange

variable {α β : Type}

/-- Before anything was opened. -/
def none : Exchange := ⟨0, false⟩

/-- The exchange once a result was told. -/
def told (x : Exchange) : Except Error α → Exchange
  | .ok _ => x
  | .error e => { x with overflowed := x.overflowed || e == HeadReader.tooLarge }

/-- The exchange after an operation: a new one if a stream was set up. -/
def next (x : Exchange) (op : Operation) (o : Outcome Error (Connection τ × κ) Reply) : Exchange :=
  match op with
  | .openTo _ _ _ size _ _ => (if o.calls.any Call.isSetup then ⟨size, false⟩ else x).told o.result
  | .readResponse | .read _ | .write _ | .close => x.told o.result

/-- The exchange after some operations with these outcomes. -/
def after (x : Exchange) : List Operation → List (Outcome Error (Connection τ × κ) Reply) → Exchange
  | op :: ops, o :: os => after (x.next op o) ops os
  | _, _ => x

@[simp] theorem told_declared (x : Exchange) (r : Except Error α) :
    (x.told r).declared = x.declared := by
  cases r <;> rfl

@[simp] theorem told_map (x : Exchange) (r : Except Error α) (f : α → β) :
    x.told (r.map f) = x.told r := by
  cases r <;> rfl

theorem not_overflowed_of_told {x : Exchange} {r : Except Error α}
    (h : (x.told r).overflowed = false) :
    x.overflowed = false ∧ r ≠ .error HeadReader.tooLarge := by
  cases r with
  | ok => exact ⟨h, nofun⟩
  | error e =>
    obtain ⟨hbefore, he⟩ := Bool.or_eq_false_iff.mp h
    refine ⟨hbefore, fun heq => ?_⟩
    cases heq
    exact absurd he (by simp)

end Exchange

/-! ## What every operation keeps -/

/-- A connection in an exchange. -/
structure Follows (x : Exchange) (c : Connection τ) : Prop where
  consistent : Consistent c
  /-- When writing, the length of the body is the one that was declared. -/
  declared : c.mode = .writing → c.bodyLength.getD 0 = x.declared
  /-- A response head that may still be read on was read in whole pieces. -/
  awaits : c.mode ≠ .unopened → c.responseReceived = false → x.overflowed = false →
    ∃ read, Awaits read c

theorem follows_new (capacity : Nat) : Follows .none (new capacity : Connection τ) :=
  ⟨consistent_new capacity, nofun, fun hopen => absurd rfl hopen⟩

namespace Follows

variable {x : Exchange} {c : Connection τ}

/-- A result that is told changes nothing for a connection that stays as it is. -/
theorem told (h : Follows x c) {α : Type} (r : Except Error α) : Follows (x.told r) c :=
  ⟨h.consistent, fun hmode => (h.declared hmode).trans (x.told_declared r).symm,
    fun hopen hunheard hfits => h.awaits hopen hunheard (Exchange.not_overflowed_of_told hfits).1⟩

theorem withTransport (h : Follows x c) (hopen : c.mode ≠ .unopened) (t : τ) :
    Follows x { c with transport := some t } := by
  refine ⟨h.consistent.withTransport hopen t, h.declared, fun hopen hunheard hfits => ?_⟩
  obtain ⟨read, hawaits⟩ := h.awaits hopen hunheard hfits
  exact ⟨read, hawaits.congr rfl rfl rfl⟩

theorem afterSend (h : Follows x c) (hmode : c.mode = .writing) (t : τ) (count : Nat) :
    Follows x (c.afterSend t count) := by
  refine ⟨h.consistent.afterSend hmode t count, h.declared, fun hopen hunheard hfits => ?_⟩
  obtain ⟨read, hawaits⟩ := h.awaits hopen hunheard hfits
  exact ⟨read, hawaits.congr rfl rfl rfl⟩

theorem begin (c : Connection τ) {mode : Mode} (hmode : mode ≠ .unopened) (size : Nat) (t : τ) :
    Follows ⟨size, false⟩ (c.begin t mode size) := by
  refine ⟨consistent_begin c hmode size t, fun hwriting => ?_, fun _ _ _ => ⟨[], .start ?_ ?_ ?_⟩⟩
  · rw [begin_mode] at hwriting
    rw [begin_bodyLength]
    by_cases hsize : 0 < size
    · rw [if_pos ⟨hwriting, hsize⟩]
      rfl
    · rw [if_neg fun h => hsize h.2]
      exact (Nat.eq_zero_of_not_pos hsize).symm
  · exact begin_responseReceived c t mode size
  · rw [begin_buffer]
    exact ReceiveBuffer.unread_clear _
  · exact begin_reader c t mode size

variable [Transport τ]

theorem close (h : Follows x c) : Follows x c.close.state := by
  refine ⟨consistent_close h.consistent, fun hmode => ?_, fun hopen => ?_⟩
  · rw [close_mode] at hmode
    cases hmode
  · exact absurd (close_mode c) hopen

theorem readResponse (h : Follows x c) :
    Follows (x.told c.readResponse.result) c.readResponse.state := by
  have hdeclared : c.readResponse.state.mode = .writing →
      c.readResponse.state.bodyLength.getD 0 = (x.told c.readResponse.result).declared := by
    intro hmode
    rw [readResponse_mode] at hmode
    have hnot : c.mode ≠ .reading := by
      rw [hmode]
      decide
    rw [(readResponse_of_not_reading hnot).1, Exchange.told_declared]
    exact h.declared hmode
  refine ⟨consistent_readResponse h.consistent, hdeclared, fun hopen hunheard hfits => ?_⟩
  rw [readResponse_mode] at hopen
  obtain ⟨hbefore, hlarge⟩ := Exchange.not_overflowed_of_told hfits
  -- A head that was complete before would be complete now.
  have hunheard₀ : c.responseReceived = false := by
    by_contra hheard
    rw [readResponse_of_received (eq_true_of_ne_false hheard)] at hunheard
    exact hheard hunheard
  obtain ⟨read, hawaits⟩ := h.awaits hopen hunheard₀ hbefore
  obtain ⟨t, ht⟩ := h.consistent.exists_transport hopen
  rcases hawaits.readResponse ht with hheard | hresult | hpaused
  · rw [hheard] at hunheard
    cases hunheard
  · exact absurd hresult hlarge
  · exact hpaused

theorem read (h : Follows x c) (room : Nat) : Follows (x.told (c.read room).result) (c.read room).state := by
  by_cases hbefore : c.mode = .unopened ∨ c.responseReceived = false
  · rw [read_of_unheard h.consistent hbefore room]
    exact h.told _
  · -- The response head was complete, and stays so.
    obtain ⟨hopen, hheard⟩ := not_or.mp hbefore
    obtain ⟨hmode, hlength, hreceived⟩ := read_frame h.consistent room
    refine ⟨consistent_read h.consistent room, fun hwriting => ?_, fun _ hunheard => ?_⟩
    · rw [hlength, Exchange.told_declared]
      exact h.declared (hmode.symm.trans hwriting)
    · exact absurd (hreceived.symm.trans hunheard) hheard

theorem write (h : Follows x c) (bytes : Bytes) :
    Follows (x.told (c.write bytes).result) (c.write bytes).state := by
  rcases h.consistent.write_cases bytes with ⟨e, -, hfail⟩ | ⟨hmode, hframing, hcases⟩
  · rw [hfail]
    exact h.told _
  have hopen : c.mode ≠ .unopened := by
    rw [hmode]
    decide
  generalize c.write bytes = o at hcases
  cases hcases with
  | refused hlong => exact h.told _
  | failed t t' e hfits ht hsend => exact (h.withTransport hopen t').told _
  | accepted t t' count hfits ht hsend hle hlt => exact (h.afterSend hmode t' count).told _
  | completed t t' count hfits ht hsend hle hall =>
    show Follows (x.told ((c.afterSend t' count).readResponse.result.map _)) _
    rw [Exchange.told_map]
    exact (h.afterSend hmode t' count).readResponse

variable [Connector κ τ]

theorem openTo (h : Follows x c) (k : κ) (target : Target) (credentials : Credentials)
    (mode : Mode) (size : Nat) (timeouts : Timeouts) (now : Instant) :
    let o := c.openTo k target credentials mode size timeouts now
    Follows ((if o.calls.any Call.isSetup then ⟨size, false⟩ else x).told o.result) o.state.1 := by
  have hcases := openTo_cases c k target credentials mode size timeouts now
  -- Wherever it stops after the connect, the connection is in the new exchange.
  have hbegun : ∀ method t t', mode.method? = some method →
      Follows ⟨size, false⟩ ({ c.begin t mode size with transport := some t' } : Connection τ) := by
    intro method t t' hmethod
    have hmode := ne_unopened_of_method? hmethod
    refine (begin c hmode size t).withTransport ?_ t'
    rwa [begin_mode]
  generalize c.openTo k target credentials mode size timeouts now = o at hcases ⊢
  cases hcases with
  | refused e hwhy => exact h.told _
  | unreachable k' e hclosed hconnect => exact h.told _
  | undated k' t method hclosed hmethod hconnect hsign =>
    exact (begin c (ne_unopened_of_method? hmethod) size t).told _
  | unsent k' t t' method head e calls hclosed hmethod hconnect hsign hsend =>
    exact (hbegun method t t' hmethod).told _
  | ready k' t t' method head calls hclosed hwriting hmethod hconnect hsign hsend =>
    exact (hbegun method t t' hmethod).told _
  | asked k' t t' method head calls hclosed hreading hmethod hconnect hsign hsend =>
    exact (hbegun method t t' hmethod).readResponse

end Follows

/-! ## Sound connections -/

/-- What an exchange tells of its connection. -/
structure Sound (x : Exchange) (c : Connection τ) : Prop where
  stream : c.transport.isSome = true ↔ c.mode ≠ .unopened
  bounded : c.remaining ≤ c.bodyLength.getD 0
  unknown : c.bodyLength = none → c.remaining = 0
  declared : c.mode = .writing →
    c.bodyLength.getD 0 = x.declared ∧ c.chunked = !c.bodyLength.isSome
  /-- A failure waits only while a body of known length is read, with nothing left to hand out
  before it. -/
  waiting : c.deferred.isSome = true →
    c.mode = .reading ∧ c.bodyLength.isSome = true ∧ c.chunked = false ∧ 0 < c.remaining ∧
      c.buffer.unread = []
  /-- Nothing of a response head that may still be read on is in the buffer. -/
  drained : c.mode ≠ .unopened → c.responseReceived = false → x.overflowed = false →
    c.buffer.unread = []

theorem Follows.sound {x : Exchange} {c : Connection τ} (h : Follows x c) : Sound x c where
  stream := h.consistent.stream
  bounded := h.consistent.bounded
  unknown := by
    intro hlength
    have hbounded := h.consistent.bounded
    rw [hlength, Option.getD_none] at hbounded
    omega
  declared := by
    intro hmode
    refine ⟨h.declared hmode, ?_⟩
    rw [Option.not_isSome]
    exact h.consistent.declared hmode
  waiting := by
    intro hdeferred
    obtain ⟨hmode, hframing, hdue, hdrained⟩ := h.consistent.waiting hdeferred
    obtain ⟨hwhole, hlength⟩ := framingError?_eq_none.mp hframing
    exact ⟨hmode, hlength, hwhole, hdue, hdrained⟩
  drained := by
    intro hopen hunheard hfits
    obtain ⟨read, hawaits⟩ := h.awaits hopen hunheard hfits
    exact hawaits.drained

section

variable [Transport τ] {c : Connection τ}

/-- A read that fails without a call tells that there is no stream only if that was the failure that
waited. -/
theorem read_stream (h : Consistent c) {room : Nat} (hresult : (c.read room).result = .error .notOpen)
    (hcalls : (c.read room).calls = []) : c.deferred = some .notOpen := by
  rcases h.read_cases room with ⟨e, hne, hfail⟩ | ⟨-, -, hcases⟩
  · rw [hfail] at hresult
    exact absurd (Except.error.inj hresult) hne
  generalize c.read room = o at hcases hresult hcalls
  cases hcases with
  | deferred e he => rw [he, Except.error.inj hresult]
  | nothing | buffered => cases hresult
  | received | ended | failed | interrupted => cases hcalls

theorem write_stream (h : Consistent c) {bytes : Bytes}
    (hresult : (c.write bytes).result = .error .notOpen) : (c.write bytes).calls ≠ [] := by
  rcases h.write_cases bytes with ⟨e, hne, hfail⟩ | ⟨-, -, hcases⟩
  · rw [hfail] at hresult
    exact absurd (Except.error.inj hresult) hne
  generalize c.write bytes = o at hcases hresult
  cases hcases with
  | refused hlong => exact absurd (Except.error.inj hresult) (by decide)
  | failed | accepted | completed => exact List.cons_ne_nil _ _

/-- An opening that set a stream up goes on to use it, unless the request cannot be dated. -/
theorem openTo_stream [Connector κ τ] {k : κ} {target : Target} {credentials : Credentials}
    {mode : Mode} {size : Nat} {timeouts : Timeouts} {now : Instant}
    (hcalls : (c.openTo k target credentials mode size timeouts now).calls =
      [.connect target.host target.port timeouts (.ok ())]) :
    (c.openTo k target credentials mode size timeouts now).result = .error .undatable := by
  have hcases := openTo_cases c k target credentials mode size timeouts now
  -- A head has bytes, so that sending it makes a call.
  have hsends : ∀ t (head : RequestHead), (sendAll (τ := τ) t head.encode).calls ≠ [] :=
    fun t head => (sendsAll_sendAll t head.encode).calls_ne_nil head.encode_ne_nil
  generalize c.openTo k target credentials mode size timeouts now = o at hcases hcalls ⊢
  cases hcases with
  | refused e hwhy => cases hcalls
  | unreachable k' e hclosed hconnect => cases hcalls
  | undated k' t method hclosed hmethod hconnect hsign => rfl
  | unsent k' t t' method head e calls hclosed hmethod hconnect hsign hsend =>
    have hcalls := (List.cons.inj hcalls).2
    exact absurd (hsend ▸ hcalls) (hsends t head)
  | ready k' t t' method head calls hclosed hwriting hmethod hconnect hsign hsend =>
    have hcalls := (List.cons.inj hcalls).2
    exact absurd (hsend ▸ hcalls) (hsends t head)
  | asked k' t t' method head calls hclosed hreading hmethod hconnect hsign hsend =>
    have hcalls := (List.append_eq_nil_iff.mp (List.cons.inj hcalls).2).1
    exact absurd (hsend ▸ hcalls) (hsends t head)

theorem read_count (h : Consistent c) (room : Nat) {bytes : Bytes}
    (hresult : (c.read room).result = .ok bytes) :
    bytes.length ≤ c.remaining ∧ (c.read room).state.remaining = c.remaining - bytes.length := by
  rcases h.read_cases room with ⟨e, -, hfail⟩ | ⟨-, -, hcases⟩
  · rw [hfail] at hresult
    cases hresult
  generalize c.read room = o at hcases hresult
  cases hcases with
  | deferred | ended | failed => cases hresult
  | nothing hnone hzero =>
    cases hresult
    exact ⟨Nat.zero_le _, rfl⟩
  | buffered hnone hpos henough =>
    cases hresult
    rw [List.length_take_of_le henough]
    exact ⟨Nat.min_le_right .., rfl⟩
  | received t t' back hnone hlt ht hrecv hne =>
    cases hresult
    -- The stream was asked for no more than was due and not yet in the buffer.
    have hback : back.length ≤ c.due room := Transport.receive_le t _ _ (by rw [hrecv])
    rw [due] at hback
    rw [List.length_append]
    refine ⟨?_, rfl⟩
    omega
  | interrupted t t' e hnone hlt hunread ht hrecv =>
    cases hresult
    refine ⟨?_, rfl⟩
    omega

theorem write_count (h : Consistent c) (bytes : Bytes) {offered : Bytes} {count : Nat}
    (hmem : Call.send offered (.ok count) ∈ (c.write bytes).calls) :
    count ≤ c.remaining ∧ (c.write bytes).state.remaining = c.remaining - count := by
  rcases h.write_cases bytes with ⟨e, -, hfail⟩ | ⟨hmode, -, hcases⟩
  · rw [hfail] at hmem
    cases hmem
  generalize c.write bytes = o at hcases hmem
  cases hcases with
  | refused hlong => cases hmem
  | failed t t' e hfits ht hsend =>
    have hcall := List.mem_singleton.mp hmem
    cases hcall
  | accepted t t' n hfits ht hsend hle hlt =>
    have hcall := List.mem_singleton.mp hmem
    cases hcall
    exact ⟨Nat.le_of_lt hlt, rfl⟩
  | completed t t' n hfits ht hsend hle hall =>
    have hnot : (c.afterSend t' n).mode ≠ .reading := by
      show c.mode ≠ .reading
      rw [hmode]
      decide
    rcases List.mem_cons.mp hmem with hcall | hcall
    · -- The response that is read after the last byte takes nothing off.
      cases hcall
      exact ⟨Nat.le_of_eq hall.symm, (readResponse_of_not_reading hnot).2.1⟩
    · cases isReceive_of_mem_readResponse _ _ hcall

end

/-! ## Sessions -/

section

variable [Transport τ] [Connector κ τ]

theorem Follows.perform {x : Exchange} {s : Connection τ × κ} (h : Follows x s.1) (op : Operation) :
    Follows (x.next op (perform op s)) (perform op s).state.1 := by
  -- A reply instead of the result is told of in the same way.
  cases op with
  | openTo target credentials mode size timeouts now =>
    have hnext := h.openTo s.2 target credentials mode size timeouts now
    dsimp only at hnext
    rwa [← Exchange.told_map] at hnext
  | readResponse =>
    have hnext := h.readResponse
    rwa [← Exchange.told_map] at hnext
  | read room =>
    have hnext := h.read room
    rwa [← Exchange.told_map] at hnext
  | write bytes =>
    have hnext := h.write bytes
    rwa [← Exchange.told_map] at hnext
  | close => exact h.close.told _

theorem Follows.series {x : Exchange} {s : Connection τ × κ} (h : Follows x s.1)
    (ops : List Operation) :
    let os := Outcome.series (fun s op => Connection.perform op s) s ops
    Follows (x.after ops os) (Outcome.last s os).1 := by
  induction ops generalizing x s with
  | nil => exact h
  | cons op rest ih => exact ih (h.perform op)

/-- Any connection, whatever was done with it and whatever its streams answered: it has a stream
just while it is open, what it counts and keeps is as `Sound` says, and so no operation on it finds
that the stream is lacking, and none hands out or accepts more bytes than remain. -/
theorem session_sound (capacity : Nat) (k : κ) (ops : List Operation) :
    let os := Outcome.series (fun (s : Connection τ × κ) op => perform op s) (new capacity, k) ops
    let s := Outcome.last (new capacity, k) os
    Sound (Exchange.none.after ops os) s.1 ∧
    (∀ target credentials mode size timeouts now,
      let o := s.1.openTo s.2 target credentials mode size timeouts now
      o.calls = [.connect target.host target.port timeouts (.ok ())] →
        o.result = .error .undatable) ∧
    (∀ room,
      let o := s.1.read room
      (o.result = .error .notOpen → o.calls = [] → s.1.deferred = some .notOpen) ∧
      ∀ bytes, o.result = .ok bytes →
        bytes.length ≤ s.1.remaining ∧ o.state.remaining = s.1.remaining - bytes.length) ∧
    ∀ bytes,
      let o := s.1.write bytes
      (o.result = .error .notOpen → o.calls ≠ []) ∧
      ∀ offered count, .send offered (.ok count) ∈ o.calls →
        count ≤ s.1.remaining ∧ o.state.remaining = s.1.remaining - count := by
  intro os s
  have hfollows : Follows (Exchange.none.after ops os) s.1 :=
    Follows.series (s := (new capacity, k)) (follows_new capacity) ops
  have hconsistent := hfollows.consistent
  refine ⟨hfollows.sound, fun _ _ _ _ _ _ hcalls => openTo_stream hcalls, fun room => ⟨?_, ?_⟩,
    fun bytes => ⟨?_, ?_⟩⟩
  · exact fun hresult hcalls => read_stream hconsistent hresult hcalls
  · exact fun bytes hresult => read_count hconsistent room hresult
  · exact fun hresult => write_stream hconsistent hresult
  · exact fun offered count hmem => write_count hconsistent bytes hmem

end

end Connection
end ObjectStream
