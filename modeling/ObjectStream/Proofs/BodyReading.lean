/-
  ObjectStream.Proofs.BodyReading

  Reading the body of a response, whatever the peer does. Each read obeys three
  laws (`Conserves`): no byte is lost, doubled or moved between the stream, the
  buffer and the caller; what was handed out is no longer to come; and a failure
  of the stream is told of or waits. The laws add up over a series of reads.
-/

import ObjectStream.Proofs.Lifecycle
import ObjectStream.Proofs.Opening

namespace ObjectStream
namespace Connection

/-! ## What a read gave -/

section

variable {τ : Type}

/-- The bytes that a read handed out. -/
def handedOut (o : Outcome Error (Connection τ) Bytes) : Bytes :=
  match o.result with
  | .ok bytes => bytes
  | .error _ => []

/-- The failure of a receive that a read tells of: the error that it gives, unless that is because
the peer has closed the stream. -/
def told? (o : Outcome Error (Connection τ) Bytes) : Option Error :=
  match o.result with
  | .ok _ => none
  | .error e => if o.calls.any Call.isEnd then none else some e

/-- A connection that reads a body of `size` bytes. -/
structure ReadsBody (size : Nat) (c : Connection τ) : Prop where
  consistent : Consistent c
  reading : c.mode = .reading
  length : c.bodyLength = some size
  whole : c.chunked = false

theorem ReadsBody.framing {size : Nat} {c : Connection τ} (h : ReadsBody size c) :
    c.framingError? = none :=
  framingError?_eq_none.mpr ⟨h.whole, by rw [h.length]; rfl⟩

/-- The laws between a connection and the outcome of a read, or of several. -/
structure Conserves (c c' : Connection τ) (out : Bytes) (told : List Error) (calls : List Call) :
    Prop where
  /-- What was handed out, and what still waits, is what waited before and what was received. -/
  bytes : out ++ c'.buffer.unread = c.buffer.unread ++ calls.flatMap Call.received
  /-- What was handed out is no longer to come. -/
  count : out.length + c'.remaining = c.remaining
  /-- What was told of, and what still waits, is what waited before and what receives met. -/
  failures : told ++ c'.deferred.toList = c.deferred.toList ++ calls.filterMap Call.receiveError?

theorem Conserves.refl (c : Connection τ) : Conserves c c [] [] [] := by
  constructor <;> simp

theorem Conserves.trans {c c' c'' : Connection τ} {out out' : Bytes} {told told' : List Error}
    {calls calls' : List Call} (h : Conserves c c' out told calls)
    (h' : Conserves c' c'' out' told' calls') :
    Conserves c c'' (out ++ out') (told ++ told') (calls ++ calls') := by
  refine ⟨?_, ?_, ?_⟩
  · rw [List.append_assoc, h'.bytes, ← List.append_assoc, h.bytes, List.append_assoc,
      List.flatMap_append]
  · rw [List.length_append, ← h.count, ← h'.count, Nat.add_assoc]
  · rw [List.append_assoc, h'.failures, ← List.append_assoc, h.failures, List.append_assoc,
      List.filterMap_append]

end

/-! ## One read -/

section

variable {τ : Type} [Transport τ] {size : Nat} {c : Connection τ}

/-- What a read does while a body is being read. -/
theorem ReadsBody.read_cases (h : ReadsBody size c) (room : Nat) : Reads c room (c.read room) := by
  obtain ⟨t, ht⟩ := h.consistent.exists_transport (by rw [h.reading]; decide)
  exact Connection.read_cases h.reading h.framing ht room

/-- A read leaves the body as it is. -/
theorem ReadsBody.read (h : ReadsBody size c) (room : Nat) :
    ReadsBody size (c.read room).state := by
  have hcases := h.read_cases room
  have hconsistent := consistent_read h.consistent room
  generalize c.read room = o at hcases hconsistent ⊢
  obtain ⟨-, hreading, hlength, hwhole⟩ := h
  cases hcases <;> exact ⟨hconsistent, hreading, hlength, hwhole⟩

/-- A read obeys the laws. -/
theorem Reads.conserves {room : Nat} {o : Outcome Error (Connection τ) Bytes} (h : Reads c room o) :
    Conserves c o.state (handedOut o) (told? o).toList o.calls := by
  cases h with
  | deferred e he =>
    refine ⟨by simp [handedOut, Outcome.fail], by simp [handedOut, Outcome.fail], ?_⟩
    simp [told?, Outcome.fail, he]
  | nothing hnone hzero => exact Conserves.refl c
  | buffered hnone hpos henough =>
    -- The buffer is cut where the read ends.
    have hlength : (c.buffer.unread.take (min room c.remaining)).length = min room c.remaining :=
      List.length_take_of_le henough
    refine ⟨by simp [handedOut, Outcome.ok, advance], ?_, by simp [told?, Outcome.ok, advance]⟩
    show (c.buffer.unread.take (min room c.remaining)).length
      + (c.remaining - min room c.remaining) = c.remaining
    omega
  | received t t' bytes hnone hlt ht hrecv hne =>
    have hdrop : c.buffer.unread.drop (min room c.remaining) = [] :=
      List.drop_eq_nil_of_le (Nat.le_of_lt hlt)
    -- The stream gives no more than what is due, so the body is not overrun.
    have hle : bytes.length ≤ min room c.remaining - c.buffer.unread.length :=
      Transport.receive_le t (c.due room) bytes (by rw [hrecv])
    refine ⟨?_, ?_, by simp [told?, afterReceive, advance]⟩
    · show c.buffer.unread ++ bytes ++ c.buffer.unread.drop (min room c.remaining) = _
      simp [hdrop]
    · show (c.buffer.unread ++ bytes).length
        + (c.remaining - (c.buffer.unread.length + bytes.length)) = c.remaining
      rw [List.length_append]
      omega
  | ended t t' hnone hlt hunread ht hrecv =>
    -- The end of the stream is no failure of a receive.
    refine ⟨by simp [handedOut, afterReceive, hunread], by simp [handedOut, afterReceive], ?_⟩
    simp [told?, afterReceive, Call.isEnd]
  | failed t t' e hnone hlt hunread ht hrecv =>
    -- The failure is told of by the read that met it.
    refine ⟨by simp [handedOut, afterReceive, hunread], by simp [handedOut, afterReceive], ?_⟩
    simp [told?, afterReceive, Call.isEnd, hnone]
  | interrupted t t' e hnone hlt hunread ht hrecv =>
    have hdrop : c.buffer.unread.drop (min room c.remaining) = [] :=
      List.drop_eq_nil_of_le (Nat.le_of_lt hlt)
    -- The failure waits, and only the bytes before it are handed out.
    refine ⟨?_, ?_, by simp [told?, hnone]⟩
    · show c.buffer.unread ++ c.buffer.unread.drop (min room c.remaining) = _
      simp [hdrop]
    · show c.buffer.unread.length + (c.remaining - c.buffer.unread.length) = c.remaining
      omega

/-- A read makes no call but one receive, for what is due. -/
theorem ReadsBody.read_calls (h : ReadsBody size c) (room : Nat) :
    (c.read room).calls = [] ∨
      ∃ received, (c.read room).calls = [.receive (c.due room) received] := by
  have hcases := h.read_cases room
  generalize c.read room = o at hcases ⊢
  cases hcases with
  | deferred | nothing | buffered => exact .inl rfl
  | received | ended | failed | interrupted => exact .inr ⟨_, rfl⟩

/-- A read into some room gives no byte exactly at the end of the body. -/
theorem ReadsBody.read_eq_nil_iff (h : ReadsBody size c) {room : Nat} (hroom : 0 < room) :
    (c.read room).result = .ok [] ↔ c.remaining = 0 := by
  have hcases := h.read_cases room
  generalize c.read room = o at hcases ⊢
  have hlack : c.remaining = 0 → ∀ n, ¬n < min room c.remaining := by omega
  cases hcases with
  | deferred e he =>
    -- A failure waits only while more is to come.
    have hpos : 0 < c.remaining := (h.consistent.waiting (by rw [he]; rfl)).2.2.1
    exact ⟨nofun, fun hzero => absurd hpos (by omega)⟩
  | nothing hnone hzero => exact ⟨fun _ => by omega, fun _ => rfl⟩
  | buffered hnone hpos henough =>
    refine ⟨fun hnil => ?_, fun hzero => absurd hzero (by omega)⟩
    -- The bytes that are handed out are as many as were asked for, and these are some.
    have htake : c.buffer.unread.take (min room c.remaining) = [] := Except.ok.inj hnil
    have hlength := congrArg List.length htake
    rw [List.length_take_of_le henough] at hlength
    exact absurd hlength hpos
  | received t t' bytes hnone hlt ht hrecv hne =>
    exact ⟨fun hnil => absurd (Except.ok.inj hnil) hne, fun hzero => absurd hlt (hlack hzero _)⟩
  | ended t t' hnone hlt hunread ht hrecv => exact ⟨nofun, fun hzero => absurd hlt (hlack hzero _)⟩
  | failed t t' e hnone hlt hunread ht hrecv =>
    exact ⟨nofun, fun hzero => absurd hlt (hlack hzero _)⟩
  | interrupted t t' e hnone hlt hunread ht hrecv =>
    exact ⟨fun hnil => absurd (Except.ok.inj hnil) hunread, fun hzero => absurd hlt (hlack hzero _)⟩

/-- When the peer turns out to have closed the stream, a read gives what was buffered, or fails if
that is nothing. -/
theorem ReadsBody.read_of_end (h : ReadsBody size c) {room n : Nat}
    (hend : .receive n (.ok []) ∈ (c.read room).calls) :
    (c.read room).result =
      if c.buffer.unread = [] then .error .connectionReset else .ok c.buffer.unread := by
  have hcases := h.read_cases room
  generalize c.read room = o at hcases hend ⊢
  cases hcases with
  | deferred | nothing | buffered => cases hend
  | received t t' bytes hnone hlt ht hrecv hne =>
    obtain ⟨-, hbytes⟩ : n = c.due room ∧ bytes = [] := by simpa [eq_comm] using hend
    rw [hbytes, List.append_nil] at hne ⊢
    rw [if_neg hne]
  | ended t t' hnone hlt hunread ht hrecv => rw [if_pos hunread]
  | failed | interrupted => simp at hend

/-- A failing receive is told of at once when there is nothing to hand out, and by the next read
when there is. -/
theorem ReadsBody.read_of_failure (h : ReadsBody size c) {room n : Nat} {e : Error}
    (hfail : .receive n (.error e) ∈ (c.read room).calls) :
    (c.buffer.unread = [] ∧ (c.read room).result = .error e ∧ (c.read room).state.deferred = none) ∨
      (c.buffer.unread ≠ [] ∧ (c.read room).result = .ok c.buffer.unread ∧
        (c.read room).state.deferred = some e) := by
  have hcases := h.read_cases room
  generalize c.read room = o at hcases hfail ⊢
  cases hcases with
  | deferred | nothing | buffered => cases hfail
  | received | ended => simp at hfail
  | failed t t' e' hnone hlt hunread ht hrecv =>
    obtain ⟨-, rfl⟩ : n = c.due room ∧ e = e' := by simpa using hfail
    exact .inl ⟨hunread, rfl, hnone⟩
  | interrupted t t' e' hnone hlt hunread ht hrecv =>
    obtain ⟨-, rfl⟩ : n = c.due room ∧ e = e' := by simpa using hfail
    exact .inr ⟨hunread, rfl, rfl⟩

/-- A read tells of the failure that waits, and leaves the stream alone. -/
theorem ReadsBody.read_of_deferred (h : ReadsBody size c) (room : Nat) {e : Error}
    (hdeferred : c.deferred = some e) : c.read room = .fail { c with deferred := none } e := by
  rw [Connection.read, if_neg (not_not_intro h.reading), h.framing, hdeferred]

/-! ## A series of reads -/

/-- A series of reads obeys the laws, and leaves the body as it is. -/
theorem ReadsBody.series (h : ReadsBody size c) (rooms : List Nat) :
    let os := Outcome.series Connection.read c rooms
    ReadsBody size (Outcome.last c os) ∧
      Conserves c (Outcome.last c os) (os.flatMap handedOut) (os.filterMap told?)
        (Outcome.log os) := by
  -- On the rooms; the laws of the first read and those of the others add up.
  induction rooms generalizing c with
  | nil => exact ⟨h, Conserves.refl c⟩
  | cons room rest ih =>
    obtain ⟨hlast, hrest⟩ := ih (h.read room)
    have hfirst := (h.read_cases room).conserves
    refine ⟨hlast, ?_⟩
    have hboth := hfirst.trans hrest
    -- Whether the first read tells of a failure decides the front of the list of failures.
    cases htold : told? (c.read room) with
    | none => simpa [htold] using hboth
    | some e => simpa [htold] using hboth

end

/-! ## The body of a response -/

variable {τ κ : Type} [Transport τ] [Connector κ τ]

/-- Once a head with a length is complete, all of the body is to be read. -/
theorem CompletesHead.readsBody {op : Operation} {s : Connection τ × κ} (h : CompletesHead op s)
    (hs : Reachable s) {size : Nat}
    (hlength : (perform op s).state.1.response.contentLength = .ok (some size))
    (hwhole : (perform op s).state.1.response.isChunked = false) :
    ReadsBody size (perform op s).state.1 ∧ (perform op s).state.1.remaining = size ∧
      (perform op s).state.1.deferred = none := by
  obtain ⟨hremaining, hdeferred⟩ := h.remaining (consistent_of_reachable hs)
  have hconsistent := consistent_of_reachable (hs.step op)
  -- When reading, what is known of the body is what the complete head tells.
  have hframed := hconsistent.framed h.reading
  rw [h.received, if_pos rfl, ResponseHead.framing, hlength, hwhole, Prod.mk.injEq] at hframed
  rw [hframed.1] at hremaining
  exact ⟨⟨hconsistent, h.reading, hframed.1, hframed.2⟩, hremaining, hdeferred⟩

/-- Reading the body of a response, whatever its status, in any rooms and from any peer. The reads call
the stream that is held, each where the one before has left it, and the log has what it answered. What
is handed out is what came after the head, in order, and never more than the announced length. Every
failure of a receive is told of once, in order. Of any further read: no byte for some room means the
end of the body; a stream that ends before is a failure unless there was something to hand out; and
a failing receive is told of at once, or by the very next read if there was something to hand
out. -/
theorem read_body_of_any_peer {s : Connection τ × κ} {op : Operation} (hs : Reachable s)
    (hop : CompletesHead op s) {size : Nat}
    (hlength : (perform op s).state.1.response.contentLength = .ok (some size))
    (hwhole : (perform op s).state.1.response.isChunked = false) (rooms : List Nat) :
    let c := (perform op s).state.1
    let os := Outcome.series read c rooms
    let c' := Outcome.last c os
    let body := c.buffer.unread ++ (Outcome.log os).flatMap Call.received
    Keeps c.transport (Outcome.log os) c'.transport ∧
    os.flatMap handedOut ++ c'.buffer.unread = body ∧
    os.flatMap handedOut <+: body ∧
    (os.flatMap handedOut).length = size - c'.remaining ∧ c'.remaining ≤ size ∧
    os.filterMap told? ++ c'.deferred.toList = (Outcome.log os).filterMap Call.receiveError? ∧
    c'.contentLength = .ok size ∧
    ∀ room,
      ((c'.read room).calls = [] ∨
        ∃ received, (c'.read room).calls = [.receive (c'.due room) received]) ∧
      (0 < room → ((c'.read room).result = .ok [] ↔ c'.remaining = 0)) ∧
      (∀ n, .receive n (.ok []) ∈ (c'.read room).calls → (c'.read room).result =
        if c'.buffer.unread = [] then .error .connectionReset else .ok c'.buffer.unread) ∧
      (∀ n e, .receive n (.error e) ∈ (c'.read room).calls →
        ((c'.read room).result = .error e ∧ (c'.read room).state.deferred = none) ∨
        (c'.buffer.unread ≠ [] ∧ (c'.read room).result = .ok c'.buffer.unread ∧
          ∀ room', ((c'.read room).state.read room').result = .error e ∧
            ((c'.read room).state.read room').calls = [] ∧
            ((c'.read room).state.read room').state.deferred = none)) := by
  intro c os c' body
  obtain ⟨hreads, hremaining, hdeferred⟩ := hop.readsBody hs hlength hwhole
  obtain ⟨hlast, hbytes, hcount, hfailures⟩ := hreads.series rooms
  have htotal : (os.flatMap handedOut).length + c'.remaining = size := hcount.trans hremaining
  rw [hdeferred] at hfailures
  have hopened : c'.mode ≠ .unopened := by
    rw [hlast.reading]
    decide
  have hlength' : c'.contentLength = .ok size := by
    rw [contentLength_of_open hopened, hlast.length]
  have hkeeps : Keeps c.transport (Outcome.log os) c'.transport := keeps_reads hreads.consistent rooms
  refine ⟨hkeeps, hbytes, ⟨_, hbytes⟩, by omega, by omega, hfailures, hlength', fun room => ?_⟩
  refine ⟨hlast.read_calls room, hlast.read_eq_nil_iff, fun n => hlast.read_of_end,
    fun n e hfail => ?_⟩
  rcases hlast.read_of_failure hfail with ⟨-, hresult, hnone⟩ | ⟨hunread, hresult, hwaits⟩
  · exact .inl ⟨hresult, hnone⟩
  · refine .inr ⟨hunread, hresult, fun room' => ?_⟩
    rw [(hlast.read room).read_of_deferred room' hwaits]
    exact ⟨rfl, rfl, rfl⟩

/-- A new connection, and a peer that refuses its first request. -/
def refusedSession : Connection Script × Scripts := (new 0, ⟨[{ receipts := refusal.map .data }]⟩)

/-- The request that is refused. -/
def refusedRequest : Operation := .openTo ⟨"h", 80, "/o"⟩ ⟨"a", "s"⟩ .reading 0 ⟨none, none⟩ ⟨0⟩

/-- Two reads of what the peer sends with the refusal. -/
def refusedReads : List (Outcome Error (Connection Script) Bytes) :=
  Outcome.series read (perform refusedRequest refusedSession).state.1 [2, 5]

/-- The body of a refusal, read in two parts. -/
theorem read_body_of_any_peer_refused :
    CompletesHead refusedRequest refusedSession ∧
      (refusedReads.flatMap handedOut).length =
        3 - (Outcome.last (perform refusedRequest refusedSession).state.1
          refusedReads).remaining := by
  obtain ⟨head, hsign⟩ :
      ∃ head, RequestHead.Draft.sign? ⟨.get, "h", "/o", none⟩ ⟨0⟩ ⟨"a", "s"⟩ = some head := ⟨_, rfl⟩
  obtain ⟨calls, hsend⟩ :=
    Script.sendAll_of_unbounded (s := { receipts := refusal.map .data }) rfl rfl head.encode
  have hpeer : Delivers Ended ({ receipts := refusal.map .data } : Script) refusal.flatten :=
    Script.delivers refusal (by decide) rfl
  obtain ⟨o, hears, hopen⟩ :=
    openTo_hears (new 0) refusedSession.2 ⟨"h", 80, "/o"⟩ ⟨"a", "s"⟩ 0 ⟨none, none⟩ ⟨0⟩ rfl
      (by decide) rfl hsign hsend hpeer
  obtain ⟨hreceived, hresponse, hmode⟩ := hears.heard (p := 37) (by decide) (by decide)
  have hstate : (perform refusedRequest refusedSession).state.1 = o.state :=
    congrArg (·.state.1) hopen
  have hannounced : (ResponseHead.ofLines (Bytes.headLines refusal.flatten)).Announces (some 3) :=
    ⟨"3", by decide, Number.word64?_eq_some.mp (by decide)⟩
  rw [← hstate] at hreceived hresponse hmode
  have hlength :
      (perform refusedRequest refusedSession).state.1.response.contentLength = .ok (some 3) := by
    rw [hresponse]
    exact ResponseHead.contentLength_of_announces hannounced
  have hwhole : (perform refusedRequest refusedSession).state.1.response.isChunked = false := by
    rw [hresponse]
    decide
  have hop : CompletesHead refusedRequest refusedSession := ⟨.inl rfl, hmode, hreceived⟩
  obtain ⟨-, -, -, hcount, -⟩ :=
    read_body_of_any_peer (.new 0 refusedSession.2) hop hlength hwhole [2, 5]
  exact ⟨hop, hcount⟩

end Connection
end ObjectStream
