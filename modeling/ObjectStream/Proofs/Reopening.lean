/-
  ObjectStream.Proofs.Reopening

  Between two exchanges. A closed connection keeps what it knows of the last
  exchange, refuses all calls but one, and makes no call itself
  (`closed_connection_refuses`). When it is opened again, nothing of all that makes
  a difference: it does what a new connection of its capacity does on the same
  stream (`reopened_as_new`). The capacity is what all operations keep.
-/

import ObjectStream.Proofs.BodyReading
import ObjectStream.Proofs.HeadFirst
import ObjectStream.Proofs.Lifecycle

namespace ObjectStream

variable {τ κ κ' : Type}

/-! ## The capacity of a buffer -/

namespace ReceiveBuffer

@[simp] theorem capacity_rewind (b : ReceiveBuffer) : b.rewind.capacity = b.capacity := by
  rw [rewind]
  split <;> rfl

@[simp] theorem capacity_fill [Transport τ] (b : ReceiveBuffer) (t : τ) :
    (b.fill t).state.1.capacity = b.capacity := by
  rw [fill]
  split
  · exact capacity_rewind b
  · split <;> exact capacity_rewind b

/-- A buffer that is cleared is a new one of its capacity. -/
theorem clear_eq {b b' : ReceiveBuffer} (h : b.capacity = b'.capacity) : b.clear = b'.clear := by
  obtain ⟨capacity, position, unread, floor, within⟩ := b
  obtain ⟨capacity', position', unread', floor', within'⟩ := b'
  have hcapacity : capacity = capacity' := h
  subst hcapacity
  rfl

end ReceiveBuffer

@[simp] theorem HeadReader.capacity_absorb (r : HeadReader) (b : ReceiveBuffer) (head : ResponseHead) :
    (r.absorb b head).buffer.capacity = b.capacity := by
  fun_induction absorb r b head with
  | case1 | case2 | case3 | case5 => rfl
  | case4 r b head hne length hle content heq hcontent ih => exact ih

theorem capacity_receiveHeadFrom [Transport τ] (made : List Call) (t : τ) (p : HeadProgress) :
    (receiveHeadFrom made t p).state.2.buffer.capacity = p.buffer.capacity := by
  fun_induction receiveHeadFrom made t p with
  | case1 | case2 => exact ReceiveBuffer.capacity_fill _ _
  | case3 | case4 => exact (HeadReader.capacity_absorb ..).trans (ReceiveBuffer.capacity_fill _ _)
  | case5 made t p filled calls buffer t' n hfill absorbed p' habsorb ih =>
    exact ih.trans ((HeadReader.capacity_absorb ..).trans (ReceiveBuffer.capacity_fill _ _))

namespace Connection

/-! ## The capacity of a connection -/

section

@[simp] theorem afterHead_buffer (c : Connection τ) : c.afterHead.2.buffer = c.buffer := by
  obtain ⟨_, _, _, hframe⟩ := afterHead_frame c
  rw [hframe]

variable [Transport τ]

theorem capacity_readResponse (c : Connection τ) :
    c.readResponse.state.buffer.capacity = c.buffer.capacity := by
  have hcases := readResponse_cases c
  have hloop := fun t : τ => capacity_receiveHeadFrom [] t ⟨c.buffer, c.reader, .empty⟩
  generalize c.readResponse = o at hcases
  cases hcases with
  | known | closed => rfl
  | broken t t' p e calls hreceived ht ho =>
    have hcapacity := hloop t
    rw [ho] at hcapacity
    exact hcapacity
  | complete t t' p calls hreceived ht ho =>
    have hcapacity := hloop t
    rw [ho] at hcapacity
    rw [afterHead_buffer]
    exact hcapacity

theorem capacity_read {c : Connection τ} (hc : Consistent c) (room : Nat) :
    (c.read room).state.buffer.capacity = c.buffer.capacity := by
  rcases hc.read_cases room with ⟨e, -, hfail⟩ | ⟨-, -, hcases⟩
  · rw [hfail]
    rfl
  · generalize c.read room = o at hcases
    cases hcases <;> rfl

theorem capacity_write {c : Connection τ} (hc : Consistent c) (bytes : Bytes) :
    (c.write bytes).state.buffer.capacity = c.buffer.capacity := by
  rcases hc.write_cases bytes with ⟨e, -, hfail⟩ | ⟨-, -, hcases⟩
  · rw [hfail]
    rfl
  generalize c.write bytes = o at hcases
  cases hcases with
  | refused | failed | accepted => rfl
  | completed t t' count hfits ht hsend hle hall => exact capacity_readResponse (c.afterSend t' count)

theorem capacity_close (c : Connection τ) :
    c.close.state.buffer.capacity = c.buffer.capacity := by
  rw [close]
  split
  · rfl
  · dsimp only
    split <;> rfl

variable [Connector κ τ]

theorem capacity_openTo (c : Connection τ) (k : κ) (target : Target) (credentials : Credentials)
    (mode : Mode) (size : Nat) (timeouts : Timeouts) (now : Instant) :
    (c.openTo k target credentials mode size timeouts now).state.1.buffer.capacity =
      c.buffer.capacity := by
  have hcases := openTo_cases c k target credentials mode size timeouts now
  have hbegin : ∀ t : τ, (c.begin t mode size).buffer.capacity = c.buffer.capacity := by
    intro t
    rw [begin_buffer]
    rfl
  generalize c.openTo k target credentials mode size timeouts now = o at hcases
  cases hcases with
  | refused | unreachable => rfl
  | undated k' t | unsent k' t | ready k' t => exact hbegin t
  | asked k' t => exact (capacity_readResponse _).trans (hbegin t)

theorem capacity_perform (op : Operation) {s : Connection τ × κ} (hc : Consistent s.1) :
    (perform op s).state.1.buffer.capacity = s.1.buffer.capacity := by
  cases op with
  | openTo target credentials mode size timeouts now =>
    exact capacity_openTo s.1 s.2 target credentials mode size timeouts now
  | readResponse => exact capacity_readResponse s.1
  | read room => exact capacity_read hc room
  | write bytes => exact capacity_write hc bytes
  | close => exact capacity_close s.1

/-- Whatever is done with a connection, its buffer keeps its capacity. -/
theorem capacity_series (ops : List Operation) {s : Connection τ × κ} (hc : Consistent s.1) :
    (Outcome.last s (Outcome.series (fun s op => perform op s) s ops)).1.buffer.capacity =
      s.1.buffer.capacity := by
  induction ops generalizing s with
  | nil => rfl
  | cons op ops ih => exact (ih (consistent_perform op hc)).trans (capacity_perform op hc)

end

/-! ## A closed connection -/

/-- Whether an operation opens a connection. -/
def Operation.isOpening : Operation → Bool
  | .openTo .. => true
  | _ => false

section

variable [Transport τ] [Connector κ τ]

/-- What a closed connection does with an operation that does not open it: nothing. -/
inductive Declines (s : Connection τ × κ) :
    Operation → Outcome Error (Connection τ × κ) Reply → Prop where
  /-- The operation is invalid. -/
  | refused {op : Operation} (message : String) :
      (op = .readResponse → s.1.responseReceived = false) →
      Declines s op (.fail s (.invalidOperation message))
  /-- The response head of the last exchange is complete, and is not read again. -/
  | known : s.1.responseReceived = true → Declines s .readResponse (.ok s .done)

omit [Transport τ] [Connector κ τ] in
theorem Declines.state_eq {s : Connection τ × κ} {op : Operation}
    {o : Outcome Error (Connection τ × κ) Reply} (h : Declines s op o) : o.state = s := by
  cases h <;> rfl

theorem declines_perform {s : Connection τ × κ} (hc : Consistent s.1) (hclosed : s.1.mode = .unopened)
    {op : Operation} (hop : op.isOpening = false) : Declines s op (perform op s) := by
  have hmode : ∀ mode, mode ≠ .unopened → s.1.mode ≠ mode := by
    intro mode hne
    rw [hclosed]
    exact hne.symm
  cases op with
  | openTo => cases hop
  | readResponse =>
    rw [perform]
    cases hheard : s.1.responseReceived with
    | true =>
      rw [readResponse_of_received hheard]
      exact .known hheard
    | false =>
      rw [readResponse_of_no_stream hheard (hc.transport_eq_none hclosed)]
      exact .refused _ fun _ => hheard
  | read room =>
    rw [perform, read_of_not_reading (hmode .reading (by decide))]
    exact .refused _ nofun
  | write bytes =>
    rw [perform, write_of_not_writing (hmode .writing (by decide))]
    exact .refused _ nofun
  | close =>
    rw [perform, close_of_closed hclosed]
    exact .refused _ nofun

/-- Whatever is asked of a closed connection but to open, it makes no call and stays as it is, and
the operation is invalid. Only the response head that was complete when the connection was closed is
still reported as read. -/
theorem closed_connection_refuses {s : Connection τ × κ} (hs : Reachable s)
    (hclosed : s.1.mode = .unopened) (ops : List Operation)
    (hops : ∀ op ∈ ops, op.isOpening = false) :
    List.Forall₂ (Declines s) ops (Outcome.series (fun s op => perform op s) s ops) ∧
      s.1.statusLine = .error .notOpen ∧ (∀ name, s.1.responseField name = .error .notOpen) ∧
      s.1.contentLength = .error .notOpen := by
  have hc := consistent_of_reachable hs
  have hshut : ¬s.1.isOpen = true := by
    rw [isOpen, hclosed]
    decide
  refine ⟨?_, if_neg hshut, fun name => if_neg hshut, if_neg hshut⟩
  induction ops with
  | nil => exact .nil
  | cons op ops ih =>
    have hdeclines := declines_perform hc hclosed (hops op List.mem_cons_self)
    refine .cons hdeclines ?_
    -- Nothing has changed, so the rest is asked of the same connection.
    rw [hdeclines.state_eq]
    exact ih fun op hop => hops op (List.mem_cons_of_mem _ hop)

/-! ### After a refused request -/

omit [Connector κ τ] in
/-- Closing an open connection keeps what it knows of the response. -/
theorem close_responseReceived {c : Connection τ} (hc : Consistent c) (hopen : c.mode ≠ .unopened) :
    c.close.state.responseReceived = c.responseReceived := by
  obtain ⟨t, ht⟩ := hc.exists_transport hopen
  rw [close_of_open hopen ht]

/-- Once the request is refused, the connection is open and knows the whole response head. -/
theorem perform_refusedRequest :
    let o := perform refusedRequest refusedSession
    o.state.1.mode = .reading ∧ o.state.1.responseReceived = true ∧ o.state.2 = ⟨[]⟩ := by
  intro o
  obtain ⟨head, hsign⟩ :
      ∃ head, RequestHead.Draft.sign? ⟨.get, "h", "/o", none⟩ ⟨0⟩ ⟨"a", "s"⟩ = some head := ⟨_, rfl⟩
  obtain ⟨calls, hsend⟩ :=
    Script.sendAll_of_unbounded (s := { receipts := refusal.map .data }) rfl rfl head.encode
  obtain ⟨heard, hears, hopen⟩ := openTo_hears (new 0) refusedSession.2 ⟨"h", 80, "/o"⟩ ⟨"a", "s"⟩ 0
    ⟨none, none⟩ ⟨0⟩ rfl (by decide) rfl hsign hsend (Script.delivers refusal (by decide) rfl)
  obtain ⟨hreceived, -, hmode⟩ := hears.heard (p := 37) (by decide) (by decide)
  have hstate : o.state = (heard.state, ⟨[]⟩) := congrArg Outcome.state hopen
  rw [hstate]
  exact ⟨hmode, hreceived, rfl⟩

/-- The connection of the refused request, closed. -/
def refusedAndClosed : Connection Script × Scripts :=
  (perform .close (perform refusedRequest refusedSession).state).state

theorem refusedAndClosed_known :
    refusedAndClosed.1.mode = .unopened ∧ refusedAndClosed.1.responseReceived = true ∧
      refusedAndClosed.2 = ⟨[]⟩ := by
  obtain ⟨hmode, hreceived, hmaker⟩ := perform_refusedRequest
  have hc : Consistent (perform refusedRequest refusedSession).state.1 :=
    consistent_perform refusedRequest (consistent_new 0)
  refine ⟨close_mode _, ?_, hmaker⟩
  have hkeeps := close_responseReceived hc (by rw [hmode]; decide)
  exact hkeeps.trans hreceived

/-- After a refused request a closed connection refuses to be read from or closed once more. -/
theorem closed_connection_refuses_again :
    List.Forall₂ (Declines refusedAndClosed) [.read 5, .close]
      (Outcome.series (fun s op => perform op s) refusedAndClosed [.read 5, .close]) :=
  (closed_connection_refuses (.step _ (.step _ (.new 0 _))) refusedAndClosed_known.1 _ (by decide)).1

/-- It does not refuse to read the response head, and reports it as read. -/
theorem closed_connection_answers :
    Reachable refusedAndClosed ∧ refusedAndClosed.1.mode = .unopened ∧
      (perform .readResponse refusedAndClosed).result = .ok .done := by
  obtain ⟨hclosed, hreceived, -⟩ := refusedAndClosed_known
  refine ⟨.step _ (.step _ (.new 0 _)), hclosed, ?_⟩
  rw [perform, readResponse_of_received hreceived]
  rfl

/-! ## Opening again -/

omit [Transport τ] in
/-- The start of an exchange keeps nothing of a connection but its capacity. -/
theorem begin_congr {c c' : Connection τ} (hcapacity : c.buffer.capacity = c'.buffer.capacity) (t : τ)
    (mode : Mode) (size : Nat) : c.begin t mode size = c'.begin t mode size := by
  rw [begin, begin, reset, reset, ReceiveBuffer.clear_eq hcapacity]

/-- Once a stream is set up, opening depends on nothing but the capacity. -/
theorem openTo_congr [Connector κ' τ] {c c' : Connection τ} {k : κ} {k' : κ'} {target : Target}
    {credentials : Credentials} {mode : Mode} {size : Nat} {timeouts : Timeouts} {now : Instant} {t : τ}
    (hcapacity : c.buffer.capacity = c'.buffer.capacity) (hclosed : c.mode = .unopened)
    (hclosed' : c'.mode = .unopened) (hport : target.port ≠ 0) (hmode : mode ≠ .unopened)
    (hconnect : (Connector.connect k target.host target.port timeouts).1 = .ok t)
    (hconnect' : (Connector.connect k' target.host target.port timeouts).1 = .ok t) :
    (c.openTo k target credentials mode size timeouts now).mapState Prod.fst =
      (c'.openTo k' target credentials mode size timeouts now).mapState Prod.fst := by
  rw [openTo, openTo, if_neg hport, if_neg hport, if_neg (not_not_intro hclosed),
    if_neg (not_not_intro hclosed')]
  cases hmethod : mode.method? with
  | none =>
    cases mode with
    | unopened => exact absurd rfl hmode
    | reading | writing => cases hmethod
  | some method =>
    rcases hmade : Connector.connect k target.host target.port timeouts with ⟨made, k₁⟩
    rcases hmade' : Connector.connect k' target.host target.port timeouts with ⟨made', k₁'⟩
    rw [hmade] at hconnect
    rw [hmade'] at hconnect'
    obtain rfl : made = .ok t := hconnect
    obtain rfl : made' = .ok t := hconnect'
    dsimp only
    rw [begin_congr hcapacity]
    rfl

/-- Operations other than opening do not use the maker of streams. -/
theorem perform_congr [Connector κ' τ] {op : Operation} (hop : op.isOpening = false)
    {s : Connection τ × κ} {s' : Connection τ × κ'} (hsame : s.1 = s'.1) :
    (perform op s).mapState Prod.fst = (perform op s').mapState Prod.fst := by
  cases op with
  | openTo => cases hop
  | readResponse | read | write | close =>
    rw [perform, perform, hsame]
    rfl

theorem series_congr [Connector κ' τ] {ops : List Operation}
    (hops : ∀ op ∈ ops, op.isOpening = false) {s : Connection τ × κ} {s' : Connection τ × κ'}
    (hsame : s.1 = s'.1) :
    (Outcome.series (fun s op => perform op s) s ops).map (Outcome.mapState Prod.fst) =
      (Outcome.series (fun s op => perform op s) s' ops).map (Outcome.mapState Prod.fst) := by
  induction ops generalizing s s' with
  | nil => rfl
  | cons op ops ih =>
    have hfirst := perform_congr (hops op List.mem_cons_self) hsame
    rw [Outcome.series_cons, Outcome.series_cons, List.map_cons, List.map_cons, hfirst]
    rw [ih (fun op hop => hops op (List.mem_cons_of_mem _ hop)) (congrArg Outcome.state hfirst)]

/-- A connection that is closed after any use, opened again, does on its new stream what a new
connection of its capacity does on that stream: each operation gives the same result, makes the same
calls, and leaves the same connection, down to the bytes in its buffer. -/
theorem reopened_as_new [Connector κ' τ] (capacity : Nat) (k : κ) (k' : κ') (history : List Operation)
    (target : Target) (credentials : Credentials) (mode : Mode) (size : Nat) (timeouts : Timeouts)
    (now : Instant) (later : List Operation) (t : τ) :
    let s := Outcome.last (new capacity, k)
      (Outcome.series (fun s op => perform op s) (new capacity, k) history)
    let ops := .openTo target credentials mode size timeouts now :: later
    let used := (Outcome.series (fun s op => perform op s) s ops).map (Outcome.mapState Prod.fst)
    let fresh := (Outcome.series (fun s op => perform op s) (new capacity, k') ops).map
      (Outcome.mapState Prod.fst)
    s.1.mode = .unopened → target.port ≠ 0 → mode ≠ .unopened →
    (Connector.connect s.2 target.host target.port timeouts).1 = .ok t →
    (Connector.connect k' target.host target.port timeouts).1 = .ok t →
    (∀ op ∈ later, op.isOpening = false) → used = fresh := by
  intro s ops used fresh hclosed hport hmode hconnect hconnect' hlater
  have hcapacity : s.1.buffer.capacity = (new capacity : Connection τ).buffer.capacity :=
    capacity_series history (consistent_new capacity)
  have hopened : (perform (.openTo target credentials mode size timeouts now) s).mapState Prod.fst =
      (perform (.openTo target credentials mode size timeouts now) (new capacity, k')).mapState
        Prod.fst :=
    congrArg (Outcome.map fun _ => Reply.done)
      (openTo_congr hcapacity hclosed rfl hport hmode hconnect hconnect')
  show (Outcome.series (fun s op => perform op s) s ops).map (Outcome.mapState Prod.fst) =
    (Outcome.series (fun s op => perform op s) (new capacity, k') ops).map
      (Outcome.mapState Prod.fst)
  rw [Outcome.series_cons, Outcome.series_cons, List.map_cons, List.map_cons, hopened,
    series_congr hlater (congrArg Outcome.state hopened)]

end

/-- An upload over a stream that accepts everything, after a request that was refused. -/
theorem reopened_as_new_after_refusal :
    (Outcome.series (fun s op => perform op s) refusedAndClosed
        [openUpload 3, .write [97, 98, 99], .close]).map (Outcome.mapState Prod.fst) =
      (Outcome.series (fun s op => perform op s) (uploadOver {})
        [openUpload 3, .write [97, 98, 99], .close]).map (Outcome.mapState Prod.fst) := by
  obtain ⟨hclosed, -, hmaker⟩ := refusedAndClosed_known
  have hconnect :
      (Connector.connect refusedAndClosed.2 "h" 80 ⟨none, none⟩ : Except Error Script × Scripts).1 =
        .ok {} := by
    rw [hmaker]
    rfl
  exact reopened_as_new 0 refusedSession.2 (⟨[{}]⟩ : Scripts) [refusedRequest, .close]
    ⟨"h", 80, "/o"⟩ ⟨"a", "s"⟩ .writing 3 ⟨none, none⟩ ⟨0⟩ [.write [97, 98, 99], .close] ({} : Script)
    hclosed (by decide) (by decide) hconnect rfl (by decide)

end Connection
end ObjectStream
