/-
  ObjectStream.Proofs.Hearing

  Where a session reads response heads, and what that takes. `Hearing` lists the
  connections that a head is read on, and by `attends_perform` no operation reads
  one on any other. On all of them the reading ends soon and holds little
  (`head_reading_bounded`), and a full buffer is not taken for a closed stream
  (`whole_room_offered`).
-/

import ObjectStream.Proofs.Exchange
import ObjectStream.Proofs.HeadRuns

namespace ObjectStream

/-! ## What a head can tell -/

/-- The causes of failure that a complete response head can tell. -/
def Error.isOfHead : Error → Bool
  | .other _ | .unsupported _ | .forbidden | .notFound => true
  | _ => false

namespace ResponseHead

variable {head : ResponseHead} {e : Error}

theorem isOfHead_of_contentLength (h : head.contentLength = .error e) : e.isOfHead = true := by
  rw [contentLength] at h
  cases hfield : head.field? "content-length" with
  | none =>
    rw [hfield] at h
    cases h
  | some value =>
    rw [hfield] at h
    dsimp only at h
    cases hnumber : Number.word64? value with
    | none =>
      rw [hnumber] at h
      cases h
      rfl
    | some n =>
      rw [hnumber] at h
      cases h

theorem isOfHead_of_status (h : head.status.bind Status.result = .error e) : e.isOfHead = true := by
  rw [status] at h
  by_cases hline : ∃ code, Status.Line head.statusLine code
  · obtain ⟨code, hline⟩ := hline
    rw [Status.ofLine_of_line hline] at h
    have hresult : (Status.ofCode code).result = .error e := h
    cases hstatus : Status.ofCode code <;> rw [hstatus] at hresult <;> cases hresult <;> rfl
  · rw [Status.ofLine_of_not_line (not_exists.mp hline)] at h
    cases h
    rfl

end ResponseHead

namespace Connection

variable {τ κ : Type}

/-! ## Reading a head in rounds -/

@[simp] theorem afterHead_reader (c : Connection τ) : c.afterHead.2.reader = c.reader := by
  obtain ⟨_, _, _, hframe⟩ := afterHead_frame c
  rw [hframe]

/-- Both the length of the body and the status are told by the head. -/
theorem isOfHead_of_afterHead {c : Connection τ} {e : Error} (h : c.afterHead.1 = .error e) :
    e.isOfHead = true := by
  rw [afterHead] at h
  dsimp only at h
  by_cases hmode : c.mode = .reading
  · rw [if_pos hmode] at h
    cases hlength : c.response.contentLength with
    | error e' =>
      rw [hlength] at h
      cases h
      exact ResponseHead.isOfHead_of_contentLength hlength
    | ok length =>
      rw [hlength] at h
      cases length <;> exact ResponseHead.isOfHead_of_status h
  · rw [if_neg hmode] at h
    exact ResponseHead.isOfHead_of_status h

/-- Reading a head either makes no call and changes nothing, or it is the loop, and then a reset is
told only if the loop tells it. -/
theorem readResponse_runs [Transport τ] (c : Connection τ) :
    (c.readResponse.calls = [] ∧ c.readResponse.state = c ∧
        c.readResponse.result ≠ .error .connectionReset) ∨
      ∃ rounds t o, c.responseReceived = false ∧ c.transport = some t ∧
        Runs rounds t ⟨c.buffer, c.reader, .empty⟩ o ∧ c.readResponse.calls = o.calls ∧
        c.readResponse.state.reader = o.state.2.reader ∧
        (c.readResponse.result = .error .connectionReset → o.result = .error .connectionReset) := by
  have hcases := readResponse_cases c
  have hloop := fun t : τ => runs_receiveHeadFrom_nil t ⟨c.buffer, c.reader, .empty⟩
  generalize c.readResponse = o at hcases
  cases hcases with
  | known hreceived => exact .inl ⟨rfl, rfl, fun h => by cases h⟩
  | closed hunheard ht => exact .inl ⟨rfl, rfl, fun h => by cases h⟩
  | broken t t' p e calls hunheard ht ho =>
    obtain ⟨rounds, hruns⟩ := hloop t
    rw [ho] at hruns
    exact .inr ⟨rounds, t, _, hunheard, ht, hruns, rfl, rfl, id⟩
  | complete t t' p calls hunheard ht ho =>
    obtain ⟨rounds, hruns⟩ := hloop t
    rw [ho] at hruns
    exact .inr ⟨rounds, t, _, hunheard, ht, hruns, rfl, afterHead_reader _,
      fun hreset => absurd (isOfHead_of_afterHead hreset) (by decide)⟩

/-! ## Where heads are read -/

/-- The connections on which an operation on `c` reads a response head, each in its exchange. -/
inductive Hearing (x : Exchange) (c : Connection τ) : Exchange → Connection τ → Prop where
  /-- It is asked to. -/
  | asked : Hearing x c x c
  /-- The stream has accepted bytes of the body. -/
  | written (t : τ) (count : Nat) : c.mode = .writing → Hearing x c x (c.afterSend t count)
  /-- A request for an object was sent over a new stream. -/
  | opened (t t' : τ) (size : Nat) :
      Hearing x c ⟨size, false⟩ { c.begin t .reading size with transport := some t' }

namespace Hearing

variable {x x' : Exchange} {c c' : Connection τ}

theorem follows (h : Hearing x c x' c') (hfollows : Follows x c) : Follows x' c' := by
  cases h with
  | asked => exact hfollows
  | written t count hmode => exact hfollows.afterSend hmode t count
  | opened t t' size =>
    have hreading : (Mode.reading : Mode) ≠ .unopened := by decide
    refine (Follows.begin c hreading size t).withTransport ?_ t'
    rw [begin_mode]
    exact hreading

theorem capacity (h : Hearing x c x' c') : c'.buffer.capacity = c.buffer.capacity := by
  cases h with
  | asked | written => rfl
  | opened t t' size =>
    show (c.begin t .reading size).buffer.capacity = c.buffer.capacity
    rw [begin_buffer]
    rfl

theorem short (h : Hearing x c x' c') (hshort : c.reader.Short) : c'.reader.Short := by
  cases h with
  | asked => exact hshort
  | written => exact hshort
  | opened t t' size =>
    show (c.begin t .reading size).reader.Short
    rw [begin_reader]
    exact HeadReader.short_start 0

end Hearing

section

variable [Transport τ]

/-- What an operation has to do with response heads. -/
inductive Attends (x : Exchange) (s : Connection τ × κ) :
    Operation → Outcome Error (Connection τ × κ) Reply → Prop where
  /-- It reads none. Only a read of the body receives, and that once. -/
  | aside (op : Operation) (o : Outcome Error (Connection τ × κ) Reply) :
      o.state.1.reader = s.1.reader → o.calls.countP Call.isReceive ≤ 1 →
      (∀ call ∈ o.calls, call.isReceive = true → ∃ room, op = .read room) → Attends x s op o
  /-- It begins an exchange, and stops before it reads one. -/
  | begun (op : Operation) (o : Outcome Error (Connection τ × κ) Reply) :
      o.state.1.reader = .new → (∀ call ∈ o.calls, call.isReceive = false) → Attends x s op o
  /-- The last thing that it does is to read one. -/
  | heard (op : Operation) (x' : Exchange) (c' : Connection τ) (k : κ) (front : List Call)
      (reply : Reply) : Hearing x s.1 x' c' → (∀ call ∈ front, call.isReceive = false) →
      Attends x s op
        (((c'.readResponse.map fun _ => reply).after front).mapState (·, k))

theorem countP_receive_eq_zero {calls : List Call} (h : ∀ call ∈ calls, call.isReceive = false) :
    calls.countP Call.isReceive = 0 := by
  rw [List.countP_eq_zero]
  intro call hmem
  rw [h call hmem]
  exact Bool.false_ne_true

/-- An operation that receives nothing and leaves the reader alone. -/
theorem Attends.silent {x : Exchange} {s : Connection τ × κ} (op : Operation)
    {o : Outcome Error (Connection τ × κ) Reply} (hreader : o.state.1.reader = s.1.reader)
    (hsilent : ∀ call ∈ o.calls, call.isReceive = false) : Attends x s op o := by
  refine .aside op o hreader ?_ fun call hmem hreceive => ?_
  · rw [countP_receive_eq_zero hsilent]
    exact Nat.zero_le _
  · rw [hsilent call hmem] at hreceive
    cases hreceive

/-- A read of the body leaves the reader of heads alone, and receives once at most. -/
theorem read_apart {c : Connection τ} (hc : Consistent c) (room : Nat) :
    (c.read room).state.reader = c.reader ∧ (c.read room).calls.length ≤ 1 := by
  rcases hc.read_cases room with ⟨e, -, hfail⟩ | ⟨-, -, hcases⟩
  · rw [hfail]
    exact ⟨rfl, Nat.zero_le _⟩
  · generalize c.read room = o at hcases
    cases hcases with
    | deferred | nothing | buffered => exact ⟨rfl, Nat.zero_le _⟩
    | received | ended | failed | interrupted => exact ⟨rfl, Nat.le_refl _⟩

theorem close_apart (c : Connection τ) :
    c.close.state.reader = c.reader ∧ ∀ call ∈ c.close.calls, call.isReceive = false := by
  by_cases hclosed : c.mode = .unopened
  · rw [close_of_closed hclosed]
    exact ⟨rfl, List.forall_mem_nil _⟩
  · cases ht : c.transport with
    | none =>
      rw [close, if_neg hclosed, ht]
      exact ⟨rfl, List.forall_mem_nil _⟩
    | some t =>
      rw [close_of_open hclosed ht]
      exact ⟨rfl, List.forall_mem_singleton.mpr rfl⟩

variable [Connector κ τ]

theorem attends_openTo (x : Exchange) (s : Connection τ × κ) (target : Target)
    (credentials : Credentials) (mode : Mode) (size : Nat) (timeouts : Timeouts) (now : Instant) :
    let op := Operation.openTo target credentials mode size timeouts now
    Attends x s op (perform op s) := by
  intro op
  have hcases := openTo_cases s.1 s.2 target credentials mode size timeouts now
  -- Neither setting a stream up nor sending the request receives anything.
  have hconnect : ∀ result, ∀ call ∈ [Call.connect target.host target.port timeouts result],
      call.isReceive = false :=
    fun _ => List.forall_mem_singleton.mpr rfl
  have hsent : ∀ {t t' : τ} {head : RequestHead} {result : Except Error Unit} {calls : List Call},
      sendAll t head.encode = ⟨result, t', calls⟩ →
        ∀ call ∈ .connect target.host target.port timeouts (.ok ()) :: calls,
          call.isReceive = false := by
    intro t t' head result calls hsend
    have hsends := (sendAll_calls t head.encode).1
    rw [hsend] at hsends
    exact List.forall_mem_cons.mpr ⟨rfl, hsends⟩
  show Attends x s op
    ((s.1.openTo s.2 target credentials mode size timeouts now).map fun _ => .done)
  generalize s.1.openTo s.2 target credentials mode size timeouts now = o at hcases
  cases hcases with
  | refused e hwhy => exact .silent op rfl nofun
  | unreachable k' e hclosed hconnected =>
    exact .silent op rfl (hconnect _)
  | undated k' t method hclosed hmethod hconnected hsign =>
    exact .begun op _ (begin_reader s.1 t mode size) (hconnect _)
  | unsent k' t t' method head e calls hclosed hmethod hconnected hsign hsend =>
    exact .begun op _ (begin_reader s.1 t mode size) (hsent hsend)
  | ready k' t t' method head calls hclosed hwriting hmethod hconnected hsign hsend =>
    exact .begun op _ (begin_reader s.1 t mode size) (hsent hsend)
  | asked k' t t' method head calls hclosed hreading hmethod hconnected hsign hsend =>
    subst hreading
    exact .heard op _ _ k' _ .done (.opened t t' size) (hsent hsend)

theorem attends_write (x : Exchange) {s : Connection τ × κ} (hc : Consistent s.1) (bytes : Bytes) :
    Attends x s (.write bytes) (perform (.write bytes) s) := by
  have hsend : ∀ accepted, ∀ call ∈ [Call.send bytes accepted], call.isReceive = false :=
    fun _ => List.forall_mem_singleton.mpr rfl
  show Attends x s _ (((s.1.write bytes).map Reply.count).mapState (·, s.2))
  rcases hc.write_cases bytes with ⟨e, -, hfail⟩ | ⟨hmode, -, hcases⟩
  · rw [hfail]
    exact .silent _ rfl nofun
  generalize s.1.write bytes = o at hcases
  cases hcases with
  | refused hlong => exact .silent _ rfl nofun
  | failed t t' e hfits ht hsent => exact .silent _ rfl (hsend _)
  | accepted t t' count hfits ht hsent hle hlt => exact .silent _ rfl (hsend _)
  | completed t t' count hfits ht hsent hle hall =>
    -- The count is told once the head is judged well, so that it is the reply of the reading.
    have hreply : ∀ r : Outcome Error (Connection τ) Unit,
        ((r.map fun _ => count).after [.send bytes (.ok count)]).map Reply.count =
          (r.map fun _ => Reply.count count).after [.send bytes (.ok count)] := by
      rintro ⟨result, state, calls⟩
      cases result <;> rfl
    rw [hreply]
    exact .heard _ x _ s.2 _ _ (.written t' count hmode) (hsend _)

/-- No operation reads a head on any other connection. -/
theorem attends_perform (x : Exchange) {s : Connection τ × κ} (hc : Consistent s.1)
    (op : Operation) : Attends x s op (perform op s) := by
  cases op with
  | openTo target credentials mode size timeouts now =>
    exact attends_openTo x s target credentials mode size timeouts now
  | readResponse => exact .heard .readResponse x s.1 s.2 [] .done .asked nofun
  | read room =>
    obtain ⟨hreader, honce⟩ := read_apart hc room
    exact .aside _ _ hreader (Nat.le_trans List.countP_le_length honce) fun _ _ _ => ⟨room, rfl⟩
  | write bytes => exact attends_write x hc bytes
  | close =>
    obtain ⟨hreader, hsilent⟩ := close_apart s.1
    exact .silent _ hreader hsilent

/-! ## How long and how much -/

omit [Connector κ τ] in
theorem short_readResponse {c : Connection τ} (h : c.reader.Short) :
    c.readResponse.state.reader.Short := by
  rcases readResponse_runs c with ⟨-, hstate, -⟩ | ⟨rounds, t, o, -, -, hruns, -, hreader, -⟩
  · rw [hstate]
    exact h
  · rw [hreader]
    exact HeadReader.Short.runs h hruns

omit [Connector κ τ] in
/-- Reading a head makes no more receives than there are bytes up to the largest size, and one. -/
theorem length_calls_readResponse (c : Connection τ) :
    c.readResponse.calls.length ≤ maxHeadLength + 1 := by
  rcases readResponse_runs c with ⟨hcalls, -, -⟩ | ⟨rounds, t, o, -, -, hruns, hcalls, -, -⟩
  · rw [hcalls]
    exact Nat.zero_le _
  · have hlength := hruns.length_calls_le
    have hrounds := hruns.rounds_le
    rw [hcalls]
    omega

omit [Connector κ τ] in
theorem Attends.short {x : Exchange} {s : Connection τ × κ} {op : Operation}
    {o : Outcome Error (Connection τ × κ) Reply} (h : Attends x s op o)
    (hshort : s.1.reader.Short) : o.state.1.reader.Short := by
  cases h with
  | aside o hreader => exact hreader.symm ▸ hshort
  | begun o hreader => exact hreader.symm ▸ HeadReader.short_start 0
  | heard x' c' k front reply hhearing => exact short_readResponse (hhearing.short hshort)

omit [Connector κ τ] in
theorem Attends.countP_receive_le {x : Exchange} {s : Connection τ × κ} {op : Operation}
    {o : Outcome Error (Connection τ × κ) Reply} (h : Attends x s op o) :
    o.calls.countP Call.isReceive ≤ maxHeadLength + 1 := by
  cases h with
  | aside o hreader honce => exact Nat.le_trans honce (Nat.le_add_left 1 _)
  | begun o hreader hsilent =>
    rw [countP_receive_eq_zero hsilent]
    exact Nat.zero_le _
  | heard x' c' k front reply hhearing hfront =>
    show (front ++ c'.readResponse.calls).countP Call.isReceive ≤ maxHeadLength + 1
    rw [List.countP_append, countP_receive_eq_zero hfront, Nat.zero_add]
    exact Nat.le_trans List.countP_le_length (length_calls_readResponse c')

theorem short_series (ops : List Operation) {s : Connection τ × κ} (hc : Consistent s.1)
    (h : s.1.reader.Short) :
    (Outcome.last s (Outcome.series (fun s op => perform op s) s ops)).1.reader.Short := by
  induction ops generalizing s with
  | nil => exact h
  | cons op ops ih =>
    exact ih (consistent_perform op hc) ((attends_perform .none hc op).short h)

/-- With any peer, and in any state of any session, reading a response head comes to an end, with at
most one receive more than there are bytes up to the largest size; and the reader never holds more
bytes of an unfinished line than that, not even in the middle of a round. -/
theorem head_reading_bounded (capacity : Nat) (k : κ) (ops : List Operation) :
    let os := Outcome.series (fun (s : Connection τ × κ) op => perform op s) (new capacity, k) ops
    let s := Outcome.last (new capacity, k) os
    let x := Exchange.none.after ops os
    s.1.reader.line.length ≤ maxHeadLength ∧
    (∀ x' c', Hearing x s.1 x' c' →
      c'.readResponse.calls.length ≤ maxHeadLength + 1 ∧
      (∀ call ∈ c'.readResponse.calls, call.isReceive = true) ∧
      ∀ t : τ, let p : HeadProgress := ⟨c'.buffer, c'.reader, .empty⟩
        (∃ rounds ≤ maxHeadLength + 1, Runs rounds t p (receiveHeadFrom [] t p)) ∧
        ∀ r, Visits t p r → r.line.length ≤ maxHeadLength) ∧
    ∀ op, Attends x s op (perform op s) ∧
      (perform op s).calls.countP Call.isReceive ≤ maxHeadLength + 1 := by
  intro os s x
  have hfollows : Follows x s.1 :=
    Follows.series (s := (new capacity, k)) (follows_new capacity) ops
  have hshort : s.1.reader.Short :=
    short_series ops (s := (new capacity, k)) (consistent_new capacity) (HeadReader.short_start 0)
  refine ⟨hshort.bounded, fun x' c' hhearing => ?_, fun op => ?_⟩
  · refine ⟨length_calls_readResponse c', isReceive_of_mem_readResponse c', fun t => ?_⟩
    intro p
    obtain ⟨rounds, hruns⟩ := runs_receiveHeadFrom_nil t p
    have hrounds : rounds ≤ maxHeadLength + 1 := Nat.le_trans hruns.rounds_le (by omega)
    refine ⟨⟨rounds, hrounds, hruns⟩, fun r hvisits => ?_⟩
    exact (HeadReader.Short.visits (hhearing.short hshort) hvisits).bounded
  · have hattends := attends_perform x hfollows.consistent op
    exact ⟨hattends, hattends.countP_receive_le⟩

/-! ## All of the room -/

omit [Connector κ τ] in
/-- A head that is not too large is read into the whole of the buffer each time. -/
theorem Follows.offersAll {x : Exchange} {c : Connection τ} (h : Follows x c)
    (hfits : x.overflowed = false) : OffersAll c.buffer.capacity c.readResponse := by
  rcases readResponse_runs c with
    ⟨hcalls, -, hresult⟩ | ⟨rounds, t, o, hunheard, ht, hruns, hcalls, -, hreset⟩
  · refine ⟨fun room received hmem => ?_, fun hreset => absurd hreset hresult⟩
    rw [hcalls] at hmem
    cases hmem
  · -- What was received of the head before was taken in whole, and left the buffer dry.
    obtain ⟨read, hawaits⟩ := h.awaits (h.consistent.mode_ne_unopened ht) hunheard hfits
    have hoffers := hruns.offersAll read hawaits.progress_eq hawaits.unended hawaits.within
      (Nat.le_refl _) hawaits.drained
    exact hoffers.congr hcalls hreset

/-- A full buffer is never taken for a closed stream. In any session, unless a head was found too
large in the exchange, whatever reads a response head receives into the whole capacity of the buffer
each time, and tells a reset only if one of these receives failed so or found the stream closed. -/
theorem whole_room_offered (capacity : Nat) (k : κ) (ops : List Operation) :
    let os := Outcome.series (fun (s : Connection τ × κ) op => perform op s) (new capacity, k) ops
    let s := Outcome.last (new capacity, k) os
    let x := Exchange.none.after ops os
    (∀ x' c', Hearing x s.1 x' c' → x'.overflowed = false →
      OffersAll (max capacity ReceiveBuffer.minCapacity) c'.readResponse) ∧
    ∀ op, Attends x s op (perform op s) := by
  intro os s x
  have hfollows : Follows x s.1 :=
    Follows.series (s := (new capacity, k)) (follows_new capacity) ops
  have hcapacity : s.1.buffer.capacity = max capacity ReceiveBuffer.minCapacity :=
    capacity_series ops (s := (new capacity, k)) (consistent_new capacity)
  refine ⟨fun x' c' hhearing hfits => ?_, fun op => attends_perform x hfollows.consistent op⟩
  have hoffers := (hhearing.follows hfollows).offersAll hfits
  rwa [hhearing.capacity, hcapacity] at hoffers

end

end Connection

end ObjectStream
