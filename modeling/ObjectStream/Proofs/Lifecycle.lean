/-
  ObjectStream.Proofs.Lifecycle

  The life of a stream: set up once, used, and taken down once. `Thread` is a run
  of calls on one stream, each with the answer that this very stream gave, and
  `Successive` a log of streams of which each is taken down before the next is
  set up. Every operation keeps the log of a session in this form, but for the
  one stream that an open connection still holds (`Holding`); closing the
  connection or giving it up takes that stream down too.
-/

import ObjectStream.Client
import ObjectStream.Proofs.Sending
import ObjectStream.Proofs.Session
import ObjectStream.Transfer

namespace ObjectStream

variable {τ κ : Type}

/-! ## Calls on one stream -/

section

variable [Transport τ]

/-- These calls take the stream from one state to the other. -/
inductive Thread : τ → List Call → τ → Prop where
  | nil (t : τ) : Thread t [] t
  | send {t t' t'' : τ} {bytes : Bytes} {answer : Except Error Nat} {calls : List Call} :
      Transport.send t bytes = (answer, t') → Thread t' calls t'' →
      Thread t (.send bytes answer :: calls) t''
  | receive {t t' t'' : τ} {room : Nat} {answer : Except Error Bytes} {calls : List Call} :
      Transport.receive t room = (answer, t') → Thread t' calls t'' →
      Thread t (.receive room answer :: calls) t''

namespace Thread

theorem append {t t' t'' : τ} {calls more : List Call} (h : Thread t calls t')
    (hmore : Thread t' more t'') : Thread t (calls ++ more) t'' := by
  induction h with
  | nil t => exact hmore
  | send hsend _ ih => exact .send hsend (ih hmore)
  | receive hrecv _ ih => exact .receive hrecv (ih hmore)

theorem sent {t t' : τ} {bytes : Bytes} {answer : Except Error Nat}
    (h : Transport.send t bytes = (answer, t')) : Thread t [.send bytes answer] t' :=
  .send h (.nil t')

theorem received {t t' : τ} {room : Nat} {answer : Except Error Bytes}
    (h : Transport.receive t room = (answer, t')) : Thread t [.receive room answer] t' :=
  .receive h (.nil t')

/-- No stream is set up or taken down meanwhile. -/
theorem count {t t' : τ} {calls : List Call} (h : Thread t calls t') :
    setups calls = 0 ∧ takedowns calls = 0 := by
  induction h with
  | nil t => exact ⟨rfl, rfl⟩
  | send _ _ ih =>
    rw [setups_send, takedowns_send]
    exact ih
  | receive _ _ ih =>
    rw [setups_receive, takedowns_receive]
    exact ih

end Thread

/-- The sending loop makes its calls on the one stream. -/
theorem SendsAll.thread {t : τ} {bytes : Bytes} {o : Outcome Error τ Unit} (h : SendsAll t bytes o) :
    Thread t o.calls o.state := by
  induction h with
  | done t => exact .nil t
  | failed t t' bytes e hne hsend => exact .sent hsend
  | nothing t t' bytes hne hsend => exact .sent hsend
  | more t t' bytes n o hne hsend _ ih => exact .send hsend ih

theorem thread_of_sendAll {t t' : τ} {bytes : Bytes} {sent : Except Error Unit}
    {calls : List Call} (h : sendAll t bytes = ⟨sent, t', calls⟩) : Thread t calls t' := by
  have hthread := (sendsAll_sendAll t bytes).thread
  rw [h] at hthread
  exact hthread

theorem thread_fill (b : ReceiveBuffer) (t : τ) : Thread t (b.fill t).calls (b.fill t).state.2 := by
  rw [ReceiveBuffer.fill]
  split
  · exact .nil t
  · split
    · rename_i e t' hrecv
      exact .received hrecv
    · rename_i bytes t' hrecv
      exact .received hrecv

theorem thread_receiveHeadFrom {start t : τ} {made : List Call} (p : HeadProgress)
    (h : Thread start made.reverse t) :
    Thread start (receiveHeadFrom made t p).calls (receiveHeadFrom made t p).state.1 := by
  -- One round makes the calls of a fill after those that were made.
  have hround : ∀ (made : List Call) (t : τ) (p : HeadProgress), Thread start made.reverse t →
      Thread start (List.reverseAux (p.buffer.fill t).calls made).reverse
        (p.buffer.fill t).state.2 := by
    intro made t p h
    rw [List.reverseAux_eq, List.reverse_append, List.reverse_reverse]
    exact h.append (thread_fill p.buffer t)
  fun_induction receiveHeadFrom made t p with
  | case1 | case2 | case3 | case4 => exact hround _ _ _ h
  | case5 made t p filled calls buffer t' n hfill absorbed p' habsorb ih => exact ih (hround made t p h)

/-! ## Calls on the stream that a connection holds -/

/-- These calls are on the stream that is held, if one is held. -/
inductive Keeps : Option τ → List Call → Option τ → Prop where
  | closed : Keeps none [] none
  | held {t t' : τ} {calls : List Call} : Thread t calls t' → Keeps (some t) calls (some t')

namespace Keeps

theorem refl (held : Option τ) : Keeps held [] held := by
  cases held with
  | none => exact .closed
  | some t => exact .held (.nil t)

theorem trans {held held' held'' : Option τ} {calls more : List Call} (h : Keeps held calls held')
    (hmore : Keeps held' more held'') : Keeps held (calls ++ more) held'' := by
  cases h with
  | closed => exact hmore
  | held hthread =>
    cases hmore with
    | held hthread' => exact .held (hthread.append hthread')

theorem sent {held : Option τ} {t t' : τ} {bytes : Bytes} {answer : Except Error Nat}
    (ht : held = some t) (h : Transport.send t bytes = (answer, t')) :
    Keeps held [.send bytes answer] (some t') := by
  rw [ht]
  exact .held (.sent h)

theorem received {held : Option τ} {t t' : τ} {room : Nat} {answer : Except Error Bytes}
    (ht : held = some t) (h : Transport.receive t room = (answer, t')) :
    Keeps held [.receive room answer] (some t') := by
  rw [ht]
  exact .held (.received h)

theorem count {held held' : Option τ} {calls : List Call} (h : Keeps held calls held') :
    setups calls = 0 ∧ takedowns calls = 0 := by
  cases h with
  | closed => exact ⟨rfl, rfl⟩
  | held hthread => exact hthread.count

end Keeps

namespace Connection

variable {c : Connection τ}

theorem keeps_readResponse (c : Connection τ) :
    Keeps c.transport c.readResponse.calls c.readResponse.state.transport := by
  have hcases := readResponse_cases c
  have hthread : ∀ t : τ, Thread t (receiveHeadFrom [] t ⟨c.buffer, c.reader, .empty⟩).calls
      (receiveHeadFrom [] t ⟨c.buffer, c.reader, .empty⟩).state.1 :=
    fun t => thread_receiveHeadFrom _ (.nil t)
  generalize c.readResponse = o at hcases
  cases hcases with
  | known | closed => exact .refl _
  | broken t t' p e calls hreceived ht hloop =>
    have hcalls := hthread t
    rw [hloop] at hcalls
    rw [ht]
    exact .held hcalls
  | complete t t' p calls hreceived ht hloop =>
    have hcalls := hthread t
    rw [hloop] at hcalls
    obtain ⟨_, _, _, hframe⟩ := afterHead_frame (c.beforeHead.withHead t' p)
    rw [ht, hframe]
    exact .held hcalls

theorem keeps_read (h : Consistent c) (room : Nat) :
    Keeps c.transport (c.read room).calls (c.read room).state.transport := by
  rcases h.read_cases room with ⟨e, -, hfail⟩ | ⟨-, -, hcases⟩
  · rw [hfail]
    exact .refl _
  generalize c.read room = o at hcases
  cases hcases with
  | deferred | nothing | buffered => exact .refl _
  | received t t' bytes hnone hlt ht hrecv hne => exact .received ht hrecv
  | ended t t' hnone hlt hunread ht hrecv => exact .received ht hrecv
  | failed t t' e hnone hlt hunread ht hrecv => exact .received ht hrecv
  | interrupted t t' e hnone hlt hunread ht hrecv => exact .received ht hrecv

/-- Read by read, the calls of a series go on from the stream that the read before has left. -/
theorem keeps_reads (h : Consistent c) (rooms : List Nat) :
    let os := Outcome.series read c rooms
    Keeps c.transport (Outcome.log os) (Outcome.last c os).transport := by
  -- On the rooms; a read keeps the connection consistent, so that the next one finds its stream.
  induction rooms generalizing c with
  | nil => exact .refl _
  | cons room rest ih => exact (keeps_read h room).trans (ih (consistent_read h room))

theorem keeps_write (h : Consistent c) (bytes : Bytes) :
    Keeps c.transport (c.write bytes).calls (c.write bytes).state.transport := by
  rcases h.write_cases bytes with ⟨e, -, hfail⟩ | ⟨-, -, hcases⟩
  · rw [hfail]
    exact .refl _
  generalize c.write bytes = o at hcases
  cases hcases with
  | refused hlong => exact .refl _
  | failed t t' e hfits ht hsend => exact .sent ht hsend
  | accepted t t' count hfits ht hsend hle hlt => exact .sent ht hsend
  | completed t t' count hfits ht hsend hle hall =>
    -- The response comes over the stream that the last bytes went to.
    have hsent : Keeps c.transport [.send bytes (.ok count)] (c.afterSend t' count).transport :=
      .sent ht hsend
    exact hsent.trans (keeps_readResponse (c.afterSend t' count))

end Connection

end

/-! ## Streams one after another -/

section

variable [Transport τ] [Connector κ τ]

/-- A log of streams that were set up one after another: each was used in a thread of calls of its
own and taken down once, before the next was asked for. -/
inductive Successive : κ → List Call → κ → Prop where
  | nil (k : κ) : Successive k [] k
  | refused {k k' k'' : κ} {host : String} {port : UInt16} {timeouts : Timeouts} {e : Error}
      {calls : List Call} :
      Connector.connect k host port timeouts = (.error e, k') → Successive k' calls k'' →
      Successive k (.connect host port timeouts (.error e) :: calls) k''
  | exchange {k k' k'' : κ} {t t' : τ} {host : String} {port : UInt16} {timeouts : Timeouts}
      {used calls : List Call} :
      Connector.connect k host port timeouts = (.ok t, k') → Thread t used t' →
      Successive k' calls k'' →
      Successive k (.connect host port timeouts (.ok ()) ::
        (used ++ .disconnect (Transport.disconnect t') :: calls)) k''

theorem Successive.append {k k' k'' : κ} {log more : List Call} (h : Successive k log k')
    (hmore : Successive k' more k'') : Successive k (log ++ more) k'' := by
  induction h with
  | nil k => exact hmore
  | refused hconnect _ ih => exact .refused hconnect (ih hmore)
  | exchange hconnect hthread _ ih =>
    rw [List.cons_append, List.append_assoc, List.cons_append]
    exact .exchange hconnect hthread (ih hmore)

/-- At no point of such a log were there two streams that were not taken down, and at its end there
is none. -/
theorem Successive.balanced {k k' : κ} {log : List Call} (h : Successive k log k') :
    takedowns log = setups log ∧ ∀ before, before <+: log →
      takedowns before ≤ setups before ∧ setups before ≤ takedowns before + 1 := by
  induction h with
  | nil k =>
    refine ⟨rfl, fun before hbefore => ?_⟩
    rw [List.prefix_nil.mp hbefore]
    exact ⟨Nat.le_refl 0, Nat.zero_le 1⟩
  | refused hconnect _ ih =>
    obtain ⟨hall, hprefix⟩ := ih
    refine ⟨by simpa using hall, fun before hbefore => ?_⟩
    rcases List.prefix_cons_iff.mp hbefore with rfl | ⟨rest, rfl, hrest⟩
    · exact ⟨Nat.le_refl 0, Nat.zero_le 1⟩
    · rw [takedowns_connect, setups_connect_error]
      exact hprefix rest hrest
  | @exchange _ _ _ _ t' _ _ _ used calls hconnect hthread _ ih =>
    obtain ⟨hall, hprefix⟩ := ih
    obtain ⟨hup, hdown⟩ := hthread.count
    refine ⟨?_, fun before hbefore => ?_⟩
    · simp only [setups_connect_ok, takedowns_connect, setups_append, takedowns_append,
        setups_disconnect, takedowns_disconnect]
      omega
    -- The first call of the exchange sets its stream up.
    rcases List.prefix_cons_iff.mp hbefore with rfl | ⟨rest, rfl, hrest⟩
    · exact ⟨Nat.le_refl 0, Nat.zero_le 1⟩
    rw [setups_connect_ok, takedowns_connect]
    -- The log is cut in the life of this stream, or after it.
    rcases List.prefix_or_prefix_of_prefix hrest (List.prefix_append used _) with hin | ⟨later, hout⟩
    · obtain ⟨left, rfl⟩ := hin
      rw [setups_append] at hup
      rw [takedowns_append] at hdown
      omega
    · rw [← hout] at hrest ⊢
      have hlater := (List.prefix_append_right_inj used).mp hrest
      rw [setups_append, takedowns_append]
      rcases List.prefix_cons_iff.mp hlater with rfl | ⟨after, rfl, hafter⟩
      · rw [setups_nil, takedowns_nil]
        omega
      · have hcounts := hprefix after hafter
        rw [setups_disconnect, takedowns_disconnect]
        omega

/-- The log of a session up to now, but for what is still to happen to the stream that is held. -/
inductive Holding (k : κ) : List Call → Option τ → κ → Prop where
  | closed {log : List Call} {k' : κ} : Successive k log k' → Holding k log none k'
  | live {earlier used : List Call} {k₁ k' : κ} {t t' : τ} {host : String} {port : UInt16}
      {timeouts : Timeouts} :
      Successive k earlier k₁ → Connector.connect k₁ host port timeouts = (.ok t, k') →
      Thread t used t' →
      Holding k (earlier ++ .connect host port timeouts (.ok ()) :: used) (some t') k'

namespace Holding

variable {k k' : κ} {log : List Call}

theorem keeps {held held' : Option τ} {calls : List Call} (h : Holding k log held k')
    (hkeeps : Keeps held calls held') : Holding k (log ++ calls) held' k' := by
  cases hkeeps with
  | closed =>
    rw [List.append_nil]
    exact h
  | held hcalls =>
    cases h with
    | live hearlier hconnect hthread =>
      rw [List.append_assoc, List.cons_append]
      exact .live hearlier hconnect (hthread.append hcalls)

theorem disconnect {t : τ} (h : Holding k log (some t) k') :
    Successive k (log ++ [.disconnect (Transport.disconnect t)]) k' := by
  cases h with
  | live hearlier hconnect hthread =>
    rw [List.append_assoc, List.cons_append]
    exact hearlier.append (.exchange hconnect hthread (.nil k'))

theorem successive (h : Holding (τ := τ) k log none k') : Successive k log k' := by
  cases h with
  | closed hlog => exact hlog

end Holding

/-! ## Sessions -/

namespace Connection

variable {k k₁ : κ} {log : List Call} {c : Connection τ}

/-- What opening does to the streams: nothing, if it does not get one, and otherwise it sets one up
and goes on with it. -/
theorem holding_openTo (hc : Consistent c) (h : Holding k log c.transport k₁) (target : Target)
    (credentials : Credentials) (mode : Mode) (size : Nat) (timeouts : Timeouts) (now : Instant) :
    let o := c.openTo k₁ target credentials mode size timeouts now
    Holding k (log ++ o.calls) o.state.1.transport o.state.2 := by
  have hcases := openTo_cases c k₁ target credentials mode size timeouts now
  have hnone : c.mode = .unopened → c.transport = none := hc.transport_eq_none
  generalize c.openTo k₁ target credentials mode size timeouts now = o at hcases ⊢
  cases hcases with
  | refused e hwhy =>
    show Holding k (log ++ []) c.transport k₁
    rw [List.append_nil]
    exact h
  | unreachable k' e hclosed hconnect =>
    show Holding k (log ++ [.connect target.host target.port timeouts (.error e)]) c.transport k'
    rw [hnone hclosed] at h ⊢
    exact .closed (h.successive.append (.refused hconnect (.nil k')))
  | undated k' t method hclosed hmethod hconnect hsign =>
    -- The stream is kept though nothing can be sent.
    rw [hnone hclosed] at h
    show Holding k _ (c.begin t mode size).transport k'
    rw [begin_transport]
    exact .live h.successive hconnect (.nil t)
  | unsent k' t t' method head e calls hclosed hmethod hconnect hsign hsend =>
    rw [hnone hclosed] at h
    exact .live h.successive hconnect (thread_of_sendAll hsend)
  | ready k' t t' method head calls hclosed hwriting hmethod hconnect hsign hsend =>
    rw [hnone hclosed] at h
    exact .live h.successive hconnect (thread_of_sendAll hsend)
  | asked k' t t' method head calls hclosed hreading hmethod hconnect hsign hsend =>
    rw [hnone hclosed] at h
    have hsentHead : Holding k (log ++ .connect target.host target.port timeouts (.ok ()) :: calls)
        (some t') k' := .live h.successive hconnect (thread_of_sendAll hsend)
    have hheard := hsentHead.keeps
      (keeps_readResponse ({ c.begin t mode size with transport := some t' } : Connection τ))
    rw [List.append_assoc] at hheard
    exact hheard

theorem setups_openTo (c : Connection τ) (k : κ) (target : Target) (credentials : Credentials)
    (mode : Mode) (size : Nat) (timeouts : Timeouts) (now : Instant) :
    (c.openTo k target credentials mode size timeouts now).result = .ok () →
      setups (c.openTo k target credentials mode size timeouts now).calls = 1 := by
  have hcases := openTo_cases c k target credentials mode size timeouts now
  generalize c.openTo k target credentials mode size timeouts now = o at hcases ⊢
  intro hok
  cases hcases with
  | refused | unreachable | undated | unsent => cases hok
  | ready k' t t' method head calls hclosed hwriting hmethod hconnect hsign hsend =>
    rw [setups_connect_ok, (thread_of_sendAll hsend).count.1]
  | asked k' t t' method head calls hclosed hreading hmethod hconnect hsign hsend =>
    have hheard := (keeps_readResponse
      ({ c.begin t mode size with transport := some t' } : Connection τ)).count.1
    show setups (_ :: calls ++ _) = 1
    rw [List.cons_append, setups_connect_ok, setups_append, (thread_of_sendAll hsend).count.1,
      hheard]

omit [Connector κ τ] in
theorem drop_of_closed (hclosed : c.mode = .unopened) : c.drop = [] := by
  rw [drop, isOpen, hclosed]
  rfl

omit [Connector κ τ] in
theorem drop_of_open (hopen : c.mode ≠ .unopened) : c.drop = c.close.calls := by
  have hisOpen : c.isOpen = true := bne_iff_ne.mpr hopen
  rw [drop, if_pos hisOpen]

omit [Connector κ τ] in
theorem close_of_open {t : τ} (hopen : c.mode ≠ .unopened) (ht : c.transport = some t) :
    c.close = ⟨Transport.disconnect t,
      { c with mode := .unopened, transport := none, deferred := none },
      [.disconnect (Transport.disconnect t)]⟩ := by
  rw [close, if_neg hopen, ht]

omit [Connector κ τ] in
theorem close_calls (c : Connection τ) : c.close.calls = c.drop := by
  by_cases hclosed : c.mode = .unopened
  · rw [drop_of_closed hclosed, close_of_closed hclosed]
    rfl
  · rw [drop_of_open hclosed]

omit [Connector κ τ] in
theorem setups_drop (c : Connection τ) : setups c.drop = 0 := by
  rw [← close_calls, close]
  split
  · rfl
  · dsimp only
    split <;> rfl

theorem holding_close (hc : Consistent c) (h : Holding k log c.transport k₁) :
    Holding k (log ++ c.close.calls) c.close.state.transport k₁ := by
  by_cases hclosed : c.mode = .unopened
  · rw [close_of_closed hclosed]
    show Holding k (log ++ []) c.transport k₁
    rw [List.append_nil]
    exact h
  · obtain ⟨t, ht⟩ := hc.exists_transport hclosed
    rw [ht] at h
    rw [close_of_open hclosed ht]
    exact .closed h.disconnect

/-- Giving the connection up takes down the stream that it holds, if it holds one. -/
theorem holding_drop (hc : Consistent c) (h : Holding k log c.transport k₁) :
    Successive k (log ++ c.drop) k₁ := by
  by_cases hclosed : c.mode = .unopened
  · have hnone : c.transport = none := hc.transport_eq_none hclosed
    rw [hnone] at h
    rw [drop_of_closed hclosed, List.append_nil]
    exact h.successive
  · obtain ⟨t, ht⟩ := hc.exists_transport hclosed
    rw [ht] at h
    rw [drop_of_open hclosed, close_of_open hclosed ht]
    exact h.disconnect

theorem holding_perform {s : Connection τ × κ} (hc : Consistent s.1)
    (h : Holding k log s.1.transport s.2) (op : Operation) :
    Holding k (log ++ (perform op s).calls) (perform op s).state.1.transport
      (perform op s).state.2 := by
  cases op with
  | openTo target credentials mode size timeouts now =>
    exact holding_openTo hc h target credentials mode size timeouts now
  | readResponse => exact h.keeps (keeps_readResponse s.1)
  | read room => exact h.keeps (keeps_read hc room)
  | write bytes => exact h.keeps (keeps_write hc bytes)
  | close => exact holding_close hc h

theorem holding_series {s : Connection τ × κ} (hc : Consistent s.1)
    (h : Holding k log s.1.transport s.2) (ops : List Operation) :
    let os := Outcome.series (fun s op => perform op s) s ops
    Consistent (Outcome.last s os).1 ∧
      Holding k (log ++ Outcome.log os) (Outcome.last s os).1.transport (Outcome.last s os).2 := by
  induction ops generalizing s log with
  | nil =>
    refine ⟨hc, ?_⟩
    rw [Outcome.series_nil, Outcome.log_nil, List.append_nil]
    exact h
  | cons op rest ih =>
    obtain ⟨hlast, hrest⟩ := ih (consistent_perform op hc) (holding_perform hc h op)
    rw [List.append_assoc] at hrest
    exact ⟨hlast, hrest⟩

end Connection

/-! ## Objects that a client opens -/

namespace Client

/-- What can be done with an opened object, questions apart. -/
inductive Use where
  | read (room : Nat)
  | write (bytes : Bytes)
  | transferRead (room : Nat)
  | transferWrite (bytes : Bytes)
  | transferWriteAll (bytes : Bytes)

def use (u : Use) (c : Connection τ) : Outcome (Error ⊕ Fault) (Connection τ) Connection.Reply :=
  match u with
  | .read room => ((c.read room).map .data).mapError .inl
  | .write bytes => ((c.write bytes).map .count).mapError .inl
  | .transferRead room => ((Transfer.read c room).map .data).mapError .inr
  | .transferWrite bytes => ((Transfer.write c bytes).map .count).mapError .inr
  | .transferWriteAll bytes => ((Transfer.writeAll c bytes).map fun _ => .done).mapError .inr

section

omit [Connector κ τ]

variable {c : Connection τ}

theorem keeps_transferWrite (hc : c.Consistent) (bytes : Bytes) :
    (Transfer.write c bytes).state.Consistent ∧
      Keeps c.transport (Transfer.write c bytes).calls (Transfer.write c bytes).state.transport := by
  rw [Transfer.write]
  split
  · exact ⟨hc, .refl _⟩
  · exact ⟨Connection.consistent_write hc _, Connection.keeps_write hc _⟩

theorem keeps_transferWriteAllFrom {held : Option τ} {made : List Call} (bytes : Bytes)
    (hc : c.Consistent) (h : Keeps held made.reverse c.transport) :
    (Transfer.writeAllFrom made c bytes).state.Consistent ∧
      Keeps held (Transfer.writeAllFrom made c bytes).calls
        (Transfer.writeAllFrom made c bytes).state.transport := by
  -- One round makes the calls of a write after those that were made.
  have hround : ∀ (made : List Call) (c : Connection τ) (bytes : Bytes), c.Consistent →
      Keeps held made.reverse c.transport →
      Keeps held (List.reverseAux (Transfer.write c bytes).calls made).reverse
        (Transfer.write c bytes).state.transport := by
    intro made c bytes hc h
    rw [List.reverseAux_eq, List.reverse_append, List.reverse_reverse]
    exact h.trans (keeps_transferWrite hc bytes).2
  fun_induction Transfer.writeAllFrom made c bytes with
  | case1 made c => exact ⟨hc, h⟩
  | case2 made c bytes hne written calls e hresult =>
    exact ⟨(keeps_transferWrite hc bytes).1, hround made c bytes hc h⟩
  | case3 made c bytes hne written calls hresult =>
    exact ⟨(keeps_transferWrite hc bytes).1, hround made c bytes hc h⟩
  | case4 made c bytes hne written calls n hresult ih =>
    exact ih (keeps_transferWrite hc bytes).1 (hround made c bytes hc h)

theorem keeps_use (hc : c.Consistent) (u : Use) :
    (use u c).state.Consistent ∧ Keeps c.transport (use u c).calls (use u c).state.transport := by
  cases u with
  | read room => exact ⟨Connection.consistent_read hc room, Connection.keeps_read hc room⟩
  | write bytes => exact ⟨Connection.consistent_write hc bytes, Connection.keeps_write hc bytes⟩
  | transferRead room => exact ⟨Connection.consistent_read hc room, Connection.keeps_read hc room⟩
  | transferWrite bytes => exact keeps_transferWrite hc bytes
  | transferWriteAll bytes => exact keeps_transferWriteAllFrom bytes hc (.refl _)

theorem keeps_uses (hc : c.Consistent) (uses : List Use) :
    let os := Outcome.series (fun c u => use u c) c uses
    (Outcome.last c os).Consistent ∧
      Keeps c.transport (Outcome.log os) (Outcome.last c os).transport := by
  induction uses generalizing c with
  | nil => exact ⟨hc, .refl _⟩
  | cons u rest ih =>
    obtain ⟨hfirst, hkeeps⟩ := keeps_use hc u
    obtain ⟨hlast, hrest⟩ := ih hfirst
    exact ⟨hlast, hkeeps.trans hrest⟩

end

/-- What an opening does with streams: if it fails, none is left; if it succeeds, the one it has set
up is taken down once, by closing the object or by giving it up, whatever was done with it. -/
structure Releases (k : κ) (o : Outcome Error κ (Connection τ)) : Prop where
  failed : ∀ e, o.result = .error e →
    Successive k o.calls o.state ∧ takedowns o.calls = setups o.calls
  closed : ∀ c, o.result = .ok c → ∀ uses,
    let os := Outcome.series (fun c u => use u c) c uses
    let c' := Outcome.last c os
    let log := o.calls ++ Outcome.log os ++ (c'.close.calls ++ c'.close.state.drop)
    Successive k log o.state ∧ takedowns log = 1
  dropped : ∀ c, o.result = .ok c → ∀ uses,
    let os := Outcome.series (fun c u => use u c) c uses
    let log := o.calls ++ Outcome.log os ++ (Outcome.last c os).drop
    Successive k log o.state ∧ takedowns log = 1

variable {k k₁ : κ} {log : List Call} {c : Connection τ}

/-- An object that one stream was set up for releases it in the end. -/
theorem released (hc : c.Consistent) (h : Holding k log c.transport k₁) (hone : setups log = 1)
    (uses : List Use) :
    let os := Outcome.series (fun c u => use u c) c uses
    let c' := Outcome.last c os
    let closed := log ++ Outcome.log os ++ (c'.close.calls ++ c'.close.state.drop)
    let dropped := log ++ Outcome.log os ++ c'.drop
    (Successive k closed k₁ ∧ takedowns closed = 1) ∧
      (Successive k dropped k₁ ∧ takedowns dropped = 1) := by
  intro os c' closed dropped
  obtain ⟨hc', hkeeps⟩ := keeps_uses hc uses
  have hheld : Holding k (log ++ Outcome.log os) c'.transport k₁ := h.keeps hkeeps
  have hdropped : Successive k dropped k₁ := Connection.holding_drop hc' hheld
  -- Closing makes the calls that giving up makes, and leaves none to be made.
  have hsame : closed = dropped := by
    show log ++ Outcome.log os ++ (c'.close.calls ++ c'.close.state.drop) = _
    rw [Connection.drop_of_closed (Connection.close_mode c'), List.append_nil,
      Connection.close_calls c']
  have hones : takedowns dropped = 1 := by
    have hup : setups (Outcome.log os) = 0 := hkeeps.count.1
    have hdrop : setups c'.drop = 0 := Connection.setups_drop c'
    rw [hdropped.balanced.1, setups_append, setups_append, hone, hup, hdrop]
  rw [hsame]
  exact ⟨⟨hdropped, hones⟩, hdropped, hones⟩

theorem releases_fail (k : κ) (e : Error) :
    Releases k (.fail k e : Outcome Error κ (Connection τ)) := by
  refine ⟨fun _ _ => ⟨.nil k, rfl⟩, fun c hok => ?_, fun c hok => ?_⟩
  · cases hok
  · cases hok

theorem releases_openTarget (client : Client) (k : κ) (target : Target) (mode : Mode) (size : Nat)
    (now : Instant) : Releases k (client.openTarget k target mode size now) := by
  rw [openTarget]
  cases targetError? target mode with
  | some e => exact releases_fail k e
  | none =>
    dsimp only
    have hc : (Connection.new client.bufferCapacity : Connection τ).Consistent :=
      Connection.consistent_new _
    have hopened := Connection.consistent_openTo hc k target client.credentials mode size
      client.timeouts now
    have hstart : Holding k [] (Connection.new client.bufferCapacity : Connection τ).transport k :=
      .closed (.nil k)
    have hheld := Connection.holding_openTo hc hstart target client.credentials mode size
      client.timeouts now
    have hone := Connection.setups_openTo (Connection.new client.bufferCapacity : Connection τ) k target
      client.credentials mode size client.timeouts now
    generalize (Connection.new client.bufferCapacity : Connection τ).openTo k target
      client.credentials mode size client.timeouts now = o at hopened hheld hone
    have hheld : Holding k o.calls o.state.1.transport o.state.2 := hheld
    cases hresult : o.result with
    | error e =>
      -- The connection is given up before the failure is told.
      have hdropped := Connection.holding_drop hopened hheld
      refine ⟨fun _ _ => ⟨hdropped, hdropped.balanced.1⟩, fun c hok => ?_, fun c hok => ?_⟩
      · cases hok
      · cases hok
    | ok =>
      refine ⟨nofun, fun c hok uses => ?_, fun c hok uses => ?_⟩
      · cases hok
        exact (released hopened hheld (hone hresult) uses).1
      · cases hok
        exact (released hopened hheld (hone hresult) uses).2

theorem releases_openUrl (client : Client) (k : κ) (url : String) (mode : Mode) (size : Nat)
    (now : Instant) : Releases k (client.openUrl k url mode size now) := by
  rcases client.openUrl_cases (τ := τ) k url mode size now with ⟨message, ho⟩ | ⟨address, -, ho⟩
  · rw [ho]
    exact releases_fail k _
  · rw [ho]
    exact releases_openTarget client k _ mode size now

end Client

/-- Every stream that is set up is taken down once, and not used after that. In the log of any
session that ends with its connection given up, each stream has its own thread of calls, ended by
its one takedown, and two are never up at a time. What a client opens releases its stream in the
same way, also when the opening fails. -/
theorem streams_taken_down_once (k : κ) :
    (∀ capacity (ops : List Connection.Operation),
      let os := Outcome.series (fun (s : Connection τ × κ) op => Connection.perform op s)
        (Connection.new capacity, k) ops
      let s := Outcome.last (Connection.new capacity, k) os
      let log := Outcome.log os ++ s.1.drop
      Successive k log s.2 ∧ takedowns log = setups log ∧
        ∀ before, before <+: log →
          takedowns before ≤ setups before ∧ setups before ≤ takedowns before + 1) ∧
    ∀ (client : Client) (mode : Mode) (size : Nat) (now : Instant),
      (∀ target, Client.Releases k (client.openTarget k target mode size now)) ∧
      ∀ url, Client.Releases k (client.openUrl k url mode size now) := by
  refine ⟨fun capacity ops => ?_, fun client mode size now => ⟨fun target => ?_, fun url => ?_⟩⟩
  · intro os s log
    have hstart : Holding k [] (Connection.new capacity : Connection τ).transport k := .closed (.nil k)
    obtain ⟨hlast, hheld⟩ := Connection.holding_series (s := (Connection.new capacity, k))
      (Connection.consistent_new capacity) hstart ops
    have hlog : Successive k log s.2 := Connection.holding_drop hlast hheld
    exact ⟨hlog, hlog.balanced⟩
  · exact Client.releases_openTarget client k target mode size now
  · exact Client.releases_openUrl client k url mode size now

end

end ObjectStream
