/-
  ObjectStream.Proofs.UnusableStream

  Objects that nothing can be written to: those that are open for reading, and
  uploads that were opened without a size, whatever was done with them since. Their
  writes fail with one cause (`Connection.writeError?`), without a call.

  The byte stream of the system tells of that cause while bytes of the body are to
  come (`unusable_stream_refuses`). It looks at the number of those bytes first, and
  where it is zero, as it always is in an upload without a size, a write takes no
  byte and does not fail (`unusable_upload_takes_nothing`).
-/

import ObjectStream.Proofs.ChunkFraming
import ObjectStream.Proofs.Lifecycle
import ObjectStream.Proofs.WriteAll

namespace ObjectStream

variable {τ κ : Type}

/-! ## Writes that always fail -/

namespace Connection

/-- Why nothing can be written, whatever the bytes. -/
def writeError? (c : Connection τ) : Option Error :=
  if c.mode ≠ .writing then some .notWriting else c.framingError?

theorem writeError?_of_not_writing {c : Connection τ} (hmode : c.mode ≠ .writing) :
    c.writeError? = some .notWriting := by
  rw [writeError?, if_pos hmode]

theorem writeError?_of_writing {c : Connection τ} (hmode : c.mode = .writing) :
    c.writeError? = c.framingError? := by
  rw [writeError?, if_neg (not_not_intro hmode)]

/-- In an upload whose body cannot be written no byte is due. -/
theorem Consistent.remaining_of_framingError {c : Connection τ} (hc : c.Consistent)
    (hmode : c.mode = .writing) (hframing : c.framingError? ≠ none) : c.remaining = 0 := by
  have hchunked := hc.declared hmode
  have hlength : c.bodyLength = none := by
    -- With a declared length the body would be whole.
    rw [Ne, framingError?_eq_none, hchunked] at hframing
    cases hlength : c.bodyLength with
    | none => rfl
    | some n =>
      rw [hlength] at hframing
      exact absurd ⟨rfl, rfl⟩ hframing
  have hbounded := hc.bounded
  rw [hlength] at hbounded
  exact Nat.le_zero.mp hbounded

variable [Transport τ]

theorem write_of_writeError {c : Connection τ} {e : Error} (h : c.writeError? = some e)
    (bytes : Bytes) : c.write bytes = .fail c e := by
  by_cases hmode : c.mode = .writing
  · rw [writeError?_of_writing hmode] at h
    exact write_of_framingError hmode h bytes
  · rw [writeError?_of_not_writing hmode, Option.some_inj] at h
    rw [write_of_not_writing hmode, h]

/-- A write leaves the length of the body as it is. -/
theorem write_bodyLength {c : Connection τ} (hc : c.Consistent) (bytes : Bytes) :
    (c.write bytes).state.bodyLength = c.bodyLength := by
  rcases hc.write_cases bytes with ⟨e, -, hfail⟩ | ⟨hmode, -, hcases⟩
  · rw [hfail]
    rfl
  -- Only a write that completes the body hears the response, which leaves an upload's length alone.
  generalize c.write bytes = o at hcases
  cases hcases with
  | refused | failed | accepted => rfl
  | completed t t' count hfits ht hsend hle hall =>
    have hnot : (c.afterSend t' count).mode ≠ .reading := by
      show c.mode ≠ .reading
      rw [hmode]
      decide
    exact (readResponse_of_not_reading hnot).1

end Connection

namespace Transfer

variable [Transport τ] {c : Connection τ} {e : Error} {bytes : Bytes}

/-- The cause is told of while bytes are to come. -/
theorem write_of_writeError (h : c.writeError? = some e) (hdue : 0 < c.remaining)
    (hne : bytes ≠ []) : write c bytes = .fail c (.ofError e) := by
  rw [write_of_due hdue hne, Connection.write_of_writeError h]
  rfl

theorem writeAll_of_writeError (h : c.writeError? = some e) (hdue : 0 < c.remaining)
    (hne : bytes ≠ []) : writeAll c bytes = .fail c (.ofError e) :=
  writeAll_of_error hne (write_of_writeError h hdue hne)

/-- What every write keeps is kept by the loop. -/
theorem writeAllFrom_keeps {P : Connection τ → Prop}
    (hwrite : ∀ c bytes, P c → P (write c bytes).state) (made : List Call) (c : Connection τ)
    (bytes : Bytes) (h : P c) : P (writeAllFrom made c bytes).state := by
  fun_induction writeAllFrom made c bytes with
  | case1 made c => exact h
  | case2 made c bytes hne written calls e hresult => exact hwrite c bytes h
  | case3 made c bytes hne written calls hresult => exact hwrite c bytes h
  | case4 made c bytes hne written calls n hresult ih => exact ih (hwrite c bytes h)

end Transfer

/-! ## Objects and what is done with them -/

namespace Client

section

variable [Transport τ]

/-- What the reads and writes of a connection keep is kept by every use of an object. -/
theorem use_keeps {P : Connection τ → Prop} (hread : ∀ c room, P c → P (c.read room).state)
    (hwrite : ∀ c bytes, P c → P (c.write bytes).state) (u : Use) (c : Connection τ) (h : P c) :
    P (use u c).state := by
  -- The byte stream of the system writes what is due of the bytes, or does nothing.
  have htransfer : ∀ c bytes, P c → P (Transfer.write c bytes).state := by
    intro c bytes h
    rw [Transfer.write]
    split
    · exact h
    · exact hwrite c _ h
  cases u with
  | read room => exact hread c room h
  | write bytes => exact hwrite c bytes h
  | transferRead room => exact hread c room h
  | transferWrite bytes => exact htransfer c bytes h
  | transferWriteAll bytes => exact Transfer.writeAllFrom_keeps htransfer [] c bytes h

/-- What stays of an opening, whatever is done with the object. -/
structure OpenFor (mode : Mode) (size : Nat) (c : Connection τ) : Prop where
  consistent : c.Consistent
  mode_eq : c.mode = mode
  /-- The size is the length of the body, and no size leaves it open. -/
  length : mode = .writing → c.bodyLength = if 0 < size then some size else none

namespace OpenFor

variable {mode : Mode} {size : Nat} {c : Connection τ}

theorem read (h : OpenFor mode size c) (room : Nat) : OpenFor mode size (c.read room).state := by
  obtain ⟨hmode, hlength, -⟩ := Connection.read_frame h.consistent room
  refine ⟨Connection.consistent_read h.consistent room, hmode.trans h.mode_eq, fun hwriting => ?_⟩
  rw [hlength]
  exact h.length hwriting

theorem write (h : OpenFor mode size c) (bytes : Bytes) :
    OpenFor mode size (c.write bytes).state := by
  have hmode := Connection.write_mode h.consistent bytes
  have hlength := Connection.write_bodyLength h.consistent bytes
  refine ⟨Connection.consistent_write h.consistent bytes, hmode.trans h.mode_eq, fun hwriting => ?_⟩
  rw [hlength]
  exact h.length hwriting

theorem use (h : OpenFor mode size c) (u : Use) : OpenFor mode size (Client.use u c).state :=
  use_keeps (fun _ room h => h.read room) (fun _ bytes h => h.write bytes) u c h

omit [Transport τ] in
/-- Why nothing can be written to an object follows from how it was opened. -/
theorem writeError?_eq (h : OpenFor mode size c) :
    c.writeError? =
      if mode ≠ .writing then some .notWriting
      else if size = 0 then some .unboundedBody
      else none := by
  by_cases hmode : mode = .writing
  · have hwriting : c.mode = .writing := h.mode_eq.trans hmode
    have hchunked := h.consistent.declared hwriting
    rw [if_neg (not_not_intro hmode), Connection.writeError?_of_writing hwriting,
      Connection.framingError?, hchunked, h.length hmode]
    by_cases hsize : size = 0
    · simp [hsize]
    · simp [hsize, Nat.pos_of_ne_zero hsize]
  · have hnot : c.mode ≠ .writing := by
      rw [h.mode_eq]
      exact hmode
    rw [if_pos hmode, Connection.writeError?_of_not_writing hnot]

end OpenFor

end

variable [Transport τ] [Connector κ τ]

/-- A connection that was opened. -/
theorem openFor_openTo {c : Connection τ} (hc : c.Consistent) {k : κ} {target : Target}
    {credentials : Credentials} {mode : Mode} {size : Nat} {timeouts : Timeouts} {now : Instant}
    (hok : (c.openTo k target credentials mode size timeouts now).result = .ok ()) :
    OpenFor mode size (c.openTo k target credentials mode size timeouts now).state.1 := by
  have hcases := Connection.openTo_cases c k target credentials mode size timeouts now
  have hconsistent := Connection.consistent_openTo hc k target credentials mode size timeouts now
  generalize c.openTo k target credentials mode size timeouts now = o at hcases hconsistent hok ⊢
  -- The length is set when the exchange begins, in front of the request.
  cases hcases with
  | refused | unreachable | undated | unsent => cases hok
  | ready k' t t' method head calls _ hwriting =>
    refine ⟨hconsistent, Connection.begin_mode c t mode size, fun _ => ?_⟩
    show (c.begin t mode size).bodyLength = _
    rw [Connection.begin_bodyLength]
    simp only [hwriting, true_and]
  | asked k' t t' method head calls _ hreading =>
    refine ⟨hconsistent, ?_, fun hwriting => ?_⟩
    · exact (Connection.readResponse_mode _).trans (Connection.begin_mode c t mode size)
    · cases hreading.symm.trans hwriting

/-- An object is opened when its target is sound and a new connection opens. -/
theorem openTarget_eq_ok {client : Client} {k : κ} {target : Target} {mode : Mode} {size : Nat}
    {now : Instant} {c : Connection τ} :
    (client.openTarget k target mode size now).result = .ok c ↔
      targetError? target mode = none ∧
        let o := (Connection.new client.bufferCapacity : Connection τ).openTo k target
          client.credentials mode size client.timeouts now
        o.result = .ok () ∧ o.state.1 = c := by
  rw [openTarget]
  cases herror : targetError? target mode with
  | some e =>
    refine ⟨fun h => ?_, fun h => absurd h.1.symm (Option.some_ne_none e).symm⟩
    cases h
  | none =>
    dsimp only
    generalize (Connection.new client.bufferCapacity : Connection τ).openTo k target
      client.credentials mode size client.timeouts now = o
    obtain ⟨result, state, calls⟩ := o
    cases result with
    | error e => simp
    | ok => simp

theorem openFor_openTarget {client : Client} {k : κ} {target : Target} {mode : Mode} {size : Nat}
    {now : Instant} {c : Connection τ}
    (h : (client.openTarget k target mode size now).result = .ok c) : OpenFor mode size c := by
  obtain ⟨-, hok, rfl⟩ := openTarget_eq_ok.mp h
  exact openFor_openTo (Connection.consistent_new _) hok

/-- The object of a URL is opened as some target. -/
theorem openTarget_of_openUrl {client : Client} {k : κ} {url : String} {mode : Mode} {size : Nat}
    {now : Instant} {c : Connection τ}
    (h : (client.openUrl k url mode size now).result = .ok c) :
    ∃ target, (client.openTarget k target mode size now).result = .ok c := by
  rcases client.openUrl_cases k url mode size now with ⟨message, ho⟩ | ⟨address, -, ho⟩
  · rw [ho] at h
    cases h
  · rw [ho] at h
    exact ⟨_, h⟩

theorem openFor_openUrl {client : Client} {k : κ} {url : String} {mode : Mode} {size : Nat}
    {now : Instant} {c : Connection τ}
    (h : (client.openUrl k url mode size now).result = .ok c) : OpenFor mode size c := by
  obtain ⟨target, htarget⟩ := openTarget_of_openUrl h
  exact openFor_openTarget htarget

/-- The objects that were opened in a mode, with a size, after anything was done with them. -/
inductive Opened (κ : Type) [Connector κ τ] (mode : Mode) (size : Nat) : Connection τ → Prop where
  | target {client : Client} {k : κ} {target : Target} {now : Instant} {c : Connection τ} :
      (client.openTarget k target mode size now).result = .ok c → Opened κ mode size c
  | url {client : Client} {k : κ} {url : String} {now : Instant} {c : Connection τ} :
      (client.openUrl k url mode size now).result = .ok c → Opened κ mode size c
  | used (u : Use) {c : Connection τ} : Opened κ mode size c → Opened κ mode size (use u c).state

theorem Opened.openFor {mode : Mode} {size : Nat} {c : Connection τ} (h : Opened κ mode size c) :
    OpenFor mode size c := by
  induction h with
  | target h => exact openFor_openTarget h
  | url h => exact openFor_openUrl h
  | used u _ ih => exact ih.use u

/-- An object that nothing can be written to, whatever was done with it: it is not open for writing, or
is an upload without a size, and no other object is so. A write of any bytes fails with the cause, and
neither makes a call nor changes anything. As a byte stream of the system it tells of the same cause as
long as bytes of the body are to come. Once none is, which in an upload without a size is always so, a
write of some bytes takes none, and writing all of them fails for that. -/
theorem unusable_stream_refuses {mode : Mode} {size : Nat} {c : Connection τ}
    (h : Opened κ mode size c) :
    c.mode = mode ∧
    (c.writeError? =
      if mode ≠ .writing then some .notWriting
      else if size = 0 then some .unboundedBody
      else none) ∧
    ∀ e, c.writeError? = some e → ∀ bytes, bytes ≠ [] →
      c.write bytes = .fail c e ∧
      (0 < c.remaining →
        Transfer.write c bytes = .fail c (.ofError e) ∧
        Transfer.writeAll c bytes = .fail c (.ofError e)) ∧
      (c.remaining = 0 →
        Transfer.write c bytes = .ok c 0 ∧ Transfer.writeAll c bytes = .fail c .nothingWritten) ∧
      (mode = .writing → c.remaining = 0) := by
  have hopen := h.openFor
  refine ⟨hopen.mode_eq, hopen.writeError?_eq, fun e herror bytes hne => ?_⟩
  refine ⟨Connection.write_of_writeError herror bytes, fun hdue => ?_, fun hdone => ?_,
    fun hmode => ?_⟩
  · exact ⟨Transfer.write_of_writeError herror hdue hne,
      Transfer.writeAll_of_writeError herror hdue hne⟩
  · have hnothing := Transfer.write_of_not_due hdone hne
    exact ⟨hnothing, Transfer.writeAll_of_nothing hne hnothing⟩
  · -- The cause can only be the framing, and a body without a length has no bytes due.
    have hwriting : c.mode = .writing := hopen.mode_eq.trans hmode
    rw [Connection.writeError?_of_writing hwriting] at herror
    apply hopen.consistent.remaining_of_framingError hwriting
    rw [herror]
    exact Option.some_ne_none e

/-- A client for the two objects below. -/
def somebody : Client := ⟨⟨"a", "s"⟩, Timeouts.none, 128⟩

/-- A response with a body of three bytes. -/
def threeBytes : Bytes := Utf8.encode "HTTP/1.1 200 O\r\nContent-Length: 3\r\n\r\nabc"

/-- The object that is read over a stream with this response. -/
theorem openTarget_threeBytes :
    (somebody.openTarget (⟨[{ receipts := [.data threeBytes] }]⟩ : Scripts) ⟨"h", 80, "/o"⟩
      .reading 0 ⟨0⟩).result = .ok (Connection.downloading threeBytes).state.1 := by
  obtain ⟨t, progress, hhead, -, hresult, -⟩ :=
    Connection.downloading_opens threeBytes (p := 37) (by decide) (by decide)
  have hverdict : progress.head.verdict = .ok () := by
    rw [hhead]
    decide
  have hok : (Connection.downloading threeBytes).result = .ok () := hresult.trans hverdict
  exact openTarget_eq_ok.mpr ⟨by decide, hok, rfl⟩

/-- A write to an object that is being read fails with the cause. -/
theorem unusable_stream_refuses_reading :
    ∃ c : Connection Script,
      Opened Scripts .reading 0 c ∧ c.writeError? = some .notWriting ∧ 0 < c.remaining ∧
        Transfer.write c [97] = .fail c (.ofError .notWriting) := by
  obtain ⟨t, progress, hhead, -, -, -, hstate⟩ :=
    Connection.downloading_opens threeBytes (p := 37) (by decide) (by decide)
  have hframing : progress.head.framing = (some 3, false) := by
    rw [hhead]
    decide
  have hopened : Opened Scripts .reading 0 (Connection.downloading threeBytes).state.1 :=
    .target openTarget_threeBytes
  have hdue : 0 < (Connection.downloading threeBytes).state.1.remaining := by
    rw [hstate, hframing]
    exact Nat.zero_lt_succ 2
  obtain ⟨-, herror, hwrites⟩ := unusable_stream_refuses hopened
  obtain ⟨-, hcause, -, -⟩ := hwrites .notWriting herror [97] (List.cons_ne_nil _ _)
  exact ⟨_, hopened, herror, hdue, (hcause hdue).1⟩

/-- An upload without a size: a write fails for its framing, and the byte stream of the system takes no
byte without a failure, so that writing all of some bytes fails for another cause. -/
theorem unusable_upload_takes_nothing :
    ∃ c : Connection Script,
      (somebody.openTarget (⟨[{}]⟩ : Scripts) ⟨"h", 80, "/o"⟩ .writing 0 ⟨0⟩).result = .ok c ∧
      c.write [97] = .fail c .unboundedBody ∧
      Transfer.write c [97] = .ok c 0 ∧
      Transfer.writeAll c [97] = .fail c .nothingWritten ∧
      Fault.nothingWritten ≠ .ofError .unboundedBody := by
  obtain ⟨head, hsign⟩ :
      ∃ head, RequestHead.Draft.sign? ⟨.put, "h", "/o", none⟩ ⟨0⟩ ⟨"a", "s"⟩ = some head := ⟨_, rfl⟩
  obtain ⟨calls, hsend⟩ := Script.sendAll_of_unbounded (s := {}) rfl rfl head.encode
  have hopen : (Connection.new 128 : Connection Script).openTo (⟨[{}]⟩ : Scripts) ⟨"h", 80, "/o"⟩
      ⟨"a", "s"⟩ .writing 0 Timeouts.none ⟨0⟩ = _ :=
    Connection.openTo_of_sent rfl rfl (by decide) rfl hsign hsend
  have hdone : ((Connection.new 128 : Connection Script).begin {} .writing 0).remaining = 0 := rfl
  have hnothing := Transfer.write_of_not_due hdone (List.cons_ne_nil 97 [])
  have hsound : targetError? ⟨"h", 80, "/o"⟩ .writing = none := by decide
  refine ⟨_, openTarget_eq_ok.mpr ⟨hsound, ?_, rfl⟩, ?_⟩
  · dsimp only [somebody]
    rw [hopen]
    rfl
  · dsimp only [somebody]
    rw [hopen]
    exact ⟨rfl, hnothing, Transfer.writeAll_of_nothing (List.cons_ne_nil _ _) hnothing, by decide⟩

end Client
end ObjectStream
