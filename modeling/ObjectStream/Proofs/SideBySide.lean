/-
  ObjectStream.Proofs.SideBySide

  Two runs side by side, on streams that answer alike whatever the bytes are that
  they are sent (`Blind`). Two outcomes `Agree` if they have the same result, states
  that belong together, and calls that match one by one. Every operation on two
  connections that are alike has outcomes that agree.
-/

import ObjectStream.Proofs.HeadReception
import ObjectStream.Proofs.Lifecycle
import ObjectStream.Proofs.Likeness
import ObjectStream.Transport.Script
import Mathlib.Data.List.Forall2

namespace ObjectStream

variable {τ κ : Type}

/-! ## Outcomes that agree -/

namespace Outcome

variable {ε σ σ' α β : Type} {S : σ → σ → Prop} {S' : σ' → σ' → Prop} {C : Call → Call → Prop}

/-- The same result, related states, and calls that are related one by one. -/
structure Agree (S : σ → σ → Prop) (C : Call → Call → Prop) (o o' : Outcome ε σ α) : Prop where
  result : o'.result = o.result
  state : S o.state o'.state
  calls : List.Forall₂ C o.calls o'.calls

namespace Agree

theorem fail {s s' : σ} (h : S s s') (e : ε) :
    Agree S C (.fail s e : Outcome ε σ α) (.fail s' e) := ⟨rfl, h, .nil⟩

theorem ok {s s' : σ} (h : S s s') (a : α) :
    Agree S C (.ok s a : Outcome ε σ α) (.ok s' a) := ⟨rfl, h, .nil⟩

theorem map {o o' : Outcome ε σ α} (h : Agree S C o o') (f : α → β) : Agree S C (o.map f) (o'.map f) :=
  ⟨congrArg (Except.map f) h.result, h.state, h.calls⟩

theorem mapState {o o' : Outcome ε σ α} (h : Agree S C o o') {f f' : σ → σ'}
    (hf : ∀ s s', S s s' → S' (f s) (f' s')) : Agree S' C (o.mapState f) (o'.mapState f') :=
  ⟨h.result, hf _ _ h.state, h.calls⟩

theorem after {o o' : Outcome ε σ α} (h : Agree S C o o') {calls calls' : List Call}
    (hcalls : List.Forall₂ C calls calls') : Agree S C (o.after calls) (o'.after calls') :=
  ⟨h.result, h.state, List.rel_append hcalls h.calls⟩

theorem andThen {o o' : Outcome ε σ α} (h : Agree S C o o')
    {next next' : σ → α → Outcome ε σ β}
    (hnext : ∀ s s' a, S s s' → Agree S C (next s a) (next' s' a)) :
    Agree S C (o.andThen next) (o'.andThen next') := by
  obtain ⟨result, state, calls⟩ := o
  obtain ⟨result', state', calls'⟩ := o'
  obtain ⟨hresult, hstate, hcalls⟩ := h
  obtain rfl : result' = result := hresult
  cases result' with
  | error e => exact ⟨rfl, hstate, hcalls⟩
  | ok a => exact (hnext state state' a hstate).after hcalls

/-- Equal calls match whatever matches itself. -/
theorem of_eq {o o' : Outcome ε σ α} (h : Agree S Eq o o') (hrefl : ∀ call, C call call) :
    Agree S C o o' :=
  ⟨h.result, h.state, h.calls.imp fun call _ hcall => hcall ▸ hrefl call⟩

end Agree
end Outcome

open Outcome

/-! ## Streams that do not look at what is sent -/

section

variable [Transport τ]

/-- Streams that `R` relates give the same answers, whatever the bytes are that they are offered, and
stay related. -/
structure Blind (R : τ → τ → Prop) : Prop where
  send {t t' : τ} {bytes bytes' : Bytes} : R t t' → bytes.length = bytes'.length →
    (Transport.send t' bytes').1 = (Transport.send t bytes).1 ∧
      R (Transport.send t bytes).2 (Transport.send t' bytes').2
  receive {t t' : τ} (room : Nat) : R t t' →
    (Transport.receive t' room).1 = (Transport.receive t room).1 ∧
      R (Transport.receive t room).2 (Transport.receive t' room).2
  disconnect {t t' : τ} : R t t' → Transport.disconnect t' = Transport.disconnect t

/-- Two attempts to set a stream up that fail for the same cause, or give related streams. -/
inductive SetUpAlike (R : τ → τ → Prop) : Except Error τ → Except Error τ → Prop where
  | failed (e : Error) : SetUpAlike R (.error e) (.error e)
  | made {t t' : τ} : R t t' → SetUpAlike R (.ok t) (.ok t')

omit [Transport τ] in
/-- Makers of streams that `Q` relates set up streams that `R` relates. -/
structure BlindMaker [Connector κ τ] (Q : κ → κ → Prop) (R : τ → τ → Prop) : Prop where
  connect {k k' : κ} (host : String) (port : UInt16) (timeouts : Timeouts) : Q k k' →
    SetUpAlike R (Connector.connect k host port timeouts).1
        (Connector.connect k' host port timeouts).1 ∧
      Q (Connector.connect k host port timeouts).2 (Connector.connect k' host port timeouts).2

omit [Transport τ] in
theorem Script.blind : Blind (Eq : Script → Script → Prop) where
  send := by
    rintro t _ bytes bytes' rfl hlength
    show (t.send bytes').1 = (t.send bytes).1 ∧ (t.send bytes).2 = (t.send bytes').2
    rw [Script.send, Script.send, hlength]
    exact ⟨rfl, rfl⟩
  receive := by
    rintro t _ room rfl
    exact ⟨rfl, rfl⟩
  disconnect := by
    rintro t _ rfl
    rfl

omit [Transport τ] in
theorem Scripts.blind : BlindMaker (Eq : Scripts → Scripts → Prop) (Eq : Script → Script → Prop) where
  connect := by
    rintro k _ host port timeouts rfl
    refine ⟨?_, rfl⟩
    cases (Connector.connect k host port timeouts : Except Error Script × Scripts).1 with
    | error e => exact .failed e
    | ok t => exact .made rfl

variable {R : τ → τ → Prop}

theorem Blind.sent (hR : Blind R) {t t' t₁ : τ} {bytes bytes' : Bytes} {answer : Except Error Nat}
    (h : R t t') (hlength : bytes.length = bytes'.length)
    (hsend : Transport.send t bytes = (answer, t₁)) :
    ∃ t₁', Transport.send t' bytes' = (answer, t₁') ∧ R t₁ t₁' := by
  obtain ⟨hanswer, hrel⟩ := hR.send h hlength
  rw [hsend] at hanswer hrel
  exact ⟨(Transport.send t' bytes').2, Prod.ext hanswer rfl, hrel⟩

theorem Blind.received (hR : Blind R) {t t' t₁ : τ} {room : Nat} {answer : Except Error Bytes}
    (h : R t t') (hrecv : Transport.receive t room = (answer, t₁)) :
    ∃ t₁', Transport.receive t' room = (answer, t₁') ∧ R t₁ t₁' := by
  obtain ⟨hanswer, hrel⟩ := hR.receive room h
  rw [hrecv] at hanswer hrel
  exact ⟨(Transport.receive t' room).2, Prod.ext hanswer rfl, hrel⟩

/-- A fill does the same with both streams. -/
theorem Blind.fill (hR : Blind R) {t t' : τ} (h : R t t') (b : ReceiveBuffer) :
    ∃ t₁', b.fill t' = ⟨(b.fill t).result, ((b.fill t).state.1, t₁'), (b.fill t).calls⟩ ∧
      R (b.fill t).state.2 t₁' := by
  rw [ReceiveBuffer.fill, ReceiveBuffer.fill]
  split
  · exact ⟨t', rfl, h⟩
  · rcases hrecv : Transport.receive t b.rewind.room with ⟨answer, t₁⟩
    obtain ⟨t₁', hrecv', hrel⟩ := hR.received h hrecv
    rw [hrecv']
    cases answer with
    | error e => exact ⟨t₁', rfl, hrel⟩
    | ok bytes => exact ⟨t₁', rfl, hrel⟩

/-- So does the reading of a head. -/
theorem Blind.receiveHeadFrom (hR : Blind R) (made : List Call) (t : τ) (p : HeadProgress) :
    ∀ t', R t t' → ∃ t₁', receiveHeadFrom made t' p =
        ⟨(receiveHeadFrom made t p).result, (t₁', (receiveHeadFrom made t p).state.2),
          (receiveHeadFrom made t p).calls⟩ ∧
      R (receiveHeadFrom made t p).state.1 t₁' := by
  -- On the fills; each one leaves the same progress on both streams.
  fun_induction ObjectStream.receiveHeadFrom made t p with
  | case1 made t p filled calls buffer t₁ e hfill =>
    intro t' h
    obtain ⟨t₁', hfilled, hrel⟩ := hR.fill h p.buffer
    have hfill : (p.buffer.fill t).result = .error e := hfill
    refine ⟨t₁', ?_, hrel⟩
    rw [receiveHeadFrom_eq, hfilled, hfill]
  | case2 made t p filled calls buffer t₁ hfill =>
    intro t' h
    obtain ⟨t₁', hfilled, hrel⟩ := hR.fill h p.buffer
    have hfill : (p.buffer.fill t).result = .ok 0 := hfill
    refine ⟨t₁', ?_, hrel⟩
    rw [receiveHeadFrom_eq, hfilled, hfill]
  | case3 made t p filled calls buffer t₁ n hfill absorbed p' e habsorb =>
    intro t' h
    obtain ⟨t₁', hfilled, hrel⟩ := hR.fill h p.buffer
    have hfill : (p.buffer.fill t).result = .ok (n + 1) := hfill
    have habsorb : (p.reader.absorb (p.buffer.fill t).state.1 p.head).result = .error e := habsorb
    refine ⟨t₁', ?_, hrel⟩
    rw [receiveHeadFrom_eq, hfilled, hfill]
    dsimp only
    rw [habsorb]
  | case4 made t p filled calls buffer t₁ n hfill absorbed p' habsorb =>
    intro t' h
    obtain ⟨t₁', hfilled, hrel⟩ := hR.fill h p.buffer
    have hfill : (p.buffer.fill t).result = .ok (n + 1) := hfill
    have habsorb : (p.reader.absorb (p.buffer.fill t).state.1 p.head).result = .ok true := habsorb
    refine ⟨t₁', ?_, hrel⟩
    rw [receiveHeadFrom_eq, hfilled, hfill]
    dsimp only
    rw [habsorb]
  | case5 made t p filled calls buffer t₁ n hfill absorbed p' habsorb ih =>
    intro t' h
    obtain ⟨t₁', hfilled, hrel⟩ := hR.fill h p.buffer
    obtain ⟨t₂', hrest, hrel'⟩ := ih _ hrel
    have hfill : (p.buffer.fill t).result = .ok (n + 1) := hfill
    have habsorb : (p.reader.absorb (p.buffer.fill t).state.1 p.head).result = .ok false := habsorb
    refine ⟨t₂', ?_, hrel'⟩
    rw [receiveHeadFrom_eq, hfilled, hfill]
    dsimp only
    rw [habsorb]
    exact hrest

namespace Connection

/-! ## Operations on connections that are alike -/

omit [Transport τ] in
theorem beforeHead_withTransport (c : Connection τ) (held : Option τ) :
    ({ c with transport := held } : Connection τ).beforeHead =
      { c.beforeHead with transport := held } := by
  rw [beforeHead, beforeHead]
  dsimp only
  split <;> rfl

omit [Transport τ] in
theorem afterHead_withTransport (c : Connection τ) (held : Option τ) :
    ({ c with transport := held } : Connection τ).afterHead =
      (c.afterHead.1, { c.afterHead.2 with transport := held }) := by
  rw [afterHead, afterHead]
  dsimp only
  split
  · split <;> rfl
  · rfl

variable {c c' : Connection τ}

theorem agree_readResponse (hR : Blind R) (h : Alike R c c') :
    Agree (Alike R) Eq c.readResponse c'.readResponse := by
  cases hheard : c.responseReceived with
  | true =>
    have hheard' : c'.responseReceived = true := by
      rw [h.same]
      exact hheard
    rw [readResponse_of_received hheard, readResponse_of_received hheard']
    exact .ok h ()
  | false =>
    rcases h.cases with ⟨ht, rfl⟩ | ⟨t, t', ht, hrel, rfl⟩
    · rw [readResponse_of_no_stream hheard ht]
      exact .fail h _
    obtain ⟨t₁', hloop', hrel'⟩ := hR.receiveHeadFrom [] t ⟨c.buffer, c.reader, .empty⟩ t' hrel
    rcases hloop : receiveHeadFrom [] t ⟨c.buffer, c.reader, .empty⟩ with ⟨result, ⟨t₁, p⟩, calls⟩
    rw [hloop] at hloop' hrel'
    -- What was read of the head is the same, and so is the connection but for its stream.
    have hwith : ({ c with transport := some t' } : Connection τ).beforeHead.withHead t₁' p =
        { c.beforeHead.withHead t₁ p with transport := some t₁' } := by
      rw [beforeHead_withTransport]
      rfl
    cases result with
    | error e =>
      rw [readResponse_of_broken hheard ht hloop,
        readResponse_of_broken (c := { c with transport := some t' }) hheard rfl hloop', hwith]
      exact ⟨rfl, .held rfl hrel', List.forall₂_refl calls⟩
    | ok =>
      rw [readResponse_of_complete hheard ht hloop,
        readResponse_of_complete (c := { c with transport := some t' }) hheard rfl hloop', hwith,
        afterHead_withTransport (c.beforeHead.withHead t₁ p) (some t₁')]
      obtain ⟨_, _, _, hframe⟩ := afterHead_frame (c.beforeHead.withHead t₁ p)
      rw [hframe]
      exact ⟨rfl, .held rfl hrel', List.forall₂_refl calls⟩

/-- So the response head is read after the last byte of a body, or it is not, on both sides. -/
theorem agree_answer (hR : Blind R) (h : Alike R c c') :
    Agree (Alike R) Eq (if c.remaining = 0 then c.readResponse else .ok c ())
      (if c'.remaining = 0 then c'.readResponse else .ok c' ()) := by
  have hsame : c'.remaining = c.remaining := by rw [h.same]
  rw [hsame]
  by_cases hdone : c.remaining = 0
  · rw [if_pos hdone, if_pos hdone]
    exact agree_readResponse hR h
  · rw [if_neg hdone, if_neg hdone]
    exact .ok h ()

theorem agree_read (hR : Blind R) (hc : Consistent c) (h : Alike R c c') (room : Nat) :
    Agree (Alike R) Eq (c.read room) (c'.read room) := by
  rcases h.cases with ⟨ht, rfl⟩ | ⟨t, t', ht, hrel, rfl⟩
  · rw [read_of_not_reading (by rw [hc.mode_eq_unopened ht]; decide)]
    exact .fail h _
  by_cases hmode : c.mode = .reading
  case neg =>
    rw [read_of_not_reading hmode, read_of_not_reading (c := { c with transport := some t' }) hmode]
    exact .fail h _
  cases hframing : c.framingError? with
  | some e =>
    rw [read_of_framingError hmode hframing,
      read_of_framingError (c := { c with transport := some t' }) hmode hframing]
    exact .fail h e
  | none =>
    have hframing' : ({ c with transport := some t' } : Connection τ).framingError? = none := hframing
    rw [read, read, if_neg (not_not_intro hmode), if_neg (not_not_intro hmode), hframing, hframing']
    obtain ⟨mode, transport, buffer, reader, response, responseReceived, bodyLength, remaining,
      chunked, deferred⟩ := c
    dsimp only at ht
    subst ht
    cases deferred with
    | some e => exact .fail (.held rfl hrel) e
    | none =>
      dsimp only [ReceiveBuffer.take]
      split
      · exact .ok (.held rfl hrel) []
      split
      · exact .ok (.held rfl hrel) _
      -- Both streams are asked for the same number of bytes.
      generalize List.take (min room remaining) buffer.unread = front
      rcases hrecv : Transport.receive t (min room remaining - front.length) with ⟨received, t₁⟩
      obtain ⟨t₁', hrecv', hrel'⟩ := hR.received hrel hrecv
      rw [hrecv']
      cases received with
      | error e =>
        cases front with
        | nil => exact ⟨rfl, .held rfl hrel', List.forall₂_refl _⟩
        | cons b rest => exact ⟨rfl, .held rfl hrel', List.forall₂_refl _⟩
      | ok back =>
        cases front with
        | nil => cases back <;> exact ⟨rfl, .held rfl hrel', List.forall₂_refl _⟩
        | cons b rest => exact ⟨rfl, .held rfl hrel', List.forall₂_refl _⟩

theorem agree_write (hR : Blind R) (hc : Consistent c) (h : Alike R c c') (bytes : Bytes) :
    Agree (Alike R) Eq (c.write bytes) (c'.write bytes) := by
  rcases h.cases with ⟨ht, rfl⟩ | ⟨t, t', ht, hrel, rfl⟩
  · rw [write_of_not_writing (by rw [hc.mode_eq_unopened ht]; decide)]
    exact .fail h _
  by_cases hmode : c.mode = .writing
  case neg =>
    rw [write_of_not_writing hmode, write_of_not_writing (c := { c with transport := some t' }) hmode]
    exact .fail h _
  cases hframing : c.framingError? with
  | some e =>
    rw [write_of_framingError hmode hframing,
      write_of_framingError (c := { c with transport := some t' }) hmode hframing]
    exact .fail h e
  | none =>
    have hframing' : ({ c with transport := some t' } : Connection τ).framingError? = none := hframing
    rw [write, write, if_neg (not_not_intro hmode), if_neg (not_not_intro hmode), hframing, hframing',
      ht]
    dsimp only
    split
    · exact .fail h _
    rcases hsend : Transport.send t bytes with ⟨accepted, t₁⟩
    obtain ⟨t₁', hsend', hrel'⟩ := hR.sent hrel rfl hsend
    rw [hsend']
    cases accepted with
    | error e => exact ⟨rfl, .held rfl hrel', List.forall₂_refl _⟩
    | ok count =>
      have halike : Alike R (c.afterSend t₁ count)
          (({ c with transport := some t' } : Connection τ).afterSend t₁' count) := .held rfl hrel'
      exact ((agree_answer hR halike).map _).after (List.forall₂_refl _)

theorem agree_close (hR : Blind R) (hc : Consistent c) (h : Alike R c c') :
    Agree (Alike R) Eq c.close c'.close := by
  rcases h.cases with ⟨ht, rfl⟩ | ⟨t, t', ht, hrel, rfl⟩
  · rw [close_of_closed (hc.mode_eq_unopened ht)]
    exact .fail h _
  · have hopen := hc.mode_ne_unopened ht
    rw [close_of_open hopen ht, close_of_open (c := { c with transport := some t' }) hopen rfl,
      hR.disconnect hrel]
    exact ⟨rfl, .closed rfl, List.forall₂_refl _⟩

end Connection

end

end ObjectStream
