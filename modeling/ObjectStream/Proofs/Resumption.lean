/-
  ObjectStream.Proofs.Resumption

  Taking up a response head again after failures of the stream. What was received
  stays received: the reader goes on where it was, so the head ends where it ends
  without the failures, and the same bytes are left after it. But the lines that
  had ended by the last failure are dropped with the old head, and the first line
  after them stands for the status line. So all is as without the failures only
  when no line had ended (`resumed_head`); `resumed_after_status_line` is a head
  that was taken up too late for that.
-/

import ObjectStream.Proofs.Opening
import ObjectStream.Proofs.Session

namespace ObjectStream

open Bytes

variable {τ : Type} [Transport τ]

/-- The next receive fails, and then the stream is as `next` says. -/
def Fails (e : Error) (next : τ → Prop) (t : τ) : Prop :=
  ∀ room, 0 < room → ∃ t', Transport.receive t room = (.error e, t') ∧ next t'

namespace Connection

/-! ## Attempts at a response head -/

/-- The ways to take up a response head. -/
inductive Attempt where
  /-- It is asked for. -/
  | ask
  /-- Nothing is written, once nothing is due any more. -/
  | writeNothing
deriving DecidableEq

namespace Attempt

def make (a : Attempt) (c : Connection τ) : Outcome Error (Connection τ) Unit :=
  match a with
  | .ask => c.readResponse
  | .writeNothing => (c.write []).map fun _ => ()

/-- The stream is as `next` says when the attempt comes to its first receive. -/
def Admits (a : Attempt) (next : τ → Prop) (t : τ) : Prop :=
  match a with
  | .ask => next t
  | .writeNothing => ∃ t', Transport.send t [] = (.ok 0, t') ∧ next t'

end Attempt

/-- A failure of the stream while a response head is read: the bytes that come before it, and the
attempt that is made after it. -/
structure Interruption where
  bytes : Bytes
  error : Error
  attempt : Attempt

namespace Interruption

/-- All bytes that come before the last failure. -/
def allBytes (is : List Interruption) : Bytes := is.flatMap (·.bytes)

/-- The stream gives the bytes of these interruptions, each with its failure after them, and then
`last`, and closes. -/
def Breaks (last : Bytes) : List Interruption → τ → Prop
  | [], t => Delivers Ended t last
  | i :: rest, t => Delivers (Fails i.error (i.attempt.Admits (Breaks last rest))) t i.bytes

omit [Transport τ] in
theorem append_allBytes_cons (read : Bytes) (i : Interruption) (rest : List Interruption) :
    read ++ allBytes (i :: rest) = read ++ i.bytes ++ allBytes rest := by
  rw [allBytes, List.flatMap_cons, List.append_assoc]
  rfl

end Interruption

open Interruption

/-- A connection for writing that has sent all of its body. -/
structure BodySent (c : Connection τ) : Prop where
  writing : c.mode = .writing
  framing : c.framingError? = none
  done : c.remaining = 0

/-- Two connections in one mode, with the same body when not reading. -/
structure SameBody (c c₀ : Connection τ) : Prop where
  mode : c.mode = c₀.mode
  body : c.mode ≠ .reading →
    c.bodyLength = c₀.bodyLength ∧ c.remaining = c₀.remaining ∧ c.chunked = c₀.chunked

section

omit [Transport τ]

variable {c c₀ c' : Connection τ}

theorem SameBody.trans (h : SameBody c c₀) (h' : SameBody c₀ c') : SameBody c c' := by
  refine ⟨h.mode.trans h'.mode, fun hmode => ?_⟩
  obtain ⟨hlength, hremaining, hchunked⟩ := h.body hmode
  obtain ⟨hlength', hremaining', hchunked'⟩ := h'.body (h.mode ▸ hmode)
  exact ⟨hlength.trans hlength', hremaining.trans hremaining', hchunked.trans hchunked'⟩

theorem SameBody.symm (h : SameBody c c₀) : SameBody c₀ c := by
  refine ⟨h.mode.symm, fun hmode => ?_⟩
  obtain ⟨hlength, hremaining, hchunked⟩ := h.body (h.mode ▸ hmode)
  exact ⟨hlength.symm, hremaining.symm, hchunked.symm⟩

theorem SameBody.beforeHead (h : SameBody c c₀) :
    c.beforeHead.bodyLength = c₀.beforeHead.bodyLength ∧
      c.beforeHead.remaining = c₀.beforeHead.remaining ∧
      c.beforeHead.chunked = c₀.beforeHead.chunked := by
  rw [Connection.beforeHead, Connection.beforeHead, ← h.mode]
  by_cases hmode : c.mode = .reading
  · rw [if_pos hmode, if_pos hmode]
    exact ⟨rfl, rfl, rfl⟩
  · rw [if_neg hmode, if_neg hmode]
    exact h.body hmode

/-- Complete heads with the same answers are judged in the same way, and tell the same of the body. -/
theorem SameBody.afterHead (h : SameBody c c₀) (t t₀ : τ) {p p₀ : HeadProgress}
    (hhead : p.head.Alike p₀.head) :
    let x := (c.beforeHead.withHead t p).afterHead
    let x₀ := (c₀.beforeHead.withHead t₀ p₀).afterHead
    x.1 = x₀.1 ∧ x.2.bodyLength = x₀.2.bodyLength ∧ x.2.remaining = x₀.2.remaining ∧
      x.2.chunked = x₀.2.chunked := by
  intro x x₀
  obtain ⟨hlength, hremaining, hchunked⟩ := h.beforeHead
  by_cases hmode : c.mode = .reading
  · -- When reading, the head tells all there is to know.
    have hmode₀ : c₀.mode = .reading := h.mode ▸ hmode
    have hx : x = _ := afterHead_withHead_of_reading hmode t p
    have hx₀ : x₀ = _ := afterHead_withHead_of_reading hmode₀ t₀ p₀
    have hframing := hhead.framing
    rw [hx, hx₀]
    dsimp only
    rw [hframing]
    exact ⟨hhead.verdict, rfl, rfl, rfl⟩
  · have hmode₀ : c₀.mode ≠ .reading := h.mode ▸ hmode
    have hx : x = _ :=
      afterHead_of_not_reading (c := c.beforeHead.withHead t p) (by simpa using hmode)
    have hx₀ : x₀ = _ :=
      afterHead_of_not_reading (c := c₀.beforeHead.withHead t₀ p₀) (by simpa using hmode₀)
    rw [hx, hx₀]
    dsimp only [withHead]
    rw [hhead.status]
    exact ⟨rfl, hlength, hremaining, hchunked⟩

end

theorem sameBody_readResponse (c : Connection τ) : SameBody c c.readResponse.state := by
  refine SameBody.symm ⟨readResponse_mode c, fun hmode => ?_⟩
  rw [readResponse_mode] at hmode
  exact readResponse_of_not_reading hmode

theorem BodySent.readResponse {c : Connection τ} (h : BodySent c) :
    BodySent c.readResponse.state := by
  have hnot : c.mode ≠ .reading := by
    rw [h.writing]
    decide
  obtain ⟨hlength, hremaining, hchunked⟩ := readResponse_of_not_reading hnot
  refine ⟨(readResponse_mode c).trans h.writing, ?_, hremaining.trans h.done⟩
  rw [framingError?, hlength, hchunked]
  exact h.framing

/-- However it is made, an attempt reads the response head. -/
theorem Attempt.make_eq {a : Attempt} {next : τ → Prop} {c : Connection τ} {t : τ}
    (ht : c.transport = some t) (hadmits : a.Admits next t)
    (hsent : a = .writeNothing → c.BodySent) :
    ∃ t', next t' ∧
      (a.make c).result = ({ c with transport := some t' } : Connection τ).readResponse.result ∧
      (a.make c).state = ({ c with transport := some t' } : Connection τ).readResponse.state := by
  cases a with
  | ask =>
    have hc : ({ c with transport := some t } : Connection τ) = c := by rw [← ht]
    refine ⟨t, hadmits, ?_, ?_⟩
    · rw [hc]
      rfl
    · rw [hc]
      rfl
  | writeNothing =>
    obtain ⟨t', hsend, hnext⟩ := hadmits
    have hbody := hsent rfl
    have hcases := Connection.write_cases hbody.writing hbody.framing ht []
    rw [Attempt.make]
    generalize c.write [] = o at hcases
    have hdone := hbody.done
    cases hcases with
    | refused hlong => exact absurd hlong (Nat.not_lt_zero _)
    | failed t₁ t₂ e hfits ht₁ hsend₁ =>
      obtain rfl := Option.some.inj (ht.symm.trans ht₁)
      cases hsend.symm.trans hsend₁
    | accepted t₁ t₂ count hfits ht₁ hsend₁ hle hlt =>
      -- No byte is due, so there is none to be left over.
      omega
    | completed t₁ t₂ count hfits ht₁ hsend₁ hle hall =>
      -- The empty send is accepted, and the response head is read after it.
      obtain rfl := Option.some.inj (ht.symm.trans ht₁)
      cases hsend.symm.trans hsend₁
      refine ⟨t', hnext, ?_, rfl⟩
      have hafter : c.afterSend t' 0 = { c with transport := some t' } := rfl
      rw [hafter]
      dsimp only [Outcome.map, Outcome.after]
      cases ({ c with transport := some t' } : Connection τ).readResponse.result <;> rfl

/-! ## Failures one after another -/

omit [Transport τ] in
theorem headEnd?_eq_none_of_append {s s' : Bytes} (h : headEnd? (s ++ s') = none) :
    headEnd? s = none := by
  rw [headEnd?_eq_none] at h ⊢
  rw [lines_append, List.mem_append] at h
  exact fun hmem => h (.inl hmem)

/-- Reading on to a failure of the stream ends with that failure, after all bytes before it. -/
theorem Awaits.interrupted {read bytes : Bytes} {e : Error} {next : τ → Prop} {c : Connection τ}
    {t : τ} (h : Awaits read c) (ht : c.transport = some t)
    (hpeer : Delivers (Fails e next) t bytes) (hopen : headEnd? (read ++ bytes) = none)
    (hlen : (read ++ bytes).length ≤ maxHeadLength) :
    ∃ t', next t' ∧ c.readResponse.result = .error e ∧
      c.readResponse.state.transport = some t' ∧ Awaits (read ++ bytes) c.readResponse.state := by
  have hreceives := receiveHeadFrom_delivers_since hpeer read [] h.unended h.within
    (Nat.le_refl (lines read).length) h.drained
  rw [← h.progress_eq] at hreceives
  generalize hloop : receiveHeadFrom [] t ⟨c.buffer, c.reader, .empty⟩ = loop at hreceives
  -- These bytes neither end the head nor make it too large, so the loop gets past all of them.
  cases hreceives with
  | complete p t' reader buffer calls left hend hle hleft hunread =>
    rw [hopen] at hend
    cases hend
  | overflow t' reader buffer calls hover _ => exact absurd hover (Nat.not_lt.mpr hlen)
  | starved t' buffer made _ _ hfails hdrained =>
    -- The next receive is the one that fails.
    obtain ⟨t'', hrecv, hnext⟩ := hfails buffer.capacity buffer.capacity_pos
    have hend : receiveHeadFrom made t' (.after (lines read).length buffer (read ++ bytes)) = _ :=
      receiveHeadFrom_of_error hdrained hrecv
    rw [readResponse_of_broken h.unheard ht (hloop.trans hend)]
    exact ⟨t'', hnext, rfl, rfl, Awaits.withHead h.unheard hopen hlen t'' _ rfl⟩

/-- The attempts that fail leave the connection with all bytes that came before the last failure; the
one after them reads on from there. -/
theorem Awaits.attempts {read last : Bytes} {c : Connection τ} {t : τ} (h : Awaits read c)
    (ht : c.transport = some t) (a : Attempt) (is : List Interruption)
    (hpeer : a.Admits (Breaks last is) t) (hopen : headEnd? (read ++ allBytes is) = none)
    (hlen : (read ++ allBytes is).length ≤ maxHeadLength)
    (hsent : .writeNothing ∈ a :: is.map (·.attempt) → BodySent c) :
    let os := Outcome.series (fun c a => a.make c) c (a :: is.map (·.attempt))
    ∃ c' t', Awaits (read ++ allBytes is) c' ∧ c'.transport = some t' ∧ Delivers Ended t' last ∧
      SameBody c c' ∧
      os.map (·.result) = is.map (.error ·.error) ++ [c'.readResponse.result] ∧
      Outcome.last c os = c'.readResponse.state := by
  -- On the interruptions: each attempt but the last ends with the failure of one of them.
  induction is generalizing read c t a with
  | nil =>
    intro os
    obtain ⟨t', hpeer', hresult, hstate⟩ := Attempt.make_eq ht hpeer fun ha => hsent (by simp [ha])
    rw [show read ++ allBytes [] = read from List.append_nil read]
    exact ⟨{ c with transport := some t' }, t', h.congr rfl rfl rfl, rfl, hpeer',
      ⟨rfl, fun _ => ⟨rfl, rfl, rfl⟩⟩, congrArg ([·]) hresult, hstate⟩
  | cons i rest ih =>
    intro os
    obtain ⟨t', hpeer', hresult, hstate⟩ := Attempt.make_eq ht hpeer fun ha => hsent (by simp [ha])
    rw [append_allBytes_cons] at hopen hlen ⊢
    -- This attempt gets as far as the first of the failures.
    have h' : Awaits read ({ c with transport := some t' } : Connection τ) := h.congr rfl rfl rfl
    have hlen' : (read ++ i.bytes).length ≤ maxHeadLength := by
      rw [List.length_append] at hlen
      omega
    obtain ⟨t'', hnext, herror, ht'', hawaits⟩ :=
      h'.interrupted rfl hpeer' (headEnd?_eq_none_of_append hopen) hlen'
    rw [← hstate] at ht'' hawaits
    have hsame : SameBody c (a.make c).state := by
      have hread := sameBody_readResponse ({ c with transport := some t' } : Connection τ)
      rw [← hstate] at hread
      exact ⟨hread.mode, hread.body⟩
    have hsent' : .writeNothing ∈ i.attempt :: rest.map (·.attempt) → BodySent (a.make c).state := by
      intro hmem
      have hbody := hsent (List.mem_cons_of_mem _ hmem)
      rw [hstate]
      exact BodySent.readResponse ⟨hbody.writing, hbody.framing, hbody.done⟩
    -- The others start from what it has left.
    obtain ⟨c', t₁, hawaits', ht', hlast, hsame', hresults, hfinal⟩ :=
      ih hawaits ht'' i.attempt hnext hopen hlen hsent'
    refine ⟨c', t₁, hawaits', ht', hlast, hsame.trans hsame', ?_, hfinal⟩
    rw [List.map_cons, List.cons_append, ← hresults, ← herror, ← hresult]
    rfl

/-! ## With and without the failures -/

/-- These bytes are still to be had from the connection, and then the stream ends. -/
def Leaves (c : Connection τ) (rest : Bytes) : Prop :=
  ∃ t left, c.transport = some t ∧ Delivers Ended t left ∧ c.buffer.unread ++ left = rest

/-- What a complete head comes to. What it says of a body matters only when reading. -/
def judgement (c : Connection τ) : Except Error Unit :=
  if c.mode = .reading then c.response.verdict else c.response.status.bind Status.result

/-- What the last of several attempts comes to, `o`, beside what one attempt would have come to, `o₀`,
when the peer sends `all` and `lost` lines of it had ended before the last failure. -/
structure Resumes (lost : Nat) (all : Bytes) (o o₀ : Outcome Error (Connection τ) Unit) : Prop where
  /-- The head is complete in both cases or in neither. -/
  received : o.state.responseReceived = o₀.state.responseReceived
  /-- If it is, it ends at the same place, but lacks the lines that had ended, and is judged so. -/
  complete : o₀.state.responseReceived = true →
    o₀.state.response = .ofLines (headLines all) ∧
    o.state.response = .ofLines ((headLines all).drop lost) ∧
    o.result = o.state.judgement ∧
    ∃ rest, Leaves o.state rest ∧ Leaves o₀.state rest
  /-- If not, it fails in the same way, with nothing known of the body that was not known before. -/
  incomplete : o₀.state.responseReceived = false →
    o.result = o₀.result ∧
    o₀.state.response = .ofLines (lines (all.take maxHeadLength)) ∧
    o.state.response = .ofLines ((lines (all.take maxHeadLength)).drop lost) ∧
    o.state.bodyLength = o₀.state.bodyLength ∧ o.state.remaining = o₀.state.remaining ∧
    o.state.chunked = o₀.state.chunked
  /-- If no line had ended, all is the same. -/
  unlost : lost = 0 →
    o.result = o₀.result ∧ o.state.response = o₀.state.response ∧
    o.state.bodyLength = o₀.state.bodyLength ∧ o.state.remaining = o₀.state.remaining ∧
    o.state.chunked = o₀.state.chunked

section

variable {c c₀ : Connection τ} {lost : Nat} {all : Bytes}
  {o o₀ : Outcome Error (Connection τ) Unit}

omit [Transport τ] in
theorem afterHead_response (c : Connection τ) : c.afterHead.2.response = c.response := by
  obtain ⟨_, _, _, hframe⟩ := afterHead_frame c
  rw [hframe]

theorem leaves_afterHead {t : τ} {p : HeadProgress} {left : Bytes} (hleft : Delivers Ended t left) :
    Leaves (c.withHead t p).afterHead.2 (p.buffer.unread ++ left) := by
  obtain ⟨_, _, _, hframe⟩ := afterHead_frame (c.withHead t p)
  rw [hframe]
  exact ⟨t, left, rfl, hleft, rfl⟩

omit [Transport τ] in
theorem afterHead_judgement (c : Connection τ) (t : τ) (p : HeadProgress) :
    (c.beforeHead.withHead t p).afterHead.1 = (c.beforeHead.withHead t p).afterHead.2.judgement := by
  rw [judgement, afterHead_mode, afterHead_response]
  by_cases hmode : c.mode = .reading
  · rw [if_pos (by simpa using hmode), afterHead_withHead_of_reading hmode]
    rfl
  · rw [if_neg (by simpa using hmode), afterHead_of_not_reading (by simpa using hmode)]

theorem resumes_of_complete (hsame : SameBody c c₀) {t t₀ : τ} {p p₀ : HeadProgress}
    {calls calls₀ : List Call} {left left₀ : Bytes} (hleft : Delivers Ended t left)
    (hleft₀ : Delivers Ended t₀ left₀)
    (hrest : p.buffer.unread ++ left = p₀.buffer.unread ++ left₀)
    (hhead : p.head = .ofLines ((headLines all).drop lost))
    (hhead₀ : p₀.head = .ofLines (headLines all)) :
    Resumes lost all
      ⟨(c.beforeHead.withHead t p).afterHead.1, (c.beforeHead.withHead t p).afterHead.2, calls⟩
      ⟨(c₀.beforeHead.withHead t₀ p₀).afterHead.1, (c₀.beforeHead.withHead t₀ p₀).afterHead.2,
        calls₀⟩ := by
  have hresponse := afterHead_response (c.beforeHead.withHead t p)
  have hresponse₀ := afterHead_response (c₀.beforeHead.withHead t₀ p₀)
  refine ⟨?_, fun _ => ⟨hresponse₀.trans hhead₀, hresponse.trans hhead, afterHead_judgement c t p,
    _, hrest ▸ leaves_afterHead hleft, leaves_afterHead hleft₀⟩, fun hunheard => ?_,
    fun hlost => ?_⟩
  · rw [afterHead_responseReceived, afterHead_responseReceived]
  · rw [afterHead_responseReceived] at hunheard
    cases hunheard
  · have hheads : p.head = p₀.head := by rw [hhead, hhead₀, hlost, List.drop_zero]
    have halike : p.head.Alike p₀.head := hheads ▸ .refl _
    obtain ⟨hresult, hbody⟩ := hsame.afterHead t t₀ halike
    exact ⟨hresult, (hresponse.trans hheads).trans hresponse₀.symm, hbody⟩

/-- Two heads that cannot be read to their end, for the same reason. -/
theorem resumes_of_broken (hsame : SameBody c c₀) (hunheard : c.responseReceived = false)
    (hunheard₀ : c₀.responseReceived = false) {t t₀ : τ} {p p₀ : HeadProgress} {e : Error}
    {calls calls₀ : List Call}
    (hhead : p.head = .ofLines ((lines (all.take maxHeadLength)).drop lost))
    (hhead₀ : p₀.head = .ofLines (lines (all.take maxHeadLength))) :
    Resumes lost all ⟨.error e, c.beforeHead.withHead t p, calls⟩
      ⟨.error e, c₀.beforeHead.withHead t₀ p₀, calls₀⟩ := by
  have hreceived : (c.beforeHead.withHead t p).responseReceived = false :=
    (beforeHead_responseReceived c).trans hunheard
  have hreceived₀ : (c₀.beforeHead.withHead t₀ p₀).responseReceived = false :=
    (beforeHead_responseReceived c₀).trans hunheard₀
  refine ⟨hreceived.trans hreceived₀.symm, fun hheard => ?_, fun _ => ?_, fun hlost => ?_⟩
  · have hheard : (c₀.beforeHead.withHead t₀ p₀).responseReceived = true := hheard
    rw [hreceived₀] at hheard
    cases hheard
  · exact ⟨rfl, hhead₀, hhead, hsame.beforeHead⟩
  · refine ⟨rfl, ?_, hsame.beforeHead⟩
    show p.head = p₀.head
    rw [hhead, hhead₀, hlost, List.drop_zero]

/-- A head that ends in time is judged without the lines that are lacking. -/
theorem HearsSince.judged (h : HearsSince lost c all o) {p : Nat}
    (hend : headEnd? all = some p) (hle : p ≤ maxHeadLength) :
    o.state.response = .ofLines ((headLines all).drop lost) ∧ o.result = o.state.judgement := by
  cases h with
  | complete _ t progress calls left _ _ hleft hunread hhead =>
    have hresponse := afterHead_response (c.beforeHead.withHead t progress)
    exact ⟨hresponse.trans hhead, afterHead_judgement c t progress⟩
  | overflow t progress calls _ hopen => exact absurd (nil_mem_lines_take hend hle) hopen
  | starved t progress calls hnone =>
    rw [hend] at hnone
    cases hnone

/-- Reading on gives what reading from the first byte does, but for the lines that are lacking. -/
theorem HearsSince.resumes (h : HearsSince lost c all o) (h₀ : HearsSince 0 c₀ all o₀)
    (hsame : SameBody c c₀) (hunheard : c.responseReceived = false)
    (hunheard₀ : c₀.responseReceived = false) : Resumes lost all o o₀ := by
  -- Where the head ends, if it does, is told by `all` alone, so both come to the same case.
  cases h with
  | complete p t progress calls left hend hle hleft hunread hhead =>
    cases h₀ with
    | complete p₀ t₀ progress₀ calls₀ left₀ hend₀ _ hleft₀ hunread₀ hhead₀ =>
      obtain rfl : p = p₀ := Option.some.inj (hend.symm.trans hend₀)
      exact resumes_of_complete hsame hleft hleft₀ (hunread.trans hunread₀.symm) hhead hhead₀
    | overflow t₀ progress₀ calls₀ _ hopen => exact absurd (nil_mem_lines_take hend hle) hopen
    | starved t₀ progress₀ calls₀ hnone =>
      rw [hend] at hnone
      cases hnone
  | overflow t progress calls hover hopen hhead =>
    cases h₀ with
    | complete p₀ t₀ progress₀ calls₀ left₀ hend₀ hle₀ =>
      exact absurd (nil_mem_lines_take hend₀ hle₀) hopen
    | overflow t₀ progress₀ calls₀ _ _ hhead₀ =>
      exact resumes_of_broken hsame hunheard hunheard₀ hhead hhead₀
    | starved t₀ progress₀ calls₀ _ hle => exact absurd hover (Nat.not_lt.mpr hle)
  | starved t progress calls hnone hle hhead =>
    cases h₀ with
    | complete p₀ t₀ progress₀ calls₀ left₀ hend₀ =>
      rw [hnone] at hend₀
      cases hend₀
    | overflow t₀ progress₀ calls₀ hover => exact absurd hover (Nat.not_lt.mpr hle)
    | starved t₀ progress₀ calls₀ _ _ hhead₀ =>
      rw [← List.take_of_length_le hle] at hhead hhead₀
      exact resumes_of_broken hsame hunheard hunheard₀ hhead hhead₀

end

/-- Reading a response head over a stream that fails any number of times before the head ends, with
an attempt after each failure. Each failure is told by one attempt, and the last attempt reads the
head to where it ends without the failures, and leaves the same bytes. But the lines that had ended
by the last failure are lost; only when none had, all is as without the failures. -/
theorem resumed_head {c : Connection τ} {t t₀ : τ} (a : Attempt) (is : List Interruption)
    {last : Bytes} (hunheard : c.responseReceived = false) (hdrained : c.buffer.unread = [])
    (hreader : c.reader = .new) (ht : c.transport = some t)
    (hpeer : a.Admits (Breaks last is) t) (hwhole : Delivers Ended t₀ (allBytes is ++ last))
    (hopen : headEnd? (allBytes is) = none) (hlen : (allBytes is).length ≤ maxHeadLength)
    (hsent : .writeNothing ∈ a :: is.map (·.attempt) → BodySent c) :
    let os := Outcome.series (fun c a => a.make c) c (a :: is.map (·.attempt))
    ∃ final, os.map (·.result) = is.map (.error ·.error) ++ [final.result] ∧
      Outcome.last c os = final.state ∧
      Resumes (lines (allBytes is)).length (allBytes is ++ last) final
        ({ c with transport := some t₀ } : Connection τ).readResponse := by
  intro os
  have hstart : Awaits [] c := .start hunheard hdrained hreader
  obtain ⟨c', t', hawaits, ht', hlast, hsame, hresults, hfinal⟩ :=
    hstart.attempts ht a is hpeer hopen hlen hsent
  -- The last attempt reads on with all bytes before it received, the other from the first byte.
  have hhears := hawaits.hearsSince ht' hlast
  have hhears₀ := Awaits.hearsSince (c := { c with transport := some t₀ })
    (.start hunheard hdrained hreader) rfl hwhole
  have hsame₀ : SameBody c' { c with transport := some t₀ } := ⟨hsame.symm.mode, hsame.symm.body⟩
  exact ⟨c'.readResponse, hresults, hfinal,
    hhears.resumes hhears₀ hsame₀ hawaits.unheard hunheard⟩

/-! ### A response with one failure in it -/

/-- `HTTP/1.1 200 O`, `Content-Length: 3`, and the body `abc`. -/
def shortResponse : Bytes :=
  [72, 84, 84, 80, 47, 49, 46, 49, 32, 50, 48, 48, 32, 79, 13, 10,
    67, 111, 110, 116, 101, 110, 116, 45, 76, 101, 110, 103, 116, 104, 58, 32, 51, 13, 10, 13, 10,
    97, 98, 99]

/-- A stream on which that response stops after some bytes until a receive has timed out. -/
def stopsAfter (n : Nat) : Script :=
  { receipts := [.data (shortResponse.take n), .fail .timeout, .data (shortResponse.drop n)] }

/-- A connection that has asked for an object over a stream. -/
def asked (s : Script) : Connection Script := (new 0).begin s .reading 0

theorem stopsAfter_breaks {n : Nat} (hpos : 0 < n) (hlt : n < shortResponse.length) :
    Breaks (shortResponse.drop n) [⟨shortResponse.take n, .timeout, .ask⟩] (stopsAfter n) := by
  have htake : [] ∉ [shortResponse.take n] := by
    rw [List.mem_singleton, List.nil_eq, List.take_eq_nil_iff]
    rintro (rfl | hnil)
    · exact Nat.lt_irrefl 0 hpos
    · cases hnil
  have hdrop : [] ∉ [shortResponse.drop n] := by
    rw [List.mem_singleton, List.nil_eq, List.drop_eq_nil_iff]
    exact Nat.not_le.mpr hlt
  have hlast : Delivers Ended ({ receipts := [.data (shortResponse.drop n)] } : Script)
      (shortResponse.drop n) := by
    have h := Script.delivers [shortResponse.drop n] hdrop
      (s := { receipts := [.data (shortResponse.drop n)] }) rfl
    rwa [List.flatten_singleton] at h
  have hfails : Fails .timeout (Delivers Ended · (shortResponse.drop n))
      ({ receipts := [.fail .timeout, .data (shortResponse.drop n)] } : Script) :=
    fun room _ => ⟨_, rfl, hlast⟩
  have hfirst := Script.delivers_then [shortResponse.take n] htake (s := stopsAfter n) rfl hfails
  rwa [List.flatten_singleton] at hfirst

theorem shortResponse_delivered : Delivers Ended
    ({ receipts := [.data shortResponse] } : Script) shortResponse := by
  have h := Script.delivers [shortResponse] (by decide) (s := { receipts := [.data shortResponse] }) rfl
  rwa [List.flatten_singleton] at h

theorem resumed_head_within_status_line :
    let first := (asked (stopsAfter 14)).readResponse
    first.result = .error .timeout ∧
      first.state.readResponse.state.response =
        (asked { receipts := [.data shortResponse] }).readResponse.state.response := by
  obtain ⟨final, hresults, hfinal, hresumes⟩ :=
    resumed_head (c := asked (stopsAfter 14)) .ask [⟨shortResponse.take 14, .timeout, .ask⟩] rfl rfl
      rfl rfl (stopsAfter_breaks (by decide) (by decide)) shortResponse_delivered
      (by decide) (by decide) fun hmem => absurd hmem (by decide)
  obtain ⟨hfirst, -⟩ := List.cons.inj hresults
  obtain ⟨-, hresponse, -⟩ := hresumes.unlost (by decide)
  exact ⟨hfirst, (congrArg Connection.response hfinal).trans hresponse⟩

/-- A failure after the status line makes the field after it stand for the status line, so that a
response that is fine is refused. -/
theorem resumed_after_status_line :
    let first := (asked (stopsAfter 16)).readResponse
    let again := first.state.readResponse
    let whole := (asked { receipts := [.data shortResponse] }).readResponse
    first.result = .error .timeout ∧
      again.result = .error (.unsupported "response is not HTTP/1.1") ∧
      again.state.response.statusLine = "Content-Length: 3" ∧
      whole.result = .ok () ∧ whole.state.response.statusLine = "HTTP/1.1 200 O" := by
  intro first again whole
  -- 16 bytes are the status line with its end, so one line is lost of the head, which ends at 37.
  obtain ⟨c', t', hawaits, ht', hlast, hsame, hresults, hfinal⟩ :=
    Awaits.attempts (c := asked (stopsAfter 16)) (.start rfl rfl rfl) rfl .ask
      [⟨shortResponse.take 16, .timeout, .ask⟩] (stopsAfter_breaks (by decide) (by decide))
      (by decide) (by decide) fun hmem => absurd hmem (by decide)
  have hagain : again.result = c'.readResponse.result ∧ again.state = c'.readResponse.state :=
    ⟨(List.cons.inj (List.cons.inj hresults).2).1, hfinal⟩
  have hmode : c'.readResponse.state.mode = .reading :=
    (readResponse_mode c').trans hsame.mode.symm
  have hmode₀ : whole.state.mode = .reading := readResponse_mode _
  obtain ⟨hresponse, hresult⟩ :=
    (hawaits.hearsSince ht' hlast).judged (p := 37) (by decide) (by decide)
  obtain ⟨hresponse₀, hresult₀⟩ :=
    (Awaits.hearsSince (c := asked { receipts := [.data shortResponse] })
      (.start rfl rfl rfl) rfl shortResponse_delivered).judged (p := 37) (by decide) (by decide)
  refine ⟨(List.cons.inj hresults).1, ?_, ?_, ?_, ?_⟩
  · rw [hagain.1, hresult, judgement, if_pos hmode, hresponse]
    rfl
  · rw [hagain.2, hresponse]
    decide
  · rw [hresult₀, judgement, if_pos hmode₀, hresponse₀]
    rfl
  · rw [hresponse₀]
    decide

end Connection
end ObjectStream
