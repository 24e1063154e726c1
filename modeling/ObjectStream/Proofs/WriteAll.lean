/-
  ObjectStream.Proofs.WriteAll

  Writing all of some bytes through the byte stream of the system. The loop of the
  system is an execution relation (`Transfer.WritesAll`), which has the repetition
  of interrupted writes that the function leaves out: no failure here asks for it.

  Over an upload the loop comes to one sending of the bytes that are due, as the
  request head is sent, with the response behind the last of them
  (`WritesBody.writeAll_eq`). What is on the wire, and how the loop ends, follows
  from what is known of sending.
-/

import ObjectStream.Proofs.Upload
import ObjectStream.Transfer

namespace ObjectStream

/-- The kind of the faults after which the system writes again. -/
def FaultKind.interrupted : FaultKind := .unclassified "Interrupted"

/-- No cause stands for an interruption. -/
theorem Fault.kind_ofError_ne_interrupted (e : Error) : (ofError e).kind ≠ .interrupted := by
  cases e <;> simp [ofError, kindOf, FaultKind.interrupted, FaultKind.other]

/-- The fault that a send makes of a loop: its failure, or that no byte was accepted. -/
def Call.sendFault? : Call → Option Fault
  | .send _ (.error e) => some (.ofError e)
  | .send _ (.ok 0) => some .nothingWritten
  | _ => none

theorem Call.sendFault?_of_isReceive {call : Call} (h : call.isReceive = true) :
    call.sendFault? = none := by
  cases call with
  | receive => rfl
  | connect | send | disconnect => cases h

/-- A send that makes no fault makes no failure of sending. -/
theorem Call.sendFailure?_eq_none_iff {call : Call} :
    call.sendFailure? = none ↔ call.sendFault? = none := by
  cases call with
  | send offered answer =>
    match answer with
    | .error e => exact ⟨nofun, nofun⟩
    | .ok 0 => exact ⟨nofun, nofun⟩
    | .ok (n + 1) => exact ⟨fun _ => rfl, fun _ => rfl⟩
  | connect | receive | disconnect => exact ⟨fun _ => rfl, fun _ => rfl⟩

theorem Call.accepted_of_isReceive {call : Call} (h : call.isReceive = true) :
    call.accepted = [] := by
  cases call with
  | receive => rfl
  | connect | send | disconnect => cases h

variable {τ : Type} [Transport τ]

/-- Sending succeeds when no send makes a fault. -/
theorem sendAll_result_of_no_fault (t : τ) (bytes : Bytes)
    (hfault : (sendAll t bytes).calls.findSome? Call.sendFault? = none) :
    (sendAll t bytes).result = .ok () := by
  have hfailure : (sendAll t bytes).calls.findSome? Call.sendFailure? = none := by
    rw [List.findSome?_eq_none_iff] at hfault ⊢
    intro call hcall
    exact Call.sendFailure?_eq_none_iff.mpr (hfault call hcall)
  rw [(sendsAll_sendAll t bytes).result_eq, hfailure]

namespace Transfer

/-! ## The loop of the system -/

/-- Writing all of some bytes comes to this outcome. -/
inductive WritesAll : Connection τ → Bytes → Outcome Fault (Connection τ) Unit → Prop where
  /-- No byte is left. -/
  | done (c : Connection τ) : WritesAll c [] (.ok c ())
  /-- The write fails. -/
  | failed (c c' : Connection τ) (bytes : Bytes) (fault : Fault) (calls : List Call) :
      bytes ≠ [] → write c bytes = ⟨.error fault, c', calls⟩ → fault.kind ≠ .interrupted →
      WritesAll c bytes ⟨.error fault, c', calls⟩
  /-- It is interrupted, and the same bytes are written again. -/
  | repeated (c c' : Connection τ) (bytes : Bytes) (fault : Fault) (calls : List Call)
      (o : Outcome Fault (Connection τ) Unit) :
      bytes ≠ [] → write c bytes = ⟨.error fault, c', calls⟩ → fault.kind = .interrupted →
      WritesAll c' bytes o → WritesAll c bytes (o.after calls)
  /-- It takes no byte. -/
  | nothing (c c' : Connection τ) (bytes : Bytes) (calls : List Call) :
      bytes ≠ [] → write c bytes = ⟨.ok 0, c', calls⟩ →
      WritesAll c bytes ⟨.error .nothingWritten, c', calls⟩
  /-- It takes some bytes, and the others are written. -/
  | more (c c' : Connection τ) (bytes : Bytes) (n : Nat) (calls : List Call)
      (o : Outcome Fault (Connection τ) Unit) :
      bytes ≠ [] → write c bytes = ⟨.ok (n + 1), c', calls⟩ →
      WritesAll c' (bytes.drop (n + 1)) o → WritesAll c bytes (o.after calls)

/-- A write fails with a cause of its own, never with an interruption. -/
theorem write_ne_interrupted {c c' : Connection τ} {bytes : Bytes} {fault : Fault}
    {calls : List Call} (h : write c bytes = ⟨.error fault, c', calls⟩) :
    fault.kind ≠ .interrupted := by
  rw [write] at h
  split at h
  · cases h
  · rcases hwrite : c.write (bytes.take (min bytes.length c.remaining)) with ⟨result, c₁, calls₁⟩
    rw [hwrite] at h
    cases result with
    | ok n => cases h
    | error e =>
      cases h
      exact Fault.kind_ofError_ne_interrupted e

/-- The calls of the writing loop stand behind those that were made before. -/
theorem writeAllFrom_append (made earlier : List Call) (c : Connection τ) (bytes : Bytes) :
    writeAllFrom (made ++ earlier) c bytes = (writeAllFrom made c bytes).after earlier.reverse := by
  have hbehind (calls made : List Call) :
      List.reverseAux calls (made ++ earlier) = List.reverseAux calls made ++ earlier := by
    rw [List.reverseAux_eq, List.reverseAux_eq, List.append_assoc]
  fun_induction writeAllFrom made c bytes with
  | case1 made c =>
    rw [writeAllFrom, if_pos rfl, List.reverse_append]
    rfl
  | case2 made c bytes hne written calls fault hwritten =>
    rw [writeAllFrom, if_neg hne]
    dsimp only
    rw [hwritten]
    dsimp only
    rw [hbehind, List.reverse_append]
    rfl
  | case3 made c bytes hne written calls hwritten =>
    rw [writeAllFrom, if_neg hne]
    dsimp only
    rw [hwritten]
    dsimp only
    rw [hbehind, List.reverse_append]
    rfl
  | case4 made c bytes hne written calls n hwritten ih =>
    rw [writeAllFrom, if_neg hne]
    dsimp only
    rw [hwritten]
    dsimp only
    rw [hbehind]
    exact ih

theorem writeAll_nil (c : Connection τ) : writeAll c [] = .ok c () := by
  rw [writeAll, writeAllFrom, if_pos rfl]
  rfl

section

variable {c c' : Connection τ} {bytes : Bytes} {calls : List Call}

theorem writeAll_of_error {fault : Fault} (hne : bytes ≠ [])
    (hwrite : write c bytes = ⟨.error fault, c', calls⟩) :
    writeAll c bytes = ⟨.error fault, c', calls⟩ := by
  rw [writeAll, writeAllFrom, if_neg hne, hwrite]
  dsimp only
  rw [reverse_reverseAux]
  rfl

theorem writeAll_of_nothing (hne : bytes ≠ []) (hwrite : write c bytes = ⟨.ok 0, c', calls⟩) :
    writeAll c bytes = ⟨.error .nothingWritten, c', calls⟩ := by
  rw [writeAll, writeAllFrom, if_neg hne, hwrite]
  dsimp only
  rw [reverse_reverseAux]
  rfl

theorem writeAll_of_some {n : Nat} (hne : bytes ≠ [])
    (hwrite : write c bytes = ⟨.ok (n + 1), c', calls⟩) :
    writeAll c bytes = (writeAll c' (bytes.drop (n + 1))).after calls := by
  have happend := writeAllFrom_append [] (List.reverseAux calls []) c' (bytes.drop (n + 1))
  rw [reverse_reverseAux] at happend
  rw [writeAll, writeAllFrom, if_neg hne, hwrite]
  exact happend

end

/-- The loop has one outcome, which the function gives. -/
theorem writesAll_iff {c : Connection τ} {bytes : Bytes} {o : Outcome Fault (Connection τ) Unit} :
    WritesAll c bytes o ↔ o = writeAll c bytes := by
  constructor
  · intro h
    induction h with
    | done c => exact (writeAll_nil c).symm
    | failed c c' bytes fault calls hne hwrite hkind => exact (writeAll_of_error hne hwrite).symm
    | repeated c c' bytes fault calls o hne hwrite hinterrupted =>
      exact absurd hinterrupted (write_ne_interrupted hwrite)
    | nothing c c' bytes calls hne hwrite => exact (writeAll_of_nothing hne hwrite).symm
    | more c c' bytes n calls o hne hwrite hloop ih => rw [ih, writeAll_of_some hne hwrite]
  · rintro rfl
    -- On the bytes that are left, of which each write that goes on takes some.
    induction hlength : bytes.length using Nat.strong_induction_on generalizing c bytes with
    | _ length ih =>
      by_cases hnil : bytes = []
      · rw [hnil, writeAll_nil]
        exact .done c
      · rcases hwrite : write c bytes with ⟨result, c', calls⟩
        match result with
        | .error fault =>
          rw [writeAll_of_error hnil hwrite]
          exact .failed c c' bytes fault calls hnil hwrite (write_ne_interrupted hwrite)
        | .ok 0 =>
          rw [writeAll_of_nothing hnil hwrite]
          exact .nothing c c' bytes calls hnil hwrite
        | .ok (n + 1) =>
          have hpos : 0 < bytes.length := List.length_pos_iff.mpr hnil
          have hless : (bytes.drop (n + 1)).length < length := by
            rw [List.length_drop]
            omega
          rw [writeAll_of_some hnil hwrite]
          exact .more c c' bytes n calls _ hnil hwrite (ih _ hless rfl)

/-- A write offers the bytes that are due, if any are. -/
theorem write_of_due {c : Connection τ} (hdue : 0 < c.remaining) {bytes : Bytes}
    (hne : bytes ≠ []) :
    write c bytes = (c.write (bytes.take c.remaining)).mapError Fault.ofError := by
  have hpos : 0 < bytes.length := List.length_pos_iff.mpr hne
  have hlength : min bytes.length c.remaining ≠ 0 := by omega
  rw [write, if_neg fun h => hlength h.1, Nat.min_comm, ← List.take_eq_take_min]

/-- Once nothing is due, a write takes nothing. -/
theorem write_of_not_due {c : Connection τ} (hdone : c.remaining = 0) {bytes : Bytes}
    (hne : bytes ≠ []) : write c bytes = .ok c 0 := by
  rw [write, if_pos ⟨by rw [hdone, Nat.min_zero], hne⟩]

end Transfer

namespace Connection

/-! ## The loop over an upload -/

/-- How the loop ends once the bytes that are due are out, with some bytes left over: at once if
more are due, and otherwise with the response, after which no byte is taken. -/
def finishWith (c : Connection τ) (rest : Bytes) : Outcome Fault (Connection τ) Unit :=
  if c.remaining ≠ 0 then .ok c ()
  else
    (c.readResponse.mapError Fault.ofError).andThen fun c _ =>
      if rest = [] then .ok c () else .fail c .nothingWritten

omit [Transport τ] in
theorem afterSend_afterSend (c : Connection τ) (t t' : τ) (n m : Nat) :
    (c.afterSend t n).afterSend t' m = c.afterSend t' (n + m) := by
  simp only [afterSend, advance, Nat.sub_sub]

variable {size : Nat} {c : Connection τ}

/-- What the loop comes to after sending, with some bytes left over: the fault of a send if there
was one, and otherwise its end. -/
def afterSending (c : Connection τ) (sent : Outcome Error τ Unit) (rest : Bytes) :
    Outcome Fault (Connection τ) Unit :=
  let c' := c.afterSend sent.state (sent.calls.flatMap Call.accepted).length
  match sent.calls.findSome? Call.sendFault? with
  | some fault => ⟨.error fault, c', sent.calls⟩
  | none => (c'.finishWith rest).after sent.calls

/-- A send that takes some bytes, and all that comes after it. -/
theorem afterSending_after (c : Connection τ) (t : τ) {offered : Bytes} {n : Nat}
    (hle : n + 1 ≤ offered.length) (sent : Outcome Error τ Unit) (rest : Bytes) :
    c.afterSending (sent.after [.send offered (.ok (n + 1))]) rest =
      ((c.afterSend t (n + 1)).afterSending sent rest).after [.send offered (.ok (n + 1))] := by
  have hcount : ((Call.send offered (.ok (n + 1)) :: sent.calls).flatMap Call.accepted).length =
      n + 1 + (sent.calls.flatMap Call.accepted).length := by
    rw [List.flatMap_cons, List.length_append, Call.accepted, List.length_take_of_le hle]
  have hfault : (Call.send offered (.ok (n + 1)) :: sent.calls).findSome? Call.sendFault? =
      sent.calls.findSome? Call.sendFault? := rfl
  unfold afterSending
  dsimp only [Outcome.after, List.singleton_append]
  rw [hcount, hfault, afterSend_afterSend]
  split <;> rfl

/-- Once nothing is due, the loop stops at the next write. -/
theorem writeAll_of_not_due (hdone : c.remaining = 0) (rest : Bytes) :
    Transfer.writeAll c rest = if rest = [] then .ok c () else .fail c .nothingWritten := by
  by_cases hnil : rest = []
  · rw [if_pos hnil, hnil, Transfer.writeAll_nil]
  · rw [if_neg hnil]
    exact Transfer.writeAll_of_nothing hnil (Transfer.write_of_not_due hdone hnil)

/-- After the write that completes the body, the loop ends. -/
theorem WritesBody.writeAll_of_complete (h : WritesBody size c) {bytes offered : Bytes}
    (hne : bytes ≠ []) {t : τ} {n : Nat} (hall : n + 1 = c.remaining)
    (hwrite : let heard := (c.afterSend t (n + 1)).readResponse
      Transfer.write c bytes =
        ⟨(heard.result.map fun _ => n + 1).mapError Fault.ofError, heard.state,
          .send offered (.ok (n + 1)) :: heard.calls⟩) :
    Transfer.writeAll c bytes =
      ((c.afterSend t (n + 1)).finishWith (bytes.drop (n + 1))).after
        [.send offered (.ok (n + 1))] := by
  have hdone : (c.afterSend t (n + 1)).remaining = 0 := by
    show c.remaining - (n + 1) = 0
    rw [← hall, Nat.sub_self]
  have hkept : (c.afterSend t (n + 1)).readResponse.state.remaining = 0 :=
    (h.readResponse_afterSend t (n + 1)).2.1.trans hdone
  rw [finishWith, if_neg (not_not_intro hdone)]
  dsimp only at hwrite
  rcases hheard : (c.afterSend t (n + 1)).readResponse with ⟨result, c', calls⟩
  rw [hheard] at hwrite hkept
  cases result with
  | error e => exact Transfer.writeAll_of_error hne hwrite
  | ok =>
    rw [Transfer.writeAll_of_some hne hwrite, writeAll_of_not_due hkept]
    by_cases hrest : bytes.drop (n + 1) = []
    · simp [Outcome.andThen, Outcome.mapError, Except.mapError, Outcome.after, hrest]
    · simp [Outcome.andThen, Outcome.mapError, Except.mapError, Outcome.after, hrest]

/-- A write that leaves some of the body due, and what the others come to. -/
theorem WritesBody.writeAll_of_more (h : WritesBody size c) {bytes offered : Bytes}
    (hne : bytes ≠ []) {t : τ} {n : Nat}
    (hwrite : c.write offered = ⟨.ok (n + 1), c.afterSend t (n + 1), [.send offered (.ok (n + 1))]⟩)
    (hoffered : Transfer.write c bytes = (c.write offered).mapError Fault.ofError) :
    WritesBody size (c.afterSend t (n + 1)) ∧
      Transfer.writeAll c bytes =
        (Transfer.writeAll (c.afterSend t (n + 1)) (bytes.drop (n + 1))).after
          [.send offered (.ok (n + 1))] := by
  have hstate := h.write offered
  rw [hwrite] at hstate hoffered
  exact ⟨hstate, Transfer.writeAll_of_some hne hoffered⟩

/-- Writing all of some bytes sends those that are due. -/
theorem WritesBody.writeAll_eq (h : WritesBody size c) (hdue : 0 < c.remaining) {t : τ}
    (ht : c.transport = some t) (bytes : Bytes) :
    Transfer.writeAll c bytes =
      c.afterSending (sendAll t (bytes.take c.remaining)) (bytes.drop c.remaining) := by
  -- On the bytes that are left; a write and a send take the same front off them.
  induction hlength : bytes.length using Nat.strong_induction_on generalizing c t bytes with
  | _ length ih =>
    by_cases hnil : bytes = []
    · have hsame : c.afterSend t 0 = c := by rw [afterSend, ← ht]; rfl
      have hfinish : c.finishWith [] = .ok c () := if_pos (Nat.ne_of_gt hdue)
      rw [hnil, List.take_nil, List.drop_nil, sendAll_nil, Transfer.writeAll_nil]
      show _ = ((c.afterSend t 0).finishWith []).after []
      rw [hsame, hfinish]
      rfl
    · have hoffered : bytes.take c.remaining ≠ [] := by
        rw [Ne, List.take_eq_nil_iff, not_or]
        exact ⟨Nat.ne_of_gt hdue, hnil⟩
      have hwrite := Transfer.write_of_due hdue hnil
      obtain ⟨t₁, t', answer, ht₁, hsend, hanswer⟩ :=
        h.write_eq (bytes.take c.remaining) (List.length_take_le _ _)
      obtain rfl : t = t₁ := Option.some.inj (ht.symm.trans ht₁)
      match answer with
      | .error e =>
        rw [hanswer] at hwrite
        rw [sendAll_of_error hoffered hsend, Transfer.writeAll_of_error hnil hwrite]
        rfl
      | .ok 0 =>
        rw [hanswer.2.1 hdue] at hwrite
        rw [sendAll_of_nothing hoffered hsend, Transfer.writeAll_of_nothing hnil hwrite]
        rfl
      | .ok (n + 1) =>
        obtain ⟨hle, hmore, hall⟩ := hanswer
        rw [sendAll_of_some hoffered hsend, afterSending_after c t' hle, List.drop_take]
        rcases Nat.lt_or_eq_of_le (hle.trans (List.length_take_le _ _)) with hlt | heq
        · -- More is due, and the others are written over the stream after the send.
          obtain ⟨hwritten, hloop⟩ := h.writeAll_of_more hnil (hmore hlt) hwrite
          have hless : (bytes.drop (n + 1)).length < length := by
            have hpos : 0 < bytes.length := List.length_pos_iff.mpr hnil
            rw [List.length_drop]
            omega
          have hremaining : (c.afterSend t' (n + 1)).remaining = c.remaining - (n + 1) := rfl
          have hdue' : 0 < (c.afterSend t' (n + 1)).remaining := Nat.sub_pos_of_lt hlt
          rw [hloop, ih _ hless hwritten hdue' rfl _ rfl, hremaining, List.drop_drop,
            Nat.add_sub_cancel' (Nat.le_of_lt hlt)]
        · -- The body is complete, and the response is read.
          have hwritten := hall heq
          dsimp only at hwritten
          rw [hwritten] at hwrite
          have hnone : (bytes.drop (n + 1)).take (c.remaining - (n + 1)) = [] := by
            rw [← heq, Nat.sub_self, List.take_zero]
          have hrest : bytes.drop c.remaining = bytes.drop (n + 1) := by rw [heq]
          rw [hnone, hrest, sendAll_nil, h.writeAll_of_complete hnil heq hwrite]
          rfl

/-! ## The calls of the loop -/

/-- Behind the sends there is only the reading of the response. -/
theorem isReceive_of_mem_finishWith (c : Connection τ) (rest : Bytes) :
    ∀ call ∈ (c.finishWith rest).calls, call.isReceive = true := by
  intro call hcall
  apply isReceive_of_mem_readResponse c
  rw [finishWith] at hcall
  split at hcall
  · cases hcall
  · rw [Outcome.andThen] at hcall
    split at hcall
    · -- Neither end of the loop makes a call.
      have hquiet (c' : Connection τ) : (if rest = [] then (.ok c' () : Outcome Fault _ Unit)
          else .fail c' .nothingWritten).calls = [] := by
        split <;> rfl
      rw [Outcome.after, hquiet, List.append_nil] at hcall
      exact hcall
    · exact hcall

theorem afterSending_calls (c : Connection τ) (sent : Outcome Error τ Unit) (rest : Bytes) :
    ∃ receives, (c.afterSending sent rest).calls = sent.calls ++ receives ∧
      ∀ call ∈ receives, call.isReceive = true := by
  unfold afterSending
  dsimp only
  split
  · exact ⟨[], (List.append_nil _).symm, nofun⟩
  · exact ⟨_, rfl, isReceive_of_mem_finishWith _ rest⟩

/-- The stream accepts bytes only from the sends. -/
theorem accepted_afterSending (c : Connection τ) (sent : Outcome Error τ Unit) (rest : Bytes) :
    (c.afterSending sent rest).calls.flatMap Call.accepted = sent.calls.flatMap Call.accepted := by
  obtain ⟨receives, hcalls, hreceives⟩ := afterSending_calls c sent rest
  have hnothing : receives.flatMap Call.accepted = [] := by
    rw [List.flatMap_eq_nil_iff]
    intro call hcall
    exact Call.accepted_of_isReceive (hreceives call hcall)
  rw [hcalls, List.flatMap_append, hnothing, List.append_nil]

/-- Only sends make a fault of the loop. -/
theorem sendFault?_afterSending (c : Connection τ) (sent : Outcome Error τ Unit) (rest : Bytes) :
    (c.afterSending sent rest).calls.findSome? Call.sendFault? =
      sent.calls.findSome? Call.sendFault? := by
  obtain ⟨receives, hcalls, hreceives⟩ := afterSending_calls c sent rest
  have hnothing : receives.findSome? Call.sendFault? = none := by
    rw [List.findSome?_eq_none_iff]
    intro call hcall
    exact Call.sendFault?_of_isReceive (hreceives call hcall)
  rw [hcalls, List.findSome?_append, hnothing, Option.or_none]

/-! ## The response behind the body -/

/-- The response of an upload is good when its head is complete, with a status line of code 200. -/
theorem readResponse_eq_ok_iff (hunheard : c.responseReceived = false) (hmode : c.mode ≠ .reading) :
    c.readResponse.result = .ok () ↔ c.readResponse.state.responseReceived = true ∧
      Status.Line c.readResponse.state.response.statusLine 200 := by
  have hcases := readResponse_cases c
  generalize c.readResponse = o at hcases ⊢
  cases hcases with
  | known hreceived =>
    rw [hunheard] at hreceived
    cases hreceived
  | closed hreceived ht => simp [Outcome.fail, hunheard]
  | broken t t' p e calls hreceived ht hloop => simp [withHead, hunheard]
  | complete t t' p calls hreceived ht hloop =>
    rw [afterHead_of_not_reading (by simpa using hmode)]
    simp only [true_and]
    exact ResponseHead.status_eq_ok_iff

section

variable {sent : Outcome Error τ Unit} {count : Nat}
  (hfault : sent.calls.findSome? Call.sendFault? = none)
  (hcount : (sent.calls.flatMap Call.accepted).length = count)

include hfault hcount

/-- When more is due than was sent, the loop ends with the sends. -/
theorem afterSending_of_more (hmore : count < c.remaining) (rest : Bytes) :
    c.afterSending sent rest = ⟨.ok (), c.afterSend sent.state count, sent.calls⟩ := by
  have hdue : (c.afterSend sent.state count).remaining ≠ 0 := Nat.sub_ne_zero_of_lt hmore
  unfold afterSending
  dsimp only
  rw [hfault, hcount]
  dsimp only
  rw [finishWith, if_pos hdue]
  simp [Outcome.after, Outcome.ok]

/-- When all that is due was sent, the loop ends with the response, and its failure comes first. -/
theorem afterSending_of_all (hall : count = c.remaining) (rest : Bytes) :
    let heard := (c.afterSend sent.state count).readResponse
    c.afterSending sent rest =
      ⟨match heard.result with
        | .error e => .error (.ofError e)
        | .ok () => if rest = [] then .ok () else .error .nothingWritten,
        heard.state, sent.calls ++ heard.calls⟩ := by
  intro heard
  have hdone : (c.afterSend sent.state count).remaining = 0 := by
    show c.remaining - count = 0
    rw [hall, Nat.sub_self]
  unfold afterSending
  dsimp only
  rw [hfault, hcount]
  dsimp only
  rw [finishWith, if_neg (not_not_intro hdone)]
  change Outcome.after _ ((heard.mapError Fault.ofError).andThen _) = _
  rcases heard with ⟨result, c', calls⟩
  cases result with
  | error e => rfl
  | ok =>
    by_cases hrest : rest = []
    · simp [Outcome.andThen, Outcome.mapError, Except.mapError, Outcome.after, Outcome.ok, hrest]
    · simp [Outcome.andThen, Outcome.mapError, Except.mapError, Outcome.after, Outcome.fail, hrest]

end

/-- Writing all of some bytes when `size` bytes of the body are due, over any stream. The stream
accepts a front of the first `size` of them. A send that fails or takes no byte is the failure, and
then nothing is received. Without such a send all of those bytes are accepted: fewer than `size` are
written without a receive; behind `size` bytes or more the response is read, whose failure counts
before that of the bytes which are too many. -/
theorem WritesBody.writeAll_ends {n : Nat} (h : WritesBody n c) (hsize : 0 < size)
    (hdue : c.remaining = size) (data : Bytes) :
    let o := Transfer.writeAll c data
    let body := o.calls.flatMap Call.accepted
    body <+: data.take size ∧
    match o.calls.findSome? Call.sendFault? with
    | some fault => o.result = .error fault ∧ ∀ call ∈ o.calls, call.isReceive = false
    | none =>
      body = data.take size ∧
      (data.length < size → o.result = .ok () ∧ ∀ call ∈ o.calls, call.isReceive = false) ∧
      (size ≤ data.length → ∃ sends t,
        let heard := (c.afterSend t size).readResponse
        o.calls = sends ++ heard.calls ∧ (∀ call ∈ sends, call.isReceive = false) ∧
        o.state = heard.state ∧
        (heard.result = .ok () ↔ heard.state.responseReceived = true ∧
          Status.Line heard.state.response.statusLine 200) ∧
        o.result = match heard.result with
          | .error e => .error (.ofError e)
          | .ok () => if data.length = size then .ok () else .error .nothingWritten) := by
  subst hdue
  obtain ⟨t, ht⟩ := h.consistent.exists_transport (by rw [h.writing]; decide)
  obtain ⟨hsends, hall⟩ := sendAll_calls t (data.take c.remaining)
  have hfront := (sendsAll_sendAll t (data.take c.remaining)).accepted_front
  have hcomplete := sendAll_result_of_no_fault t (data.take c.remaining)
  rw [h.writeAll_eq hsize ht data]
  generalize sendAll t (data.take c.remaining) = sent at *
  dsimp only
  rw [accepted_afterSending, sendFault?_afterSending]
  refine ⟨hfront, ?_⟩
  cases hfault : sent.calls.findSome? Call.sendFault? with
  | some fault =>
    rw [afterSending, hfault]
    exact ⟨rfl, hsends⟩
  | none =>
    have hwhole := hall (hcomplete hfault)
    have hcount : (sent.calls.flatMap Call.accepted).length = min c.remaining data.length := by
      rw [hwhole, List.length_take]
    refine ⟨hwhole, fun hshort => ?_, fun hlong => ?_⟩
    · rw [afterSending_of_more hfault hcount (by omega)]
      exact ⟨rfl, hsends⟩
    · rw [Nat.min_eq_left hlong] at hcount
      rw [afterSending_of_all hfault hcount rfl]
      have hrest : data.drop c.remaining = [] ↔ data.length = c.remaining := by
        rw [List.drop_eq_nil_iff]
        omega
      refine ⟨sent.calls, sent.state, rfl, hsends, rfl, ?_, ?_⟩
      · have hunheard : (c.afterSend sent.state c.remaining).responseReceived = false :=
          h.unheard hsize
        apply readResponse_eq_ok_iff hunheard
        show c.mode ≠ .reading
        rw [h.writing]
        decide
      · simp only [hrest]

variable {κ : Type} [Connector κ τ]

/-- Writing all of some bytes to an upload of `size` bytes, over any stream and after any writes
that brought nothing to it. The function gives the one outcome of the loop of the system. On the wire is
the request head with the declared length, and then a front of the first `size` bytes, up to the
first send that fails or takes no byte, which is the failure. Without such a send all of those bytes
are there, and fewer than `size` bytes are a success without a receive. After `size` bytes the
response decides: it is a success if its head is complete with a status line of code 200, and
otherwise its failure is that of the loop. After more bytes, without a failure of the response, the
failure is that no byte was taken. -/
theorem writeAll_fills (c₀ : Connection τ) (k : κ) (target : Target)
    (credentials : Credentials) {size : Nat} (timeouts : Timeouts) (now : Instant)
    (hsize : 0 < size)
    (hopen : (c₀.openTo k target credentials .writing size timeouts now).result = .ok ())
    (earlier : List Bytes)
    (hnone : (Outcome.series write
      (c₀.openTo k target credentials .writing size timeouts now).state.1 earlier).flatMap
        acceptedIn = [])
    (data : Bytes) :
    let opening := c₀.openTo k target credentials .writing size timeouts now
    let before := Outcome.series write opening.state.1 earlier
    let c := Outcome.last opening.state.1 before
    let o := Transfer.writeAll c data
    let body := o.calls.flatMap Call.accepted
    (∀ o', Transfer.WritesAll c data o' ↔ o' = o) ∧
    (∃ head : RequestHead, head.method = .put ∧ head.path = target.path ∧
      head.field? "Content-Length" = some (toString size) ∧
      (opening.calls ++ Outcome.log before ++ o.calls).flatMap Call.accepted =
        head.encode ++ body) ∧
    (∀ call ∈ opening.calls ++ Outcome.log before, call.isReceive = false) ∧
    body <+: data.take size ∧
    match o.calls.findSome? Call.sendFault? with
    | some fault => o.result = .error fault ∧ ∀ call ∈ o.calls, call.isReceive = false
    | none =>
      body = data.take size ∧
      (data.length < size → o.result = .ok () ∧ ∀ call ∈ o.calls, call.isReceive = false) ∧
      (size ≤ data.length → ∃ sends t,
        let heard := (c.afterSend t size).readResponse
        o.calls = sends ++ heard.calls ∧ (∀ call ∈ sends, call.isReceive = false) ∧
        o.state = heard.state ∧
        (heard.result = .ok () ↔ heard.state.responseReceived = true ∧
          Status.Line heard.state.response.statusLine 200) ∧
        o.result = match heard.result with
          | .error e => .error (.ofError e)
          | .ok () => if data.length = size then .ok () else .error .nothingWritten) := by
  intro opening before c o body
  obtain ⟨hopened, hremaining, hsilent, head, haccepted, hput, hpath, hlength⟩ :=
    openTo_for_writing hsize hopen
  obtain ⟨hwrites, -, hcount, hquiet⟩ := hopened.series earlier
  have hdue : c.remaining = size := by
    rw [hnone, List.length_nil, Nat.zero_add, hremaining] at hcount
    exact hcount
  have hpos : 0 < c.remaining := by
    rw [hdue]
    exact hsize
  refine ⟨fun o' => Transfer.writesAll_iff, ⟨head, hput, hpath, hlength, ?_⟩, fun call hcall => ?_,
    hwrites.writeAll_ends hsize hdue data⟩
  · -- The writes before have brought nothing to the stream.
    have hlog : (Outcome.log before).flatMap Call.accepted = [] := List.flatMap_assoc.trans hnone
    rw [List.flatMap_append, List.flatMap_append, haccepted, hlog, List.append_nil]
  · rcases List.mem_append.mp hcall with hcall | hcall
    · exact hsilent call hcall
    · exact hquiet hpos call hcall

theorem uploading_opens : uploading.result = .ok () ∧ uploading.state.1.transport = some {} := by
  obtain ⟨head, hsign⟩ :
      ∃ head, RequestHead.Draft.sign? ⟨.put, "h", "/o", some 3⟩ ⟨0⟩ ⟨"a", "s"⟩ = some head :=
    ⟨_, rfl⟩
  obtain ⟨calls, hsend⟩ := Script.sendAll_of_unbounded (s := {}) rfl rfl head.encode
  rw [uploading, openTo_of_sent rfl rfl (by decide) rfl hsign hsend]
  exact ⟨rfl, rfl⟩

/-- Of three bytes two are written, over a stream that accepts everything. -/
theorem writeAll_fills_two_of_three :
    uploading.result = .ok () ∧
      let o := Transfer.writeAll uploading.state.1 [97, 98]
      o.result = .ok () ∧ o.calls.flatMap Call.accepted = [97, 98] := by
  obtain ⟨hopen, hstream⟩ := uploading_opens
  have hsize : 0 < 3 := by decide
  have hwrites : WritesBody 3 uploading.state.1 := (openTo_for_writing hsize hopen).1
  have hdue : uploading.state.1.remaining = 3 := (openTo_for_writing hsize hopen).2.1
  have hpos : 0 < uploading.state.1.remaining := by
    rw [hdue]
    exact hsize
  -- Both bytes are sent at once.
  have hfirst : Transport.send ({} : Script) [97, 98] = (.ok 2, {}) := rfl
  have hnofault :
      (Transfer.writeAll uploading.state.1 [97, 98]).calls.findSome? Call.sendFault? = none := by
    rw [hwrites.writeAll_eq hpos hstream, hdue, sendFault?_afterSending]
    dsimp only [List.take]
    rw [sendAll_of_some (by decide) hfirst]
    exact congrArg (fun o => ([Call.send [97, 98] (.ok 2)] ++ o.calls).findSome? Call.sendFault?)
      (sendAll_nil ({} : Script))
  obtain ⟨-, -, -, -, hends⟩ := writeAll_fills (new 0) _ _ _ _ _ hsize hopen [] rfl [97, 98]
  split at hends
  · rename_i fault hfault
    cases hnofault.symm.trans hfault
  · obtain ⟨hbody, hshort, -⟩ := hends
    exact ⟨hopen, (hshort (by decide)).1, hbody⟩

end Connection
end ObjectStream
