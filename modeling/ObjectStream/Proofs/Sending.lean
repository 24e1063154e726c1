/-
  ObjectStream.Proofs.Sending

  Sending a whole byte string. The loop is an execution relation (`SendsAll`), with
  one way for each answer that a send can get, and the function gives its one
  outcome. Everything about the calls is by induction on it: they are sends of what
  the stream has not accepted yet, never of nothing, and none comes after one that
  failed. Sending succeeds exactly if the stream has accepted the whole string
  (`sendAll_delivers`).
-/

import ObjectStream.Proofs.Series
import ObjectStream.Transport.Script

namespace ObjectStream

/-- The failure that a send makes of sending everything. Accepting no byte counts as one. -/
def Call.sendFailure? : Call → Option Error
  | .send _ (.error e) => some e
  | .send _ (.ok 0) => some .connectionReset
  | _ => none

variable {τ : Type} [Transport τ]

/-! ## One send after the other -/

/-- The calls of the sending loop stand behind those that were made before. -/
theorem sendAllFrom_append (made earlier : List Call) (t : τ) (bytes : Bytes) :
    sendAllFrom (made ++ earlier) t bytes = (sendAllFrom made t bytes).after earlier.reverse := by
  fun_induction sendAllFrom made t bytes with
  | case1 made t =>
    rw [sendAllFrom, if_pos rfl, List.reverse_append]
    rfl
  | case2 made t bytes hne e t' hsend =>
    rw [sendAllFrom, if_neg hne, hsend]
    dsimp only
    rw [← List.cons_append, List.reverse_append]
    rfl
  | case3 made t bytes hne t' hsend =>
    rw [sendAllFrom, if_neg hne, hsend]
    dsimp only
    rw [← List.cons_append, List.reverse_append]
    rfl
  | case4 made t bytes hne n t' hsend ih =>
    rw [sendAllFrom, if_neg hne, hsend]
    exact ih

theorem sendAll_nil (t : τ) : sendAll t [] = ⟨.ok (), t, []⟩ := by
  rw [sendAll, sendAllFrom, if_pos rfl]
  rfl

section

variable {t t' : τ} {bytes : Bytes}

theorem sendAll_of_error {e : Error} (hne : bytes ≠ [])
    (hsend : Transport.send t bytes = (.error e, t')) :
    sendAll t bytes = ⟨.error e, t', [.send bytes (.error e)]⟩ := by
  rw [sendAll, sendAllFrom, if_neg hne, hsend]
  rfl

theorem sendAll_of_nothing (hne : bytes ≠ []) (hsend : Transport.send t bytes = (.ok 0, t')) :
    sendAll t bytes = ⟨.error .connectionReset, t', [.send bytes (.ok 0)]⟩ := by
  rw [sendAll, sendAllFrom, if_neg hne, hsend]
  rfl

theorem sendAll_of_some {n : Nat} (hne : bytes ≠ [])
    (hsend : Transport.send t bytes = (.ok (n + 1), t')) :
    sendAll t bytes = (sendAll t' (bytes.drop (n + 1))).after [.send bytes (.ok (n + 1))] := by
  rw [sendAll, sendAllFrom, if_neg hne, hsend]
  exact sendAllFrom_append [] [_] t' _

end

/-! ## The loop as a relation -/

/-- Sending all of some bytes comes to this outcome. -/
inductive SendsAll : τ → Bytes → Outcome Error τ Unit → Prop where
  /-- No byte is left. -/
  | done (t : τ) : SendsAll t [] (.ok t ())
  /-- The send fails. -/
  | failed (t t' : τ) (bytes : Bytes) (e : Error) :
      bytes ≠ [] → Transport.send t bytes = (.error e, t') →
      SendsAll t bytes ⟨.error e, t', [.send bytes (.error e)]⟩
  /-- It accepts no byte. -/
  | nothing (t t' : τ) (bytes : Bytes) :
      bytes ≠ [] → Transport.send t bytes = (.ok 0, t') →
      SendsAll t bytes ⟨.error .connectionReset, t', [.send bytes (.ok 0)]⟩
  /-- It accepts some bytes, and the others are sent. -/
  | more (t t' : τ) (bytes : Bytes) (n : Nat) (o : Outcome Error τ Unit) :
      bytes ≠ [] → Transport.send t bytes = (.ok (n + 1), t') →
      SendsAll t' (bytes.drop (n + 1)) o →
      SendsAll t bytes (o.after [.send bytes (.ok (n + 1))])

/-- The function gives an outcome of the loop. -/
theorem sendsAll_sendAll (t : τ) (bytes : Bytes) : SendsAll t bytes (sendAll t bytes) := by
  -- On the bytes that are left; what is not accepted is sent again from the stream after the send.
  induction hlength : bytes.length using Nat.strongRecOn generalizing t bytes with
  | ind length ih =>
    by_cases hnil : bytes = []
    · rw [hnil, sendAll_nil]
      exact .done t
    · rcases hsend : Transport.send t bytes with ⟨answer, t'⟩
      match answer with
      | .error e =>
        rw [sendAll_of_error hnil hsend]
        exact .failed t t' bytes e hnil hsend
      | .ok 0 =>
        rw [sendAll_of_nothing hnil hsend]
        exact .nothing t t' bytes hnil hsend
      | .ok (n + 1) =>
        have hless : (bytes.drop (n + 1)).length < length := by
          have hpos : 0 < bytes.length := List.length_pos_iff.mpr hnil
          rw [List.length_drop]
          omega
        rw [sendAll_of_some hnil hsend]
        exact .more t t' bytes n _ hnil hsend (ih _ hless t' _ rfl)

/-- A list of one entry can be split at that entry only. -/
theorem split_singleton {α : Type} {only a : α} {before after : List α}
    (h : [only] = before ++ a :: after) : before = [] ∧ a = only ∧ after = [] := by
  cases before with
  | nil =>
    obtain ⟨rfl, rfl⟩ := List.cons.inj h
    exact ⟨rfl, rfl, rfl⟩
  | cons b before => simp at h

namespace SendsAll

variable {t : τ} {bytes : Bytes} {o : Outcome Error τ Unit}

/-- The loop has no other outcome. -/
theorem eq_sendAll (h : SendsAll t bytes o) : o = sendAll t bytes := by
  induction h with
  | done t => exact (sendAll_nil t).symm
  | failed t t' bytes e hne hsend => exact (sendAll_of_error hne hsend).symm
  | nothing t t' bytes hne hsend => exact (sendAll_of_nothing hne hsend).symm
  | more t t' bytes n o hne hsend _ ih => rw [sendAll_of_some hne hsend, ih]

/-! ## What every run of the loop keeps -/

/-- Each send but the last takes at least one byte off the string. -/
theorem length_calls_le (h : SendsAll t bytes o) : o.calls.length ≤ bytes.length := by
  induction h with
  | done t => exact Nat.le_refl 0
  | failed t t' bytes e hne hsend => exact List.length_pos_iff.mpr hne
  | nothing t t' bytes hne hsend => exact List.length_pos_iff.mpr hne
  | more t t' bytes n o hne hsend _ ih =>
    have hpos : 0 < bytes.length := List.length_pos_iff.mpr hne
    rw [List.length_drop] at ih
    show o.calls.length + 1 ≤ bytes.length
    omega

/-- Nothing is received. -/
theorem sends (h : SendsAll t bytes o) : ∀ call ∈ o.calls, call.isReceive = false := by
  induction h with
  | done t => exact List.forall_mem_nil _
  | failed | nothing => exact List.forall_mem_singleton.mpr rfl
  | more t t' bytes n o hne hsend _ ih => exact List.forall_mem_cons.mpr ⟨rfl, ih⟩

/-- Sending some bytes takes a send. -/
theorem calls_ne_nil (h : SendsAll t bytes o) (hne : bytes ≠ []) : o.calls ≠ [] := by
  cases h with
  | done t => exact absurd rfl hne
  | failed | nothing | more => exact List.cons_ne_nil _ _

/-- The stream accepts a front of the string. -/
theorem accepted_front (h : SendsAll t bytes o) : o.calls.flatMap Call.accepted <+: bytes := by
  induction h with
  | done t => exact List.nil_prefix
  | failed | nothing => exact List.nil_prefix
  | more t t' bytes n o hne hsend _ ih =>
    have hall := (List.prefix_append_right_inj (bytes.take (n + 1))).mpr ih
    rw [List.take_append_drop] at hall
    exact hall

/-- Sending succeeds exactly if all bytes are accepted. -/
theorem ok_iff (h : SendsAll t bytes o) :
    o.result = .ok () ↔ o.calls.flatMap Call.accepted = bytes := by
  induction h with
  | done t => exact ⟨fun _ => rfl, fun _ => rfl⟩
  | failed t t' bytes e hne hsend => exact ⟨nofun, fun hall => absurd hall.symm hne⟩
  | nothing t t' bytes hne hsend => exact ⟨nofun, fun hall => absurd hall.symm hne⟩
  | more t t' bytes n o hne hsend _ ih =>
    -- The accepted front and the rest make the string, so that the others have to be the rest.
    calc o.result = .ok ()
      _ ↔ o.calls.flatMap Call.accepted = bytes.drop (n + 1) := ih
      _ ↔ bytes.take (n + 1) ++ o.calls.flatMap Call.accepted =
            bytes.take (n + 1) ++ bytes.drop (n + 1) := (List.append_right_inj _).symm
      _ ↔ bytes.take (n + 1) ++ o.calls.flatMap Call.accepted = bytes := by
            rw [List.take_append_drop]

/-- The first failure of a send is the failure of the loop. -/
theorem result_eq (h : SendsAll t bytes o) :
    o.result = match o.calls.findSome? Call.sendFailure? with
      | some e => .error e
      | none => .ok () := by
  induction h with
  | done t => rfl
  | failed | nothing => rfl
  | more t t' bytes n o hne hsend _ ih => exact ih

/-- Each call offers the bytes that those before it have left, of which there are some, and unless it is
the last it accepts at least one of them. -/
theorem offers_rest (h : SendsAll t bytes o) {before after : List Call} {call : Call}
    (hcalls : o.calls = before ++ call :: after) :
    ∃ rest answer, before.flatMap Call.accepted ++ rest = bytes ∧ rest ≠ [] ∧
      call = .send rest answer ∧ (∀ n, answer = .ok n → n ≤ rest.length) ∧
      (after ≠ [] → ∃ n, answer = .ok (n + 1)) := by
  -- On the run; the first call of it is `call`, or it is one of those before.
  induction h generalizing before with
  | done t => simp [Outcome.ok] at hcalls
  | failed t t' bytes e hne hsend =>
    obtain ⟨rfl, rfl, rfl⟩ := split_singleton hcalls
    exact ⟨bytes, .error e, rfl, hne, rfl, nofun, fun hmore => absurd rfl hmore⟩
  | nothing t t' bytes hne hsend =>
    obtain ⟨rfl, rfl, rfl⟩ := split_singleton hcalls
    refine ⟨bytes, .ok 0, rfl, hne, rfl, fun n hn => ?_, fun hmore => absurd rfl hmore⟩
    cases hn
    exact Nat.zero_le _
  | more t t' bytes n o hne hsend _ ih =>
    have hle : n + 1 ≤ bytes.length := by
      apply Transport.send_le t bytes
      rw [hsend]
    cases before with
    | nil =>
      obtain ⟨rfl, -⟩ := List.cons.inj hcalls
      refine ⟨bytes, .ok (n + 1), rfl, hne, rfl, fun count hcount => ?_, fun _ => ⟨n, rfl⟩⟩
      cases hcount
      exact hle
    | cons first before =>
      obtain ⟨hfirst, hothers⟩ := List.cons.inj hcalls
      obtain ⟨rest, answer, hrest, hnonempty, hcall, hcount, hafter⟩ := ih hothers
      refine ⟨rest, answer, ?_, hnonempty, hcall, hcount, hafter⟩
      -- What the first send accepted stands in front.
      rw [← hfirst, List.flatMap_cons, List.append_assoc, hrest]
      exact List.take_append_drop (n + 1) bytes

end SendsAll

/-! ## Scripted streams -/

namespace Script

/-- A script without bounds on its sends accepts everything at once. -/
theorem sendAll_of_unbounded {s : Script} (hsends : s.sends = []) (hlimit : s.sendLimit = none)
    (bytes : Bytes) : ∃ calls, sendAll s bytes = ⟨.ok (), s, calls⟩ := by
  by_cases hnil : bytes = []
  · rw [hnil, sendAll_nil]
    exact ⟨[], rfl⟩
  · obtain ⟨n, hn⟩ : ∃ n, bytes.length = n + 1 :=
      Nat.exists_eq_add_one.mpr (List.length_pos_iff.mpr hnil)
    have hsend : Transport.send s bytes = (.ok (n + 1), s) := by
      change s.send bytes = _
      rw [send, hsends, hlimit, hn]
    rw [sendAll_of_some hnil hsend, List.drop_eq_nil_of_le (Nat.le_of_eq hn), sendAll_nil]
    exact ⟨_, rfl⟩

/-- A script whose second send fails accepts what its first one does. -/
theorem sendAll_of_failing {s : Script} {n : Nat} {e : Error} {rest : List (Except Error Nat)}
    (hsends : s.sends = .ok (n + 1) :: .error e :: rest) {bytes : Bytes} (hlong : n + 1 < bytes.length) :
    sendAll s bytes = ⟨.error e, { s with sends := rest },
      [.send bytes (.ok (n + 1)), .send (bytes.drop (n + 1)) (.error e)]⟩ := by
  have hfirst : Transport.send s bytes = (.ok (n + 1), { s with sends := .error e :: rest }) := by
    change s.send bytes = _
    rw [send, hsends]
    dsimp only
    rw [Nat.min_eq_left (Nat.le_of_lt hlong)]
  have hsecond : Transport.send { s with sends := .error e :: rest } (bytes.drop (n + 1)) =
      (.error e, { s with sends := rest }) := rfl
  have hne : bytes ≠ [] := List.length_pos_iff.mp (Nat.zero_lt_of_lt hlong)
  have hmore : bytes.drop (n + 1) ≠ [] := by
    rw [Ne, List.drop_eq_nil_iff, Nat.not_le]
    exact hlong
  rw [sendAll_of_some hne hfirst, sendAll_of_error hmore hsecond]
  rfl

end Script

/-! ## Sending everything -/

/-- A byte string that was sent was accepted as it is, and nothing was received meanwhile. -/
theorem sendAll_calls (t : τ) (bytes : Bytes) :
    (∀ call ∈ (sendAll t bytes).calls, call.isReceive = false) ∧
      ((sendAll t bytes).result = .ok () →
        (sendAll t bytes).calls.flatMap Call.accepted = bytes) :=
  ⟨(sendsAll_sendAll t bytes).sends, (sendsAll_sendAll t bytes).ok_iff.mp⟩

/-- Sending all of some bytes, over any stream. The loop of sends has one outcome, which the function
gives, after no more sends than there are bytes. What the sends up to any one have accepted is a front
of the bytes, and that one offers exactly the others, of which there are some; a send that fails or
accepts no byte is the last. Sending succeeds exactly if all bytes were accepted; otherwise the first
failure of a send is its failure, where accepting no byte counts as a reset of the connection. -/
theorem sendAll_delivers (t : τ) (bytes : Bytes) :
    let o := sendAll t bytes
    (∀ o', SendsAll t bytes o' ↔ o' = o) ∧
    o.calls.length ≤ bytes.length ∧
    (∀ before call after, o.calls = before ++ call :: after →
      ∃ rest answer, before.flatMap Call.accepted ++ rest = bytes ∧ rest ≠ [] ∧
        call = .send rest answer ∧ (∀ n, answer = .ok n → n ≤ rest.length) ∧
        (after ≠ [] → ∃ n, answer = .ok (n + 1))) ∧
    o.calls.flatMap Call.accepted <+: bytes ∧
    (o.result = .ok () ↔ o.calls.flatMap Call.accepted = bytes) ∧
    o.result = match o.calls.findSome? Call.sendFailure? with
      | some e => .error e
      | none => .ok () := by
  intro o
  have hrun : SendsAll t bytes o := sendsAll_sendAll t bytes
  have hunique : ∀ o', SendsAll t bytes o' ↔ o' = o := by
    intro o'
    constructor
    · exact SendsAll.eq_sendAll
    · rintro rfl
      exact hrun
  exact ⟨hunique, hrun.length_calls_le, fun before call after => hrun.offers_rest,
    hrun.accepted_front, hrun.ok_iff, hrun.result_eq⟩

/-- The stream accepts one byte of three, and the send of the other two fails. -/
theorem sendAll_delivers_one_of_three :
    let o := sendAll ({ sends := [.ok 1, .error .timeout] } : Script) [97, 98, 99]
    o.calls = [.send [97, 98, 99] (.ok 1)] ++ .send [98, 99] (.error .timeout) :: [] ∧
      [Call.send [97, 98, 99] (.ok 1)].flatMap Call.accepted ++ [98, 99] = [97, 98, 99] ∧
      o.result = .error .timeout := by
  intro o
  have hcalls : o.calls = [.send [97, 98, 99] (.ok 1)] ++ .send [98, 99] (.error .timeout) :: [] :=
    congrArg Outcome.calls (Script.sendAll_of_failing rfl (by decide))
  obtain ⟨-, -, hoffers, -, -, hresult⟩ :=
    sendAll_delivers ({ sends := [.ok 1, .error .timeout] } : Script) [97, 98, 99]
  obtain ⟨rest, answer, hrest, -, hcall, -⟩ := hoffers _ _ _ hcalls
  cases hcall
  change o.result = _ at hresult
  rw [hcalls] at hresult
  exact ⟨hcalls, hrest, hresult⟩

end ObjectStream
