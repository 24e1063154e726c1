/-
  ObjectStream.Proofs.HeadRuns

  The loop that reads a response head, round by round. `Runs` is its execution as
  a relation, which says nothing of how long it goes on; that there is one with any
  peer is `runs_receiveHeadFrom`, and `Runs.rounds_le` that it is short: each round
  but the last counts a byte, and no more than the largest size are counted.

  `HeadReader.Passes` and `Visits` are the states that the reader goes through
  meanwhile, also in the middle of a round. The line under way is never longer than
  the largest size in any of them (`HeadReader.Short`).
-/

import ObjectStream.Proofs.Reopening

namespace ObjectStream

/-! ## The states of the reader -/

namespace HeadReader

/-- The reader once it has taken the next segment of some bytes. -/
def extend (r : HeadReader) (bytes : Bytes) : HeadReader :=
  ⟨List.reverseAux (bytes.take (segment r.awaitsLf bytes)) r.reversed,
    r.seen + segment r.awaitsLf bytes⟩

/-- The states that the reader goes through while it absorbs some bytes. -/
inductive Passes : HeadReader → Bytes → HeadReader → Prop where
  | start (r : HeadReader) (bytes : Bytes) : Passes r bytes r
  /-- The next segment is counted, but not taken yet. -/
  | counted (r : HeadReader) (bytes : Bytes) : bytes ≠ [] →
      Passes r bytes { r with seen := (r.extend bytes).seen }
  /-- The segment fits, and is taken. -/
  | taken (r : HeadReader) (bytes : Bytes) : bytes ≠ [] → (r.extend bytes).seen ≤ maxHeadLength →
      Passes r bytes (r.extend bytes)
  /-- It ends the empty line, with which the head is complete. -/
  | ended (r : HeadReader) (bytes : Bytes) : bytes ≠ [] → (r.extend bytes).seen ≤ maxHeadLength →
      (r.extend bytes).reversed = [10, 13] → Passes r bytes ⟨[], (r.extend bytes).seen⟩
  /-- It ends another line, and the reader goes on at the start of the next. -/
  | next (r r' : HeadReader) (bytes content : Bytes) : bytes ≠ [] →
      (r.extend bytes).seen ≤ maxHeadLength → (r.extend bytes).reversed = 10 :: 13 :: content →
      Passes ⟨[], (r.extend bytes).seen⟩ (bytes.drop (segment r.awaitsLf bytes)) r' →
      Passes r bytes r'

/-- Absorbing ends in one of these states. -/
theorem passes_absorb (r : HeadReader) (b : ReceiveBuffer) (head : ResponseHead) :
    Passes r b.unread (r.absorb b head).reader := by
  fun_induction absorb r b head with
  | case1 r b head hnil => exact .start r b.unread
  | case2 r b head hne n hover => exact .counted r b.unread hne
  | case3 r b head hne n hle hline => exact .ended r b.unread hne (Nat.le_of_not_lt hle) hline
  | case4 r b head hne n hle content hcontent hline ih =>
    exact .next r _ b.unread content hne (Nat.le_of_not_lt hle) hline ih
  | case5 r b head hne n hle => exact .taken r b.unread hne (Nat.le_of_not_lt hle)

/-- A reader that holds no more of an unfinished line than it has counted, and no more than the
largest size. -/
structure Short (r : HeadReader) : Prop where
  counted : r.line.length ≤ r.seen
  bounded : r.line.length ≤ maxHeadLength

theorem short_start (seen : Nat) : Short ⟨[], seen⟩ := ⟨Nat.zero_le _, Nat.zero_le _⟩

theorem length_line_extend (r : HeadReader) (bytes : Bytes) :
    (r.extend bytes).line.length = r.line.length + segment r.awaitsLf bytes := by
  rw [line, line, List.length_reverse, List.length_reverse, extend, List.reverseAux_eq,
    List.length_append, List.length_reverse, List.length_take_of_le (segment_le _ _), Nat.add_comm]

/-- A segment that fits leaves the line short. -/
theorem Short.extend {r : HeadReader} (h : Short r) {bytes : Bytes}
    (hfits : (r.extend bytes).seen ≤ maxHeadLength) : Short (r.extend bytes) := by
  have hlength := length_line_extend r bytes
  have hcounted : (r.extend bytes).line.length ≤ (r.extend bytes).seen := by
    rw [hlength]
    exact Nat.add_le_add_right h.counted _
  exact ⟨hcounted, Nat.le_trans hcounted hfits⟩

theorem Short.passes {r r' : HeadReader} {bytes : Bytes} (h : Short r)
    (hpasses : Passes r bytes r') : Short r' := by
  -- A segment is taken only if it fits, so the line is held to the size limit before it grows.
  induction hpasses with
  | start r bytes => exact h
  | counted r bytes hne => exact ⟨Nat.le_trans h.counted (Nat.le_add_right _ _), h.bounded⟩
  | taken r bytes hne hfits => exact h.extend hfits
  | ended r bytes hne hfits hline => exact short_start _
  | next r r' bytes content hne hfits hline hnext ih => exact ih (short_start _)

end HeadReader

/-! ## The rounds of the loop -/

section

variable {τ : Type} [Transport τ]

/-- The loop comes to this outcome in so many rounds. -/
inductive Runs : Nat → τ → HeadProgress → Outcome Error (τ × HeadProgress) Unit → Prop where
  /-- The receive fails. -/
  | failed (t t' : τ) (p : HeadProgress) (b : ReceiveBuffer) (e : Error) (calls : List Call) :
      p.buffer.fill t = ⟨.error e, (b, t'), calls⟩ →
      Runs 1 t p ⟨.error e, (t', { p with buffer := b }), calls⟩
  /-- The fill brings nothing. -/
  | ended (t t' : τ) (p : HeadProgress) (b : ReceiveBuffer) (calls : List Call) :
      p.buffer.fill t = ⟨.ok 0, (b, t'), calls⟩ →
      Runs 1 t p ⟨.error .connectionReset, (t', { p with buffer := b }), calls⟩
  /-- The head is found too large. -/
  | broken (t t' : τ) (p : HeadProgress) (b b' : ReceiveBuffer) (n : Nat) (e : Error)
      (r : HeadReader) (head : ResponseHead) (calls : List Call) :
      p.buffer.fill t = ⟨.ok (n + 1), (b, t'), calls⟩ →
      p.reader.absorb b p.head = ⟨.error e, r, b', head⟩ →
      Runs 1 t p ⟨.error e, (t', ⟨b', r, head⟩), calls⟩
  /-- The head is complete. -/
  | complete (t t' : τ) (p : HeadProgress) (b b' : ReceiveBuffer) (n : Nat) (r : HeadReader)
      (head : ResponseHead) (calls : List Call) :
      p.buffer.fill t = ⟨.ok (n + 1), (b, t'), calls⟩ →
      p.reader.absorb b p.head = ⟨.ok true, r, b', head⟩ →
      Runs 1 t p ⟨.ok (), (t', ⟨b', r, head⟩), calls⟩
  /-- All bytes are taken, and there is another round. -/
  | more (rounds : Nat) (t t' : τ) (p : HeadProgress) (b b' : ReceiveBuffer) (n : Nat)
      (r : HeadReader) (head : ResponseHead) (calls : List Call)
      (o : Outcome Error (τ × HeadProgress) Unit) :
      p.buffer.fill t = ⟨.ok (n + 1), (b, t'), calls⟩ →
      p.reader.absorb b p.head = ⟨.ok false, r, b', head⟩ →
      Runs rounds t' ⟨b', r, head⟩ o →
      Runs (rounds + 1) t p (o.after calls)

/-- The states that the reader goes through in all rounds. -/
inductive Visits : τ → HeadProgress → HeadReader → Prop where
  | start (t : τ) (p : HeadProgress) : Visits t p p.reader
  | now (t t' : τ) (p : HeadProgress) (b : ReceiveBuffer) (n : Nat) (r : HeadReader)
      (calls : List Call) :
      p.buffer.fill t = ⟨.ok (n + 1), (b, t'), calls⟩ → p.reader.Passes b.unread r → Visits t p r
  | later (t t' : τ) (p : HeadProgress) (b b' : ReceiveBuffer) (n : Nat) (r r' : HeadReader)
      (head : ResponseHead) (calls : List Call) :
      p.buffer.fill t = ⟨.ok (n + 1), (b, t'), calls⟩ →
      p.reader.absorb b p.head = ⟨.ok false, r, b', head⟩ →
      Visits t' ⟨b', r, head⟩ r' → Visits t p r'

/-- With any peer, the loop comes to its outcome in some rounds. -/
theorem runs_receiveHeadFrom (made : List Call) (t : τ) (p : HeadProgress) :
    ∃ rounds o, Runs rounds t p o ∧ receiveHeadFrom made t p = o.after made.reverse := by
  -- On the loop: `made` has the calls of the rounds before, newest first, so that the calls of a run
  -- come behind them.
  fun_induction receiveHeadFrom made t p with
  | case1 made t p filled calls b t' e hfill =>
    have hfilled : p.buffer.fill t = ⟨.error e, (b, t'), filled.calls⟩ := by rw [← hfill]
    refine ⟨1, _, .failed t t' p b e filled.calls hfilled, ?_⟩
    rw [reverse_reverseAux]
    rfl
  | case2 made t p filled calls b t' hfill =>
    have hfilled : p.buffer.fill t = ⟨.ok 0, (b, t'), filled.calls⟩ := by rw [← hfill]
    refine ⟨1, _, .ended t t' p b filled.calls hfilled, ?_⟩
    rw [reverse_reverseAux]
    rfl
  | case3 made t p filled calls b t' n hfill absorbed p' e habsorb =>
    have hfilled : p.buffer.fill t = ⟨.ok (n + 1), (b, t'), filled.calls⟩ := by rw [← hfill]
    have habsorbed : p.reader.absorb b p.head =
        ⟨.error e, absorbed.reader, absorbed.buffer, absorbed.head⟩ := by rw [← habsorb]
    refine ⟨1, _, .broken t t' p b _ n e _ _ filled.calls hfilled habsorbed, ?_⟩
    rw [reverse_reverseAux]
    rfl
  | case4 made t p filled calls b t' n hfill absorbed p' habsorb =>
    have hfilled : p.buffer.fill t = ⟨.ok (n + 1), (b, t'), filled.calls⟩ := by rw [← hfill]
    have habsorbed : p.reader.absorb b p.head =
        ⟨.ok true, absorbed.reader, absorbed.buffer, absorbed.head⟩ := by rw [← habsorb]
    refine ⟨1, _, .complete t t' p b _ n _ _ filled.calls hfilled habsorbed, ?_⟩
    rw [reverse_reverseAux]
    rfl
  | case5 made t p filled calls b t' n hfill absorbed p' habsorb ih =>
    have hfilled : p.buffer.fill t = ⟨.ok (n + 1), (b, t'), filled.calls⟩ := by rw [← hfill]
    have habsorbed : p.reader.absorb b p.head =
        ⟨.ok false, absorbed.reader, absorbed.buffer, absorbed.head⟩ := by rw [← habsorb]
    obtain ⟨rounds, o, hruns, ho⟩ := ih
    refine ⟨rounds + 1, _, .more rounds t t' p b _ n _ _ filled.calls o hfilled habsorbed hruns, ?_⟩
    rw [ho, reverse_reverseAux, Outcome.after, Outcome.after, Outcome.after, List.append_assoc]

/-- So does a loop that starts without calls. -/
theorem runs_receiveHeadFrom_nil (t : τ) (p : HeadProgress) :
    ∃ rounds, Runs rounds t p (receiveHeadFrom [] t p) := by
  obtain ⟨rounds, o, hruns, ho⟩ := runs_receiveHeadFrom [] t p
  have hsame : o.after [] = o := rfl
  rw [ho, List.reverse_nil, hsame]
  exact ⟨rounds, hruns⟩

/-- A fill makes one call at most. -/
theorem ReceiveBuffer.length_calls_fill (b : ReceiveBuffer) (t : τ) :
    (b.fill t).calls.length ≤ 1 := by
  rw [fill]
  split
  · exact Nat.zero_le _
  · split <;> exact Nat.le_refl _

/-- A round with another one after it has counted a byte, and the head is not too large yet. -/
theorem seen_of_more {t t' : τ} {p : HeadProgress} {b b' : ReceiveBuffer} {n : Nat} {r : HeadReader}
    {head : ResponseHead} {calls : List Call}
    (hfill : p.buffer.fill t = ⟨.ok (n + 1), (b, t'), calls⟩)
    (habsorb : p.reader.absorb b p.head = ⟨.ok false, r, b', head⟩) :
    p.reader.seen < r.seen ∧ r.seen ≤ maxHeadLength := by
  have hne := p.buffer.unread_fill_ne_nil t (n + 1) (by rw [hfill]) (Nat.succ_ne_zero n)
  have hseen := p.reader.seen_absorb b p.head (by rw [habsorb])
  rw [hfill] at hne
  rw [habsorb] at hseen
  rcases hseen with ⟨hnil, -⟩ | hseen
  · exact absurd hnil hne
  · exact hseen

namespace Runs

variable {rounds : Nat} {t : τ} {p : HeadProgress} {o : Outcome Error (τ × HeadProgress) Unit}

/-- As many rounds as there are bytes up to the largest size, and one more. -/
theorem rounds_le (h : Runs rounds t p o) : rounds ≤ maxHeadLength - p.reader.seen + 1 := by
  -- On the rounds; the bytes that are left up to the largest size become fewer with each of them.
  induction h with
  | failed | ended | broken | complete => exact Nat.le_add_left 1 _
  | more rounds t t' p b b' n r head calls o hfill habsorb hrest ih =>
    obtain ⟨hlt, hmax⟩ := seen_of_more hfill habsorb
    have ih : rounds ≤ maxHeadLength - r.seen + 1 := ih
    omega

theorem length_calls_le (h : Runs rounds t p o) : o.calls.length ≤ rounds := by
  -- One call a round is the most there can be; a fill without room makes none.
  have hround : ∀ {t t' : τ} {p : HeadProgress} {b : ReceiveBuffer} {result : Except Error Nat}
      {calls : List Call}, p.buffer.fill t = ⟨result, (b, t'), calls⟩ → calls.length ≤ 1 := by
    intro t t' p b result calls hfill
    have hcalls := p.buffer.length_calls_fill t
    rwa [hfill] at hcalls
  induction h with
  | failed t t' p b e calls hfill => exact hround hfill
  | ended t t' p b calls hfill => exact hround hfill
  | broken t t' p b b' n e r head calls hfill habsorb => exact hround hfill
  | complete t t' p b b' n r head calls hfill habsorb => exact hround hfill
  | more rounds t t' p b b' n r head calls o hfill habsorb hrest ih =>
    have hcalls := hround hfill
    show (calls ++ o.calls).length ≤ rounds + 1
    rw [List.length_append]
    omega

end Runs

/-- What is absorbed in a round leaves the reader short. -/
theorem HeadReader.Short.absorb {p : HeadProgress} (h : p.reader.Short) {b b' : ReceiveBuffer}
    {result : Except Error Bool} {r : HeadReader} {head : ResponseHead}
    (habsorb : p.reader.absorb b p.head = ⟨result, r, b', head⟩) : r.Short := by
  have hpasses := p.reader.passes_absorb b p.head
  rw [habsorb] at hpasses
  exact h.passes hpasses

theorem HeadReader.Short.visits {t : τ} {p : HeadProgress} {r : HeadReader} (h : p.reader.Short)
    (hvisits : Visits t p r) : r.Short := by
  induction hvisits with
  | start t p => exact h
  | now t t' p b n r calls hfill hpasses => exact h.passes hpasses
  | later t t' p b b' n r r' head calls hfill habsorb hlater ih => exact ih (h.absorb habsorb)

theorem HeadReader.Short.runs {rounds : Nat} {t : τ} {p : HeadProgress}
    {o : Outcome Error (τ × HeadProgress) Unit} (h : p.reader.Short) (hruns : Runs rounds t p o) :
    o.state.2.reader.Short := by
  induction hruns with
  | failed | ended => exact h
  | broken t t' p b b' n e r head calls hfill habsorb => exact h.absorb habsorb
  | complete t t' p b b' n r head calls hfill habsorb => exact h.absorb habsorb
  | more rounds t t' p b b' n r head calls o hfill habsorb hrest ih => exact ih (h.absorb habsorb)

/-! ## The room that is offered -/

/-- Every receive had this much room, and a reset was told only if a receive told it or found the
stream closed. -/
structure OffersAll {σ α : Type} (capacity : Nat) (o : Outcome Error σ α) : Prop where
  room : ∀ room received, .receive room received ∈ o.calls → room = capacity
  reset : o.result = .error .connectionReset → ∃ received, .receive capacity received ∈ o.calls ∧
    (received = .ok [] ∨ received = .error .connectionReset)

/-- The result may be told in another way, as long as no reset is added. -/
theorem OffersAll.congr {σ σ' α β : Type} {capacity : Nat} {o : Outcome Error σ α}
    {o' : Outcome Error σ' β} (h : OffersAll capacity o) (hcalls : o'.calls = o.calls)
    (hresult : o'.result = .error .connectionReset → o.result = .error .connectionReset) :
    OffersAll capacity o' := by
  refine ⟨fun room received hmem => ?_, fun hreset => ?_⟩
  · rw [hcalls] at hmem
    exact h.room room received hmem
  · rw [hcalls]
    exact h.reset (hresult hreset)

/-- A buffer that ran dry is filled by one receive into all of its capacity. -/
theorem ReceiveBuffer.receive_of_fill {b b' : ReceiveBuffer} {t t' : τ} {result : Except Error Nat}
    {calls : List Call} (hdrained : b.unread = [])
    (hfill : b.fill t = ⟨result, (b', t'), calls⟩) :
    ∃ received, Transport.receive t b.capacity = (received, t') ∧
      calls = [.receive b.capacity received] ∧ result = received.map (·.length) ∧
      ∀ bytes, received = .ok bytes → b' = b.clear.append bytes := by
  rw [fill_of_drained hdrained] at hfill
  rcases hrecv : Transport.receive t b.capacity with ⟨received, t''⟩
  rw [hrecv] at hfill
  cases received with
  | error e =>
    cases hfill
    exact ⟨_, rfl, rfl, rfl, nofun⟩
  | ok bytes =>
    cases hfill
    exact ⟨_, rfl, rfl, rfl, fun bytes' heq => by cases heq; rfl⟩

theorem offersAll_of_once {σ α : Type} {capacity : Nat} {received : Except Error Bytes}
    {result : Except Error α} {state : σ}
    (hreset : result = .error .connectionReset →
      received = .ok [] ∨ received = .error .connectionReset) :
    OffersAll capacity ⟨result, state, [.receive capacity received]⟩ := by
  refine ⟨fun room received' hmem => ?_, fun hresult => ⟨received, ?_, hreset hresult⟩⟩
  · cases List.mem_singleton.mp hmem
    rfl
  · exact List.mem_singleton_self _

/-- Receives before the last ones, into the same room, change nothing. -/
theorem OffersAll.after_once {σ α : Type} {capacity : Nat} {o : Outcome Error σ α}
    (h : OffersAll capacity o) (received : Except Error Bytes) :
    OffersAll capacity (o.after [.receive capacity received]) := by
  refine ⟨fun room received' hmem => ?_, fun hresult => ?_⟩
  · rcases List.mem_cons.mp hmem with hfirst | hrest
    · cases hfirst
      rfl
    · exact h.room room received' hrest
  · obtain ⟨last, hmem, hlast⟩ := h.reset hresult
    exact ⟨last, List.mem_cons_of_mem _ hmem, hlast⟩

/-- What a round that brings bytes comes to, when it goes on from whole pieces. -/
theorem absorbs_of_round {skip n : Nat} {read : Bytes} {buffer b : ReceiveBuffer} {t t' : τ}
    {calls : List Call} {absorbed : HeadReader.Absorbed} (hread : Bytes.headEnd? read = none)
    (hlen : read.length ≤ maxHeadLength) (hskip : skip ≤ (Bytes.lines read).length)
    (hdrained : buffer.unread = []) (hfill : buffer.fill t = ⟨.ok (n + 1), (b, t'), calls⟩)
    (habsorb : (HeadReader.after read).absorb b (.ofLines ((Bytes.lines read).drop skip)) =
      absorbed) :
    ∃ bytes, calls = [.receive buffer.capacity (.ok bytes)] ∧
      HeadReader.Absorbs skip (read ++ bytes) absorbed ∧
      absorbed.buffer.capacity = buffer.capacity := by
  obtain ⟨received, hrecv, hcalls, hresult, hb⟩ := ReceiveBuffer.receive_of_fill hdrained hfill
  subst habsorb
  cases received with
  | error => cases hresult
  | ok bytes =>
    rw [hb bytes rfl]
    exact ⟨bytes, hcalls, absorbs_of_piece hread hlen hskip hrecv, HeadReader.capacity_absorb ..⟩

/-- A head that is read on from whole pieces is read with all of the room. -/
theorem Runs.offersAll {rounds : Nat} {t : τ} {p : HeadProgress}
    {o : Outcome Error (τ × HeadProgress) Unit} (h : Runs rounds t p o) {skip : Nat} (read : Bytes)
    {buffer : ReceiveBuffer} (hp : p = .after skip buffer read) (hread : Bytes.headEnd? read = none)
    (hlen : read.length ≤ maxHeadLength) (hskip : skip ≤ (Bytes.lines read).length)
    (hdrained : buffer.unread = []) : OffersAll buffer.capacity o := by
  -- On the rounds: the buffer is dry before each of them, so that it is filled from its start.
  induction h generalizing read buffer with
  | failed t t' p b e calls hfill =>
    subst hp
    obtain ⟨received, -, rfl, hresult, -⟩ := ReceiveBuffer.receive_of_fill hdrained hfill
    apply offersAll_of_once
    intro hreset
    cases received with
    | ok => cases hresult
    | error e' =>
      cases hresult
      cases hreset
      exact .inr rfl
  | ended t t' p b calls hfill =>
    subst hp
    obtain ⟨received, -, rfl, hresult, -⟩ := ReceiveBuffer.receive_of_fill hdrained hfill
    apply offersAll_of_once
    intro _
    cases received with
    | error => cases hresult
    | ok bytes =>
      have hzero : bytes.length = 0 := (Except.ok.inj hresult).symm
      exact .inl (congrArg Except.ok (List.length_eq_zero_iff.mp hzero))
  | broken t t' p b b' n e r head calls hfill habsorb =>
    subst hp
    obtain ⟨bytes, rfl, hpiece, -⟩ := absorbs_of_round hread hlen hskip hdrained hfill habsorb
    apply offersAll_of_once
    intro hreset
    -- A head that is too large is not taken for a reset.
    cases hpiece
    cases hreset
  | complete t t' p b b' n r head calls hfill habsorb =>
    subst hp
    obtain ⟨bytes, rfl, -, -⟩ := absorbs_of_round hread hlen hskip hdrained hfill habsorb
    exact offersAll_of_once nofun
  | more rounds t t' p b b' n r head calls o hfill habsorb hrest ih =>
    subst hp
    obtain ⟨bytes, rfl, hpiece, hcapacity⟩ :=
      absorbs_of_round hread hlen hskip hdrained hfill habsorb
    cases hpiece with
    | more b' hopen hle hskip' hempty =>
      have hlast : OffersAll b'.capacity o := ih (read ++ bytes) rfl hopen hle hskip' hempty
      have hcapacity : b'.capacity = buffer.capacity := hcapacity
      rw [hcapacity] at hlast
      exact hlast.after_once (.ok bytes)

end

end ObjectStream
