/-
  ObjectStream.Proofs.HeadFirst

  What a stream has accepted at any moment of the exchange that it was set up for:
  a front of the request head, and then fronts of the buffers that were written.
  That the body comes after the whole head holds if the opening succeeded, and if
  there is no body to be written (`body_follows_head`). It does not hold after an
  opening that failed while the head was sent: the connection stays open, and a
  write goes to the stream all the same (`body_without_head`).
-/

import ObjectStream.Proofs.Lifecycle
import ObjectStream.Proofs.Upload

namespace ObjectStream

variable {τ κ : Type}

/-! ## Calls that send nothing -/

def Silent (calls : List Call) : Prop := ∀ offered answer, Call.send offered answer ∉ calls

theorem silent_nil : Silent [] := fun _ _ => List.not_mem_nil

theorem accepted_of_silent {calls : List Call} (h : Silent calls) :
    calls.flatMap Call.accepted = [] := by
  rw [List.flatMap_eq_nil_iff]
  intro call hcall
  cases call with
  | send offered answer => exact absurd hcall (h offered answer)
  | connect | receive | disconnect => rfl

theorem Silent.accepted_front {calls : List Call} (h : Silent calls) (bytes : Bytes) :
    calls.flatMap Call.accepted <+: bytes := by
  rw [accepted_of_silent h]
  exact List.nil_prefix

theorem silent_of_receives {calls : List Call} (h : ∀ call ∈ calls, call.isReceive = true) :
    Silent calls := by
  intro offered answer hmem
  have hreceive := h _ hmem
  cases hreceive

theorem Silent.append {calls more : List Call} (h : Silent calls) (hmore : Silent more) :
    Silent (calls ++ more) := by
  intro offered answer hmem
  rcases List.mem_append.mp hmem with hmem | hmem
  · exact h offered answer hmem
  · exact hmore offered answer hmem

namespace Connection

/-! ## The head of an exchange -/

/-- The bytes of the signed request head of an exchange; none if the request cannot be dated. -/
def requestBytes (target : Target) (credentials : Credentials) (mode : Mode) (size : Nat)
    (now : Instant) : Bytes :=
  match mode.method? with
  | none => []
  | some method =>
    ((RequestHead.Draft.sign? ⟨method, target.host, target.path,
      if mode = .writing ∧ 0 < size then some size else none⟩ now credentials).map
        RequestHead.encode).getD []

/-- The bytes that an operation asks to be written. -/
def Operation.buffer : Operation → Bytes
  | .write bytes => bytes
  | .openTo _ _ _ _ _ _ | .readResponse | .read _ | .close => []

/-- No body can be written on the connection. -/
def Mute (c : Connection τ) : Prop := c.mode = .writing → c.framingError? ≠ none

section

variable [Transport τ] {c : Connection τ}

theorem silent_read (hc : Consistent c) (room : Nat) : Silent (c.read room).calls := by
  rcases hc.read_cases room with ⟨e, -, hfail⟩ | ⟨-, -, hcases⟩
  · rw [hfail]
    exact silent_nil
  generalize c.read room = o at hcases
  cases hcases with
  | deferred | nothing | buffered => exact silent_nil
  | received | ended | failed | interrupted =>
    intro offered answer hmem
    cases List.mem_singleton.mp hmem

theorem silent_close (c : Connection τ) : Silent c.close.calls := by
  rw [close]
  split
  · exact silent_nil
  · dsimp only
    split
    · exact silent_nil
    · intro offered answer hmem
      cases List.mem_singleton.mp hmem

/-- A write brings a front of its buffer to the stream. -/
theorem accepted_write_front (hc : Consistent c) (bytes : Bytes) :
    (c.write bytes).calls.flatMap Call.accepted <+: bytes := by
  rcases hc.write_cases bytes with ⟨e, -, hfail⟩ | ⟨-, -, hcases⟩
  · rw [hfail]
    exact List.nil_prefix
  · exact hcases.acceptsFront.1

namespace Mute

theorem readResponse (h : Mute c) : Mute c.readResponse.state := by
  intro hmode
  rw [readResponse_mode] at hmode
  have hnot : c.mode ≠ .reading := by
    rw [hmode]
    decide
  obtain ⟨hlength, -, hchunked⟩ := readResponse_of_not_reading hnot
  rw [framingError?, hlength, hchunked]
  exact h hmode

theorem read (hc : Consistent c) (h : Mute c) (room : Nat) : Mute (c.read room).state := by
  intro hmode
  obtain ⟨hsame, -, -⟩ := read_frame hc room
  rw [hsame] at hmode
  -- A connection that is open for writing is not read from.
  have hnot : c.mode ≠ .reading := by
    rw [hmode]
    decide
  rw [read_of_not_reading hnot]
  exact h hmode

theorem write (hc : Consistent c) (h : Mute c) (bytes : Bytes) :
    ∃ e, c.write bytes = .fail c e := by
  rcases hc.write_cases bytes with ⟨e, -, hfail⟩ | ⟨hmode, hframing, -⟩
  · exact ⟨e, hfail⟩
  · exact absurd hframing (h hmode)

end Mute

end

/-! ## The opening of an exchange -/

section

variable [Transport τ] [Connector κ τ]

/-- An opening that sets no stream up changes nothing but the maker of streams. -/
theorem openTo_of_no_setup (c : Connection τ) (k : κ) (target : Target) (credentials : Credentials)
    (mode : Mode) (size : Nat) (timeouts : Timeouts) (now : Instant)
    (hnone : setups (c.openTo k target credentials mode size timeouts now).calls = 0) :
    (c.openTo k target credentials mode size timeouts now).state.1 = c ∧
      Silent (c.openTo k target credentials mode size timeouts now).calls := by
  have hcases := openTo_cases c k target credentials mode size timeouts now
  generalize c.openTo k target credentials mode size timeouts now = o at hcases hnone ⊢
  cases hcases with
  | refused e hwhy => exact ⟨rfl, silent_nil⟩
  | unreachable k' e hclosed hconnect =>
    refine ⟨rfl, fun offered answer hmem => ?_⟩
    cases List.mem_singleton.mp hmem
  | undated | unsent | ready =>
    rw [setups_connect_ok] at hnone
    cases hnone
  | asked k' t t' method head calls hclosed hreading hmethod hconnect hsign hsend =>
    have hone : setups (.connect target.host target.port timeouts (.ok ()) :: calls ++
        ({ c.begin t mode size with transport := some t' } : Connection τ).readResponse.calls) = 0 :=
      hnone
    rw [List.cons_append, setups_connect_ok] at hone
    cases hone

omit [Transport τ] [Connector κ τ] in
theorem requestBytes_eq {c : Connection τ} {t : τ} {target : Target} {credentials : Credentials}
    {mode : Mode} {size : Nat} {now : Instant} {method : Method} (hmethod : mode.method? = some method) :
    requestBytes target credentials mode size now =
      ((RequestHead.Draft.sign? ⟨method, target.host, target.path, (c.begin t mode size).bodyLength⟩
        now credentials).map RequestHead.encode).getD [] := by
  rw [requestBytes, hmethod, begin_bodyLength]

omit [Transport τ] [Connector κ τ] in
theorem mute_begin (c : Connection τ) (t t' : τ) {mode : Mode} {size : Nat}
    (hno : mode = .writing → size = 0) :
    Mute ({ c.begin t mode size with transport := some t' } : Connection τ) := by
  intro hmode hframing
  have hwriting : mode = .writing := (begin_mode c t mode size).symm.trans hmode
  have hlength := (framingError?_eq_none.mp hframing).2
  have hlength : (c.begin t mode size).bodyLength.isSome = true := hlength
  rw [begin_bodyLength, if_neg (by rw [hno hwriting]; simp)] at hlength
  cases hlength

/-- An opening sends a front of the request head, all of it if it succeeds. -/
theorem openTo_sends (c : Connection τ) (k : κ) (target : Target) (credentials : Credentials)
    (mode : Mode) (size : Nat) (timeouts : Timeouts) (now : Instant) :
    let o := c.openTo k target credentials mode size timeouts now
    let bytes := requestBytes target credentials mode size now
    0 < setups o.calls →
      o.calls.flatMap Call.accepted <+: bytes ∧
      (o.result = .ok () → o.calls.flatMap Call.accepted = bytes) ∧
      ((mode = .writing → size = 0) → Mute o.state.1) := by
  have hcases := openTo_cases c k target credentials mode size timeouts now
  -- What is signed does not depend on the stream that was set up.
  have hbytes : ∀ (t : τ) (method : Method) (head : RequestHead), mode.method? = some method →
      RequestHead.Draft.sign? ⟨method, target.host, target.path, (c.begin t mode size).bodyLength⟩
        now credentials = some head →
      requestBytes target credentials mode size now = head.encode := by
    intro t method head hmethod hsign
    rw [requestBytes_eq (c := c) (t := t) hmethod, hsign]
    rfl
  generalize c.openTo k target credentials mode size timeouts now = o at hcases ⊢
  intro o' bytes hset
  cases hcases with
  | refused e hwhy => cases hset
  | unreachable k' e hclosed hconnect => cases hset
  | undated k' t method hclosed hmethod hconnect hsign =>
    refine ⟨List.nil_prefix, nofun, fun hno => ?_⟩
    have hmute := mute_begin c t t hno
    rw [← begin_transport c t mode size] at hmute
    exact hmute
  | unsent k' t t' method head e calls hclosed hmethod hconnect hsign hsend =>
    have hfront := (sendsAll_sendAll t head.encode).accepted_front
    rw [hsend, ← hbytes t method head hmethod hsign] at hfront
    exact ⟨hfront, nofun, mute_begin c t t'⟩
  | ready k' t t' method head calls hclosed hwriting hmethod hconnect hsign hsend =>
    have hall := (sendAll_calls t head.encode).2
    rw [hsend, ← hbytes t method head hmethod hsign] at hall
    have hall : calls.flatMap Call.accepted = bytes := hall rfl
    refine ⟨?_, fun _ => hall, mute_begin c t t'⟩
    exact ⟨[], (List.append_nil _).trans hall⟩
  | asked k' t t' method head calls hclosed hreading hmethod hconnect hsign hsend =>
    have hall := (sendAll_calls t head.encode).2
    rw [hsend, ← hbytes t method head hmethod hsign] at hall
    -- The response is only received.
    have hall : (calls ++ ({ c.begin t mode size with transport := some t' } :
        Connection τ).readResponse.calls).flatMap Call.accepted = bytes := by
      rw [List.flatMap_append, accepted_readResponse, List.append_nil]
      exact hall rfl
    refine ⟨?_, fun _ => hall, fun hno => (mute_begin c t t' hno).readResponse⟩
    exact ⟨[], (List.append_nil _).trans hall⟩

/-! ## The rest of an exchange -/

theorem perform_sends {s : Connection τ × κ} (hc : Consistent s.1) (op : Operation)
    (hnone : setups (perform op s).calls = 0) :
    (perform op s).calls.flatMap Call.accepted <+: op.buffer ∧
      (Mute s.1 → Mute (perform op s).state.1 ∧ Silent (perform op s).calls) := by
  cases op with
  | openTo target credentials mode size timeouts now =>
    obtain ⟨hsame, hsilent⟩ := openTo_of_no_setup s.1 s.2 target credentials mode size timeouts now hnone
    refine ⟨hsilent.accepted_front _, fun hmute => ⟨?_, hsilent⟩⟩
    show Mute (s.1.openTo s.2 target credentials mode size timeouts now).state.1
    rw [hsame]
    exact hmute
  | readResponse =>
    have hsilent := silent_of_receives (isReceive_of_mem_readResponse s.1)
    exact ⟨hsilent.accepted_front _, fun hmute => ⟨hmute.readResponse, hsilent⟩⟩
  | read room =>
    have hsilent := silent_read hc room
    exact ⟨hsilent.accepted_front _, fun hmute => ⟨hmute.read hc room, hsilent⟩⟩
  | write bytes =>
    refine ⟨accepted_write_front hc bytes, fun hmute => ?_⟩
    obtain ⟨e, hfail⟩ := hmute.write hc bytes
    have hperform : perform (.write bytes) s = .fail s e := by
      show ((s.1.write bytes).map Reply.count).mapState (·, s.2) = _
      rw [hfail]
      rfl
    rw [hperform]
    exact ⟨hmute, silent_nil⟩
  | close =>
    have hsilent := silent_close s.1
    refine ⟨hsilent.accepted_front _, fun _ => ⟨fun hmode => ?_, hsilent⟩⟩
    -- A closed connection is not open for writing.
    cases (close_mode s.1).symm.trans hmode

/-- As long as no other stream is set up, the stream accepts fronts of what is written, and nothing
if no body can be written. -/
theorem series_sends {s : Connection τ × κ} (hc : Consistent s.1) (ops : List Operation) :
    let os := Outcome.series (fun s op => perform op s) s ops
    setups (Outcome.log os) = 0 →
      List.Forall₂ (fun op o => o.calls.flatMap Call.accepted <+: op.buffer) ops os ∧
        (Mute s.1 → Silent (Outcome.log os)) := by
  induction ops generalizing s with
  | nil => exact fun _ => ⟨.nil, fun _ => silent_nil⟩
  | cons op rest ih =>
    intro os hnone
    have hsplit : setups (perform op s).calls +
        setups (Outcome.log (Outcome.series (fun s op => perform op s) (perform op s).state rest)) = 0 := by
      rw [← setups_append]
      exact hnone
    obtain ⟨hfront, hmute⟩ := perform_sends hc op (by omega)
    obtain ⟨hfronts, hsilent⟩ := ih (consistent_perform op hc) (by omega)
    refine ⟨.cons hfront hfronts, fun h => ?_⟩
    obtain ⟨hmute', hfirst⟩ := hmute h
    exact hfirst.append (hsilent hmute')

/-! ## A whole exchange -/

/-- The exchange of a stream, from the opening that set it up until another one is set up. It accepts
a front of the request head while it is opened, all of it if the opening succeeds, and then a front
of what each operation writes. Unless a body is to be written after an opening that failed, nothing
is sent after the opening but behind the whole head, and at any moment the stream has accepted a
front of the head and the body behind it. -/
theorem body_follows_head {s : Connection τ × κ} (hs : Reachable s) (target : Target)
    (credentials : Credentials) (mode : Mode) (size : Nat) (timeouts : Timeouts) (now : Instant)
    (after : List Operation) :
    let head := requestBytes target credentials mode size now
    let opened := perform (.openTo target credentials mode size timeouts now) s
    let os := Outcome.series (fun s op => perform op s) opened.state after
    0 < setups opened.calls → setups (Outcome.log os) = 0 →
      opened.calls.flatMap Call.accepted <+: head ∧
      List.Forall₂ (fun op o => o.calls.flatMap Call.accepted <+: op.buffer) after os ∧
      (opened.result = .ok .done → opened.calls.flatMap Call.accepted = head) ∧
      ((mode = .writing → 0 < size → opened.result = .ok .done) →
        (¬Silent (Outcome.log os) → opened.calls.flatMap Call.accepted = head) ∧
        ∀ soFar, soFar <+: opened.calls ++ Outcome.log os →
          soFar.flatMap Call.accepted <+:
            head ++ (Outcome.log os).flatMap Call.accepted) := by
  intro head opened os hset hnone
  have hc := consistent_of_reachable hs
  obtain ⟨hfront, hall, hmute⟩ :=
    openTo_sends s.1 s.2 target credentials mode size timeouts now hset
  obtain ⟨hfronts, hsilent⟩ := series_sends
    (consistent_perform (.openTo target credentials mode size timeouts now) hc) after hnone
  have hdone : opened.result = .ok .done → opened.calls.flatMap Call.accepted = head := by
    intro hdone
    refine hall ?_
    have hmap : (s.1.openTo s.2 target credentials mode size timeouts now).result.map
        (fun _ => Reply.done) = .ok .done := hdone
    cases hresult : (s.1.openTo s.2 target credentials mode size timeouts now).result with
    | ok => rfl
    | error e =>
      rw [hresult] at hmap
      cases hmap
  refine ⟨hfront, hfronts, hdone, fun hwhole => ?_⟩
  -- Either the whole head was accepted, or nothing is sent after the opening.
  have hbehind : opened.calls.flatMap Call.accepted = head ∨ Silent (Outcome.log os) := by
    by_cases hbody : mode = .writing ∧ 0 < size
    · exact .inl (hdone (hwhole hbody.1 hbody.2))
    · refine .inr (hsilent (hmute fun hmode => ?_))
      exact Nat.eq_zero_of_not_pos fun hpos => hbody ⟨hmode, hpos⟩
  refine ⟨fun hsends => hbehind.resolve_right hsends, fun soFar hsoFar => ?_⟩
  -- What was accepted so far is a front of what is accepted in the whole exchange.
  have hprefix : soFar.flatMap Call.accepted <+:
      (opened.calls ++ Outcome.log os).flatMap Call.accepted := by
    obtain ⟨rest, hrest⟩ := hsoFar
    rw [← hrest, List.flatMap_append]
    exact List.prefix_append _ _
  refine hprefix.trans ?_
  rw [List.flatMap_append]
  rcases hbehind with hwholeHead | hquiet
  · exact ⟨[], by rw [List.append_nil, hwholeHead]⟩
  · rw [accepted_of_silent hquiet, List.append_nil, List.append_nil]
    exact hfront

end

/-! ### An opening that fails -/

/-- An upload over one stream, before it is opened. -/
def uploadOver (stream : Script) : Connection Script × Scripts := (new 0, ⟨[stream]⟩)

def openUpload (size : Nat) : Operation :=
  .openTo ⟨"h", 80, "/o"⟩ ⟨"a", "s"⟩ .writing size ⟨none, none⟩ ⟨0⟩

def uploadHead (size : Nat) : Bytes := requestBytes ⟨"h", 80, "/o"⟩ ⟨"a", "s"⟩ .writing size ⟨0⟩

theorem encode_put {head : RequestHead} (h : head.method = .put) :
    ∃ rest, head.encode = 80 :: 85 :: 84 :: rest := by
  rw [RequestHead.encode, h]
  exact ⟨_, rfl⟩

theorem uploadHead_eq {size : Nat} (hsize : 0 < size) {head : RequestHead}
    (hsign : RequestHead.Draft.sign? ⟨.put, "h", "/o", some size⟩ ⟨0⟩ ⟨"a", "s"⟩ = some head) :
    uploadHead size = head.encode := by
  rw [uploadHead, requestBytes, if_pos ⟨rfl, hsize⟩]
  show ((RequestHead.Draft.sign? _ _ _).map RequestHead.encode).getD [] = _
  rw [hsign]
  rfl

/-- Two of three bytes behind the head. -/
theorem body_follows_head_two_of_three :
    let opened := perform (openUpload 3) (uploadOver {})
    let os := Outcome.series (fun s op => perform op s) opened.state [.write [97, 98]]
    0 < setups opened.calls ∧ setups (Outcome.log os) = 0 ∧ opened.result = .ok .done ∧
      (opened.calls ++ Outcome.log os).flatMap Call.accepted <+: uploadHead 3 ++ [97, 98] := by
  obtain ⟨head, hsign⟩ :
      ∃ head, RequestHead.Draft.sign? ⟨.put, "h", "/o", some 3⟩ ⟨0⟩ ⟨"a", "s"⟩ = some head :=
    ⟨_, rfl⟩
  obtain ⟨calls, hsend⟩ := Script.sendAll_of_unbounded (s := {}) rfl rfl head.encode
  have hopen : perform (openUpload 3) (uploadOver {}) =
      ⟨.ok .done, ((new 0 : Connection Script).begin {} .writing 3, ⟨[]⟩),
        .connect "h" 80 ⟨none, none⟩ (.ok ()) :: (calls ++ [])⟩ := by
    show ((new 0 : Connection Script).openTo (⟨[{}]⟩ : Scripts) ⟨"h", 80, "/o"⟩ ⟨"a", "s"⟩ .writing 3
      ⟨none, none⟩ ⟨0⟩).map _ = _
    rw [openTo_of_sent rfl rfl (by decide) rfl hsign hsend]
    rfl
  intro opened os
  have hset : 0 < setups opened.calls := by
    show 0 < setups (perform (openUpload 3) (uploadOver {})).calls
    rw [hopen, setups_connect_ok]
    exact Nat.zero_lt_succ _
  have hlog : Outcome.log os = [.send [97, 98] (.ok 2)] := by
    show Outcome.log (Outcome.series (fun s op => perform op s)
      (perform (openUpload 3) (uploadOver {})).state [.write [97, 98]]) = _
    rw [hopen]
    rfl
  have hnone : setups (Outcome.log os) = 0 := by
    rw [hlog]
    rfl
  have hdone : opened.result = .ok .done := congrArg Outcome.result hopen
  obtain ⟨-, -, -, hmoment⟩ := body_follows_head (.new 0 (⟨[{}]⟩ : Scripts)) ⟨"h", 80, "/o"⟩ ⟨"a", "s"⟩
    .writing 3 ⟨none, none⟩ ⟨0⟩ [.write [97, 98]] hset hnone
  have hall := (hmoment fun _ _ => hdone).2 _ List.prefix_rfl
  refine ⟨hset, hnone, hdone, ?_⟩
  have hbody : (Outcome.log os).flatMap Call.accepted = [97, 98] := by
    rw [hlog]
    rfl
  rw [← hbody]
  exact hall

/-- The stream takes two bytes of the head, and then a send times out; a write still sends its bytes,
which are not those that the head goes on with. -/
theorem body_without_head :
    let opened := perform (openUpload 5) (uploadOver { sends := [.ok 2, .error .timeout] })
    let wrote := perform (.write [97, 98, 99]) opened.state
    opened.result = .error .timeout ∧ wrote.result = .ok (.count 3) ∧
      ¬(opened.calls ++ wrote.calls).flatMap Call.accepted <+: uploadHead 5 ++ [97, 98, 99] := by
  obtain ⟨head, hsign⟩ :
      ∃ head, RequestHead.Draft.sign? ⟨.put, "h", "/o", some 5⟩ ⟨0⟩ ⟨"a", "s"⟩ = some head :=
    ⟨_, rfl⟩
  obtain ⟨rest, hbytes⟩ := encode_put (RequestHead.eq_of_sign? hsign).1
  have hlong : 1 + 1 < head.encode.length := by
    rw [hbytes, List.length_cons, List.length_cons, List.length_cons]
    omega
  have hsend := Script.sendAll_of_failing (s := { sends := [.ok 2, .error .timeout] }) rfl hlong
  have hopen : perform (openUpload 5) (uploadOver { sends := [.ok 2, .error .timeout] }) =
      ⟨.error .timeout, ((new 0 : Connection Script).begin {} .writing 5, ⟨[]⟩),
        [.connect "h" 80 ⟨none, none⟩ (.ok ()), .send head.encode (.ok 2),
          .send (head.encode.drop 2) (.error .timeout)]⟩ := by
    show ((new 0 : Connection Script).openTo (⟨[{ sends := [.ok 2, .error .timeout] }]⟩ : Scripts)
      ⟨"h", 80, "/o"⟩ ⟨"a", "s"⟩ .writing 5 ⟨none, none⟩ ⟨0⟩).map _ = _
    rw [openTo_of_unsent rfl rfl (by decide) rfl hsign hsend]
    rfl
  dsimp only
  rw [hopen, uploadHead_eq (by decide) hsign]
  refine ⟨rfl, rfl, fun hprefix => ?_⟩
  -- The third byte that was accepted is the first of the body, and the head goes on with a `T`.
  have hprefix : head.encode.take 2 ++ [97, 98, 99] <+: head.encode ++ [97, 98, 99] := hprefix
  rw [hbytes] at hprefix
  obtain ⟨-, hprefix⟩ := List.cons_prefix_cons.mp hprefix
  obtain ⟨-, hprefix⟩ := List.cons_prefix_cons.mp hprefix
  obtain ⟨hbyte, -⟩ := List.cons_prefix_cons.mp hprefix
  exact absurd hbyte (by decide)

end Connection
end ObjectStream
