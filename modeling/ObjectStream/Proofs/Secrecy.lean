/-
  ObjectStream.Proofs.Secrecy

  What a secret key shows in: the signature, and nothing else. Two sessions that
  differ in secret keys only, on streams that do not look at what they are sent,
  give the same results and get to the same states; what they send is the same but
  for the signatures in the `Authorization` fields (`secret_shows_in_signature`).
-/

import ObjectStream.Proofs.RequestLines
import ObjectStream.Proofs.SideBySide

namespace ObjectStream

open Outcome

variable {τ κ : Type}

/-! ## Heads with other secrets -/

/-- Byte strings of one length that are the same outside of a signature at a place. -/
def AgreeOutside (start : Nat) (bytes bytes' : Bytes) : Prop :=
  bytes'.length = bytes.length ∧
    ∀ i, i < start ∨ start + Signature.length ≤ i → bytes'[i]? = bytes[i]?

namespace AgreeOutside

theorem refl (start : Nat) (bytes : Bytes) : AgreeOutside start bytes bytes :=
  ⟨rfl, fun _ _ => rfl⟩

theorem take {start : Nat} {bytes bytes' : Bytes} (h : AgreeOutside start bytes bytes') (n : Nat) :
    AgreeOutside start (bytes.take n) (bytes'.take n) := by
  obtain ⟨hlength, hsame⟩ := h
  refine ⟨by rw [List.length_take, List.length_take, hlength], fun i hi => ?_⟩
  rw [List.getElem?_take, List.getElem?_take, hsame i hi]

theorem of_append (front back : Bytes) {mark mark' : Bytes} (h : mark.length = Signature.length)
    (h' : mark'.length = Signature.length) :
    AgreeOutside front.length (front ++ mark ++ back) (front ++ mark' ++ back) := by
  refine ⟨by simp only [List.length_append, h, h'], fun i hi => ?_⟩
  rw [List.append_assoc, List.append_assoc]
  rcases hi with hbefore | hafter
  · rw [List.getElem?_append_left hbefore, List.getElem?_append_left hbefore]
  · -- Behind the signature the same bytes stand at the same distance.
    rw [List.getElem?_append_right (by omega), List.getElem?_append_right (by omega),
      List.getElem?_append_right (by omega), List.getElem?_append_right (by omega), h, h']

end AgreeOutside

/-- What stands before the signature in a request head, from the end of the line before. -/
def signatureLabel (accessKey : String) : Bytes :=
  Bytes.crlf ++ Utf8.encode ("Authorization: AWS " ++ accessKey ++ ":")

/-- Two request heads that are the same but for the signature. -/
structure SameButSignature (accessKey : String) (start : Nat) (head head' : Bytes) : Prop where
  agree : AgreeOutside start head head'
  label : signatureLabel accessKey <:+ head.take start
  lineEnd : Bytes.crlf <+: head.drop (start + Signature.length)

namespace RequestHead.Draft

theorem sign?_of_dated {now : Instant} {date : String} (h : now.httpDate? = some date) (d : Draft)
    (credentials : Credentials) : d.sign? now credentials = some (d.signWith date credentials) := by
  rw [sign?, h]
  rfl

theorem sign?_of_undated {now : Instant} (h : now.httpDate? = none) (d : Draft)
    (credentials : Credentials) : d.sign? now credentials = none := by
  rw [sign?, h]
  rfl

/-- The secret key changes nothing in a request head but the signature. -/
theorem encode_signWith_eq (d : Draft) (date accessKey : String) :
    ∃ front back, ∀ secretKey, (d.signWith date ⟨accessKey, secretKey⟩).encode =
      front ++ signatureLabel accessKey ++ (d.signature date secretKey).bytes ++
        (Bytes.crlf ++ back) := by
  refine ⟨Bytes.written ([d.method.word ++ " " ++ d.path ++ " HTTP/1.1", "Host: " ++ d.host,
      "Content-Type: application/octet-stream"].map Utf8.encode) ++ Utf8.encode ("Date: " ++ date),
    Bytes.written ((d.contentLength.map fun n => "Content-Length: " ++ toString n).toList.map
      Utf8.encode ++ [[]]), fun secretKey => ?_⟩
  have hline : Utf8.encode ("Authorization: AWS " ++ accessKey ++ ":" ++
        (d.signature date secretKey).text) =
      Utf8.encode ("Authorization: AWS " ++ accessKey ++ ":") ++ (d.signature date secretKey).bytes := by
    rw [Utf8.encode_append]
    exact congrArg _ (Signature.encode_text_sign _ _)
  rw [encode_signWith]
  simp only [lines, signatureLabel, List.map_append, List.map_cons, List.map_nil,
    Bytes.written_append, Bytes.written_cons, Bytes.written_nil, hline, List.append_assoc,
    List.nil_append, List.append_nil]

theorem sameButSignature (d : Draft) (date accessKey : String) :
    ∃ start, ∀ secret secret', SameButSignature accessKey start
      (d.signWith date ⟨accessKey, secret⟩).encode (d.signWith date ⟨accessKey, secret'⟩).encode := by
  obtain ⟨front, back, hencode⟩ := encode_signWith_eq d date accessKey
  have hlength : ∀ secret, (d.signature date secret).bytes.length = Signature.length :=
    fun secret => Signature.length_bytes_sign _ _
  refine ⟨(front ++ signatureLabel accessKey).length, fun secret secret' => ?_⟩
  rw [hencode, hencode]
  refine ⟨.of_append _ _ (hlength secret) (hlength secret'), ?_, ?_⟩
  · rw [List.append_assoc, List.take_left]
    exact List.suffix_append _ _
  · rw [← hlength secret, ← List.length_append, List.drop_left]
    exact List.prefix_append _ _

end RequestHead.Draft

/-! ## Sending a head -/

/-- Calls of two runs: the same call, or one that offers what is left of either head and gets the
same answer. -/
inductive Call.Matches (head head' : Bytes) : Call → Call → Prop where
  | same (call : Call) : Matches head head' call call
  | part (n : Nat) (answer : Except Error Nat) :
      Matches head head' (.send (head.drop n) answer) (.send (head'.drop n) answer)

theorem Call.Matches.eq {head : Bytes} {call call' : Call} (h : Matches head head call call') :
    call = call' := by
  cases h <;> rfl

/-- Without a head to send, the calls are the same. -/
theorem calls_eq_of_no_head {calls calls' : List Call} (h : List.Forall₂ (Call.Matches [] []) calls calls') :
    calls' = calls := by
  have heq : List.Forall₂ (· = ·) calls calls' := h.imp fun _ _ hcall => hcall.eq
  rw [List.forall₂_eq_eq_eq] at heq
  exact heq.symm

theorem length_accepted {head head' : Bytes} (hlength : head.length = head'.length)
    {calls calls' : List Call} (h : List.Forall₂ (Call.Matches head head') calls calls') :
    (calls.flatMap Call.accepted).length = (calls'.flatMap Call.accepted).length := by
  induction h with
  | nil => rfl
  | cons hcall _ ih =>
    rw [List.flatMap_cons, List.flatMap_cons, List.length_append, List.length_append, ih]
    cases hcall with
    | same => rfl
    | part n answer =>
      cases answer with
      | error e => rfl
      | ok count => simp only [Call.accepted, List.length_take, List.length_drop, hlength]

section

variable [Transport τ] {R : τ → τ → Prop}

/-- Two heads of one length go out in the same parts. -/
theorem SendsAll.agree (hR : Blind R) {head head' : Bytes} (hlength : head.length = head'.length)
    {t t' : τ} {rest : Bytes} {o : Outcome Error τ Unit} (h : SendsAll t rest o) {n : Nat}
    (hrest : rest = head.drop n) (hrel : R t t') :
    Agree R (Call.Matches head head') o (sendAll t' (head'.drop n)) := by
  have hleft : ∀ n, (head.drop n).length = (head'.drop n).length := by
    intro n
    rw [List.length_drop, List.length_drop, hlength]
  have hempty : ∀ n, head'.drop n = [] ↔ head.drop n = [] := by
    intro n
    rw [← List.length_eq_zero_iff, ← hleft, List.length_eq_zero_iff]
  -- On the run of one; the other makes the same sends, with what is left of its own head.
  induction h generalizing t' n with
  | done t =>
    rw [(hempty n).mpr hrest.symm, sendAll_nil]
    exact ⟨rfl, hrel, .nil⟩
  | failed t t₁ rest e hne hsend =>
    subst hrest
    obtain ⟨t₁', hsend', hrel'⟩ := hR.sent hrel (hleft n) hsend
    rw [sendAll_of_error (mt (hempty n).mp hne) hsend']
    exact ⟨rfl, hrel', .cons (.part n _) .nil⟩
  | nothing t t₁ rest hne hsend =>
    subst hrest
    obtain ⟨t₁', hsend', hrel'⟩ := hR.sent hrel (hleft n) hsend
    rw [sendAll_of_nothing (mt (hempty n).mp hne) hsend']
    exact ⟨rfl, hrel', .cons (.part n _) .nil⟩
  | more t t₁ rest count o hne hsend _ ih =>
    subst hrest
    obtain ⟨t₁', hsend', hrel'⟩ := hR.sent hrel (hleft n) hsend
    obtain ⟨hresult, hstate, hcalls⟩ := ih List.drop_drop hrel'
    rw [sendAll_of_some (mt (hempty n).mp hne) hsend', List.drop_drop]
    exact ⟨hresult, hstate, .cons (.part n _) hcalls⟩

theorem agree_sendAll (hR : Blind R) {head head' : Bytes} (hlength : head.length = head'.length)
    {t t' : τ} (h : R t t') :
    Agree R (Call.Matches head head') (sendAll t head) (sendAll t' head') :=
  (sendsAll_sendAll t head).agree hR hlength (n := 0) rfl h

end

namespace Connection

/-! ## Openings -/

section

variable [Transport τ] [Connector κ τ] {R : τ → τ → Prop} {Q : κ → κ → Prop}

omit [Transport τ] [Connector κ τ] in
theorem begin_withTransport (c : Connection τ) (t t' : τ) (mode : Mode) (size : Nat) :
    c.begin t' mode size = { c.begin t mode size with transport := some t' } := by
  rw [begin, begin]
  split
  · split <;> rfl
  · rfl

theorem agree_sendHead (hR : Blind R) {c c' : Connection τ} (h : Alike R c c')
    {head head' : RequestHead} (hlength : head.encode.length = head'.encode.length) :
    Agree (Alike R) (Call.Matches head.encode head'.encode) (c.sendHead head) (c'.sendHead head') := by
  rcases h.cases with ⟨ht, rfl⟩ | ⟨t, t', ht, hrel, rfl⟩
  · rw [sendHead, sendHead, ht]
    exact .fail h _
  · rw [sendHead, sendHead, ht]
    exact (agree_sendAll hR hlength hrel).mapState fun _ _ hsent => .held rfl hsent

/-- Once the streams are set up, the heads are signed and sent, and the response heads are read. -/
theorem agree_exchange (hR : Blind R) {c c' : Connection τ} (h : Alike R c c')
    (draft : RequestHead.Draft) (accessKey secret secret' : String) (mode : Mode) (now : Instant) :
    Agree (Alike R)
      (Call.Matches (((draft.sign? now ⟨accessKey, secret⟩).map RequestHead.encode).getD [])
        (((draft.sign? now ⟨accessKey, secret'⟩).map RequestHead.encode).getD []))
      (match draft.sign? now ⟨accessKey, secret⟩ with
        | none => .fail c .undatable
        | some head => (c.sendHead head).andThen fun c _ =>
          if mode = .reading then c.readResponse else .ok c ())
      (match draft.sign? now ⟨accessKey, secret'⟩ with
        | none => .fail c' .undatable
        | some head => (c'.sendHead head).andThen fun c _ =>
          if mode = .reading then c.readResponse else .ok c ()) := by
  cases hdate : now.httpDate? with
  | none =>
    rw [RequestHead.Draft.sign?_of_undated hdate, RequestHead.Draft.sign?_of_undated hdate]
    exact .fail h _
  | some date =>
    rw [RequestHead.Draft.sign?_of_dated hdate, RequestHead.Draft.sign?_of_dated hdate]
    obtain ⟨start, hsame⟩ := draft.sameButSignature date accessKey
    refine (agree_sendHead hR h (hsame secret' secret).agree.1).andThen fun c₁ c₂ _ halike => ?_
    by_cases hreading : mode = .reading
    · rw [if_pos hreading, if_pos hreading]
      exact (agree_readResponse hR halike).of_eq .same
    · rw [if_neg hreading, if_neg hreading]
      exact .ok halike ()

/-- Two connections that are alike, with makers of streams that belong together. -/
def Paired (Q : κ → κ → Prop) (R : τ → τ → Prop) (s s' : Connection τ × κ) : Prop :=
  Alike R s.1 s'.1 ∧ Q s.2 s'.2

/-- Openings with two secret keys go the same way. -/
theorem agree_openTo (hR : Blind R) (hQ : BlindMaker Q R) {c c' : Connection τ} {k k' : κ}
    (hc : Consistent c) (h : Alike R c c') (hk : Q k k') (target : Target)
    (accessKey secret secret' : String) (mode : Mode) (size : Nat) (timeouts : Timeouts)
    (now : Instant) :
    Agree (Paired Q R)
      (Call.Matches (requestBytes target ⟨accessKey, secret⟩ mode size now)
        (requestBytes target ⟨accessKey, secret'⟩ mode size now))
      (c.openTo k target ⟨accessKey, secret⟩ mode size timeouts now)
      (c'.openTo k' target ⟨accessKey, secret'⟩ mode size timeouts now) := by
  have hmode' : c'.mode = c.mode := by rw [h.same]
  rw [openTo, openTo, hmode']
  by_cases hport : target.port = 0
  · rw [if_pos hport, if_pos hport]
    exact .fail ⟨h, hk⟩ _
  rw [if_neg hport, if_neg hport]
  by_cases hopen : c.mode ≠ .unopened
  · rw [if_pos hopen, if_pos hopen]
    exact .fail ⟨h, hk⟩ _
  rw [if_neg hopen, if_neg hopen]
  cases hmethod : mode.method? with
  | none => exact .fail ⟨h, hk⟩ _
  | some method =>
    obtain ⟨hmade, hmakers⟩ := hQ.connect target.host target.port timeouts hk
    rcases hconnect : Connector.connect k target.host target.port timeouts with ⟨made, k₁⟩
    rcases hconnect' : Connector.connect k' target.host target.port timeouts with ⟨made', k₁'⟩
    rw [hconnect, hconnect'] at hmade hmakers
    dsimp only at hmade hmakers ⊢
    cases hmade with
    | failed e => exact ⟨rfl, ⟨h, hmakers⟩, .cons (.same _) .nil⟩
    | @made t t' hrel =>
      -- Without a stream there is one connection only, and the two streams make it two.
      have hnone := hc.transport_eq_none (not_not.mp hopen)
      obtain rfl : c' = c := by
        rcases h.cases with ⟨-, hsame⟩ | ⟨t, t', ht, -⟩
        · exact hsame
        · rw [hnone] at ht
          cases ht
      have hbegun : Alike R (c'.begin t mode size) (c'.begin t' mode size) := by
        rw [begin_withTransport c' t t']
        exact .held (begin_transport c' t mode size) hrel
      have hlength : (c'.begin t' mode size).bodyLength = (c'.begin t mode size).bodyLength := by
        rw [begin_withTransport c' t t']
      dsimp only
      rw [hlength, requestBytes_eq (c := c') (t := t) hmethod, requestBytes_eq (c := c') (t := t) hmethod]
      have hexchange := agree_exchange hR hbegun ⟨method, target.host, target.path,
        (c'.begin t mode size).bodyLength⟩ accessKey secret secret' mode now
      exact (hexchange.after (.cons (.same _) .nil)).mapState fun _ _ halike => ⟨halike, hmakers⟩

/-! ## Sessions -/

/-- Operations that are the same, or openings that differ in the secret key only. -/
inductive Operation.SameButSecret : Operation → Operation → Prop where
  | same (op : Operation) : SameButSecret op op
  | opening (target : Target) (accessKey secret secret' : String) (mode : Mode) (size : Nat)
      (timeouts : Timeouts) (now : Instant) :
      SameButSecret (.openTo target ⟨accessKey, secret⟩ mode size timeouts now)
        (.openTo target ⟨accessKey, secret'⟩ mode size timeouts now)

/-- The request head that an operation sends, if it opens the connection. -/
def Operation.request : Operation → Bytes
  | .openTo target credentials mode size _ now => requestBytes target credentials mode size now
  | .readResponse | .read _ | .write _ | .close => []

/-- The access key that it signs with. -/
def Operation.accessKey : Operation → String
  | .openTo _ credentials _ _ _ _ => credentials.accessKey
  | .readResponse | .read _ | .write _ | .close => ""

omit [Transport τ] [Connector κ τ] in
/-- The requests of two such operations differ in their signatures only, unless there are none. -/
theorem Operation.SameButSecret.request {op op' : Operation} (h : SameButSecret op op') :
    (op.request = [] ∧ op'.request = []) ∨
      ∃ start, SameButSignature op.accessKey start op.request op'.request := by
  have hopening : ∀ (target : Target) (accessKey secret secret' : String) (mode : Mode) (size : Nat)
      (now : Instant),
      (requestBytes target ⟨accessKey, secret⟩ mode size now = [] ∧
          requestBytes target ⟨accessKey, secret'⟩ mode size now = []) ∨
        ∃ start, SameButSignature accessKey start
          (requestBytes target ⟨accessKey, secret⟩ mode size now)
          (requestBytes target ⟨accessKey, secret'⟩ mode size now) := by
    intro target accessKey secret secret' mode size now
    rw [requestBytes, requestBytes]
    cases mode.method? with
    | none => exact .inl ⟨rfl, rfl⟩
    | some method =>
      cases hdate : now.httpDate? with
      | none =>
        dsimp only
        rw [RequestHead.Draft.sign?_of_undated hdate, RequestHead.Draft.sign?_of_undated hdate]
        exact .inl ⟨rfl, rfl⟩
      | some date =>
        dsimp only
        rw [RequestHead.Draft.sign?_of_dated hdate, RequestHead.Draft.sign?_of_dated hdate]
        obtain ⟨start, hsame⟩ := RequestHead.Draft.sameButSignature
          ⟨method, target.host, target.path, if mode = .writing ∧ 0 < size then some size else none⟩
          date accessKey
        exact .inr ⟨start, hsame secret secret'⟩
  cases h with
  | same op =>
    cases op with
    | openTo target credentials mode size timeouts now =>
      exact hopening target credentials.accessKey credentials.secretKey credentials.secretKey mode size
        now
    | readResponse | read | write | close => exact .inl ⟨rfl, rfl⟩
  | opening target accessKey secret secret' mode size timeouts now =>
    exact hopening target accessKey secret secret' mode size now

omit [Transport τ] [Connector κ τ] in
theorem Operation.SameButSecret.length_request {op op' : Operation} (h : SameButSecret op op') :
    op'.request.length = op.request.length := by
  obtain ⟨hnone, hnone'⟩ | ⟨start, hsame⟩ := h.request
  · rw [hnone, hnone']
  · exact hsame.agree.1

/-- One operation on either side. -/
theorem agree_perform (hR : Blind R) (hQ : BlindMaker Q R) {s s' : Connection τ × κ}
    (hc : Consistent s.1) (h : Paired Q R s s') {op op' : Operation} (hop : op.SameButSecret op') :
    Agree (Paired Q R) (Call.Matches op.request op'.request) (perform op s) (perform op' s') := by
  obtain ⟨halike, hmakers⟩ := h
  have hpaired : ∀ c c', Alike R c c' → Paired Q R (c, s.2) (c', s'.2) := fun _ _ h => ⟨h, hmakers⟩
  cases hop with
  | opening target accessKey secret secret' mode size timeouts now =>
    exact (agree_openTo hR hQ hc halike hmakers target accessKey secret secret' mode size timeouts
      now).map _
  | same op =>
    cases op with
    | openTo target credentials mode size timeouts now =>
      exact (agree_openTo hR hQ hc halike hmakers target credentials.accessKey credentials.secretKey
        credentials.secretKey mode size timeouts now).map _
    | readResponse => exact (((agree_readResponse hR halike).map _).mapState hpaired).of_eq .same
    | read room => exact (((agree_read hR hc halike room).map _).mapState hpaired).of_eq .same
    | write bytes => exact (((agree_write hR hc halike bytes).map _).mapState hpaired).of_eq .same
    | close => exact (((agree_close hR hc halike).map _).mapState hpaired).of_eq .same

/-- Whole sessions, by induction on the operations. -/
theorem paired_series (hR : Blind R) (hQ : BlindMaker Q R) {ops ops' : List Operation}
    (hops : List.Forall₂ Operation.SameButSecret ops ops') {s s' : Connection τ × κ}
    (hc : Consistent s.1) (h : Paired Q R s s') :
    Consistent (Outcome.last s (Outcome.series (fun s op => perform op s) s ops)).1 ∧
      Paired Q R (Outcome.last s (Outcome.series (fun s op => perform op s) s ops))
        (Outcome.last s' (Outcome.series (fun s op => perform op s) s' ops')) := by
  induction hops generalizing s s' with
  | nil => exact ⟨hc, h⟩
  | cons hop _ ih => exact ih (consistent_perform _ hc) (agree_perform hR hQ hc h hop).state

/-- Of what an opening sends, a front of its request head is accepted. -/
theorem accepted_opening_front (s : Connection τ × κ) {op : Operation} (hop : op.request ≠ []) :
    (perform op s).calls.flatMap Call.accepted <+: op.request := by
  cases op with
  | readResponse | read | write | close => exact absurd rfl hop
  | openTo target credentials mode size timeouts now =>
    by_cases hset : 0 < setups (s.1.openTo s.2 target credentials mode size timeouts now).calls
    · exact (openTo_sends s.1 s.2 target credentials mode size timeouts now hset).1
    · obtain ⟨-, hsilent⟩ := openTo_of_no_setup s.1 s.2 target credentials mode size timeouts now
        (Nat.eq_zero_of_not_pos hset)
      exact hsilent.accepted_front _

/-- A secret key shows in the signatures that are sent, and in nothing else. After two sessions that
differ in secret keys only, every operation gives the same result and the same connection, and makes
the same calls but for the request head; the two heads have one length, and so do the parts of them
that are accepted, and they differ at most in the characters of the signature. -/
theorem secret_shows_in_signature (hR : Blind R) (hQ : BlindMaker Q R) (capacity : Nat) {k k' : κ}
    (hk : Q k k') {ops ops' : List Operation} (hops : List.Forall₂ Operation.SameButSecret ops ops')
    {op op' : Operation} (hop : op.SameButSecret op') :
    let s := Outcome.last (new capacity, k)
      (Outcome.series (fun s op => perform op s) (new capacity, k) ops)
    let s' := Outcome.last (new capacity, k')
      (Outcome.series (fun s op => perform op s) (new capacity, k') ops')
    let o := perform op s
    let o' := perform op' s'
    o'.result = o.result ∧ Alike R o.state.1 o'.state.1 ∧ o'.state.1.report = o.state.1.report ∧
      List.Forall₂ (Call.Matches op.request op'.request) o.calls o'.calls ∧
      (op.request = [] → o'.calls = o.calls) ∧
      (op.request ≠ [] → ∃ start, SameButSignature op.accessKey start op.request op'.request ∧
        AgreeOutside start (o.calls.flatMap Call.accepted) (o'.calls.flatMap Call.accepted)) := by
  intro s s' o o'
  have hstart : Paired Q R (new capacity, k) (new capacity, k') := ⟨.closed rfl, hk⟩
  obtain ⟨hc, hpaired⟩ := paired_series hR hQ hops (consistent_new capacity) hstart
  have hagree : Agree (Paired Q R) (Call.Matches op.request op'.request) o o' :=
    agree_perform hR hQ hc hpaired hop
  obtain ⟨halike, hmakers⟩ := hagree.state
  have hcalls := hagree.calls
  have hlength := hop.length_request
  refine ⟨hagree.result, halike, halike.report_eq, hcalls, fun hnone => ?_, fun hsome => ?_⟩
  · rw [hnone, List.length_nil, List.length_eq_zero_iff] at hlength
    rw [hnone, hlength] at hcalls
    exact calls_eq_of_no_head hcalls
  · obtain ⟨hnone, -⟩ | ⟨start, hsame⟩ := hop.request
    · exact absurd hnone hsome
    refine ⟨start, hsame, ?_⟩
    have hsome' : op'.request ≠ [] := by
      rw [← List.length_pos_iff, hlength, List.length_pos_iff]
      exact hsome
    -- Fronts of one length of the two heads are accepted.
    have hsent := List.prefix_iff_eq_take.mp (accepted_opening_front s hsome)
    have hsent' := List.prefix_iff_eq_take.mp (accepted_opening_front s' hsome')
    rw [hsent, hsent', ← length_accepted hlength.symm hcalls]
    exact hsame.agree.take _

end

/-! ### Two uploads with two secret keys -/

/-- An upload that is signed with a secret key. -/
def openWithSecret (secret : String) : Operation :=
  .openTo ⟨"h", 80, "/o"⟩ ⟨"a", secret⟩ .writing 3 ⟨none, none⟩ ⟨0⟩

def uploadWithSecret (secret : String) : List Operation :=
  [openWithSecret secret, .write [97, 98], .close]

/-- A second upload after a first one. -/
theorem secret_shows_in_signature_of_uploads :
    let session := fun secret => Outcome.last (uploadOver {})
      (Outcome.series (fun s op => perform op s) (uploadOver {}) (uploadWithSecret secret))
    let again := fun secret => perform (openWithSecret secret) (session secret)
    (again "t").result = (again "s").result ∧
      (again "t").state.1.report = (again "s").state.1.report := by
  have hopening : (openWithSecret "s").SameButSecret (openWithSecret "t") := .opening ..
  obtain ⟨hresult, -, hreport, -⟩ := secret_shows_in_signature Script.blind Scripts.blind 0
    (Eq.refl (⟨[{}]⟩ : Scripts)) (.cons hopening (.cons (.same _) (.cons (.same _) .nil))) hopening
  exact ⟨hresult, hreport⟩

end Connection

end ObjectStream
