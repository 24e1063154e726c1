/-
  ObjectStream.Proofs.UrlOpening

  Opening the object of a URL. What is checked when a connection is opened was
  already found out when the URL was read: there is a host, a port that is not zero
  and a path that starts with a slash (`sound_of_ofUrl`). So a URL is refused before
  any call, or one stream is set up to where it points, and then all that can still
  go wrong comes from the peer and the streams (`Arises`, `openUrl_reaches`).
-/

import ObjectStream.Proofs.AddressText
import ObjectStream.Proofs.AuthorityPart
import ObjectStream.Proofs.Hearing
import ObjectStream.Proofs.ObjectPath
import ObjectStream.Proofs.UnusableStream
import ObjectStream.Proofs.WrittenPath

namespace ObjectStream

/-! ## Hosts -/

namespace Url

theorem Ipv4.text_ne_empty (addr : Ipv4) : addr.text ≠ "" := by
  intro h
  have hnumber := endsInNumber_text addr
  rw [h] at hnumber
  revert hnumber
  decide

theorem Ipv6.text_ne_empty {addr : Ipv6} (h : addr.pieces.length = 8) : addr.text ≠ "" := by
  intro hempty
  have hread := ofText?_text h
  rw [hempty] at hread
  cases hread

/-- A host that some text was read as. -/
def Host.IsRead (host : Host) : Prop :=
  ∃ text, Host.ofSpecial text = .ok host ∨ Host.ofOpaque text = .ok host

theorem Host.ipv6_of_ofBracketed {text : List Char} {host : Host} (h : ofBracketed text = .ok host) :
    ∃ addr, host = .ipv6 addr ∧ addr.pieces.length = 8 := by
  rw [ofBracketed] at h
  split at h
  · split at h
    · rename_i addr haddr
      cases h
      exact ⟨addr, rfl, Ipv6.length_ofText? haddr⟩
    · cases h
  · cases h

theorem Host.IsRead.length_pieces {addr : Ipv6} (h : (Host.ipv6 addr).IsRead) :
    addr.pieces.length = 8 := by
  obtain ⟨text, h | h⟩ := h
  · rcases ofSpecial_eq_ok h with ⟨_, _, _, _, _, ⟨_, heq⟩ | ⟨_, heq⟩⟩ | ⟨addr', heq, haddr⟩
    · cases heq
    · cases heq
    · cases heq
      exact Ipv6.length_ofText? haddr
  · rw [ofOpaque] at h
    split at h
    · obtain ⟨addr', heq, hlength⟩ := ipv6_of_ofBracketed h
      cases heq
      exact hlength
    · split at h <;> cases h

section Reading

variable {kind : SchemeKind} {text : List Char} {host : Host}

theorem isRead_of_readHost {port : Option UInt16} {left : List Char}
    (h : readHost kind text = .ok (some host, port, left)) : host.IsRead := by
  rw [readHost] at h
  dsimp only at h
  split at h
  · split at h <;> cases h
  · split at h
    all_goals
      obtain ⟨found, hread, hport⟩ := exists_of_bind_eq_ok h
      obtain ⟨_, _, hfound⟩ := exists_of_bind_eq_ok hport
      cases hfound
    · exact ⟨_, .inl hread⟩
    · exact ⟨_, .inr hread⟩

theorem isRead_of_readAuthority {a : Authority} (h : readAuthority kind text = .ok a)
    (hhost : a.host = some host) : host.IsRead := by
  rw [readAuthority] at h
  dsimp only at h
  split at h
  · cases h
  · obtain ⟨⟨found, port, left⟩, hread, h⟩ := exists_of_bind_eq_ok h
    dsimp only at h
    split at h
    · cases h
    · cases h
      obtain rfl : found = some host := hhost
      exact isRead_of_readHost hread

theorem isRead_of_readFileHost {a : Authority} (h : readFileHost text = .ok a)
    (hhost : a.host = some host) : host.IsRead := by
  rw [readFileHost] at h
  dsimp only at h
  split at h
  · cases h
    cases hhost
  · split at h
    · cases h
      cases hhost
    · obtain ⟨found, hread, h⟩ := exists_of_bind_eq_ok h
      cases h
      dsimp only at hhost
      split at hhost
      · cases hhost
      · cases hhost
        exact ⟨_, .inl hread⟩

end Reading

/-- Whatever the scheme, the host of a URL was read out of a text. -/
theorem isRead_of_parse {text : String} {url : Url} {host : Host} (h : parse text = .ok url)
    (hhost : url.host = some host) : host.IsRead := by
  rw [parse_eq] at h
  split at h
  · cases h
  · rename_i scheme rest hsplit
    split at h
    · rename_i part hpart
      cases hread : readPart (kindOf scheme) part with
      | error e =>
        rw [hread] at h
        cases h
      | ok a =>
        rw [hread] at h
        cases h
        -- The scheme can drop the host of the authority, but not change it.
        have ha : a.host = some host := by
          rcases host_withAuthority scheme a with hnone | hsame
          · rw [hnone] at hhost
            cases hhost
          · exact hsame.symm.trans hhost
        cases hkind : kindOf scheme <;> rw [hkind] at hread
        · exact isRead_of_readAuthority hread ha
        · exact isRead_of_readFileHost hread ha
        · exact isRead_of_readAuthority hread ha
    · cases h
      cases hhost

end Url

namespace ObjectAddress

theorem host_ne_empty {text : String} {address : ObjectAddress} (h : ofUrl text = .ok address) :
    address.host ≠ "" := by
  obtain ⟨url, hparse, -, -, hhost, -⟩ := ofUrl_eq_ok h
  rw [hostText?] at hhost
  split at hhost
  · cases hhost
  · split at hhost
    · cases hhost
    · rename_i name hname
      cases hhost
      intro hempty
      rw [hempty] at hname
      exact hname rfl
  · rename_i host hdomain hsome
    rw [← Option.some.inj hhost]
    cases host with
    | domain name => exact absurd rfl (hdomain name)
    | ipv4 addr => exact addr.text_ne_empty
    | ipv6 addr => exact Url.Ipv6.text_ne_empty (Url.isRead_of_parse hparse hsome).length_pieces

/-- An address with all that opening a connection asks for. -/
structure Sound (address : ObjectAddress) : Prop where
  host_ne : address.host ≠ ""
  port_pos : 1 ≤ address.port.toNat
  port_le : address.port.toNat ≤ 65535
  path_head : address.path.toList.head? = some '/'

theorem Sound.port_ne {address : ObjectAddress} (h : address.Sound) : address.port ≠ 0 := by
  intro hzero
  have hpos := h.port_pos
  rw [hzero] at hpos
  exact absurd hpos (by decide)

theorem sound_of_ofUrl {text : String} {address : ObjectAddress} (h : ofUrl text = .ok address) :
    address.Sound := by
  obtain ⟨-, -, -, -, -, -, hport, hpath, -⟩ := ofUrl_eq_ok h
  refine ⟨host_ne_empty h, ?_, Nat.le_of_lt_succ address.port.toNat_lt, ?_⟩
  · have hne : address.port.toNat ≠ 0 := fun hzero => hport (UInt16.toNat_inj.mp hzero)
    omega
  · rw [rawPath?_eq] at hpath
    obtain ⟨rest, -, hslashed⟩ := Option.map_eq_some_iff.mp hpath
    rw [← hslashed, head_slashed]

end ObjectAddress

/-! ## Where failures come from -/

namespace Error

/-- The causes that a call itself is to blame for. -/
def isMisuse : Error → Bool
  | .invalidArgument _ | .invalidOperation _ => true
  | _ => false

/-- The causes that the system gives for the failure of a stream. -/
def IsOfSystem (e : Error) : Prop := (∃ detail, e = .noHost detail) ∨ ∃ fault : Fault, e = fault.cause

theorem IsOfSystem.isMisuse {e : Error} (h : e.IsOfSystem) : e.isMisuse = false := by
  obtain ⟨detail, rfl⟩ | ⟨fault, rfl⟩ := h
  · rfl
  · rw [Fault.cause]
    split <;> rfl

end Error

namespace Call

/-- The failure of a call. -/
def error? : Call → Option Error
  | .connect _ _ _ (.error e) | .send _ (.error e) | .receive _ (.error e) | .disconnect (.error e) =>
    some e
  | _ => none

/-- Whether the call asks for a stream. -/
def isConnect : Call → Bool
  | .connect _ _ _ _ => true
  | _ => false

end Call

/-- The causes of a failure, beside some calls that were made. -/
inductive Arises (calls : List Call) : Error → Prop where
  /-- A call has failed. -/
  | call {call : Call} {e : Error} : call ∈ calls → call.error? = some e → Arises calls e
  /-- The stream was closed, or takes no bytes. -/
  | ended : Arises calls .connectionReset
  /-- The clock shows no date. -/
  | undated : Arises calls .undatable
  /-- The response tells of it, or is not one. -/
  | head {e : Error} : e.isOfHead = true → Arises calls e

theorem Arises.mono {calls more : List Call} {e : Error} (h : Arises calls e)
    (hsub : ∀ call ∈ calls, call ∈ more) : Arises more e := by
  cases h with
  | call hmem he => exact .call (hsub _ hmem) he
  | ended => exact .ended
  | undated => exact .undated
  | head he => exact .head he

/-- Of these only a call can tell of a misuse. -/
theorem Arises.exists_call {calls : List Call} {e : Error} (h : Arises calls e) (he : e.isMisuse = true) :
    ∃ call ∈ calls, call.error? = some e := by
  cases h with
  | call hmem hcall => exact ⟨_, hmem, hcall⟩
  | ended | undated => cases he
  | head hhead => cases e <;> simp [Error.isMisuse, Error.isOfHead] at he hhead

section Loops

variable {τ : Type} [Transport τ]

theorem SendsAll.arises {t : τ} {bytes : Bytes} {o : Outcome Error τ Unit} {e : Error}
    (h : SendsAll t bytes o) (he : o.result = .error e) : Arises o.calls e := by
  induction h with
  | done => cases he
  | failed t t' bytes e' =>
    cases he
    exact .call List.mem_cons_self rfl
  | nothing =>
    cases he
    exact .ended
  | more t t' bytes n o hne hsend _ ih => exact (ih he).mono fun _ => List.mem_cons_of_mem _

/-- A fill fails as its receive does. -/
theorem ReceiveBuffer.arises_fill {b b' : ReceiveBuffer} {t t' : τ} {e : Error} {calls : List Call}
    (h : b.fill t = ⟨.error e, (b', t'), calls⟩) : Arises calls e := by
  rw [fill] at h
  split at h
  · cases h
  · split at h
    · cases h
      exact .call List.mem_cons_self rfl
    · cases h

/-- What is wrong with a head that is absorbed is that it is too large. -/
theorem HeadReader.error_of_absorb {r : HeadReader} {b : ReceiveBuffer} {head : ResponseHead} {e : Error}
    (h : (r.absorb b head).result = .error e) : e = tooLarge := by
  fun_induction absorb r b head with
  | case1 => cases h
  | case2 =>
    cases h
    rfl
  | case3 => cases h
  | case4 r b head hne length hle content heq hcontent ih => exact ih h
  | case5 => cases h

theorem Runs.arises {rounds : Nat} {t : τ} {p : HeadProgress} {e : Error}
    {o : Outcome Error (τ × HeadProgress) Unit} (h : Runs rounds t p o) (he : o.result = .error e) :
    Arises o.calls e := by
  induction h with
  | failed t t' p b e' calls hfill =>
    cases he
    exact ReceiveBuffer.arises_fill hfill
  | ended =>
    cases he
    exact .ended
  | broken t t' p b b' n e' r head calls hfill habsorb =>
    cases he
    rw [HeadReader.error_of_absorb (congrArg HeadReader.Absorbed.result habsorb)]
    exact .head rfl
  | complete => cases he
  | more rounds t t' p b b' n r head calls o hfill habsorb _ ih =>
    exact (ih he).mono fun _ => List.mem_append_right _

end Loops

/-- No stream is asked for on a stream. -/
theorem Thread.isConnect {τ : Type} [Transport τ] {t t' : τ} {calls : List Call} (h : Thread t calls t') :
    ∀ call ∈ calls, call.isConnect = false := by
  induction h with
  | nil => exact nofun
  | send _ _ ih => exact List.forall_mem_cons.mpr ⟨rfl, ih⟩
  | receive _ _ ih => exact List.forall_mem_cons.mpr ⟨rfl, ih⟩

namespace Connection

variable {τ κ : Type} [Transport τ] [Connector κ τ]

/-- On a stream, reading a response head fails for what the stream or the response tell. -/
theorem arises_readResponse {c : Connection τ} {t : τ} (ht : c.transport = some t) {e : Error}
    (he : c.readResponse.result = .error e) : Arises c.readResponse.calls e := by
  have hcases := readResponse_cases c
  have hloop := runs_receiveHeadFrom_nil t ⟨c.buffer, c.reader, .empty⟩
  generalize c.readResponse = o at hcases he
  cases hcases with
  | known => cases he
  | closed _ hnone =>
    rw [ht] at hnone
    cases hnone
  | broken t₁ t' p e' calls hunheard ht₁ ho =>
    obtain rfl : t = t₁ := Option.some.inj (ht.symm.trans ht₁)
    obtain ⟨rounds, hruns⟩ := hloop
    rw [ho] at hruns
    exact hruns.arises he
  | complete => exact .head (isOfHead_of_afterHead he)

end Connection

/-! ## One stream -/

/-- One stream is asked for, first and with this target, and the log has what the maker of streams
answered; a failure comes from the streams or the response. -/
structure Reaches {τ κ : Type} [Connector κ τ] (k : κ) (target : Target) (timeouts : Timeouts)
    {σ α : Type} (o : Outcome Error σ α) : Prop where
  once : ∃ rest, o.calls = .connect target.host target.port timeouts
      ((Connector.connect k target.host target.port timeouts).1.map fun _ => ()) :: rest ∧
    ∀ call ∈ rest, call.isConnect = false
  arises : ∀ e, o.result = .error e → Arises o.calls e

/-- The answer may be a stream that was set up, or the failure to do so. -/
theorem Reaches.of_connect {τ κ : Type} [Connector κ τ] {k k' : κ} {target : Target}
    {timeouts : Timeouts} {answer : Except Error τ} {σ α : Type} {o : Outcome Error σ α}
    {rest : List Call} (hconnect : Connector.connect k target.host target.port timeouts = (answer, k'))
    (hcalls : o.calls =
      .connect target.host target.port timeouts (answer.map fun _ => ()) :: rest)
    (hrest : ∀ call ∈ rest, call.isConnect = false) (harises : ∀ e, o.result = .error e → Arises o.calls e) :
    Reaches k target timeouts o :=
  ⟨⟨rest, by rw [hcalls, hconnect], hrest⟩, harises⟩

namespace Connection

variable {τ κ : Type} [Transport τ] [Connector κ τ]

theorem isConnect_readResponse (c : Connection τ) :
    ∀ call ∈ c.readResponse.calls, call.isConnect = false := by
  intro call hcall
  have hreceive := isReceive_of_mem_readResponse c call hcall
  cases call <;> first | rfl | cases hreceive

theorem isConnect_drop (c : Connection τ) : ∀ call ∈ c.drop, call.isConnect = false := by
  rw [← close_calls, close]
  split
  · exact List.forall_mem_nil _
  · dsimp only
    split
    · exact List.forall_mem_nil _
    · exact List.forall_mem_singleton.mpr rfl

/-- A closed connection is opened over one stream, or fails with it. -/
theorem reaches_openTo {c : Connection τ} (hclosed : c.mode = .unopened) (k : κ) {target : Target}
    (hport : target.port ≠ 0) (credentials : Credentials) {mode : Mode} (hmode : mode ≠ .unopened)
    (size : Nat) (timeouts : Timeouts) (now : Instant) :
    Reaches k target timeouts (c.openTo k target credentials mode size timeouts now) := by
  have hcases := openTo_cases c k target credentials mode size timeouts now
  generalize c.openTo k target credentials mode size timeouts now = o at hcases
  -- But for the first, each case tells what the maker of streams answered.
  cases hcases with
  | refused e hwhy =>
    rcases hwhy with hzero | hopen | hnone
    · exact absurd hzero hport
    · exact absurd hclosed hopen
    · exact absurd hnone hmode
  | unreachable k' e _ hconnect =>
    refine .of_connect hconnect rfl nofun fun e' he => ?_
    cases he
    exact .call List.mem_cons_self rfl
  | undated k' t _ _ _ hconnect =>
    refine .of_connect hconnect rfl nofun fun e' he => ?_
    cases he
    exact .undated
  | unsent k' t t' method head e calls _ _ hconnect _ hsend =>
    have hsends := sendsAll_sendAll t head.encode
    rw [hsend] at hsends
    refine .of_connect hconnect rfl hsends.thread.isConnect fun e' he => ?_
    exact (hsends.arises he).mono fun _ => List.mem_cons_of_mem _
  | ready k' t t' method head calls _ _ _ hconnect _ hsend =>
    have hsends := sendsAll_sendAll t head.encode
    rw [hsend] at hsends
    exact .of_connect hconnect rfl hsends.thread.isConnect nofun
  | asked k' t t' method head calls _ _ _ hconnect _ hsend =>
    have hsends := sendsAll_sendAll t head.encode
    rw [hsend] at hsends
    refine .of_connect hconnect rfl ?_ fun e' he => ?_
    · exact List.forall_mem_append.mpr ⟨hsends.thread.isConnect, isConnect_readResponse _⟩
    · exact (arises_readResponse rfl he).mono fun _ => List.mem_append_right _

end Connection

namespace Client

variable {τ κ : Type} [Transport τ] [Connector κ τ]

/-- A connection that was not opened is taken down with its stream. -/
theorem reaches_openTarget (client : Client) (k : κ) {target : Target} {mode : Mode}
    (hsound : targetError? target mode = none) (hport : target.port ≠ 0) (hmode : mode ≠ .unopened)
    (size : Nat) (now : Instant) :
    Reaches k target client.timeouts (client.openTarget k target mode size now) := by
  obtain ⟨⟨rest, hcalls, hrest⟩, harises⟩ := Connection.reaches_openTo
    (c := Connection.new (τ := τ) client.bufferCapacity) rfl k hport client.credentials hmode size
    client.timeouts now
  rw [openTarget, hsound]
  dsimp only
  split
  · refine ⟨⟨rest, hcalls, hrest⟩, fun e he => ?_⟩
    cases he
  · rename_i e he
    refine ⟨⟨rest ++ _, by rw [hcalls]; rfl, ?_⟩, fun e' he' => ?_⟩
    · exact List.forall_mem_append.mpr ⟨hrest, Connection.isConnect_drop _⟩
    · cases he'
      exact (harises e he).mono fun _ => List.mem_append_left _

theorem targetError?_of_sound {address : ObjectAddress} (h : address.Sound) {mode : Mode}
    (hmode : mode ≠ .unopened) : targetError? ⟨address.host, address.port, address.path⟩ mode = none := by
  have hhost : ¬address.host.isEmpty = true := by
    rw [String.isEmpty_iff]
    exact h.host_ne
  rw [targetError?, if_neg hhost, if_neg (not_not_intro h.path_head), if_neg hmode]

/-- Opening the object of a URL, for reading or for writing. The URL is refused before any call, or one
stream is asked for, to the host and port that were read from it; these and the path are as opening
asks for them, and the log begins with what the maker of streams answered. So the opening is never told
of a misuse, unless a stream or its maker told of it; and those of the system never do. -/
theorem openUrl_reaches (client : Client) (k : κ) (text : String) {mode : Mode}
    (hmode : mode ≠ .unopened) (size : Nat) (now : Instant) :
    (∀ address, ObjectAddress.ofUrl text = .ok address → address.Sound) ∧
    let o : Outcome Error κ (Connection τ) := client.openUrl k text mode size now
    ((o.calls = [] ∧ ∃ message, o.result = .error (.invalidUrl message)) ∨
      ∃ address, ObjectAddress.ofUrl text = .ok address ∧
        Reaches k ⟨address.host, address.port, address.path⟩ client.timeouts o) ∧
    (∀ e, o.result = .error e → e.isMisuse = true → ∃ call ∈ o.calls, call.error? = some e) ∧
    ((∀ call ∈ o.calls, ∀ e, call.error? = some e → e.IsOfSystem) →
      ∀ e, o.result = .error e → e.isMisuse = false) := by
  refine ⟨fun _ => ObjectAddress.sound_of_ofUrl, ?_⟩
  intro o
  have hopening : (o.calls = [] ∧ ∃ message, o.result = .error (.invalidUrl message)) ∨
      ∃ address, ObjectAddress.ofUrl text = .ok address ∧
        Reaches k ⟨address.host, address.port, address.path⟩ client.timeouts o := by
    rcases client.openUrl_cases (τ := τ) k text mode size now with ⟨message, ho⟩ | ⟨address, hread, ho⟩
    · have ho : o = .fail k (.invalidUrl message) := ho
      rw [ho]
      exact .inl ⟨rfl, message, rfl⟩
    · have ho : o = client.openTarget k ⟨address.host, address.port, address.path⟩ mode size now := ho
      have hsound := ObjectAddress.sound_of_ofUrl hread
      rw [ho]
      exact .inr ⟨address, hread, reaches_openTarget client k (targetError?_of_sound hsound hmode)
        hsound.port_ne hmode size now⟩
  have hmisuse : ∀ e, o.result = .error e → e.isMisuse = true →
      ∃ call ∈ o.calls, call.error? = some e := by
    intro e he hmisuse
    rcases hopening with ⟨-, message, hrefused⟩ | ⟨address, -, hreaches⟩
    · cases hrefused.symm.trans he
      cases hmisuse
    · exact (hreaches.arises e he).exists_call hmisuse
  refine ⟨hopening, hmisuse, fun hsystem e he => ?_⟩
  -- A call would have told of the misuse, but the system knows of none.
  by_contra hnot
  obtain ⟨call, hcall, hfailed⟩ := hmisuse e he (Bool.not_eq_false _ ▸ hnot)
  exact hnot (hsystem call hcall e hfailed).isMisuse

/-- Two URLs. The first has an IPv6 host and no slash, and nobody listens there; over the stream to the
other one a response comes. -/
theorem openUrl_reaches_refused_and_heard :
    let refused : Outcome Error Scripts (Connection Script) :=
      somebody.openUrl (⟨[{ refusal := some .refused }]⟩ : Scripts) "http://[::1]:8080?x" .reading 0 ⟨0⟩
    let heard : Outcome Error Scripts (Connection Script) :=
      somebody.openUrl (⟨[{ receipts := [.data threeBytes] }]⟩ : Scripts) "http://h/o" .reading 0 ⟨0⟩
    Mode.reading ≠ .unopened ∧
      (ObjectAddress.Sound ⟨"http", "::1", 8080, "/?x"⟩ ∧ refused.result = .error .refused ∧
        ∃ rest, refused.calls = .connect "::1" 8080 Timeouts.none (.error .refused) :: rest ∧
          ∀ call ∈ rest, call.isConnect = false) ∧
      ObjectAddress.Sound ⟨"http", "h", 80, "/o"⟩ ∧
        heard.result = .ok (Connection.downloading threeBytes).state.1 ∧
        ∃ rest, heard.calls = .connect "h" 80 Timeouts.none (.ok ()) :: rest ∧
          ∀ call ∈ rest, call.isConnect = false := by
  intro refused heard
  have hreading : Mode.reading ≠ .unopened := by decide
  -- A URL that is read is reached, unless the opening tells that it is invalid.
  have hreached : ∀ (k : Scripts) {text : String} {address : ObjectAddress},
      ObjectAddress.ofUrl text = .ok address →
      (∀ message, (somebody.openUrl k text .reading 0 ⟨0⟩ :
        Outcome Error Scripts (Connection Script)).result ≠ .error (.invalidUrl message)) →
      address.Sound ∧ Reaches k ⟨address.host, address.port, address.path⟩ Timeouts.none
        (somebody.openUrl k text .reading 0 ⟨0⟩ : Outcome Error Scripts (Connection Script)) := by
    intro k text address hread hvalid
    obtain ⟨hsound, hopening, -⟩ := openUrl_reaches somebody k text hreading 0 ⟨0⟩
    rcases hopening with ⟨-, message, hinvalid⟩ | ⟨address', haddress, hreaches⟩
    · exact absurd hinvalid (hvalid message)
    · obtain rfl := Except.ok.inj (haddress.symm.trans hread)
      exact ⟨hsound _ hread, hreaches⟩
  refine ⟨hreading, ?_, ?_⟩
  · have hread : ObjectAddress.ofUrl "http://[::1]:8080?x" = .ok ⟨"http", "::1", 8080, "/?x"⟩ := by
      decide +kernel
    have hresult : refused.result = .error .refused := by
      show (somebody.openUrl _ _ _ _ _).result = _
      rw [openUrl, hread]
      rfl
    obtain ⟨hsound, hreaches⟩ := hreached _ hread fun message hinvalid => by
      cases hinvalid.symm.trans hresult
    exact ⟨hsound, hresult, hreaches.once⟩
  · have hread : ObjectAddress.ofUrl "http://h/o" = .ok ⟨"http", "h", 80, "/o"⟩ := by decide +kernel
    have hresult : heard.result = .ok (Connection.downloading threeBytes).state.1 := by
      show (somebody.openUrl _ _ _ _ _).result = _
      rw [openUrl, hread]
      exact openTarget_threeBytes
    obtain ⟨hsound, hreaches⟩ := hreached _ hread fun message hinvalid => by
      cases hinvalid.symm.trans hresult
    exact ⟨hsound, hresult, hreaches.once⟩

end Client
end ObjectStream
