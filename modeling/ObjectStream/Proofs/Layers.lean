/-
  ObjectStream.Proofs.Layers

  Settings in layers. The variables of the environment are looked at one after the
  other (`withEnvironment_eq`), and each replaces one setting by what its text says;
  at the first text that says nothing, all that is left stays as it was (`Applies`).
  So a setting of a client comes from the environment or else from the file, each on
  its own, and the capacity of the buffers from the file alone (`load_layers`).
-/

import ObjectStream.Proofs.ObjectUrl
import ObjectStream.Proofs.Reopening
import ObjectStream.Proofs.UnusableStream
import ObjectStream.Settings.File

namespace ObjectStream

/-! ## Numbers with white space around them -/

namespace Blank

variable {front core back : List Char}

/-- White space comes off a text up to a character that is none, at both ends. -/
theorem trim_append (hfront : ∀ c ∈ front, isBlank c = true) (hne : core ≠ [])
    (hcore : ∀ c ∈ core, isBlank c = false) (hback : ∀ c ∈ back, isBlank c = true) :
    trim (front ++ core ++ back) = core := by
  have hstart : ∀ c ∈ (core ++ back).head?, isBlank c = false := by
    intro c hc
    rw [List.head?_append_of_ne_nil _ hne] at hc
    exact hcore c (List.mem_of_mem_head? hc)
  have hend : ∀ c ∈ core.reverse.head?, isBlank c = false := fun c hc =>
    hcore c (List.mem_reverse.mp (List.mem_of_mem_head? hc))
  rw [trim, List.append_assoc, dropWhile_append_stop hfront hstart, List.reverse_append,
    dropWhile_append_stop (fun c hc => hback c (List.mem_reverse.mp hc)) hend, List.reverse_reverse]

/-- What comes off a text is white space. -/
theorem exists_of_trim (text : List Char) :
    ∃ front back, text = front ++ trim text ++ back ∧ (∀ c ∈ front, isBlank c = true) ∧
      ∀ c ∈ back, isBlank c = true := by
  refine ⟨text.takeWhile isBlank, ((text.dropWhile isBlank).reverse.takeWhile isBlank).reverse, ?_,
    fun c hc => List.mem_takeWhile_imp hc,
    fun c hc => List.mem_takeWhile_imp (List.mem_reverse.mp hc)⟩
  rw [List.append_assoc, trim, ← List.reverse_append, List.takeWhile_append_dropWhile,
    List.reverse_reverse, List.takeWhile_append_dropWhile]

end Blank

namespace Number

theorem isBlank_of_isDigit {c : Char} (h : IsDigit c) : Blank.isBlank c = false := by
  have hlow : 48 ≤ c.toNat := UInt32.le_iff_toNat_le.mp h.1
  have hhigh : c.toNat ≤ 57 := UInt32.le_iff_toNat_le.mp h.2
  simp only [Blank.isBlank, CodePoints.contains, Blank.points, List.any_cons, List.any_nil,
    Bool.or_false, Bool.or_eq_false_iff, Bool.and_eq_false_iff, decide_eq_false_iff_not]
  omega

/-- A number has no white space in it. -/
theorem Numeral.isBlank {text : String} {n : Nat} (h : Numeral text n) :
    text.toList ≠ [] ∧ ∀ c ∈ text.toList, Blank.isBlank c = false := by
  obtain ⟨digits, htext, hne, hdigits, -, -⟩ := h
  rcases htext with htext | htext
  · rw [htext]
    exact ⟨hne, fun c hc => isBlank_of_isDigit (hdigits c hc)⟩
  · rw [htext]
    refine ⟨List.cons_ne_nil _ _, fun c hc => ?_⟩
    rcases List.mem_cons.mp hc with rfl | hc
    · decide
    · exact isBlank_of_isDigit (hdigits c hc)

end Number

namespace Settings

/-- The number of milliseconds that a text denotes, any white space around it apart. -/
def Denotes (text : String) (n : Nat) : Prop :=
  ∃ front numeral back : String, text = front ++ numeral ++ back ∧ Number.Numeral numeral n ∧
    (∀ c ∈ front.toList, Blank.isBlank c = true) ∧ ∀ c ∈ back.toList, Blank.isBlank c = true

theorem denotes_iff {text : String} {n : Nat} :
    Denotes text n ↔ Number.unsigned? Number.limit64 (Blank.trim text.toList) = some n := by
  have hword : Number.unsigned? Number.limit64 (Blank.trim text.toList) =
      Number.word64? (String.ofList (Blank.trim text.toList)) := by
    rw [Number.word64?, String.toList_ofList]
  rw [hword, Number.word64?_eq_some]
  constructor
  · rintro ⟨front, numeral, back, rfl, hnumeral, hfront, hback⟩
    obtain ⟨hne, hcore⟩ := hnumeral.isBlank
    rwa [String.toList_append, String.toList_append, Blank.trim_append hfront hne hcore hback,
      String.ofList_toList]
  · intro hnumeral
    obtain ⟨front, back, htext, hfront, hback⟩ := Blank.exists_of_trim text.toList
    refine ⟨String.ofList front, _, String.ofList back, ?_, hnumeral, ?_, ?_⟩
    · rw [← String.ofList_append, ← String.ofList_append, ← htext, String.ofList_toList]
    · rwa [String.toList_ofList]
    · rwa [String.toList_ofList]

/-- The error for a text that denotes no number. -/
def notNumber (name text : String) : Error :=
  .invalidArgument (name ++ " is not a number: " ++ Quoted.encode text)

theorem milliseconds_of_denotes {text : String} {n : Nat} (h : Denotes text n) (name : String) :
    milliseconds name text = .ok n := by
  rw [milliseconds, denotes_iff.mp h]

theorem milliseconds_of_not_denotes {text : String} (h : ∀ n, ¬Denotes text n) (name : String) :
    milliseconds name text = .error (notNumber name text) := by
  have hnone : Number.unsigned? Number.limit64 (Blank.trim text.toList) = none := by
    rw [Option.eq_none_iff_forall_ne_some]
    exact fun n hn => h n (denotes_iff.mpr hn)
  rw [milliseconds, hnone]
  rfl

/-! ## One variable -/

/-- What a setting can be. -/
inductive Entry where
  | url (endpoint : Option String)
  | key (text : String)
  | limit (milliseconds : Nat)

/-- The settings that the environment can replace. -/
inductive Override where
  | endpoint | accessKey | secretKey | connectTimeout | socketTimeout
deriving DecidableEq, Repr

namespace Override

/-- In the order in which their variables are looked at. -/
def all : List Override := [endpoint, accessKey, secretKey, connectTimeout, socketTimeout]

/-- The variable of the setting. -/
def name : Override → String
  | endpoint => endpointVariable
  | accessKey => accessKeyVariable
  | secretKey => secretKeyVariable
  | connectTimeout => connectTimeoutVariable
  | socketTimeout => socketTimeoutVariable

/-- What the setting is. -/
def entry : Override → Settings → Entry
  | endpoint, s => .url s.endpoint
  | accessKey, s => .key s.accessKey
  | secretKey, s => .key s.secretKey
  | connectTimeout, s => .limit s.connectTimeout
  | socketTimeout, s => .limit s.socketTimeout

/-- What a text means the setting to be. -/
def Means : Override → String → Entry → Prop
  | endpoint, text, e => e = .url (some text)
  | accessKey, text, e | secretKey, text, e => e = .key text
  | connectTimeout, text, e | socketTimeout, text, e => ∃ n, Denotes text n ∧ e = .limit n

/-- The settings with one that a text replaces. -/
def set (o : Override) (text : String) (s : Settings) : Except Error Settings :=
  match o with
  | endpoint => .ok { s with endpoint := some text }
  | accessKey => .ok { s with accessKey := text }
  | secretKey => .ok { s with secretKey := text }
  | connectTimeout => (milliseconds o.name text).map fun n => { s with connectTimeout := n }
  | socketTimeout => (milliseconds o.name text).map fun n => { s with socketTimeout := n }

/-- Settings that differ in one entry at most. -/
structure Alters (o : Override) (s s' : Settings) : Prop where
  entry_eq : ∀ o' ≠ o, o'.entry s' = o'.entry s
  bufferSize_eq : s'.bufferSize = s.bufferSize

/-- What replacing a setting comes to. -/
inductive Sets (o : Override) (text : String) (s : Settings) : Except Error Settings → Prop where
  | legible {s' : Settings} : o.Means text (o.entry s') → Alters o s s' → Sets o text s (.ok s')
  | illegible : (∀ e, ¬o.Means text e) → Sets o text s (.error (notNumber o.name text))

theorem sets_set (o : Override) (text : String) (s : Settings) : Sets o text s (o.set text s) := by
  cases o with
  | endpoint | accessKey | secretKey =>
    refine .legible rfl ⟨fun o' ho' => ?_, rfl⟩
    cases o' <;> first | rfl | exact absurd rfl ho'
  | connectTimeout | socketTimeout =>
    rw [set]
    by_cases hdenotes : ∃ n, Denotes text n
    · obtain ⟨n, hn⟩ := hdenotes
      rw [milliseconds_of_denotes hn]
      refine .legible ⟨n, hn, rfl⟩ ⟨fun o' ho' => ?_, rfl⟩
      cases o' <;> first | rfl | exact absurd rfl ho'
    · have hno : ∀ n, ¬Denotes text n := fun n hn => hdenotes ⟨n, hn⟩
      rw [milliseconds_of_not_denotes hno]
      exact .illegible fun e ⟨n, hn, _⟩ => hno n hn

end Override

/-! ## All variables -/

/-- Looks at the variables of some settings, one after the other. -/
def override (env : Environment) (s : Settings) : List Override → Except Error Unit × Settings
  | [] => (.ok (), s)
  | o :: rest =>
    match env o.name with
    | none => override env s rest
    | some text =>
      match o.set text s with
      | .error e => (.error e, s)
      | .ok s' => override env s' rest

theorem mapM_text (text? : Option String) (read : String → Except Error Nat) :
    text?.mapM read = match text? with
      | none => .ok none
      | some text => (read text).map some := by
  cases text? with
  | none =>
    rw [Option.mapM_none]
    rfl
  | some text =>
    rw [Option.mapM_some]
    rfl

theorem withEnvironment_eq (s : Settings) (env : Environment) :
    s.withEnvironment env = override env s Override.all := by
  have htexts : ∀ rest, override env s (.endpoint :: .accessKey :: .secretKey :: rest) =
      override env (s.withTexts env) rest := by
    intro rest
    simp only [override, Override.name, Override.set, withTexts]
    cases env endpointVariable <;> cases env accessKeyVariable <;> cases env secretKeyVariable <;> rfl
  rw [Override.all, htexts, withEnvironment]
  -- Of the times, the second is looked at only if the first could be read.
  generalize s.withTexts env = s'
  simp only [override, Override.name, Override.set, mapM_text]
  cases env connectTimeoutVariable with
  | none =>
    cases env socketTimeoutVariable with
    | none => rfl
    | some socket =>
      dsimp only
      cases milliseconds socketTimeoutVariable socket <;> rfl
  | some connect =>
    dsimp only
    cases milliseconds connectTimeoutVariable connect with
    | error e => rfl
    | ok n =>
      cases env socketTimeoutVariable with
      | none => rfl
      | some socket =>
        dsimp only [Except.map]
        cases milliseconds socketTimeoutVariable socket <;> rfl

/-- A setting is what its variable says, or as it was if that is not set. -/
def Taken (env : Environment) (s s' : Settings) (o : Override) : Prop :=
  match env o.name with
  | none => o.entry s' = o.entry s
  | some text => o.Means text (o.entry s')

/-- What looking at the variables of some settings comes to. -/
inductive Applies (env : Environment) (s : Settings) (os : List Override) :
    Except Error Unit × Settings → Prop where
  /-- All of them are taken. -/
  | complete {s' : Settings} : (∀ o ∈ os, Taken env s s' o) → (∀ o ∉ os, o.entry s' = o.entry s) →
      s'.bufferSize = s.bufferSize → Applies env s os (.ok (), s')
  /-- One is set to a text that says nothing, and only those before it are taken. -/
  | stopped {s' : Settings} (before : List Override) (o : Override) (after : List Override)
      (text : String) : os = before ++ o :: after → env o.name = some text →
      (∀ e, ¬o.Means text e) → (∀ o' ∈ before, Taken env s s' o') →
      (∀ o' ∉ before, o'.entry s' = o'.entry s) → s'.bufferSize = s.bufferSize →
      Applies env s os (.error (notNumber o.name text), s')

section

variable {env : Environment} {s s' : Settings} {o : Override} {rest : List Override}

theorem Taken.of_alters {s'' : Settings} {o' : Override} (halters : o.Alters s s') (hne : o' ≠ o)
    (h : Taken env s' s'' o') : Taken env s s'' o' := by
  unfold Taken at h ⊢
  rwa [halters.entry_eq o' hne] at h

theorem Taken.congr {s'' : Settings} (h : Taken env s s' o) (hentry : o.entry s'' = o.entry s') :
    Taken env s s'' o := by
  unfold Taken at h ⊢
  rwa [hentry]

/-- Once a setting is taken, the variables of the others do not change it. -/
theorem Applies.cons {out : Except Error Unit × Settings} (htaken : Taken env s s' o)
    (halters : o.Alters s s') (hnot : o ∉ rest) (h : Applies env s' rest out) :
    Applies env s (o :: rest) out := by
  -- The first of the settings stays as it was taken, and the others are judged from there.
  have hall : ∀ {before : List Override} {s'' : Settings}, o ∉ before →
      (∀ o' ∈ before, Taken env s' s'' o') → (∀ o' ∉ before, o'.entry s'' = o'.entry s') →
      (∀ o' ∈ o :: before, Taken env s s'' o') ∧ ∀ o' ∉ o :: before, o'.entry s'' = o'.entry s := by
    intro before s'' hnot hbefore hothers
    refine ⟨fun o' ho' => ?_, fun o' ho' => ?_⟩
    · rcases List.mem_cons.mp ho' with rfl | ho'
      · exact htaken.congr (hothers o' hnot)
      · exact (hbefore o' ho').of_alters halters fun heq => hnot (heq ▸ ho')
    · rw [List.mem_cons, not_or] at ho'
      rw [hothers o' ho'.2, halters.entry_eq o' ho'.1]
  cases h with
  | complete htakens hothers hsize =>
    obtain ⟨htakens, hothers⟩ := hall hnot htakens hothers
    exact .complete htakens hothers (hsize.trans halters.bufferSize_eq)
  | stopped before failing after text hrest hset hno htakens hothers hsize =>
    subst hrest
    obtain ⟨htakens, hothers⟩ := hall (fun hmem => hnot (List.mem_append_left _ hmem)) htakens hothers
    exact .stopped (o :: before) failing after text rfl hset hno htakens hothers
      (hsize.trans halters.bufferSize_eq)

theorem applies_override (os : List Override) (hnodup : os.Nodup) (s : Settings) :
    Applies env s os (override env s os) := by
  -- On the settings that are left; none of them comes again, so what was taken stays.
  induction os generalizing s with
  | nil => exact .complete nofun (fun _ _ => rfl) rfl
  | cons o rest ih =>
    rw [List.nodup_cons] at hnodup
    rw [override]
    cases hset : env o.name with
    | none =>
      have htaken : Taken env s s o := by
        rw [Taken, hset]
      exact (ih hnodup.2 s).cons htaken ⟨fun _ _ => rfl, rfl⟩ hnodup.1
    | some text =>
      have hsets := o.sets_set text s
      dsimp only
      generalize o.set text s = x at hsets
      cases hsets with
      | legible hlegible halters =>
        refine (ih hnodup.2 _).cons ?_ halters hnodup.1
        rw [Taken, hset]
        exact hlegible
      | illegible hno =>
        exact .stopped [] o rest text rfl hset hno nofun (fun _ _ => rfl) rfl

end

theorem applies_withEnvironment (s : Settings) (env : Environment) :
    Applies env s Override.all (s.withEnvironment env) := by
  rw [withEnvironment_eq]
  exact applies_override Override.all (by decide) s

/-! ## All layers -/

namespace Override

theorem mem_all (o : Override) : o ∈ all := by cases o <;> decide

theorem not_means_iff {o : Override} {text : String} :
    (∀ e, ¬o.Means text e) ↔ (o = connectTimeout ∨ o = socketTimeout) ∧ ∀ n, ¬Denotes text n := by
  cases o with
  | endpoint | accessKey | secretKey =>
    exact ⟨fun h => absurd rfl (h _), fun h => by rcases h.1 with h | h <;> cases h⟩
  | connectTimeout | socketTimeout =>
    exact ⟨fun h => ⟨by decide, fun n hn => h _ ⟨n, hn, rfl⟩⟩, fun h e ⟨n, hn, _⟩ => h.2 n hn⟩

theorem means_unique {o : Override} {text : String} {e e' : Entry} (h : o.Means text e)
    (h' : o.Means text e') : e = e' := by
  cases o with
  | endpoint | accessKey | secretKey => exact h.trans h'.symm
  | connectTimeout | socketTimeout =>
    obtain ⟨n, hn, rfl⟩ := h
    obtain ⟨n', hn', rfl⟩ := h'
    rw [Option.some.inj ((denotes_iff.mp hn).symm.trans (denotes_iff.mp hn'))]

end Override

/-- Settings are made of their entries and the size of the buffers. -/
theorem ext_entry {s s' : Settings} (hentry : ∀ o : Override, o.entry s = o.entry s')
    (hsize : s.bufferSize = s'.bufferSize) : s = s' := by
  obtain ⟨endpoint, accessKey, secretKey, connectTimeout, socketTimeout, bufferSize⟩ := s
  obtain rfl := Entry.url.inj (hentry .endpoint)
  obtain rfl := Entry.key.inj (hentry .accessKey)
  obtain rfl := Entry.key.inj (hentry .secretKey)
  obtain rfl := Entry.limit.inj (hentry .connectTimeout)
  obtain rfl := Entry.limit.inj (hentry .socketTimeout)
  obtain rfl : bufferSize = s'.bufferSize := hsize
  rfl

/-- What the environment is laid over: the file that it names, or the defaults. -/
def FileLayer (contents : Files) (env : Environment) (file : Settings) : Prop :=
  match env fileVariable with
  | none => file = {}
  | some path => ofFile contents path = .ok file

/-- Settings in which the environment is laid over a file, and that a client can work with. -/
structure Layered (env : Environment) (file s : Settings) : Prop where
  taken : ∀ o : Override, Taken env file s o
  bufferSize_eq : s.bufferSize = file.bufferSize
  minCapacity_le : ReceiveBuffer.minCapacity ≤ s.bufferSize
  endpoint : ∀ url, s.endpoint = some url → ∃ address, ObjectAddress.ofUrl url = .ok address

theorem check_eq_ok {s : Settings} :
    s.check = .ok () ↔ ReceiveBuffer.minCapacity ≤ s.bufferSize ∧
      ∀ url, s.endpoint = some url → ∃ address, ObjectAddress.ofUrl url = .ok address := by
  refine ⟨fun h => ⟨?_, fun url => exists_of_check h⟩, fun ⟨hsize, hendpoint⟩ => ?_⟩
  · rw [check] at h
    split at h
    · cases h
    · omega
  · rw [check, if_neg (Nat.not_lt.mpr hsize)]
    cases hurl : s.endpoint with
    | none => rfl
    | some url =>
      obtain ⟨address, haddress⟩ := hendpoint url hurl
      dsimp only
      rw [haddress]
      rfl

/-- A text gives settings if it has a record of them, and if a client can work with these. -/
theorem ofYaml_eq_ok {text : String} {s : Settings} :
    ofYaml text = .ok s ↔ ∃ given, (Yaml.Document.ofText text).record Given.recordType {} = .ok given ∧
      s = given.applyTo {} ∧ s.check = .ok () := by
  -- Not rewritten: closing the equivalence by reflexivity would run the reader of YAML.
  unfold ofYaml
  cases hrecord : (Yaml.Document.ofText text).record Given.recordType {} with
  | error problem =>
    refine ⟨nofun, ?_⟩
    rintro ⟨given, hgiven, -⟩
    cases hgiven
  | ok given =>
    constructor
    · intro h
      obtain ⟨⟨⟩, hcheck, hs⟩ := exists_of_bind_eq_ok h
      obtain rfl : given.applyTo {} = s := Except.ok.inj hs
      exact ⟨given, rfl, rfl, hcheck⟩
    · rintro ⟨given', hgiven, rfl, hcheck⟩
      cases hgiven
      dsimp only
      rw [hcheck]
      rfl

/-- A file gives settings if its bytes are a text that gives them. -/
theorem ofFile_eq_ok {contents : Files} {path : String} {s : Settings} :
    ofFile contents path = .ok s ↔ ∃ bytes text, contents path = .ok bytes ∧
      Utf8.decode? bytes = some text ∧ ofYaml text = .ok s := by
  rw [ofFile]
  dsimp only
  cases hread : contents path with
  | error reason =>
    refine ⟨nofun, ?_⟩
    rintro ⟨bytes, text, hbytes, -⟩
    cases hbytes
  | ok bytes =>
    dsimp only
    cases hdecode : Utf8.decode? bytes with
    | none =>
      refine ⟨nofun, ?_⟩
      rintro ⟨bytes', text, hbytes, htext, -⟩
      cases hbytes
      cases hdecode.symm.trans htext
    | some text =>
      refine ⟨fun h => ⟨bytes, text, rfl, hdecode, h⟩, ?_⟩
      rintro ⟨bytes', text', hbytes, htext, h⟩
      cases hbytes
      cases hdecode.symm.trans htext
      exact h

/-- The environment can be laid over a file in one way. -/
theorem withEnvironment_eq_ok {env : Environment} {file s : Settings} :
    file.withEnvironment env = (.ok (), s) ↔
      (∀ o, Taken env file s o) ∧ s.bufferSize = file.bufferSize := by
  have happlies := applies_withEnvironment file env
  generalize file.withEnvironment env = out at happlies
  cases happlies with
  | @complete s' htaken hothers hsize =>
    constructor
    · rintro h
      cases h
      exact ⟨fun o => htaken o o.mem_all, hsize⟩
    · rintro ⟨htaken', hsize'⟩
      rw [Prod.mk.injEq]
      refine ⟨rfl, ext_entry (fun o => ?_) (hsize.trans hsize'.symm)⟩
      have h := htaken o o.mem_all
      have h' := htaken' o
      unfold Taken at h h'
      split at h
      · rename_i hset
        rw [hset] at h'
        exact h.trans h'.symm
      · rename_i text hset
        rw [hset] at h'
        exact Override.means_unique h h'
  | stopped before o after text hall hset hno =>
    constructor
    · rintro h
      cases h
    · rintro ⟨htaken, -⟩
      have h := htaken o
      rw [Taken, hset] at h
      exact absurd h (hno _)

/-- What becomes of a file once the environment is laid over it. -/
theorem checked_eq_ok {env : Environment} {file s : Settings} :
    (do
      let (result, s) := file.withEnvironment env
      result
      s.check
      return s : Except Error Settings) = .ok s ↔ Layered env file s := by
  constructor
  · intro h
    rcases hout : file.withEnvironment env with ⟨result, s'⟩
    rw [hout] at h
    have h : (result >>= fun _ => s'.check >>= fun _ => pure s') = .ok s := h
    obtain ⟨⟨⟩, hresult, hrest⟩ := exists_of_bind_eq_ok h
    obtain ⟨⟨⟩, hcheck, hs⟩ := exists_of_bind_eq_ok hrest
    obtain rfl : s' = s := Except.ok.inj hs
    rw [hresult] at hout
    obtain ⟨htaken, hsize⟩ := withEnvironment_eq_ok.mp hout
    obtain ⟨hmin, hendpoint⟩ := check_eq_ok.mp hcheck
    exact ⟨htaken, hsize, hmin, hendpoint⟩
  · rintro ⟨htaken, hsize, hmin, hendpoint⟩
    rw [withEnvironment_eq_ok.mpr ⟨htaken, hsize⟩]
    show (s.check >>= fun _ => pure s) = .ok s
    rw [check_eq_ok.mpr ⟨hmin, hendpoint⟩]
    rfl

theorem load_eq_ok {contents : Files} {env : Environment} {s : Settings} :
    load contents env = .ok s ↔ ∃ file, FileLayer contents env file ∧ Layered env file s := by
  rw [load]
  unfold FileLayer
  cases env fileVariable with
  | none =>
    refine ⟨fun h => ⟨_, rfl, checked_eq_ok.mp h⟩, ?_⟩
    rintro ⟨file, rfl, h⟩
    exact checked_eq_ok.mpr h
  | some path =>
    constructor
    · intro h
      obtain ⟨file, hfile, h⟩ := exists_of_bind_eq_ok h
      exact ⟨file, hfile, checked_eq_ok.mp h⟩
    · rintro ⟨file, hfile, h⟩
      dsimp only
      rw [hfile]
      exact checked_eq_ok.mpr h

end Settings

/-! ## Connections -/

namespace Client

variable {τ κ : Type} [Transport τ] [Connector κ τ]

/-- The connections that a client opens, after anything that is done with them. -/
inductive Holds (client : Client) (κ : Type) [Connector κ τ] : Connection τ → Prop where
  | target {k : κ} {target : Target} {mode : Mode} {size : Nat} {now : Instant} {c : Connection τ} :
      (client.openTarget k target mode size now).result = .ok c → Holds client κ c
  | url {k : κ} {url : String} {mode : Mode} {size : Nat} {now : Instant} {c : Connection τ} :
      (client.openUrl k url mode size now).result = .ok c → Holds client κ c
  | used (u : Use) {c : Connection τ} : Holds client κ c → Holds client κ (use u c).state
  | performed (op : Connection.Operation) (k : κ) {c : Connection τ} : Holds client κ c →
      Holds client κ (Connection.perform op (c, k)).state.1

/-- A connection with a buffer of a certain capacity. -/
structure Sized (capacity : Nat) (c : Connection τ) : Prop where
  consistent : c.Consistent
  capacity_eq : c.buffer.capacity = capacity

theorem sized_openTarget {client : Client} {k : κ} {target : Target} {mode : Mode} {size : Nat}
    {now : Instant} {c : Connection τ}
    (h : (client.openTarget k target mode size now).result = .ok c) :
    Sized (max client.bufferCapacity ReceiveBuffer.minCapacity) c := by
  obtain ⟨-, -, rfl⟩ := openTarget_eq_ok.mp h
  exact ⟨Connection.consistent_openTo (Connection.consistent_new _) k target _ mode size _ now,
    Connection.capacity_openTo _ k target _ mode size _ now⟩

theorem Sized.use {capacity : Nat} {c : Connection τ} (h : Sized capacity c) (u : Use) :
    Sized capacity (Client.use u c).state :=
  use_keeps (fun _ room h => ⟨Connection.consistent_read h.consistent room,
      (Connection.capacity_read h.consistent room).trans h.capacity_eq⟩)
    (fun _ bytes h => ⟨Connection.consistent_write h.consistent bytes,
      (Connection.capacity_write h.consistent bytes).trans h.capacity_eq⟩) u c h

theorem Holds.sized {client : Client} {c : Connection τ} (h : client.Holds κ c) :
    Sized (max client.bufferCapacity ReceiveBuffer.minCapacity) c := by
  induction h with
  | target h => exact sized_openTarget h
  | url h =>
    obtain ⟨target, htarget⟩ := openTarget_of_openUrl h
    exact sized_openTarget htarget
  | used u _ ih => exact ih.use u
  | performed op k _ ih =>
    exact ⟨Connection.consistent_perform op ih.consistent,
      (Connection.capacity_perform op ih.consistent).trans ih.capacity_eq⟩

end Client

namespace Settings

theorem bufferCapacity_of_client {s : Settings} {client : Client} (h : s.client = .ok client) :
    client.bufferCapacity = s.bufferSize := by
  rw [Settings.client] at h
  cases hcredentials : s.credentials with
  | error e =>
    rw [hcredentials] at h
    cases h
  | ok credentials =>
    rw [hcredentials] at h
    cases h
    rfl

/-- Loading succeeds just with the settings in which each setting of the environment replaces the one of
the file, and no other, if a client can work with them; a client can already work with those of the
file, which are the defaults but for what its text gives. All connections of their client have buffers of
the size that the file gives. Whatever they are laid over, the variables fail just for a time that
is no number; then those before the first such are taken, and all else stays as it was. -/
theorem load_layers (contents : Files) (env : Environment) :
    (∀ s, load contents env = .ok s ↔ ∃ file, FileLayer contents env file ∧ Layered env file s) ∧
    (∀ path file, ofFile contents path = .ok file ↔ ∃ bytes text given, contents path = .ok bytes ∧
      Utf8.decode? bytes = some text ∧
      (Yaml.Document.ofText text).record Given.recordType {} = .ok given ∧ file = given.applyTo {} ∧
      ReceiveBuffer.minCapacity ≤ file.bufferSize ∧
      ∀ url, file.endpoint = some url → ∃ address, ObjectAddress.ofUrl url = .ok address) ∧
    (∀ s client, load contents env = .ok s → s.client = .ok client →
      ∀ (τ κ : Type) [Transport τ] [Connector κ τ] (c : Connection τ), client.Holds κ c →
        c.buffer.capacity = s.bufferSize) ∧
    ∀ s : Settings,
      ((∃ e, (s.withEnvironment env).1 = .error e) ↔
        ∃ (o : Override) (text : String), (o = .connectTimeout ∨ o = .socketTimeout) ∧ env o.name = some text ∧
          ∀ n, ¬Denotes text n) ∧
      ∀ e, (s.withEnvironment env).1 = .error e → ∃ before o after text,
        Override.all = before ++ o :: after ∧ env o.name = some text ∧ (∀ n, ¬Denotes text n) ∧
        e = notNumber o.name text ∧ (∀ o' ∈ before, Taken env s (s.withEnvironment env).2 o') ∧
        (∀ o' : Override, env o'.name = none ∨ o' ∈ o :: after →
          o'.entry (s.withEnvironment env).2 = o'.entry s) ∧
        (s.withEnvironment env).2.bufferSize = s.bufferSize := by
  refine ⟨fun s => load_eq_ok, fun path file => ?_, ?_, fun s => ?_⟩
  · simp only [ofFile_eq_ok, ofYaml_eq_ok, check_eq_ok, exists_and_left]
  · intro s client hload hclient τ κ _ _ c hholds
    obtain ⟨file, -, hlayered⟩ := load_eq_ok.mp hload
    rw [hholds.sized.capacity_eq, bufferCapacity_of_client hclient]
    exact Nat.max_eq_left hlayered.minCapacity_le
  · have happlies := applies_withEnvironment s env
    generalize s.withEnvironment env = out at happlies
    cases happlies with
    | complete htaken hothers hsize =>
      refine ⟨⟨nofun, ?_⟩, nofun⟩
      rintro ⟨o, text, htimeout, hset, hno⟩
      have h := htaken o o.mem_all
      rw [Taken, hset] at h
      exact absurd h (Override.not_means_iff.mpr ⟨htimeout, hno⟩ _)
    | stopped before o after text hall hset hno htaken hothers hsize =>
      obtain ⟨htimeout, hno⟩ := Override.not_means_iff.mp hno
      refine ⟨⟨fun _ => ⟨o, text, htimeout, hset, hno⟩, fun _ => ⟨_, rfl⟩⟩, fun e he => ?_⟩
      cases he
      refine ⟨before, o, after, text, hall, hset, hno, rfl, htaken, ?_, hsize⟩
      rintro o' (hunset | hafter)
      · -- A variable that is not set is taken where it is looked at, and skipped elsewhere.
        by_cases hmem : o' ∈ before
        · have h := htaken o' hmem
          rwa [Taken, hunset] at h
        · exact hothers o' hmem
      · refine hothers o' fun hmem => ?_
        have hnodup : Override.all.Nodup := by decide
        rw [hall] at hnodup
        exact List.disjoint_of_nodup_append hnodup hmem hafter

/-- One file, with a size and a limit of time. -/
def oneFile : Files := fun path =>
  if path = "/s3.yaml" then .ok (Utf8.encode "buffer_size: 64\nsocket_timeout_ms: 7\n")
  else .error "No such file or directory (os error 2)"

/-- Variables that name this file, with both keys and the other limit. -/
def fourVariables : Environment := fun name =>
  if name = "S3LITE_CONFIG" then some "/s3.yaml"
  else if name = "S3LITE_ACCESS_KEY" then some "a"
  else if name = "S3LITE_SECRET_KEY" then some "s"
  else if name = "S3LITE_CONNECT_TIMEOUT_MS" then some " +250\n"
  else none

/-- The size of the file is the capacity of an upload's buffer, also after a write. -/
theorem load_layers_one_file :
    let s : Settings :=
      { accessKey := "a", secretKey := "s", connectTimeout := 250, socketTimeout := 7, bufferSize := 64 }
    load oneFile fourVariables = .ok s ∧
      (∃ file, FileLayer oneFile fourVariables file ∧ Layered fourVariables file s) ∧
      ∃ (client : Client) (c : Connection Script), s.client = .ok client ∧ client.Holds Scripts c ∧
        c.remaining = 2 ∧ c.buffer.capacity = 64 := by
  intro s
  have hload : load oneFile fourVariables = .ok s := by decide +kernel
  let client : Client := ⟨⟨"a", "s"⟩, Timeouts.ofMilliseconds 250 7, 64⟩
  have hclient : s.client = .ok client := by decide +kernel
  obtain ⟨head, hsign⟩ :
      ∃ head, RequestHead.Draft.sign? ⟨.put, "h", "/o", some 3⟩ ⟨0⟩ ⟨"a", "s"⟩ = some head := ⟨_, rfl⟩
  obtain ⟨calls, hsend⟩ := Script.sendAll_of_unbounded (s := {}) rfl rfl head.encode
  let upload : Connection Script := (Connection.new 64).begin {} .writing 3
  have hopen : (client.openTarget (⟨[{}]⟩ : Scripts) ⟨"h", 80, "/o"⟩ .writing 3 ⟨0⟩).result = .ok upload := by
    have hsound : Client.targetError? ⟨"h", 80, "/o"⟩ .writing = none := by decide
    have hsent : (Connection.new 64 : Connection Script).openTo (⟨[{}]⟩ : Scripts) ⟨"h", 80, "/o"⟩
        ⟨"a", "s"⟩ .writing 3 (Timeouts.ofMilliseconds 250 7) ⟨0⟩ = _ :=
      Connection.openTo_of_sent rfl rfl (by decide) rfl hsign hsend
    refine Client.openTarget_eq_ok.mpr ⟨hsound, ?_⟩
    dsimp only [client]
    rw [hsent]
    exact ⟨rfl, rfl⟩
  have hholds : client.Holds Scripts (Client.use (.write [97]) upload).state := .used _ (.target hopen)
  obtain ⟨hlayers, -, hcapacity, -⟩ := load_layers oneFile fourVariables
  exact ⟨hload, (hlayers s).mp hload, client, _, hclient, hholds, rfl,
    hcapacity s client hload hclient Script Scripts _ hholds⟩

/-- The second time is looked at after the first, which is no number, and the key before it. -/
example :
    ({ socketTimeout := 7 } : Settings).withEnvironment (fun name =>
      if name = "S3LITE_SECRET_KEY" then some "k"
      else if name = "S3LITE_CONNECT_TIMEOUT_MS" then some "soon"
      else if name = "S3LITE_SOCKET_TIMEOUT_MS" then some " +250\n" else none) =
    (.error (notNumber "S3LITE_CONNECT_TIMEOUT_MS" "soon"),
      { secretKey := "k", socketTimeout := 7 }) := by
  rfl

end Settings
end ObjectStream
