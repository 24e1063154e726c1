/-
  ObjectStream.Proofs.FieldLookup

  What a response says of a field, in terms of the lines of its head. The last
  line of a name counts (`lastLine?`), names are compared without the case of
  ASCII letters, and values are without blanks at their ends.

  So some changes to the lines of a head change nothing of what it says: `Edit`
  lists them, and `edits_lastLine?` shows it for each one and then for any series
  of them.
-/

import Mathlib.Logic.Relation
import ObjectStream.Proofs.LossyText
import ObjectStream.Proofs.Resumption

namespace ObjectStream

open Bytes

/-! ## The table of fields -/

namespace FieldTable

theorem lookup_insertEntry (name value query : String) (entries : List (String × String)) :
    (insertEntry name value entries).lookup query =
      if query = name then some value else entries.lookup query := by
  have hcons (key old : String) (rest : List (String × String)) :
      ((key, old) :: rest).lookup query = if query = key then some old else rest.lookup query := by
    rw [List.lookup_cons]
    by_cases hquery : query = key
    · rw [if_pos hquery, beq_iff_eq.mpr hquery]
    · rw [if_neg hquery, beq_eq_false_iff_ne.mpr hquery]
  induction entries with
  | nil => exact hcons name value []
  | cons entry rest ih =>
    obtain ⟨key, old⟩ := entry
    rw [insertEntry]
    by_cases hkey : key = name
    · rw [if_pos hkey, hcons, hcons, hkey]
      split <;> rfl
    · rw [if_neg hkey, hcons, hcons, ih]
      by_cases hquery : query = key
      · rw [if_pos hquery, if_pos hquery, if_neg (hquery ▸ hkey)]
      · rw [if_neg hquery, if_neg hquery]

/-- A value that was set is the value of its name, and no other value changes. -/
theorem get?_insert (table : FieldTable) (name value query : String) :
    (table.insert name value).get? query = if query = name then some value else table.get? query :=
  lookup_insertEntry name value query table.entries

end FieldTable

/-! ## Field lines -/

namespace FieldLine

/-- What stands before the first colon of a line. -/
def name (line : Bytes) : String := Utf8.decodeLossy (line.takeWhile (· ≠ colon))

/-- What stands after it, without blanks at either end. -/
def value (line : Bytes) : String :=
  Utf8.decodeLossy (Ascii.trim ((line.dropWhile (· ≠ colon)).drop 1))

/-- The field lines of a name, in any case of ASCII letters. -/
def Names (query : String) (line : Bytes) : Prop :=
  colon ∈ line ∧ Ascii.equalFold (name line) query = true

instance (query : String) (line : Bytes) : Decidable (Names query line) :=
  inferInstanceAs (Decidable (_ ∧ _))

theorem names_iff {query : String} {line : Bytes} :
    Names query line ↔ colon ∈ line ∧ Ascii.lower query = Ascii.lower (name line) := by
  rw [Names, Ascii.equalFold, beq_iff_eq, eq_comm]

/-- The last line of a name. -/
def lastLine? (query : String) (lines : List Bytes) : Option Bytes :=
  lines.reverse.find? fun line => decide (Names query line)

/-- Later lines count before earlier ones. -/
theorem lastLine?_append (query : String) (lines more : List Bytes) :
    lastLine? query (lines ++ more) = (lastLine? query more).or (lastLine? query lines) := by
  rw [lastLine?, List.reverse_append, List.find?_append]
  rfl

theorem lastLine?_singleton (query : String) (line : Bytes) :
    lastLine? query [line] = if Names query line then some line else none := by
  rw [lastLine?, List.reverse_singleton, List.find?_singleton]
  simp only [decide_eq_true_eq]

theorem lastLine?_eq_none {query : String} {lines : List Bytes} :
    lastLine? query lines = none ↔ ∀ line ∈ lines, ¬Names query line := by
  rw [lastLine?, List.find?_eq_none]
  simp only [List.mem_reverse, decide_eq_true_eq]

/-- A line of a name is the last one if none comes after it. -/
theorem lastLine?_of_last {query : String} {line : Bytes} {before after : List Bytes}
    (hline : Names query line) (hafter : ∀ l ∈ after, ¬Names query l) :
    lastLine? query (before ++ line :: after) = some line := by
  rw [← List.singleton_append, lastLine?_append, lastLine?_append, lastLine?_eq_none.mpr hafter,
    lastLine?_singleton, if_pos hline]
  rfl

/-! ## The fields of some lines -/

theorem readField?_of_mem {line : Bytes} (h : colon ∈ line) :
    readField? line = some (Ascii.lower (name line), value line) :=
  if_pos (List.contains_iff_mem.mpr h)

theorem readField?_of_not_mem {line : Bytes} (h : colon ∉ line) : readField? line = none :=
  if_neg (mt List.contains_iff_mem.mp h)

/-- A line changes the answer for its own name, if it has one. -/
theorem get?_addField (table : FieldTable) (line : Bytes) (query : String) :
    (ResponseHead.addField table line).get? (Ascii.lower query) =
      if Names query line then some (value line) else table.get? (Ascii.lower query) := by
  rw [ResponseHead.addField]
  by_cases hcolon : colon ∈ line
  · rw [readField?_of_mem hcolon]
    dsimp only
    rw [FieldTable.get?_insert]
    simp only [names_iff, hcolon, true_and]
  · rw [readField?_of_not_mem hcolon, if_neg fun h => hcolon h.1]

/-- The table of some lines answers with the last line of a name. -/
theorem get?_foldl_addField (query : String) (lines : List Bytes) :
    (lines.foldl ResponseHead.addField FieldTable.empty).get? (Ascii.lower query) =
      (lastLine? query lines).map value := by
  -- On the lines from behind, as the last one decides.
  induction lines using List.reverseRecOn with
  | nil => rfl
  | append_singleton lines line ih =>
    rw [List.foldl_append, List.foldl_cons, List.foldl_nil, get?_addField, ih, lastLine?_append,
      lastLine?_singleton]
    by_cases hline : Names query line
    · rw [if_pos hline, if_pos hline]
      rfl
    · rw [if_neg hline, if_neg hline]
      rfl

/-- A head answers with the last line of a name, its status line apart. -/
theorem field?_ofLines (query : String) (lines : List Bytes) :
    (ResponseHead.ofLines lines).field? (Ascii.lower query) =
      (lastLine? query lines.tail).map value := by
  cases lines with
  | nil => rfl
  | cons first later => exact get?_foldl_addField query later

/-! ## Changes that change nothing -/

/-- A change to the field lines of a head that no answer shows. -/
inductive Edit : List Bytes → List Bytes → Prop where
  /-- The case of the letters of a name. -/
  | recased (before after : List Bytes) (name name' rest : Bytes) : colon ∉ name →
      name.map Ascii.lowerByte = name'.map Ascii.lowerByte →
      Edit (before ++ (name ++ colon :: rest) :: after) (before ++ (name' ++ colon :: rest) :: after)
  /-- The blanks around a value. -/
  | respaced (before after : List Bytes) (name rest rest' : Bytes) : colon ∉ name →
      Ascii.trim rest = Ascii.trim rest' →
      Edit (before ++ (name ++ colon :: rest) :: after) (before ++ (name ++ colon :: rest') :: after)
  /-- A line without a colon. -/
  | unnamed (before after : List Bytes) (line : Bytes) : colon ∉ line →
      Edit (before ++ line :: after) (before ++ after)
  /-- A line with a later one of the same name. -/
  | overridden (before after : List Bytes) (line later : Bytes) : later ∈ after →
      colon ∈ line → colon ∈ later → Ascii.equalFold (name line) (name later) = true →
      Edit (before ++ line :: after) (before ++ after)

theorem takeWhile_colon {front : Bytes} (h : colon ∉ front) (rest : Bytes) :
    (front ++ colon :: rest).takeWhile (· ≠ colon) = front ∧
      (front ++ colon :: rest).dropWhile (· ≠ colon) = colon :: rest := by
  have hall : ∀ b ∈ front, decide (b ≠ colon) = true := by
    intro b hb
    exact decide_eq_true fun hcolon => h (hcolon ▸ hb)
  rw [List.takeWhile_append_of_pos hall, List.dropWhile_append_of_pos hall]
  simp

theorem name_append {front : Bytes} (h : colon ∉ front) (rest : Bytes) :
    name (front ++ colon :: rest) = Utf8.decodeLossy front := by
  rw [name, (takeWhile_colon h rest).1]

theorem value_append {front : Bytes} (h : colon ∉ front) (rest : Bytes) :
    value (front ++ colon :: rest) = Utf8.decodeLossy (Ascii.trim rest) := by
  rw [value, (takeWhile_colon h rest).2]
  rfl

theorem mem_append_colon (front rest : Bytes) : colon ∈ front ++ colon :: rest :=
  List.mem_append_right _ List.mem_cons_self

/-- The case of letters does not make a colon or take one away. -/
theorem colon_not_mem_of_recased {front front' : Bytes} (h : colon ∉ front)
    (hcase : front.map Ascii.lowerByte = front'.map Ascii.lowerByte) : colon ∉ front' := by
  have hcolon : ∀ b : UInt8, Ascii.lowerByte b = colon → b = colon := by
    intro b hb
    rw [Ascii.lowerByte] at hb
    split at hb
    · -- The small letters have other bytes.
      rename_i hcapital
      have hlow : 65 ≤ b.toNat := hcapital.1
      have hhigh : b.toNat ≤ 90 := hcapital.2
      have hsum := congrArg UInt8.toNat hb
      rw [UInt8.toNat_add] at hsum
      have hcolon : colon.toNat = 58 := rfl
      have hstep : (32 : UInt8).toNat = 32 := rfl
      omega
    · exact hb
  intro hmem
  have hsmall : colon ∈ front'.map Ascii.lowerByte := List.mem_map.mpr ⟨colon, hmem, by decide⟩
  rw [← hcase] at hsmall
  obtain ⟨b, hb, hlower⟩ := List.mem_map.mp hsmall
  exact h (hcolon b hlower ▸ hb)

/-- A line in the place of another one that answers in the same way. -/
theorem lastLine?_congr {query : String} {line line' : Bytes}
    (hnames : Names query line ↔ Names query line') (hvalue : value line = value line')
    (before after : List Bytes) :
    (lastLine? query (before ++ line :: after)).map value =
      (lastLine? query (before ++ line' :: after)).map value := by
  rw [← List.singleton_append, ← List.singleton_append (x := line'), lastLine?_append,
    lastLine?_append, lastLine?_append, lastLine?_append, lastLine?_singleton, lastLine?_singleton]
  by_cases hline : Names query line
  · rw [if_pos hline, if_pos (hnames.mp hline)]
    cases lastLine? query after with
    | none => exact congrArg some hvalue
    | some l => rfl
  · rw [if_neg hline, if_neg (mt hnames.mpr hline)]

/-- A line that is not the last of its name does not count. -/
theorem lastLine?_of_idle {query : String} {line : Bytes} {after : List Bytes}
    (hidle : Names query line → ∃ later ∈ after, Names query later) (before : List Bytes) :
    lastLine? query (before ++ line :: after) = lastLine? query (before ++ after) := by
  rw [← List.singleton_append, lastLine?_append, lastLine?_append, lastLine?_append,
    lastLine?_singleton]
  by_cases hline : Names query line
  · obtain ⟨later, hmem, hlater⟩ := hidle hline
    cases hlast : lastLine? query after with
    | none => exact absurd hlater (lastLine?_eq_none.mp hlast later hmem)
    | some l => rfl
  · rw [if_neg hline, Option.or_none]

theorem Edit.lastLine? {lines lines' : List Bytes} (h : Edit lines lines') (query : String) :
    (lastLine? query lines).map value = (lastLine? query lines').map value := by
  cases h with
  | recased before after front front' rest hcolon hcase =>
    have hcolon' := colon_not_mem_of_recased hcolon hcase
    apply lastLine?_congr
    · simp only [names_iff, mem_append_colon, true_and, name_append hcolon, name_append hcolon',
        Utf8.lower_decodeLossy hcase]
    · rw [value_append hcolon, value_append hcolon']
  | respaced before after front rest rest' hcolon htrim =>
    apply lastLine?_congr
    · simp only [names_iff, mem_append_colon, true_and, name_append hcolon]
    · rw [value_append hcolon, value_append hcolon, htrim]
  | unnamed before after line hcolon =>
    rw [lastLine?_of_idle fun hline => absurd hline.1 hcolon]
  | overridden before after line later hlater hcolon hcolon' hsame =>
    rw [Ascii.equalFold, beq_iff_eq] at hsame
    rw [lastLine?_of_idle]
    intro hline
    rw [names_iff, hsame] at hline
    exact ⟨later, hlater, names_iff.mpr ⟨hcolon', hline.2⟩⟩

/-- Any number of such changes, in any direction. -/
theorem edits_lastLine? {lines lines' : List Bytes} (h : Relation.EqvGen Edit lines lines')
    (query : String) : (lastLine? query lines).map value = (lastLine? query lines').map value := by
  induction h with
  | rel lines lines' hedit => exact hedit.lastLine? query
  | refl lines => rfl
  | symm lines lines' _ ih => exact ih.symm
  | trans lines lines' lines'' _ _ ih ih' => exact ih.trans ih'

end FieldLine

/-! ## Heads with the same answers -/

namespace ResponseHead

/-- Heads of lines that differ only by such changes, their first line apart, are alike. -/
theorem alike_ofLines {lines lines' : List Bytes} (hfirst : lines.head? = lines'.head?)
    (hfields : Relation.EqvGen FieldLine.Edit lines.tail lines'.tail) :
    Alike (ofLines lines) (ofLines lines') := by
  refine ⟨?_, fun query => ?_⟩
  · cases lines with
    | nil =>
      cases lines' with
      | nil => rfl
      | cons first' later' => cases hfirst
    | cons first later =>
      cases lines' with
      | nil => cases hfirst
      | cons first' later' => rw [ofLines, ofLines, Option.some.inj hfirst]
  · rw [FieldLine.field?_ofLines, FieldLine.field?_ofLines]
    exact FieldLine.edits_lastLine? hfields query

end ResponseHead

/-! ## The head of an open connection -/

namespace Connection

variable {τ κ : Type} [Transport τ]

/-- The lines of a head that was read after some bytes of it: those that ended before are lost. -/
def heardLines (read : Bytes) (o : Outcome Error (Connection τ) Unit) : List Bytes :=
  (headLines (read ++ o.calls.flatMap Call.received)).drop (lines read).length

/-- With any peer, a head that is complete has the lines that were received. -/
theorem Awaits.complete {read : Bytes} {c : Connection τ} (h : Awaits read c)
    (hheard : c.readResponse.state.responseReceived = true) :
    ∃ t p, p.head = .ofLines (heardLines read c.readResponse) ∧
      c.readResponse.result = (c.beforeHead.withHead t p).afterHead.1 ∧
      c.readResponse.state = (c.beforeHead.withHead t p).afterHead.2 := by
  cases ht : c.transport with
  | none =>
    rw [readResponse_of_no_stream h.unheard ht] at hheard
    cases h.unheard.symm.trans hheard
  | some t =>
    rcases hloop : receiveHeadFrom [] t ⟨c.buffer, c.reader, .empty⟩ with ⟨result, ⟨t', p⟩, calls⟩
    cases result with
    | error e =>
      rw [readResponse_of_broken h.unheard ht hloop] at hheard
      cases h.unheard.symm.trans ((beforeHead_responseReceived c).symm.trans hheard)
    | ok =>
      have hread := receiveHeadFrom_complete read [] t h.unended h.within
        (Nat.le_refl (lines read).length) h.drained
      rw [← h.progress_eq, hloop] at hread
      obtain ⟨calls', q, hcalls, -, -, hhead, -⟩ := hread rfl
      obtain rfl : calls = calls' := hcalls
      rw [readResponse_of_complete h.unheard ht hloop]
      exact ⟨t', p, hhead, rfl, rfl⟩

/-- A head that ends in the next piece is complete with it, and what follows it there is left in the
buffer. -/
theorem Awaits.complete_of_piece {read bytes : Bytes} {c : Connection τ} {t t' : τ} {p : Nat}
    (h : Awaits read c) (ht : c.transport = some t)
    (hrecv : Transport.receive t c.buffer.capacity = (.ok bytes, t'))
    (hend : headEnd? (read ++ bytes) = some p) (hle : p ≤ maxHeadLength) :
    ∃ progress : HeadProgress,
      progress.head = .ofLines ((headLines (read ++ bytes)).drop (lines read).length) ∧
      progress.buffer.unread = (read ++ bytes).drop p ∧
      c.readResponse = ⟨(c.beforeHead.withHead t' progress).afterHead.1,
        (c.beforeHead.withHead t' progress).afterHead.2, [.receive c.buffer.capacity (.ok bytes)]⟩ := by
  have hne : bytes ≠ [] := by
    rintro rfl
    rw [List.append_nil, h.unended] at hend
    cases hend
  have habsorb := absorbs_of_piece h.unended h.within (Nat.le_refl (lines read).length) hrecv
  have hloop : receiveHeadFrom [] t (.after (lines read).length c.buffer read) = _ :=
    receiveHeadFrom_of_bytes h.drained hrecv hne
  rw [← h.progress_eq] at hloop
  dsimp only at hloop
  rw [h.reader] at hloop
  rw [List.drop_length] at habsorb
  change HeadReader.Absorbs _ _ ((HeadReader.after read).absorb _ .empty) at habsorb
  generalize (HeadReader.after read).absorb (c.buffer.clear.append bytes) .empty = absorbed
    at habsorb hloop
  cases habsorb with
  | more buffer hopen =>
    rw [hopen] at hend
    cases hend
  | complete q buffer hq _ hunread =>
    obtain rfl : p = q := Option.some.inj (hend.symm.trans hq)
    rw [← h.reader] at hloop
    exact ⟨_, rfl, hunread, readResponse_of_complete h.unheard ht hloop⟩
  | overflow reader buffer hover hopen => exact absurd (nil_mem_lines_take hend hle) hopen

theorem Awaits.readResponse_of_piece {read bytes : Bytes} {c : Connection τ} {t t' : τ} {p : Nat}
    (h : Awaits read c) (ht : c.transport = some t)
    (hrecv : Transport.receive t c.buffer.capacity = (.ok bytes, t'))
    (hend : headEnd? (read ++ bytes) = some p) (hle : p ≤ maxHeadLength) :
    c.readResponse.state.responseReceived = true ∧
      c.readResponse.calls = [.receive c.buffer.capacity (.ok bytes)] := by
  obtain ⟨progress, -, -, heard⟩ := h.complete_of_piece ht hrecv hend hle
  rw [heard]
  exact ⟨afterHead_responseReceived _, rfl⟩

/-- An open connection with a complete response head. -/
structure Answers (head : ResponseHead) (c : Connection τ) : Prop where
  consistent : Consistent c
  opened : c.mode ≠ .unopened
  heard : c.responseReceived = true
  response : c.response = head

namespace Answers

variable {head : ResponseHead} {c : Connection τ}

omit [Transport τ] in
theorem responseField (h : Answers head c) (query : String) :
    c.responseField query = match head.field? (Ascii.lower query) with
      | some value => .ok value
      | none => .error (.noSuchField (Ascii.lower query)) := by
  have hisOpen : c.isOpen = true := bne_iff_ne.mpr h.opened
  cases hfield : head.field? (Ascii.lower query) <;>
    simp [Connection.responseField, hisOpen, h.response, hfield]

/-- A complete head is not read again. -/
theorem readResponse (h : Answers head c) : c.readResponse = .ok c () :=
  readResponse_of_received h.heard

theorem read (h : Answers head c) (room : Nat) : Answers head (c.read room).state := by
  obtain ⟨hmode, -, hreceived⟩ := read_frame h.consistent room
  refine ⟨consistent_read h.consistent room, hmode ▸ h.opened, hreceived.trans h.heard, ?_⟩
  rcases h.consistent.read_cases room with ⟨e, -, hfail⟩ | ⟨-, -, hcases⟩
  · rw [hfail]
    exact h.response
  · generalize c.read room = o at hcases
    cases hcases <;> exact h.response

theorem write (h : Answers head c) (bytes : Bytes) : Answers head (c.write bytes).state := by
  have hconsistent := consistent_write h.consistent bytes
  have hmode := write_mode h.consistent bytes
  rcases h.consistent.write_cases bytes with ⟨e, -, hfail⟩ | ⟨-, -, hcases⟩
  · rw [hfail]
    exact h
  generalize c.write bytes = o at hcases hconsistent hmode
  have hopened : o.state.mode ≠ .unopened := hmode ▸ h.opened
  cases hcases with
  | refused | failed | accepted => exact ⟨hconsistent, hopened, h.heard, h.response⟩
  | completed t t' count hfits ht hsend hle hall =>
    have hknown := readResponse_of_received (c := c.afterSend t' count) h.heard
    rw [hknown] at hconsistent hopened ⊢
    exact ⟨hconsistent, hopened, h.heard, h.response⟩

variable [Connector κ τ]

/-- All operations but closing leave the head as it is; opening is refused. -/
theorem perform {s : Connection τ × κ} (h : Answers head s.1) {op : Operation} (hop : op ≠ .close) :
    Answers head (perform op s).state.1 := by
  cases op with
  | openTo target credentials mode size timeouts now =>
    have hcases := openTo_cases s.1 s.2 target credentials mode size timeouts now
    show Answers head (s.1.openTo s.2 target credentials mode size timeouts now).state.1
    generalize s.1.openTo s.2 target credentials mode size timeouts now = o at hcases ⊢
    cases hcases with
    | refused => exact h
    | unreachable | undated | unsent | ready | asked => exact absurd ‹_› h.opened
  | readResponse =>
    show Answers head s.1.readResponse.state
    rw [h.readResponse]
    exact h
  | read room => exact h.read room
  | write bytes => exact h.write bytes
  | close => exact absurd rfl hop

theorem series {s : Connection τ × κ} (h : Answers head s.1) {ops : List Operation}
    (hops : ∀ op ∈ ops, op ≠ .close) :
    Answers head (Outcome.last s (Outcome.series (fun s op => Connection.perform op s) s ops)).1 := by
  induction ops generalizing s with
  | nil => exact h
  | cons op rest ih =>
    rw [Outcome.series_cons, Outcome.last_cons]
    exact ih (h.perform (hops op List.mem_cons_self)) fun op' hop' =>
      hops op' (List.mem_cons_of_mem op hop')

end Answers

theorem Awaits.answers {read : Bytes} {c : Connection τ} (h : Awaits read c) (hc : Consistent c)
    (hopen : c.mode ≠ .unopened) (hheard : c.readResponse.state.responseReceived = true) :
    Answers (.ofLines (heardLines read c.readResponse)) c.readResponse.state := by
  obtain ⟨t, p, hhead, -, hstate⟩ := h.complete hheard
  refine ⟨consistent_readResponse hc, readResponse_mode c ▸ hopen, hheard, ?_⟩
  rw [hstate, afterHead_response]
  exact hhead

/-- Two heads of lines that differ only by such changes, in two exchanges of the same kind, give the
same answers and the same body. -/
theorem Awaits.alike {read read₁ : Bytes} {c c₁ : Connection τ} (h : Awaits read c)
    (h₁ : Awaits read₁ c₁) (hsame : SameBody c c₁)
    (hheard : c.readResponse.state.responseReceived = true)
    (hheard₁ : c₁.readResponse.state.responseReceived = true)
    (hfirst : (heardLines read c.readResponse).head? = (heardLines read₁ c₁.readResponse).head?)
    (hfields : Relation.EqvGen FieldLine.Edit (heardLines read c.readResponse).tail
      (heardLines read₁ c₁.readResponse).tail) :
    c.readResponse.state.response.Alike c₁.readResponse.state.response ∧
      c.readResponse.result = c₁.readResponse.result ∧
      c.readResponse.state.bodyLength = c₁.readResponse.state.bodyLength ∧
      c.readResponse.state.remaining = c₁.readResponse.state.remaining ∧
      c.readResponse.state.chunked = c₁.readResponse.state.chunked := by
  obtain ⟨t, p, hhead, hresult, hstate⟩ := h.complete hheard
  obtain ⟨t₁, p₁, hhead₁, hresult₁, hstate₁⟩ := h₁.complete hheard₁
  have halike : p.head.Alike p₁.head := by
    rw [hhead, hhead₁]
    exact ResponseHead.alike_ofLines hfirst hfields
  rw [hresult, hresult₁, hstate, hstate₁, afterHead_response, afterHead_response]
  exact ⟨halike, hsame.afterHead t t₁ halike⟩

variable [Connector κ τ]

/-- What an open connection answers about a response head that was read to its end, with any peer and
also when it was begun by an earlier reading. Whatever else was done since, the answer to a name is
the value of the last field line of that name in any case of ASCII letters, and that there is no
such field if there is no such line. So two heads with the same status line whose field lines differ
only in the case of names, in the blanks around values, in lines without a colon, and in lines with
a later one of the same name give the same answers, the same length and the same body. -/
theorem field_lookup {c : Connection τ} {read : Bytes} (k : κ) (hc : Consistent c)
    (hopen : c.mode ≠ .unopened) (h : Awaits read c)
    (hheard : c.readResponse.state.responseReceived = true) :
    let o := c.readResponse
    let fields := (heardLines read o).tail
    (∀ ops : List Operation, (∀ op ∈ ops, op ≠ .close) →
      let c' := (Outcome.last (o.state, k)
        (Outcome.series (fun s op => perform op s) (o.state, k) ops)).1
      ∀ query,
        (∀ before line after, fields = before ++ line :: after → FieldLine.Names query line →
          (∀ later ∈ after, ¬FieldLine.Names query later) →
          c'.responseField query = .ok (FieldLine.value line)) ∧
        ((∀ line ∈ fields, ¬FieldLine.Names query line) →
          c'.responseField query = .error (.noSuchField (Ascii.lower query)))) ∧
    ∀ (c₁ : Connection τ) (read₁ : Bytes), SameBody c c₁ → Awaits read₁ c₁ →
      let o₁ := c₁.readResponse
      o₁.state.responseReceived = true →
      (heardLines read o).head? = (heardLines read₁ o₁).head? →
      Relation.EqvGen FieldLine.Edit fields (heardLines read₁ o₁).tail →
      (∀ query, o.state.responseField query = o₁.state.responseField query) ∧
      o.state.response.contentLength = o₁.state.response.contentLength ∧
      o.state.contentLength = o₁.state.contentLength ∧
      o.state.bodyLength = o₁.state.bodyLength ∧ o.state.remaining = o₁.state.remaining ∧
      o.state.chunked = o₁.state.chunked ∧ o.result = o₁.result := by
  intro o fields
  have hanswers := h.answers hc hopen hheard
  refine ⟨?_, ?_⟩
  · intro ops hops c' query
    have hlater : Answers (.ofLines (heardLines read o)) c' :=
      Answers.series (s := (o.state, k)) hanswers hops
    have hfield := hlater.responseField query
    rw [FieldLine.field?_ofLines] at hfield
    refine ⟨fun before line after hlines hline hafter => ?_, fun hnone => ?_⟩
    · have hlast : FieldLine.lastLine? query (heardLines read o).tail = some line := by
        rw [show (heardLines read o).tail = _ from hlines]
        exact FieldLine.lastLine?_of_last hline hafter
      rw [hfield, hlast]
      rfl
    · have hlast : FieldLine.lastLine? query (heardLines read o).tail = none :=
        FieldLine.lastLine?_eq_none.mpr hnone
      rw [hfield, hlast]
      rfl
  · intro c₁ read₁ hsame h₁ o₁ hheard₁ hfirst hfields
    obtain ⟨halike, hresult, hlength, hremaining, hchunked⟩ :=
      h.alike h₁ hsame hheard hheard₁ hfirst hfields
    have hmode : o.state.mode = o₁.state.mode := by
      rw [readResponse_mode, readResponse_mode, hsame.mode]
    have hisOpen : o.state.isOpen = o₁.state.isOpen := by rw [isOpen, isOpen, hmode]
    refine ⟨fun query => ?_, halike.contentLength, ?_, hlength, hremaining, hchunked, hresult⟩
    · rw [responseField, responseField, hisOpen, halike.fields query]
    · rw [contentLength, contentLength, hisOpen, hlength]

/-- A response with a field twice: `HTTP/1.1 200 O`, `A: b`, and `a:c`. -/
def twice : Bytes :=
  [72, 84, 84, 80, 47, 49, 46, 49, 32, 50, 48, 48, 32, 79, 13, 10, 65, 58, 32, 98, 13, 10,
    97, 58, 99, 13, 10, 13, 10]

/-- The later value of it is the answer, and another name has none. -/
theorem field_lookup_twice :
    let c : Connection Script := (new 64).begin { receipts := [.data twice] } .reading 0
    c.readResponse.state.responseReceived = true ∧
      c.readResponse.state.responseField "A" = .ok "c" ∧
      c.readResponse.state.responseField "B" = .error (.noSuchField "b") := by
  intro c
  have hawaits : Awaits [] c := .start rfl rfl rfl
  have hrecv : Transport.receive ({ receipts := [.data twice] } : Script) c.buffer.capacity =
      (.ok twice, { receipts := [] }) := rfl
  obtain ⟨hheard, hcalls⟩ :=
    hawaits.readResponse_of_piece rfl hrecv (p := 29) (by decide) (by decide)
  have hlines : heardLines [] c.readResponse = headLines twice := by
    rw [heardLines, hcalls]
    rfl
  have hfields : (heardLines [] c.readResponse).tail = [[65, 58, 32, 98], [97, 58, 99]] := by
    rw [hlines]
    decide
  have hconsistent : Consistent c := consistent_begin (new 64) (by decide) 0 _
  have hanswers := (field_lookup (⟨[]⟩ : Scripts) hconsistent (by decide) hawaits hheard).1 [] nofun
  refine ⟨hheard, ?_, ?_⟩
  · have hlast := (hanswers "A").1 [[65, 58, 32, 98]] [97, 58, 99] [] hfields (by decide) nofun
    exact hlast
  · have hnone := (hanswers "B").2
    rw [hfields] at hnone
    exact hnone (by decide)

end Connection

end ObjectStream
