/-
  ObjectStream.Proofs.RequestReading

  A signed request head, given to the reader of response heads. What was written
  is read back: the request line as the status line, and each field with its name
  in small letters and without blanks around its value. So the request that is read
  can be signed once more, and the signature is the one it carries
  (`request_read_back`).

  The two halves meet at the lines of the head: `encode_eq_written` says what lines
  the encoder writes, `entries_foldl_ofField` what the reader makes of such lines.
-/

import ObjectStream.Proofs.FieldLookup
import ObjectStream.Proofs.ObjectPath
import ObjectStream.Proofs.RequestLines

namespace ObjectStream

open Bytes

/-! ## Texts without blanks at their ends -/

namespace Ascii

/-- A blank in front of some bytes is taken off. -/
theorem trim_cons {b : UInt8} (h : isBlank b = true) (bytes : Bytes) :
    trim (b :: bytes) = trim bytes := by
  rw [trim, List.dropWhile_cons_of_pos h, trim]

/-- A text that neither begins nor ends with a blank stays as it is. -/
theorem trimText_eq_self {text : String} (hfirst : ∀ c ∈ text.toList.head?, isBlankChar c = false)
    (hlast : ∀ c ∈ text.toList.getLast?, isBlankChar c = false) : trimText text = text := by
  have hstays : ∀ chars : List Char, (∀ c ∈ chars.head?, isBlankChar c = false) →
      chars.dropWhile isBlankChar = chars := by
    intro chars hhead
    cases chars with
    | nil => rfl
    | cons c rest => exact List.dropWhile_cons_of_neg (Bool.eq_false_iff.mp (hhead c rfl))
  rw [← List.head?_reverse] at hlast
  rw [trimText, hstays _ hfirst, hstays _ hlast, List.reverse_reverse, String.ofList_toList]

/-- It is enough to know what the text begins with, and what it ends with. -/
theorem trimText_of_ends {text first later before last : String} (hfront : text = first ++ later)
    (hback : text = before ++ last) (hfirst : first.toList.head?.map isBlankChar = some false)
    (hlast : last.toList.getLast?.map isBlankChar = some false) : trimText text = text := by
  obtain ⟨a, ha, hblank⟩ := Option.map_eq_some_iff.mp hfirst
  obtain ⟨b, hb, hblank'⟩ := Option.map_eq_some_iff.mp hlast
  apply trimText_eq_self
  · intro c hc
    rw [hfront, String.toList_append, List.head?_append, ha] at hc
    exact Option.some.inj hc ▸ hblank
  · intro c hc
    rw [hback, String.toList_append, List.getLast?_append, hb] at hc
    exact Option.some.inj hc ▸ hblank'

end Ascii

theorem Date.trimText_text (date : Date) : Ascii.trimText date.text = date.text := by
  -- Without a name, the date would begin with the comma behind it.
  have hfirst : (weekdayNames.getD date.weekday "" ++ ", ").toList.head?.map Ascii.isBlankChar =
      some false := by
    have hnamed : ∀ i < 7, (weekdayNames.getD i "" ++ ", ").toList.head?.map Ascii.isBlankChar =
        some false := by decide
    by_cases hday : date.weekday < 7
    · exact hnamed _ hday
    · rw [List.getD_eq_default _ _ (Nat.le_of_not_lt hday)]
      decide
  obtain ⟨later, hfront⟩ : ∃ later,
      date.text = weekdayNames.getD date.weekday "" ++ ", " ++ later := by
    simp only [text, String.append_assoc]
    exact ⟨_, rfl⟩
  obtain ⟨before, hback⟩ : ∃ before, date.text = before ++ " GMT" := ⟨_, rfl⟩
  exact Ascii.trimText_of_ends hfront hback hfirst (by decide)

theorem Signature.trimText_authorization (accessKey : String) (key message : Bytes) :
    Ascii.trimText (authorization accessKey (sign key message)) =
      authorization accessKey (sign key message) := by
  obtain ⟨before, hback⟩ : ∃ before, authorization accessKey (sign key message) = before ++ "=" := by
    rw [authorization, text_sign, (bytes_sign_eq_append key message).1, List.map_append,
      String.ofList_append, ← String.append_assoc]
    exact ⟨_, rfl⟩
  have hfront : authorization accessKey (sign key message) =
      "AWS " ++ (accessKey ++ ":" ++ (sign key message).text) := by
    rw [authorization, String.append_assoc, String.append_assoc, String.append_assoc]
  exact Ascii.trimText_of_ends hfront hback (by decide) (by decide)

theorem Ascii.trimText_toString (n : Nat) : Ascii.trimText (toString n) = toString n := by
  have hdigit : ∀ c ∈ (toString n).toList, Ascii.isBlankChar c = false := by
    intro c hc
    rw [Nat.toString_eq_ofList_toDigits, String.toList_ofList] at hc
    have hdigit := Number.isDigit_of_mem_toDigits hc
    rw [Bool.eq_false_iff]
    intro hblank
    simp only [Ascii.isBlankChar, Bool.or_eq_true, beq_iff_eq] at hblank
    rcases hblank with (((rfl | rfl) | rfl) | rfl) | rfl <;> (revert hdigit; decide)
  exact Ascii.trimText_eq_self (fun c hc => hdigit c (List.mem_of_head? hc))
    fun c hc => hdigit c (List.mem_of_getLast? hc)

/-! ## The lines that are written -/

/-- A new name goes to the end of the table. -/
theorem FieldTable.insertEntry_of_not_mem {name : String} (value : String)
    {entries : List (String × String)} (h : name ∉ entries.map Prod.fst) :
    insertEntry name value entries = entries ++ [(name, value)] := by
  induction entries with
  | nil => rfl
  | cons entry rest ih =>
    rw [List.map_cons, List.mem_cons, not_or] at h
    rw [insertEntry, if_neg (Ne.symm h.1), ih h.2]
    rfl

namespace FieldLine

/-- A field as it is written, without the end of the line. -/
def ofField (field : String × String) : Bytes :=
  Utf8.encode field.1 ++ Utf8.encode ": " ++ Utf8.encode field.2

/-- A field as it is read: the name in small letters, the value without blanks at its ends. -/
def heard (field : String × String) : String × String :=
  (Ascii.lower field.1, Ascii.trimText field.2)

theorem readField?_ofField {field : String × String} (h : colon ∉ Utf8.encode field.1) :
    readField? (ofField field) = some (heard field) := by
  have hline : ofField field = Utf8.encode field.1 ++ colon :: 32 :: Utf8.encode field.2 := by
    rw [ofField, List.append_assoc]
    rfl
  rw [hline, readField?_of_mem (mem_append_colon _ _), name_append h, value_append h,
    Ascii.trim_cons (by decide), Ascii.trim_encode, Utf8.decodeLossy_encode, Utf8.decodeLossy_encode,
    heard]

/-- Fields with different names are read in the order in which they were written. -/
theorem entries_foldl_ofField {fields : List (String × String)} {table : FieldTable}
    (hcolon : ∀ field ∈ fields, colon ∉ Utf8.encode field.1)
    (hnames : ((table.entries ++ fields.map heard).map Prod.fst).Nodup) :
    ((fields.map ofField).foldl ResponseHead.addField table).entries =
      table.entries ++ fields.map heard := by
  -- On the fields; each goes to the end of the table, as its name is new there.
  induction fields generalizing table with
  | nil => exact (List.append_nil _).symm
  | cons field rest ih =>
    obtain ⟨hfield, hrest⟩ := List.forall_mem_cons.mp hcolon
    have hadd : (ResponseHead.addField table (ofField field)).entries =
        table.entries ++ [heard field] := by
      rw [ResponseHead.addField, readField?_ofField hfield]
      refine FieldTable.insertEntry_of_not_mem _ fun hmem => ?_
      rw [List.map_append, List.nodup_append] at hnames
      exact hnames.2.2 _ hmem _ List.mem_cons_self rfl
    rw [List.map_cons, List.foldl_cons, ih hrest]
    · rw [hadd, List.append_assoc]
      rfl
    · rw [hadd, List.append_assoc]
      exact hnames

end FieldLine

namespace RequestHead

/-- The request line. -/
def requestLine (head : RequestHead) : String :=
  head.method.word ++ " " ++ head.path ++ " HTTP/1.1"

/-- The lines of a signed head are its request line and its fields. -/
theorem encode_lines (d : Draft) (date : String) (credentials : Credentials) :
    (d.lines date credentials).map Utf8.encode =
      Utf8.encode (d.signWith date credentials).requestLine ::
        (d.signWith date credentials).fields.map FieldLine.ofField := by
  have hfield (name value : String) :
      FieldLine.ofField (name, value) = Utf8.encode (name ++ ": " ++ value) := by
    rw [FieldLine.ofField, Utf8.encode_append, Utf8.encode_append]
  have hauthorization (accessKey text : String) : "Authorization: AWS " ++ accessKey ++ ":" ++ text =
      "Authorization" ++ ": " ++ ("AWS " ++ accessKey ++ ":" ++ text) := by
    have hstart : "Authorization: AWS " = "Authorization" ++ ": " ++ "AWS " := by decide
    rw [hstart]
    simp only [String.append_assoc]
  have htype : "Content-Type: application/octet-stream" = "Content-Type" ++ ": " ++ contentType := by
    decide
  rw [Draft.lines, hauthorization, htype]
  cases hcase : d.contentLength <;>
    simp [Draft.signWith, Draft.fields, requestLine, hcase, hfield, Signature.authorization]

/-! ## The request line -/

/-- What a request line asks for, up to its first blank. -/
def methodOf (line : String) : String := String.ofList (line.toList.takeWhile (· ≠ ' '))

/-- The path of a request line, between its first blank and the version. -/
def pathOf (line : String) : String :=
  let rest := (line.toList.dropWhile (· ≠ ' ')).drop 1
  String.ofList (rest.take (rest.length - " HTTP/1.1".length))

/-- A request line is taken apart at its first blank, also if there are blanks in the path. -/
theorem requestLine_parts (head : RequestHead) :
    methodOf head.requestLine = head.method.word ∧ pathOf head.requestLine = head.path := by
  have hword : ∀ c ∈ head.method.word.toList, decide (c ≠ ' ') = true := by
    refine List.all_eq_true.mp ?_
    cases head.method <;> decide
  have hline : head.requestLine.toList =
      head.method.word.toList ++ ' ' :: (head.path.toList ++ " HTTP/1.1".toList) := by
    simp [requestLine]
  have hblank : ∀ c ∈ (' ' :: (head.path.toList ++ " HTTP/1.1".toList)).head?,
      decide (c ≠ ' ') = false := by
    rintro c ⟨⟩
    decide
  rw [methodOf, pathOf, hline, takeWhile_append_stop hword hblank, dropWhile_append_stop hword hblank]
  refine ⟨String.ofList_toList, ?_⟩
  rw [List.drop_one, List.tail_cons, List.length_append, ← String.length_toList (s := " HTTP/1.1"),
    Nat.add_sub_cancel, List.take_left, String.ofList_toList]

/-- The request that a head was read from, as far as the head tells. -/
structure ReadBack (d : Draft) (credentials : Credentials) (fields : List (String × String))
    (read : ResponseHead) : Prop where
  statusLine : read.statusLine = d.method.word ++ " " ++ d.path ++ " HTTP/1.1"
  /-- Each field once, with its name in small letters and its value without blanks at the ends. -/
  fields : read.fields.entries = fields.map FieldLine.heard
  /-- The announced length, or none. -/
  contentLength : read.contentLength = .ok d.contentLength
  parts : methodOf read.statusLine = d.method.word ∧ pathOf read.statusLine = d.path
  /-- What was read is signed as what was written. -/
  authorization : ∃ contentType date, read.field? "content-type" = some contentType ∧
    read.field? "date" = some date ∧
    read.field? "authorization" = some (Signature.authorization credentials.accessKey
      (Signature.sign (Utf8.encode credentials.secretKey) (Utf8.encode
        (Signature.subject (methodOf read.statusLine) contentType date (pathOf read.statusLine)))))

namespace Draft

/-- No name of a field holds a colon, and no two are the same in small letters. -/
theorem fields_distinct (d : Draft) (date : String) (credentials : Credentials) :
    (∀ field ∈ (d.signWith date credentials).fields, colon ∉ Utf8.encode field.1) ∧
      (((d.signWith date credentials).fields.map FieldLine.heard).map Prod.fst).Nodup := by
  have hall : (∀ name ∈ ["Host", "Content-Type", "Date", "Authorization", "Content-Length"],
      colon ∉ Utf8.encode name) ∧
      (["Host", "Content-Type", "Date", "Authorization", "Content-Length"].map Ascii.lower).Nodup := by
    decide
  have hfront : (d.signWith date credentials).fields.map Prod.fst <+:
      ["Host", "Content-Type", "Date", "Authorization", "Content-Length"] := by
    unfold signWith fields
    cases d.contentLength with
    | none => exact ⟨["Content-Length"], rfl⟩
    | some n => exact ⟨[], rfl⟩
  refine ⟨fun field hfield => hall.1 _ (hfront.subset (List.mem_map_of_mem hfield)), ?_⟩
  have hlower := (hfront.map Ascii.lower).sublist.nodup hall.2
  rw [List.map_map] at hlower ⊢
  exact hlower

/-- The fields of a signed head as they are read: only the host can lose blanks. -/
theorem map_heard_fields (d : Draft) (date : Date) (credentials : Credentials) :
    (d.signWith date.text credentials).fields.map FieldLine.heard =
      [("host", Ascii.trimText d.host), ("content-type", contentType), ("date", date.text),
        ("authorization", Signature.authorization credentials.accessKey
          (d.signature date.text credentials.secretKey))] ++
        (d.contentLength.map fun n => ("content-length", toString n)).toList := by
  have htype : Ascii.trimText contentType = contentType := by decide
  have hlower : Ascii.lower "Host" = "host" ∧ Ascii.lower "Content-Type" = "content-type" ∧
      Ascii.lower "Date" = "date" ∧ Ascii.lower "Authorization" = "authorization" ∧
      Ascii.lower "Content-Length" = "content-length" := by decide
  rw [signWith, fields, signature]
  cases d.contentLength with
  | none =>
    simp only [List.map_append, List.map_cons, List.map_nil, FieldLine.heard, hlower, htype,
      date.trimText_text, Signature.trimText_authorization]
    rfl
  | some n =>
    simp only [List.map_append, List.map_cons, List.map_nil, FieldLine.heard, hlower, htype,
      date.trimText_text, Signature.trimText_authorization, Ascii.trimText_toString, Option.map_some,
      Option.toList_some]

end Draft

/-- The lines of a signed head are read as the request they were made for. -/
theorem readBack_ofLines {d : Draft} (date : Date) (credentials : Credentials)
    (hlength : ∀ n ∈ d.contentLength, n < 2 ^ 64) :
    ReadBack d credentials (d.signWith date.text credentials).fields
      (.ofLines ((d.lines date.text credentials).map Utf8.encode)) := by
  obtain ⟨hcolon, hnames⟩ := d.fields_distinct date.text credentials
  have hentries := @FieldLine.entries_foldl_ofField _ .empty hcolon hnames
  have hparts := (d.signWith date.text credentials).requestLine_parts
  rw [encode_lines, ResponseHead.ofLines, Utf8.decodeLossy_encode]
  generalize ((d.signWith date.text credentials).fields.map FieldLine.ofField).foldl
    ResponseHead.addField .empty = table at hentries
  have hlookup (query : String) : table.get? query =
      ((d.signWith date.text credentials).fields.map FieldLine.heard).lookup query := by
    rw [FieldTable.get?, hentries]
    rfl
  rw [d.map_heard_fields] at hlookup
  refine ⟨rfl, hentries, ResponseHead.contentLength_of_announces ?_, hparts, ?_⟩
  · cases hcase : d.contentLength with
    | none =>
      show table.get? "content-length" = none
      rw [hlookup, hcase]
      rfl
    | some n =>
      refine ⟨toString n, ?_, ?_⟩
      · show table.get? "content-length" = _
        rw [hlookup, hcase]
        rfl
      · rw [← Number.word64?_eq_some, Nat.toString_eq_ofList_toDigits, Number.word64?,
          String.toList_ofList]
        exact Number.unsigned?_toDigits (hlength n hcase)
  · refine ⟨contentType, date.text, (hlookup _).trans rfl, (hlookup _).trans rfl, ?_⟩
    rw [hparts.1, hparts.2]
    exact (hlookup _).trans rfl

end RequestHead

/-! ## The head on its way -/

namespace HeadReader

/-- Bytes that end with the head they hold are read to the last one, and the reader is not done
before. -/
theorem absorb_of_ends {all : Bytes} (hend : headEnd? all = some all.length)
    (hfits : all.length ≤ maxHeadLength) {front back : Bytes} {buffer : ReceiveBuffer}
    (hall : all = front ++ buffer.unread ++ back) (hfront : front ≠ all) :
    let a := (after front).absorb buffer (.ofLines (lines front))
    a.buffer.unread = [] ∧
      (back ≠ [] → a.result = .ok false ∧ a.reader = after (front ++ buffer.unread) ∧
        a.head = .ofLines (lines (front ++ buffer.unread))) ∧
      (back = [] → a.result = .ok true ∧ a.head = .ofLines (headLines all)) := by
  -- A head that ends in a front of the bytes ends there in all of them.
  have hwhole : ∀ {s t : Bytes} {p : Nat}, all = s ++ t → headEnd? s = some p → t = [] := by
    intro s t p heq hs
    have hlength := (head_append hs t).2
    rw [← heq, hend, heq] at hlength
    have hle := headEnd?_le hs
    have hp := Option.some.inj hlength
    rw [List.length_append] at hp
    exact List.length_eq_zero_iff.mp (by omega)
  have hopen : headEnd? front = none := by
    cases hcase : headEnd? front with
    | none => rfl
    | some p =>
      rw [List.append_assoc] at hall
      have hnil := hwhole hall hcase
      rw [hnil, List.append_nil] at hall
      exact absurd hall.symm hfront
  have hlen := congrArg List.length hall
  rw [List.length_append, List.length_append] at hlen
  intro a
  have habsorb : Absorbs 0 (front ++ buffer.unread) a :=
    absorb_after buffer rfl rfl (Nat.zero_le _) (headEnd?_eq_none.mp hopen) (by omega)
  clear_value a
  cases habsorb with
  | more buffer' hmore hle hskip hunread =>
    refine ⟨hunread, fun _ => ⟨rfl, rfl, rfl⟩, fun hback => ?_⟩
    rw [hback, List.append_nil] at hall
    rw [← hall, hend] at hmore
    cases hmore
  | complete p buffer' hcomplete hle hunread =>
    have hback := hwhole hall hcomplete
    rw [hback, List.append_nil] at hall
    rw [← hall] at hcomplete hunread ⊢
    rw [hend] at hcomplete
    obtain rfl := Option.some.inj hcomplete
    exact ⟨hunread.trans List.drop_length, fun hne => absurd hback hne, fun _ => ⟨rfl, rfl⟩⟩
  | overflow reader buffer' hover hlines =>
    rw [List.length_append] at hover
    omega

end HeadReader

variable {τ : Type} [Transport τ]

theorem Delivers.next_of_nil {next : τ → Prop} {t : τ} (h : Delivers next t []) : next t := by
  cases h with
  | done _ hnext => exact hnext
  | piece _ _ cut after hcut _ _ =>
    obtain ⟨hpos, hle⟩ := hcut 1 (by decide)
    exact absurd (Nat.lt_of_lt_of_le hpos hle) (Nat.lt_irrefl 0)

/-- A peer that sends a head and nothing more is read to its last byte. -/
theorem receiveHeadFrom_of_ends {all : Bytes} (hend : headEnd? all = some all.length)
    (hfits : all.length ≤ maxHeadLength) {next : τ → Prop} {t : τ} (hpeer : Delivers next t all)
    (capacity : Nat) :
    let o := receiveHeadFrom [] t ⟨.new capacity, .new, .empty⟩
    o.result = .ok () ∧ next o.state.1 ∧ o.state.2.buffer.unread = [] ∧
      o.state.2.head = .ofLines (headLines all) := by
  intro o
  have hreceives : Receives next all o :=
    receiveHeadFrom_delivers hpeer [] rfl (Nat.zero_le _) rfl
  clear_value o
  cases hreceives with
  | complete p t' reader buffer calls left hp hle hleft hunread =>
    rw [hend] at hp
    obtain rfl := Option.some.inj hp
    rw [List.drop_length, List.append_eq_nil_iff] at hunread
    obtain ⟨hunread, rfl⟩ := hunread
    exact ⟨rfl, hleft.next_of_nil, hunread, rfl⟩
  | overflow t' reader buffer calls hover hopen => exact absurd hover (Nat.not_lt.mpr hfits)
  | starved t' buffer made hnone hle hnext hdrained =>
    rw [hend] at hnone
    cases hnone

namespace RequestHead

/-- The lines of a signed head end with it, if each of them is one. -/
theorem head_encode {d : Draft} {date : String} {credentials : Credentials} (hdate : Clean date)
    (hgiven : ∀ text ∈ d.given credentials, OneLine text) :
    headLines (d.signWith date credentials).encode = (d.lines date credentials).map Utf8.encode ∧
      headEnd? (d.signWith date credentials).encode =
        some (d.signWith date credentials).encode.length := by
  have hsplit := (isRequest_signWith d hdate credentials).met_iff.mpr hgiven
  have hne : [] ∉ (d.lines date credentials).map Utf8.encode := by
    intro hmem
    obtain ⟨line, hline, hnil⟩ := List.mem_map.mp hmem
    exact Draft.encode_line_ne_nil hline hnil
  have hhead := head_of_splitLines hsplit hne []
  rw [List.append_nil] at hhead
  exact hhead

/-- What one end writes, the other reads. A signed request head of at most the largest size whose
path, host and access key hold no line end is complete with its last byte and not before, however
it is cut and however small the buffer is: after a piece that leaves some of it out, the reader
waits for more. The head that was read has the request line as its status line, the fields that
were written with their names in small letters and their values without blanks at the ends, and the
length that was announced, if one was. Signing once more what was read gives the signature that was
read. -/
theorem request_read_back {d : Draft} {now : Instant} {credentials : Credentials}
    {head : RequestHead} (hsign : d.sign? now credentials = some head)
    (hlength : ∀ n ∈ d.contentLength, n < 2 ^ 64)
    (hgiven : ∀ text ∈ d.given credentials, OneLine text)
    (hfits : head.encode.length ≤ maxHeadLength) :
    ∃ read, ReadBack d credentials head.fields read ∧
      (∀ (front back : Bytes) (buffer : ReceiveBuffer),
        head.encode = front ++ buffer.unread ++ back → front ≠ head.encode →
        let a := (HeadReader.after front).absorb buffer (.ofLines (lines front))
        a.buffer.unread = [] ∧
          (back ≠ [] → a.result = .ok false ∧ a.reader = .after (front ++ buffer.unread) ∧
            a.head = .ofLines (lines (front ++ buffer.unread))) ∧
          (back = [] → a.result = .ok true ∧ a.head = read)) ∧
      ∀ (next : τ → Prop) (t : τ) (capacity : Nat), Delivers next t head.encode →
        let o := receiveHeadFrom [] t ⟨.new capacity, .new, .empty⟩
        o.result = .ok () ∧ next o.state.1 ∧ o.state.2.buffer.unread = [] ∧
          o.state.2.head = read := by
  obtain ⟨text, htext, rfl⟩ := Option.map_eq_some_iff.mp hsign
  obtain ⟨date, -, rfl⟩ := Option.map_eq_some_iff.mp htext
  obtain ⟨hlines, hend⟩ := head_encode (Instant.clean_httpDate? htext) hgiven
  refine ⟨_, readBack_ofLines date credentials hlength, ?_, ?_⟩
  · intro front back buffer hall hfront
    rw [← hlines]
    exact HeadReader.absorb_of_ends hend hfits hall hfront
  · intro next t capacity hpeer
    rw [← hlines]
    exact receiveHeadFrom_of_ends hend hfits hpeer capacity

/-- A path with a blank is read back; a host loses its blanks. -/
theorem request_read_back_with_blanks :
    let d : Draft := ⟨.put, " h ", "/a b", some 3⟩
    ∃ head read, d.sign? ⟨0⟩ ⟨"k", "s"⟩ = some head ∧ head.encode.length ≤ maxHeadLength ∧
      ReadBack d ⟨"k", "s"⟩ head.fields read ∧ pathOf read.statusLine = "/a b" ∧
      read.contentLength = .ok (some 3) ∧ read.fields.entries.head? = some ("host", "h") ∧
      (receiveHeadFrom [] ({ receipts := [.data head.encode] } : Script)
        ⟨.new 0, .new, .empty⟩).state.2.head = read := by
  intro d
  obtain ⟨head, hsign⟩ : ∃ head, d.sign? ⟨0⟩ ⟨"k", "s"⟩ = some head := ⟨_, rfl⟩
  obtain ⟨date, hdate, hhead⟩ := Option.map_eq_some_iff.mp hsign
  have hgiven : ∀ text ∈ d.given ⟨"k", "s"⟩, OneLine text := by
    have hclean : ∀ text ∈ d.given ⟨"k", "s"⟩, Clean text := by decide
    exact fun text htext => (hclean text htext).oneLine
  have hfits : head.encode.length ≤ maxHeadLength := by
    -- The signature is not computed: its length is known.
    have hsignature : (Utf8.encode (d.signature date "s").text).length = 28 := by
      rw [Draft.signature, Signature.encode_text_sign, Signature.length_bytes_sign]
      rfl
    obtain rfl : "Thu, 01 Jan 1970 00:00:00 GMT" = date :=
      Option.some.inj (Eq.trans (by decide) hdate)
    rw [← hhead, Draft.encode_signWith, Draft.lines]
    simp only [List.cons_append, List.nil_append, List.map_cons, written_cons, Utf8.encode_append,
      List.length_append, hsignature]
    decide
  have hlength : ∀ n ∈ d.contentLength, n < 2 ^ 64 := by decide
  obtain ⟨read, hread, -, hloop⟩ := request_read_back (τ := Script) hsign hlength hgiven hfits
  have hpeer : Delivers Ended ({ receipts := [.data head.encode] } : Script) head.encode := by
    have h := Script.delivers (s := { receipts := [.data head.encode] }) [head.encode] (by
      rw [List.mem_singleton]
      exact fun hnil => head.encode_ne_nil hnil.symm) rfl
    rwa [List.flatten_singleton] at h
  refine ⟨head, read, hsign, hfits, hread, hread.parts.2, hread.contentLength, ?_, ?_⟩
  · rw [hread.fields, ← hhead]
    have htrim : Ascii.trimText " h " = "h" := by decide
    have hlower : Ascii.lower "Host" = "host" := by decide
    show some (Ascii.lower "Host", Ascii.trimText " h ") = _
    rw [htrim, hlower]
  · exact (hloop Ended _ 0 hpeer).2.2.2

end RequestHead

end ObjectStream
