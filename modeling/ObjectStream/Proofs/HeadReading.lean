/-
  ObjectStream.Proofs.HeadReading

  What the head reader has made of the bytes it has read. `HeadReader.after` and
  `ResponseHead.ofLines` compute its state and the head from those bytes alone,
  by cutting them into lines as a whole, and `absorb_after` shows that absorbing
  goes from the one such state to the next: it stops at the end of the head, at
  the size limit, or with everything read. So it does not matter where the bytes
  were cut on their way.

  A head that was dropped on the way has only the lines that ended after that:
  `skip` is the number of lines that it lacks.
-/

import ObjectStream.HeadReader
import ObjectStream.Proofs.Lines

namespace ObjectStream

open Bytes

/-! ## Lossy text -/

theorem Utf8.readFrom_ne_nil (p : Option Partial) (pieces : List (Option Char)) (bytes : Bytes)
    (h : p.isSome ∨ pieces ≠ [] ∨ bytes ≠ []) : readFrom p pieces bytes ≠ [] := by
  fun_induction readFrom p pieces bytes <;> simp_all

/-- Only no bytes at all read as no text. -/
theorem Utf8.decodeLossy_ne_empty {bytes : Bytes} (h : bytes ≠ []) : decodeLossy bytes ≠ "" := by
  intro hempty
  have hpieces : pieces bytes ≠ [] := by
    rw [pieces, ne_eq, List.reverse_eq_nil_iff]
    exact readFrom_ne_nil none [] bytes (Or.inr (Or.inr h))
  rw [decodeLossy, String.ofList_eq_empty_iff, List.map_eq_nil_iff] at hempty
  exact hpieces hempty

/-! ## The head of some lines -/

namespace ResponseHead

/-- Takes a line into the fields, if it is one. -/
def addField (table : FieldTable) (line : Bytes) : FieldTable :=
  match readField? line with
  | some (name, value) => table.insert name value
  | none => table

/-- The head of some lines: the first is the status line, each later one a field. -/
def ofLines : List Bytes → ResponseHead
  | [] => empty
  | first :: later => ⟨Utf8.decodeLossy first, later.foldl addField FieldTable.empty⟩

/-- Heads grow by one line as `ofLines` says, as long as no line is empty. -/
theorem addLine_ofLines {ls : List Bytes} (h : [] ∉ ls) (l : Bytes) :
    (ofLines ls).addLine l = ofLines (ls ++ [l]) := by
  cases ls with
  | nil => simp [ofLines, addLine, empty]
  | cons first later =>
    have hfirst : first ≠ [] := fun hnil => h (hnil ▸ List.mem_cons_self ..)
    have hstatus : (Utf8.decodeLossy first).isEmpty = false := by
      rw [Bool.eq_false_iff, ne_eq, String.isEmpty_iff]
      exact Utf8.decodeLossy_ne_empty hfirst
    simp only [ofLines, addLine, hstatus, List.cons_append, List.foldl_append, List.foldl_cons,
      List.foldl_nil, addField]
    cases readField? l <;> rfl

end ResponseHead

namespace HeadReader

/-! ## Segments -/

theorem endsInCr_reverse (s : Bytes) : endsInCr s.reverse = (s.getLast? == some cr) := by
  rcases List.eq_nil_or_concat s with rfl | ⟨t, b, rfl⟩
  · rfl
  · simp [endsInCr]

theorem segment_cons (afterCr : Bool) (b : UInt8) (rest : Bytes) :
    segment afterCr (b :: rest) =
      if afterCr && b == lf then 1 else segment (b == cr) rest + 1 := by
  rw [segment, segmentFrom]
  split
  · rfl
  · rw [segmentFrom_eq_add, Nat.add_comm, segment, Nat.zero_add]

/-- A segment is the bytes through the first line end that they bring to the line under way, and all
of them if they bring none. -/
theorem segment_spec {line : Bytes} (hline : NoBreak line) (bytes : Bytes) :
    (∀ m < segment (line.getLast? == some cr) bytes, NoBreak (line ++ bytes.take m)) ∧
      ((segment (line.getLast? == some cr) bytes = bytes.length ∧ NoBreak (line ++ bytes)) ∨
        ∃ content, NoBreak content ∧
          line ++ bytes.take (segment (line.getLast? == some cr) bytes) = content ++ crlf) := by
  -- On the bytes; each that ends no line goes over to the line under way.
  induction bytes generalizing line with
  | nil => exact ⟨by simp [segment, segmentFrom], Or.inl ⟨rfl, by simpa using hline⟩⟩
  | cons b rest ih =>
    rw [segment_cons]
    by_cases hend : line.getLast? = some cr ∧ b = lf
    · -- The byte is the line feed that the line under way waits for.
      obtain ⟨hlast, rfl⟩ := hend
      obtain ⟨content, rfl⟩ := List.getLast?_eq_some_iff.mp hlast
      rw [if_pos (by simp)]
      refine ⟨fun m hm => ?_, Or.inr ⟨content, hline.left, by simp [crlf]⟩⟩
      rw [Nat.lt_one_iff.mp hm, List.take_zero, List.append_nil]
      exact hline
    · rw [if_neg (by simpa using hend)]
      have hnext : NoBreak (line ++ [b]) := noBreak_concat.mpr ⟨hline, hend⟩
      have hlast : ((line ++ [b]).getLast? == some cr) = (b == cr) := by simp
      obtain ⟨hbefore, hafter⟩ := ih hnext
      rw [hlast] at hbefore hafter
      refine ⟨fun m hm => ?_, ?_⟩
      · cases m with
        | zero => simpa using hline
        | succ m => simpa using hbefore m (by omega)
      · rcases hafter with ⟨hlen, hbreak⟩ | ⟨content, hbreak, heq⟩
        · exact Or.inl ⟨by rw [hlen, List.length_cons], by simpa using hbreak⟩
        · exact Or.inr ⟨content, hbreak, by simpa using heq⟩

/-! ## Absorbing -/

/-- The reader once it has read some bytes of a head. -/
def after (read : Bytes) : HeadReader := ⟨(unfinished read).reverse, read.length⟩

/-- What absorbing comes to when `all` is everything that was received so far, and the head lacks
the first `skip` lines of it. -/
inductive Absorbs (skip : Nat) (all : Bytes) : Absorbed → Prop where
  /-- No empty line has come yet: everything was read. -/
  | more (buffer : ReceiveBuffer) : headEnd? all = none → all.length ≤ maxHeadLength →
      skip ≤ (lines all).length → buffer.unread = [] →
      Absorbs skip all ⟨.ok false, after all, buffer, .ofLines ((lines all).drop skip)⟩
  /-- The head is complete, and the bytes after it are left in the buffer. -/
  | complete (p : Nat) (buffer : ReceiveBuffer) : headEnd? all = some p → p ≤ maxHeadLength →
      buffer.unread = all.drop p →
      Absorbs skip all ⟨.ok true, ⟨[], p⟩, buffer, .ofLines ((headLines all).drop skip)⟩
  /-- The head goes on past the largest size: only the lines that end before were read. -/
  | overflow (reader : HeadReader) (buffer : ReceiveBuffer) : maxHeadLength < all.length →
      [] ∉ lines (all.take maxHeadLength) →
      Absorbs skip all
        ⟨.error tooLarge, reader, buffer, .ofLines ((lines (all.take maxHeadLength)).drop skip)⟩

/-- The reader counts the line ends that the next segment brings. -/
theorem segment_after (read bytes : Bytes) :
    (∀ m < segment (after read).awaitsLf bytes, lines (read ++ bytes.take m) = lines read) ∧
      ((segment (after read).awaitsLf bytes = bytes.length ∧ NoBreak (unfinished read ++ bytes)) ∨
        ∃ content, NoBreak content ∧
          unfinished read ++ bytes.take (segment (after read).awaitsLf bytes) =
            content ++ crlf) := by
  rw [awaitsLf, after, endsInCr_reverse]
  obtain ⟨hbefore, hafter⟩ := segment_spec (noBreak_unfinished read) bytes
  refine ⟨fun m hm => ?_, hafter⟩
  rw [lines_append, lines_of_noBreak (hbefore m hm), List.append_nil]

/-- A line end completes the line under way. -/
theorem splitLines_of_line {read taken content : Bytes} (hbreak : NoBreak content)
    (h : unfinished read ++ taken = content ++ crlf) :
    splitLines (read ++ taken) = (lines read ++ [content], []) := by
  have hline := splitLines_line hbreak []
  rw [List.append_nil] at hline
  rw [splitLines_append, h, lines, lines, unfinished, hline]
  rfl

theorem reverseAux_after (read taken : Bytes) :
    List.reverseAux taken (after read).reversed = (unfinished read ++ taken).reverse := by
  rw [after, List.reverseAux_eq, List.reverse_append]

/-- The line that a segment completes has no line end inside. -/
theorem noBreak_of_segment {read bytes content : Bytes}
    (h : unfinished read ++ bytes.take (segment (after read).awaitsLf bytes) = content ++ crlf) :
    NoBreak content := by
  obtain ⟨-, ⟨hn, hbreak⟩ | ⟨content', hbreak, heq⟩⟩ := segment_after read bytes
  · rw [hn, List.take_length] at h
    rw [h] at hbreak
    exact hbreak.left
  · rw [h] at heq
    rw [List.append_cancel_right heq]
    exact hbreak

theorem length_append_segment (read bytes : Bytes) (afterCr : Bool) :
    (read ++ bytes.take (segment afterCr bytes)).length = read.length + segment afterCr bytes := by
  rw [List.length_append, List.length_take_of_le (segment_le _ _)]

/-- When the limit lies within a segment, no further line ends before it. -/
theorem lines_of_overflow {read bytes : Bytes} (hlen : read.length ≤ maxHeadLength)
    (hover : maxHeadLength < read.length + segment (after read).awaitsLf bytes) :
    lines ((read ++ bytes).take maxHeadLength) = lines read := by
  have hbefore := (segment_after read bytes).1 (maxHeadLength - read.length) (by omega)
  rw [List.take_append, List.take_of_length_le hlen, hbefore]

/-- Bytes that bring no line end lengthen the line under way. -/
theorem after_of_noBreak {read bytes : Bytes} (h : NoBreak (unfinished read ++ bytes)) :
    lines (read ++ bytes) = lines read ∧
      after (read ++ bytes) = ⟨(unfinished read ++ bytes).reverse, read.length + bytes.length⟩ := by
  refine ⟨?_, ?_⟩
  · rw [lines_append, lines_of_noBreak h, List.append_nil]
  · rw [after, unfinished_append, unfinished_of_noBreak h, List.length_append]

/-- Bytes that complete the line under way leave the reader at the start of the next. -/
theorem after_of_line {read taken content : Bytes} (hbreak : NoBreak content)
    (h : unfinished read ++ taken = content ++ crlf) :
    lines (read ++ taken) = lines read ++ [content] ∧
      after (read ++ taken) = ⟨[], (read ++ taken).length⟩ := by
  have hsplit := splitLines_of_line hbreak h
  refine ⟨by rw [lines, hsplit], ?_⟩
  rw [after, unfinished, hsplit]
  rfl

/-- A line that ends goes to the lines that the head has. -/
theorem addLine_ofLines_drop {ls : List Bytes} {skip : Nat} (hne : [] ∉ ls) (hskip : skip ≤ ls.length)
    (l : Bytes) :
    (ResponseHead.ofLines (ls.drop skip)).addLine l = .ofLines ((ls ++ [l]).drop skip) := by
  rw [ResponseHead.addLine_ofLines fun hmem => hne (List.mem_of_mem_drop hmem),
    List.drop_append_of_le_length hskip]

/-- Absorbing goes on from the bytes that were read to all bytes that were received. -/
theorem absorb_after {read : Bytes} {skip : Nat} {r : HeadReader} {head : ResponseHead}
    (buffer : ReceiveBuffer) (hr : r = after read) (hhead : head = .ofLines ((lines read).drop skip))
    (hskip : skip ≤ (lines read).length) (hopen : [] ∉ lines read)
    (hlen : read.length ≤ maxHeadLength) :
    Absorbs skip (read ++ buffer.unread) (r.absorb buffer head) := by
  -- The induction is on the segments that are taken; `read` grows by one with each of them.
  fun_induction absorb r buffer head generalizing read with
  | case1 r buffer head hnil =>
    subst hr hhead
    rw [hnil, List.append_nil]
    exact .more buffer (headEnd?_eq_none.mpr hopen) hlen hskip hnil
  | case2 r buffer head hne n =>
    -- The segment does not fit any more.
    rename_i hover
    subst hr hhead
    have hn : n ≤ buffer.unread.length := segment_le _ _
    have hlines := lines_of_overflow hlen hover
    change maxHeadLength < read.length + n at hover
    rw [← hlines] at hopen ⊢
    exact .overflow _ _ (by rw [List.length_append]; omega) hopen
  | case3 r buffer head hne n hle =>
    -- The segment ends the empty line.
    rename_i hmatch
    subst hr hhead
    rw [reverseAux_after] at hmatch
    have hline : unfinished read ++ buffer.unread.take n = [] ++ crlf := by
      rw [← List.reverse_inj, hmatch]
      rfl
    have hall : read ++ buffer.unread = read ++ buffer.unread.take n ++ buffer.unread.drop n := by
      rw [List.append_assoc, List.take_append_drop]
    have htaken : (read ++ buffer.unread.take n).length = read.length + n :=
      length_append_segment read buffer.unread _
    obtain ⟨hhead, hend⟩ := head_of_splitLines (splitLines_of_line noBreak_nil hline) hopen
      (buffer.unread.drop n)
    rw [← hall] at hhead hend
    rw [htaken] at hend
    rw [← hhead]
    refine .complete (read.length + n) _ hend (Nat.le_of_not_lt hle) ?_
    rw [ReceiveBuffer.unread_skip, hall, ← htaken, List.drop_left]
  | case4 r buffer head hne n hle content hcontent hmatch =>
    -- The segment ends a line that is not empty, and reading goes on after it.
    rename_i ih
    subst hr hhead
    rw [reverseAux_after] at hmatch
    have hline : unfinished read ++ buffer.unread.take n = content.reverse ++ crlf := by
      rw [← List.reverse_inj, hmatch]
      simp [crlf, cr, lf]
    have htaken : (read ++ buffer.unread.take n).length = read.length + n :=
      length_append_segment read buffer.unread _
    obtain ⟨hlines, hreader⟩ := after_of_line (noBreak_of_segment hline) hline
    rw [htaken] at hreader
    have hopen' : [] ∉ lines (read ++ buffer.unread.take n) := by
      rw [hlines, List.mem_append, List.mem_singleton, List.nil_eq, List.reverse_eq_nil_iff]
      exact not_or.mpr ⟨hopen, hcontent⟩
    have hskip' : skip ≤ (lines (read ++ buffer.unread.take n)).length := by
      rw [hlines, List.length_append]
      omega
    have hnext := ih hreader.symm (by rw [hlines, addLine_ofLines_drop hopen hskip]) hskip' hopen'
      (htaken ▸ Nat.le_of_not_lt hle)
    rw [ReceiveBuffer.unread_skip, List.append_assoc, List.take_append_drop] at hnext
    exact hnext
  | case5 r buffer head hne n hle hempty =>
    -- The bytes run out within a line.
    rename_i hline
    subst hr hhead
    rw [reverseAux_after] at hline ⊢
    obtain ⟨-, ⟨hn, hbreak⟩ | ⟨content, -, hcontent⟩⟩ := segment_after read buffer.unread
    · have hn : n = buffer.unread.length := hn
      obtain ⟨hlines, hreader⟩ := after_of_noBreak hbreak
      change Absorbs skip _ ⟨_, ⟨_, read.length + n⟩, _, _⟩
      rw [hn, List.take_length, ← hreader, ← hlines]
      refine .more _ ?_ ?_ (hlines ▸ hskip) ?_
      · rwa [headEnd?_eq_none, hlines]
      · rw [List.length_append, ← hn]
        exact Nat.le_of_not_lt hle
      · rw [ReceiveBuffer.unread_skip, List.drop_length]
    · refine absurd ?_ (hline content.reverse)
      rw [show n = segment (after read).awaitsLf buffer.unread from rfl, hcontent]
      simp [crlf, cr, lf]

end HeadReader

end ObjectStream
