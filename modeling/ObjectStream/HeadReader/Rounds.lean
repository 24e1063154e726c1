/-
  ObjectStream.HeadReader.Rounds

  The head reader round by round, with all that it looks at on the way. A round
  searches the bytes for a line end, copies those of the segment out of the buffer,
  goes past them, and looks at the line that they complete or lengthen. On its way it
  can stop in more places than a head gives reason to.
-/
import ObjectStream.HeadReader

namespace ObjectStream.HeadReader

/-- Where the first line end of some bytes stands. -/
def breakAt? (bytes : Bytes) : Option Nat :=
  (bytes.zip bytes.tail).findIdx? (· == (Bytes.cr, Bytes.lf))

/-- The number of bytes of the next segment, by a search: one byte, if it is the line feed that the line
under way waits for, and else those through the first line end, or all if no line ends in them. -/
def segmentLength (awaitsLf : Bool) : Bytes → Nat
  | [] => 0
  | b :: rest =>
    if awaitsLf && b == Bytes.lf then 1
    else ((breakAt? (b :: rest)).map (· + 2)).getD (b :: rest).length

/-- The error of a line that is shorter than its end. -/
def malformedLine : Error := .other "malformed response line"

/-- Why a round does not come to its end. -/
inductive Breach where
  /-- Bytes outside of the buffer were asked for. -/
  | outOfRange
  /-- More bytes were passed over than were unread. -/
  | consume (e : ReceiveBuffer.ConsumeError)
  /-- The line has no end, and yet bytes are left behind it. -/
  | unterminated
deriving DecidableEq, Repr

/-- What a round comes to. -/
inductive Round where
  /-- Nothing more is absorbed. -/
  | ended (absorbed : Absorbed)
  /-- A line was taken in, and the reader is at the start of the next. -/
  | next (reader : HeadReader) (buffer : ReceiveBuffer) (head : ResponseHead)

/-- What follows from the line under way, with a segment added to it that was taken out of the buffer. -/
def judge (line : Bytes) (seen : Nat) (buffer : ReceiveBuffer) (head : ResponseHead) :
    Except Breach Round :=
  if line = Bytes.crlf then .ok (.ended ⟨.ok true, ⟨[], seen⟩, buffer, head⟩)
  else if !Bytes.crlf.isSuffixOf line then
    if buffer.isEmpty then .ok (.ended ⟨.ok false, ⟨line.reverse, seen⟩, buffer, head⟩)
    else .error .unterminated
  else if line.length < 2 then
    .ok (.ended ⟨.error malformedLine, ⟨line.reverse, seen⟩, buffer, head⟩)
  else .ok (.next ⟨[], seen⟩ buffer (head.addLine (line.take (line.length - 2))))

/-- One round, with unread bytes in the buffer. -/
def round (r : HeadReader) (buffer : ReceiveBuffer) (head : ResponseHead) : Except Breach Round :=
  let length := segmentLength r.awaitsLf buffer.unread
  let seen := r.seen + length
  if maxHeadLength < seen then .ok (.ended ⟨.error tooLarge, { r with seen }, buffer, head⟩)
  else
    match buffer.unread.slice? 0 length, buffer.consume length with
    | none, _ => .error .outOfRange
    | some _, .error e => .error (.consume e)
    | some taken, .ok buffer => judge (r.line ++ taken) seen buffer head

/-! ## Progress -/

theorem segmentLength_pos (awaitsLf : Bool) {bytes : Bytes} (h : bytes ≠ []) :
    0 < segmentLength awaitsLf bytes := by
  obtain ⟨b, rest, rfl⟩ := List.exists_cons_of_ne_nil h
  rw [segmentLength]
  split
  · exact Nat.one_pos
  · cases breakAt? (b :: rest) <;> exact Nat.succ_pos _

theorem buffer_of_judge_next {line : Bytes} {seen : Nat} {buffer buffer' : ReceiveBuffer}
    {head head' : ResponseHead} {r' : HeadReader}
    (h : judge line seen buffer head = .ok (.next r' buffer' head')) : buffer' = buffer := by
  rw [judge] at h
  split at h
  · cases h
  · split at h
    · split at h <;> cases h
    · split at h <;> cases h
      rfl

/-- A round with another one after it has gone past bytes. -/
theorem length_unread_of_next {r r' : HeadReader} {buffer buffer' : ReceiveBuffer}
    {head head' : ResponseHead} (hne : buffer.unread ≠ [])
    (h : r.round buffer head = .ok (.next r' buffer' head')) :
    buffer'.unread.length < buffer.unread.length := by
  rw [round] at h
  split at h
  · cases h
  · split at h
    · cases h
    · cases h
    · rename_i consumed _ hconsume
      rw [buffer_of_judge_next h]
      rw [ReceiveBuffer.consume] at hconsume
      split at hconsume
      · cases hconsume
        exact ReceiveBuffer.length_unread_skip_lt (segmentLength_pos r.awaitsLf hne) hne
      · cases hconsume

/-! ## All rounds -/

/-- Goes from round to round while there are unread bytes. -/
def feed (r : HeadReader) (buffer : ReceiveBuffer) (head : ResponseHead) : Except Breach Absorbed :=
  if buffer.unread = [] then .ok ⟨.ok false, r, buffer, head⟩
  else
    match _h : r.round buffer head with
    | .error e => .error e
    | .ok (.ended absorbed) => .ok absorbed
    | .ok (.next r' buffer' head') => feed r' buffer' head'
termination_by buffer.unread.length
decreasing_by exact length_unread_of_next (by assumption) _h

end ObjectStream.HeadReader
