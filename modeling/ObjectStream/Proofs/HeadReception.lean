/-
  ObjectStream.Proofs.HeadReception

  Reading a head from a peer that sends it in pieces. `ReceivesSince` lists what
  the loop that fills the buffer and absorbs it comes to, in terms of all bytes
  that the peer sends and not of the pieces they come in, and
  `receiveHeadFrom_delivers_since` shows it by induction on the pieces. The states
  between two pieces are those of `HeadReader.after`.

  Of a peer that keeps to nothing, `receiveHeadFrom_pauses` says where the loop can
  stop.
-/

import ObjectStream.Connection
import ObjectStream.Proofs.Delivery
import ObjectStream.Proofs.HeadReading
import ObjectStream.Proofs.Series

namespace ObjectStream

open Bytes

variable {τ : Type} [Transport τ]

/-! ## One round of the loop -/

namespace ReceiveBuffer

theorem capacity_pos (b : ReceiveBuffer) : 0 < b.capacity :=
  Nat.lt_of_lt_of_le (by decide) b.floor

theorem room_clear (b : ReceiveBuffer) : b.clear.room = b.capacity := by
  simp [room, clear]

/-- A buffer that ran dry offers all its capacity. -/
theorem fill_of_drained {b : ReceiveBuffer} (h : b.unread = []) (t : τ) :
    b.fill t =
      match Transport.receive t b.capacity with
      | (.error e, t') => ⟨.error e, (b.clear, t'), [.receive b.capacity (.error e)]⟩
      | (.ok bytes, t') =>
        ⟨.ok bytes.length, (b.clear.append bytes, t'), [.receive b.capacity (.ok bytes)]⟩ := by
  have hrewind : b.rewind = b.clear := by rw [rewind, if_pos h]
  rw [fill, hrewind, room_clear]
  exact if_neg (Nat.ne_of_gt b.capacity_pos)

/-- What one receive gave to a buffer that ran dry is all there is to read. -/
theorem unread_append_clear {b : ReceiveBuffer} {t t' : τ} {bytes : Bytes}
    (h : Transport.receive t b.capacity = (.ok bytes, t')) :
    (b.clear.append bytes).unread = bytes := by
  have hle := Transport.receive_le t b.capacity bytes (by rw [h])
  rw [unread_append _ _ (by rwa [room_clear]), unread_clear, List.nil_append]

end ReceiveBuffer

/-- The loop, seen as one fill and what follows from its result. -/
theorem receiveHeadFrom_eq (made : List Call) (t : τ) (p : HeadProgress) :
    receiveHeadFrom made t p =
      let filled := p.buffer.fill t
      let calls := List.reverseAux filled.calls made
      match filled.result with
      | .error e => ⟨.error e, (filled.state.2, { p with buffer := filled.state.1 }), calls.reverse⟩
      | .ok 0 =>
        ⟨.error .connectionReset, (filled.state.2, { p with buffer := filled.state.1 }),
          calls.reverse⟩
      | .ok (_ + 1) =>
        let absorbed := p.reader.absorb filled.state.1 p.head
        let p' : HeadProgress := ⟨absorbed.buffer, absorbed.reader, absorbed.head⟩
        match absorbed.result with
        | .error e => ⟨.error e, (filled.state.2, p'), calls.reverse⟩
        | .ok true => ⟨.ok (), (filled.state.2, p'), calls.reverse⟩
        | .ok false => receiveHeadFrom calls filled.state.2 p' := by
  conv_lhs => unfold receiveHeadFrom
  dsimp only
  split
  · rename_i h; rw [h]
  · rename_i h; rw [h]
  · rename_i h
    rw [h]
    dsimp only
    split
    · rename_i h; rw [h]
    · rename_i h; rw [h]
    · rename_i h; rw [h]

section Round

variable {made : List Call} {t t' : τ} {p : HeadProgress}

/-- A receive that fails ends the loop. -/
theorem receiveHeadFrom_of_error {e : Error} (hdrained : p.buffer.unread = [])
    (h : Transport.receive t p.buffer.capacity = (.error e, t')) :
    receiveHeadFrom made t p = ⟨.error e, (t', { p with buffer := p.buffer.clear }),
      (.receive p.buffer.capacity (.error e) :: made).reverse⟩ := by
  rw [receiveHeadFrom_eq, ReceiveBuffer.fill_of_drained hdrained, h]
  rfl

/-- A receive of no byte ends the loop: the peer has closed the stream. -/
theorem receiveHeadFrom_of_end (hdrained : p.buffer.unread = [])
    (h : Transport.receive t p.buffer.capacity = (.ok [], t')) :
    receiveHeadFrom made t p =
      ⟨.error .connectionReset, (t', { p with buffer := p.buffer.clear.append [] }),
        (.receive p.buffer.capacity (.ok []) :: made).reverse⟩ := by
  rw [receiveHeadFrom_eq, ReceiveBuffer.fill_of_drained hdrained, h]
  rfl

/-- After a receive of some bytes, the loop does as the reader says. -/
theorem receiveHeadFrom_of_bytes {bytes : Bytes} (hdrained : p.buffer.unread = [])
    (h : Transport.receive t p.buffer.capacity = (.ok bytes, t')) (hne : bytes ≠ []) :
    receiveHeadFrom made t p =
      let absorbed := p.reader.absorb (p.buffer.clear.append bytes) p.head
      let calls := .receive p.buffer.capacity (.ok bytes) :: made
      let p' : HeadProgress := ⟨absorbed.buffer, absorbed.reader, absorbed.head⟩
      match absorbed.result with
      | .error e => ⟨.error e, (t', p'), calls.reverse⟩
      | .ok true => ⟨.ok (), (t', p'), calls.reverse⟩
      | .ok false => receiveHeadFrom calls t' p' := by
  obtain ⟨b, rest, rfl⟩ := List.exists_cons_of_ne_nil hne
  rw [receiveHeadFrom_eq, ReceiveBuffer.fill_of_drained hdrained, h]
  rfl

end Round

/-! ## The whole loop -/

/-- The progress between two pieces: these bytes of a head were received, and more are to come. The
head lacks the first `skip` lines of them. -/
def HeadProgress.after (skip : Nat) (buffer : ReceiveBuffer) (read : Bytes) : HeadProgress :=
  ⟨buffer, HeadReader.after read, ResponseHead.ofLines ((lines read).drop skip)⟩

/-- What the loop comes to with a peer that sends `all`, and is then as `next` says, when the head
lacks the first `skip` lines. -/
inductive ReceivesSince (skip : Nat) (next : τ → Prop) (all : Bytes) :
    Outcome Error (τ × HeadProgress) Unit → Prop where
  /-- The head is complete; what follows it is in the buffer or is still to be delivered. -/
  | complete (p : Nat) (t : τ) (reader : HeadReader) (buffer : ReceiveBuffer) (calls : List Call)
      (left : Bytes) :
      headEnd? all = some p → p ≤ maxHeadLength → Delivers next t left →
      buffer.unread ++ left = all.drop p →
      ReceivesSince skip next all
        ⟨.ok (), (t, ⟨buffer, reader, .ofLines ((headLines all).drop skip)⟩), calls⟩
  /-- The head goes on past the largest size. -/
  | overflow (t : τ) (reader : HeadReader) (buffer : ReceiveBuffer) (calls : List Call) :
      maxHeadLength < all.length → [] ∉ lines (all.take maxHeadLength) →
      ReceivesSince skip next all ⟨.error HeadReader.tooLarge,
        (t, ⟨buffer, reader, .ofLines ((lines (all.take maxHeadLength)).drop skip)⟩), calls⟩
  /-- All was read without an empty line, and the loop goes on from there. -/
  | starved (t : τ) (buffer : ReceiveBuffer) (made : List Call) :
      headEnd? all = none → all.length ≤ maxHeadLength → next t → buffer.unread = [] →
      ReceivesSince skip next all (receiveHeadFrom made t (.after skip buffer all))

section Piece

variable {skip : Nat} {read bytes : Bytes} {made : List Call} {t t' : τ} {buffer : ReceiveBuffer}

/-- What the reader makes of a piece: the buffer was dry, so it absorbs this piece and nothing
else. -/
theorem absorbs_of_piece (hread : headEnd? read = none) (hlen : read.length ≤ maxHeadLength)
    (hskip : skip ≤ (lines read).length)
    (hrecv : Transport.receive t buffer.capacity = (.ok bytes, t')) :
    HeadReader.Absorbs skip (read ++ bytes)
      ((HeadReader.after read).absorb (buffer.clear.append bytes)
        (.ofLines ((lines read).drop skip))) := by
  have habsorb := HeadReader.absorb_after (buffer.clear.append bytes) rfl rfl hskip
    (headEnd?_eq_none.mp hread) hlen
  rw [ReceiveBuffer.unread_append_clear hrecv] at habsorb
  exact habsorb

/-- One piece takes the loop from the bytes that were received before it to those with it. -/
theorem receives_of_piece {next : τ → Prop} {left : Bytes} (hread : headEnd? read = none)
    (hlen : read.length ≤ maxHeadLength) (hskip : skip ≤ (lines read).length)
    (hdrained : buffer.unread = []) (hrecv : Transport.receive t buffer.capacity = (.ok bytes, t'))
    (hne : bytes ≠ []) (hleft : Delivers next t' left)
    (ih : ∀ buffer' : ReceiveBuffer, ∀ made' : List Call, headEnd? (read ++ bytes) = none →
      (read ++ bytes).length ≤ maxHeadLength → skip ≤ (lines (read ++ bytes)).length →
      buffer'.unread = [] →
      ReceivesSince skip next (read ++ bytes ++ left)
        (receiveHeadFrom made' t' (.after skip buffer' (read ++ bytes)))) :
    ReceivesSince skip next (read ++ bytes ++ left)
      (receiveHeadFrom made t (.after skip buffer read)) := by
  have habsorb := absorbs_of_piece hread hlen hskip hrecv
  rw [receiveHeadFrom_of_bytes hdrained hrecv hne]
  dsimp only [HeadProgress.after] at habsorb ⊢
  generalize (HeadReader.after read).absorb (buffer.clear.append bytes)
    (ResponseHead.ofLines ((lines read).drop skip)) = absorbed at habsorb ⊢
  cases habsorb with
  | more buffer' hopen hle hskip' hempty => exact ih buffer' _ hopen hle hskip' hempty
  | complete p buffer' hend hle hunread =>
    -- The head ends in this piece; what is still to be received does not change it.
    obtain ⟨hhead, hall⟩ := head_append hend left
    rw [← hhead]
    refine .complete p t' _ buffer' _ left hall hle hleft ?_
    rw [hunread, List.drop_append_of_le_length (headEnd?_le hend)]
  | overflow reader buffer' hover hopen =>
    -- The limit lies in this piece, so the lines before it are known.
    have htake : (read ++ bytes ++ left).take maxHeadLength = (read ++ bytes).take maxHeadLength :=
      List.take_append_of_le_length (Nat.le_of_lt hover)
    rw [← htake] at hopen ⊢
    exact .overflow t' reader buffer' _ (by rw [List.length_append]; omega) hopen

end Piece

/-- However a peer cuts what it sends, the loop reads it as a whole. -/
theorem receiveHeadFrom_delivers_since {next : τ → Prop} {t : τ} {bytes : Bytes}
    (h : Delivers next t bytes) {skip : Nat} (read : Bytes) (made : List Call)
    {buffer : ReceiveBuffer} (hread : headEnd? read = none) (hlen : read.length ≤ maxHeadLength)
    (hskip : skip ≤ (lines read).length) (hdrained : buffer.unread = []) :
    ReceivesSince skip next (read ++ bytes)
      (receiveHeadFrom made t (.after skip buffer read)) := by
  -- On the pieces: `read` takes in one after the other, and the buffer is dry in between.
  induction h generalizing read made buffer with
  | done t hnext =>
    rw [List.append_nil]
    exact .starved t buffer made hread hlen hnext hdrained
  | piece t bytes cut after hcut hrecv hleft ih =>
    have hroom := buffer.capacity_pos
    obtain ⟨hpos, hle⟩ := hcut _ hroom
    -- The piece is cut where the room that the buffer offers lets it.
    have hne : bytes.take (cut buffer.capacity) ≠ [] := by
      rw [← List.length_pos_iff, List.length_take_of_le hle]
      exact hpos
    have hall : read ++ bytes =
        read ++ bytes.take (cut buffer.capacity) ++ bytes.drop (cut buffer.capacity) := by
      rw [List.append_assoc, List.take_append_drop]
    rw [hall]
    exact receives_of_piece hread hlen hskip hdrained (hrecv _ hroom) hne (hleft _ hroom)
      fun buffer' made' hread' hlen' hskip' hdrained' => ih _ hroom _ made' hread' hlen' hskip' hdrained'

/-- With any peer, the loop stops with a complete head or one that is too large, or else between two
pieces, where it can go on. -/
theorem receiveHeadFrom_pauses {skip : Nat} (read : Bytes) (made : List Call) (t : τ)
    {buffer : ReceiveBuffer} (hread : headEnd? read = none) (hlen : read.length ≤ maxHeadLength)
    (hskip : skip ≤ (lines read).length) (hdrained : buffer.unread = []) :
    let o := receiveHeadFrom made t (.after skip buffer read)
    o.result = .ok () ∨ o.result = .error HeadReader.tooLarge ∨
      ∃ read' buffer', headEnd? read' = none ∧ read'.length ≤ maxHeadLength ∧
        buffer'.unread = [] ∧ o.state.2 = .after skip buffer' read' := by
  -- Each piece that does not end the loop brings the head nearer to its largest size.
  induction hroom : maxHeadLength - read.length using Nat.strongRecOn
    generalizing read made t buffer with
  | ind room ih =>
    intro o
    rcases hrecv : Transport.receive t buffer.capacity with ⟨received, t'⟩
    cases received with
    | error e =>
      have ho : o = _ := receiveHeadFrom_of_error hdrained hrecv
      rw [ho]
      exact .inr (.inr ⟨read, buffer.clear, hread, hlen, rfl, rfl⟩)
    | ok bytes =>
      by_cases hne : bytes = []
      · subst hne
        have ho : o = _ := receiveHeadFrom_of_end hdrained hrecv
        rw [ho]
        exact .inr (.inr ⟨read, buffer.clear.append [], hread, hlen,
          ReceiveBuffer.unread_append_clear hrecv, rfl⟩)
      · have hpos : 0 < bytes.length := List.length_pos_iff.mpr hne
        have habsorb := absorbs_of_piece hread hlen hskip hrecv
        have ho : o = _ := receiveHeadFrom_of_bytes hdrained hrecv hne
        rw [ho]
        dsimp only [HeadProgress.after] at habsorb ⊢
        generalize (HeadReader.after read).absorb (buffer.clear.append bytes)
          (ResponseHead.ofLines ((lines read).drop skip)) = absorbed at habsorb ⊢
        cases habsorb with
        | more buffer' hopen hle hskip' hempty =>
          have hless : maxHeadLength - (read ++ bytes).length < room := by
            rw [List.length_append] at hle ⊢
            omega
          exact ih _ hless (read ++ bytes) _ t' hopen hle hskip' hempty rfl
        | complete p buffer' hend hle hunread => exact .inl rfl
        | overflow reader buffer' hover hopen => exact .inr (.inl rfl)

/-- With any peer, a head that is complete is that of the bytes that were received, and those after it
are left. -/
theorem receiveHeadFrom_complete {skip : Nat} (read : Bytes) (made : List Call) (t : τ)
    {buffer : ReceiveBuffer} (hread : headEnd? read = none) (hlen : read.length ≤ maxHeadLength)
    (hskip : skip ≤ (lines read).length) (hdrained : buffer.unread = [])
    (hok : (receiveHeadFrom made t (.after skip buffer read)).result = .ok ()) :
    let o := receiveHeadFrom made t (.after skip buffer read)
    ∃ calls p, o.calls = made.reverse ++ calls ∧
      headEnd? (read ++ calls.flatMap Call.received) = some p ∧ p ≤ maxHeadLength ∧
      o.state.2.head = .ofLines ((headLines (read ++ calls.flatMap Call.received)).drop skip) ∧
      o.state.2.buffer.unread = (read ++ calls.flatMap Call.received).drop p := by
  -- As before; the bytes of each piece go to `read`, and its call to `made`.
  induction hroom : maxHeadLength - read.length using Nat.strongRecOn
    generalizing read made t buffer with
  | ind room ih =>
    rcases hrecv : Transport.receive t buffer.capacity with ⟨received, t'⟩
    cases received with
    | error e =>
      rw [receiveHeadFrom_of_error hdrained hrecv] at hok
      cases hok
    | ok bytes =>
      by_cases hne : bytes = []
      · subst hne
        rw [receiveHeadFrom_of_end hdrained hrecv] at hok
        cases hok
      · have hpos : 0 < bytes.length := List.length_pos_iff.mpr hne
        have habsorb := absorbs_of_piece hread hlen hskip hrecv
        rw [receiveHeadFrom_of_bytes hdrained hrecv hne] at hok ⊢
        dsimp only [HeadProgress.after] at habsorb hok ⊢
        generalize (HeadReader.after read).absorb (buffer.clear.append bytes)
          (ResponseHead.ofLines ((lines read).drop skip)) = absorbed at habsorb hok ⊢
        cases habsorb with
        | more buffer' hopen hle hskip' hempty =>
          have hless : maxHeadLength - (read ++ bytes).length < room := by
            rw [List.length_append] at hle ⊢
            omega
          obtain ⟨calls, p, hcalls, hhead⟩ :=
            ih _ hless (read ++ bytes) _ t' hopen hle hskip' hempty hok rfl
          refine ⟨.receive buffer.capacity (.ok bytes) :: calls, p, ?_, ?_⟩
          · rw [List.reverse_cons, List.append_assoc] at hcalls
            exact hcalls
          · rw [List.flatMap_cons, Call.received_ok, ← List.append_assoc]
            exact hhead
        | complete p buffer' hend hle hunread =>
          refine ⟨[.receive buffer.capacity (.ok bytes)], p, List.reverse_cons, ?_⟩
          rw [List.flatMap_singleton, Call.received_ok]
          exact ⟨hend, hle, rfl, hunread⟩
        | overflow reader buffer' hover hopen => cases hok

/-! ## A head from its first byte -/

/-- What the loop comes to when the head has all lines. -/
abbrev Receives (next : τ → Prop) (all : Bytes) :
    Outcome Error (τ × HeadProgress) Unit → Prop := ReceivesSince 0 next all

theorem receiveHeadFrom_delivers {next : τ → Prop} {t : τ} {bytes : Bytes}
    (h : Delivers next t bytes) (read : Bytes) {made : List Call} {buffer : ReceiveBuffer}
    (hread : headEnd? read = none) (hlen : read.length ≤ maxHeadLength)
    (hdrained : buffer.unread = []) :
    Receives next (read ++ bytes) (receiveHeadFrom made t (.after 0 buffer read)) :=
  receiveHeadFrom_delivers_since h read made hread hlen (Nat.zero_le _) hdrained

/-- Reading a head does not depend on how the peer cuts its bytes or on the size of the buffer: it
gives the lines of the whole. A head that ends in time is read to its end, and the bytes after it
are left; of a head that is too large only the lines that end before the limit are read; and when
the peer pauses before either, everything it sent was read, and reading goes on from there. -/
theorem receiveHead_of_pieces {next : τ → Prop} {t : τ} {bytes : Bytes} (h : Delivers next t bytes)
    (capacity : Nat) :
    let o := receiveHeadFrom [] t ⟨.new capacity, .new, .empty⟩
    (∀ p, headEnd? bytes = some p → p ≤ maxHeadLength →
      o.result = .ok () ∧ o.state.2.head = .ofLines (headLines bytes) ∧
        ∃ left, Delivers next o.state.1 left ∧ o.state.2.buffer.unread ++ left = bytes.drop p) ∧
    ((∀ p, headEnd? bytes = some p → maxHeadLength < p) → maxHeadLength < bytes.length →
      o.result = .error (.other "response header block too large") ∧
        o.state.2.head = .ofLines (lines (bytes.take maxHeadLength))) ∧
    (headEnd? bytes = none → bytes.length ≤ maxHeadLength →
      ∃ t' buffer made, next t' ∧ buffer.unread = [] ∧
        o = receiveHeadFrom made t' ⟨buffer, .after bytes, .ofLines (lines bytes)⟩) := by
  intro o
  have hreceives : Receives next bytes o :=
    receiveHeadFrom_delivers h [] rfl (Nat.zero_le _) rfl
  clear_value o
  cases hreceives with
  | complete p t' reader buffer calls left hend hle hleft hunread =>
    refine ⟨fun q hq _ => ?_, fun hlate _ => ?_, fun hnone _ => ?_⟩
    · rw [hend] at hq
      obtain rfl := Option.some.inj hq
      exact ⟨rfl, rfl, left, hleft, hunread⟩
    · exact absurd (hlate p hend) (Nat.not_lt.mpr hle)
    · rw [hend] at hnone
      cases hnone
  | overflow t' reader buffer calls hover hopen =>
    refine ⟨fun q hq hle => ?_, fun _ _ => ⟨rfl, rfl⟩, fun _ hle => ?_⟩
    · exact absurd (nil_mem_lines_take hq hle) hopen
    · exact absurd hover (Nat.not_lt.mpr hle)
  | starved t' buffer made hnone hle hnext hdrained =>
    refine ⟨fun q hq _ => ?_, fun _ hover => ?_, fun _ _ => ?_⟩
    · rw [hnone] at hq
      cases hq
    · exact absurd hover (Nat.not_lt.mpr hle)
    · exact ⟨t', buffer, made, hnext, hdrained, rfl⟩

/-- A head that comes in three pieces, cut within its line ends: `A`, `B: C`, and a body `D`. -/
theorem receiveHead_of_pieces_cut_in_line_ends :
    Delivers Ended
      ({ receipts := [[65, 13], [10, 66, 58, 32, 67, 13, 10, 13], [10, 68]].map .data } : Script)
      [65, 13, 10, 66, 58, 32, 67, 13, 10, 13, 10, 68] ∧
    (receiveHeadFrom []
      ({ receipts := [[65, 13], [10, 66, 58, 32, 67, 13, 10, 13], [10, 68]].map .data } : Script)
      ⟨.new 0, .new, .empty⟩).state.2.head = ⟨"A", ⟨[("b", "C")]⟩⟩ := by
  have hpieces : Delivers Ended
      ({ receipts := [[65, 13], [10, 66, 58, 32, 67, 13, 10, 13], [10, 68]].map .data } : Script)
      [65, 13, 10, 66, 58, 32, 67, 13, 10, 13, 10, 68] :=
    Script.delivers [[65, 13], [10, 66, 58, 32, 67, 13, 10, 13], [10, 68]] (by decide) rfl
  have hhead := ((receiveHead_of_pieces hpieces 0).1 11 (by decide) (by decide)).2.1
  refine ⟨hpieces, hhead.trans ?_⟩
  decide

end ObjectStream
