/-
  ObjectStream.Proofs.CarriedLine

  What the head reader carries from one piece to the next. `Goes` lists all that a
  round can do when the line under way has no line end in it (`round_goes`): of the
  ways in which a round can stop, only the size limit is left. Each round leaves such
  a line again, and an account of the bytes that were consumed (`Carries`); so do all
  rounds of a feed, and a series of fills and feeds (`carried_line_sound`).
-/

import ObjectStream.HeadReader.Rounds
import ObjectStream.Proofs.HeadRuns

namespace ObjectStream

open Bytes

/-- What a fill receives is unread behind what was unread before. -/
theorem ReceiveBuffer.unread_fill {τ : Type} [Transport τ] (b : ReceiveBuffer) (t : τ) :
    (b.fill t).state.1.unread = b.unread ++ (b.fill t).calls.flatMap Call.received := by
  rw [fill]
  split
  · rw [← unread_rewind b]
    exact (List.append_nil _).symm
  · split
    · rw [← unread_rewind b]
      exact (List.append_nil _).symm
    · rename_i bytes t' hrecv
      have hfits := Transport.receive_le t b.rewind.room bytes (by rw [hrecv])
      rw [← unread_rewind b]
      exact (unread_append _ _ hfits).trans (by simp)

/-- Going past all bytes leaves none. -/
theorem ReceiveBuffer.unread_skip_of_all {b : ReceiveBuffer} {n : Nat} (hall : n = b.unread.length) :
    (b.skip n).unread = [] := by
  rw [unread_skip, hall, List.drop_length]

namespace HeadReader

/-! ## The search for a line end -/

theorem breakAt?_cons_cons (b c : UInt8) (rest : Bytes) :
    breakAt? (b :: c :: rest) =
      if b = cr ∧ c = lf then some 0 else (breakAt? (c :: rest)).map (· + 1) := by
  rw [breakAt?, List.tail_cons, List.zip_cons_cons, List.findIdx?_cons]
  simp [breakAt?]

/-- Behind the first byte, the search goes on as a segment after that byte does. -/
theorem getD_breakAt? (b : UInt8) (rest : Bytes) :
    ((breakAt? (b :: rest)).map (· + 2)).getD (b :: rest).length = segment (b == cr) rest + 1 := by
  induction rest generalizing b with
  | nil => rfl
  | cons c rest ih =>
    rw [breakAt?_cons_cons, segment_cons, ← ih c]
    by_cases hend : b = cr ∧ c = lf
    · simp [hend]
    · rw [if_neg hend, if_neg (by simpa using hend)]
      cases breakAt? (c :: rest) <;> rfl

/-- The search finds the segments that the reader takes. -/
theorem segmentLength_eq (awaitsLf : Bool) (bytes : Bytes) :
    segmentLength awaitsLf bytes = segment awaitsLf bytes := by
  cases bytes with
  | nil => rfl
  | cons b rest => rw [segmentLength, segment_cons, getD_breakAt?]

/-! ## What a round can do -/

theorem reverse_line (r : HeadReader) : r.line.reverse = r.reversed := List.reverse_reverse _

theorem awaitsLf_eq (r : HeadReader) : r.awaitsLf = (r.line.getLast? == some cr) := by
  rw [awaitsLf, ← reverse_line, endsInCr_reverse]

theorem line_extend (r : HeadReader) (bytes : Bytes) :
    (r.extend bytes).line = r.line ++ bytes.take (segment r.awaitsLf bytes) := by
  rw [line, extend, List.reverseAux_eq, List.reverse_append, List.reverse_reverse, line]

/-- The outcomes of a round. -/
inductive Goes (r : HeadReader) (b : ReceiveBuffer) (head : ResponseHead) :
    Except Breach Round → Prop where
  /-- The next segment makes the head too large, and is left in the buffer. -/
  | tooLarge : maxHeadLength < (r.extend b.unread).seen →
      Goes r b head (.ok (.ended
        ⟨.error tooLarge, { r with seen := (r.extend b.unread).seen }, b, head⟩))
  /-- It ends the empty line. -/
  | complete : (r.extend b.unread).seen ≤ maxHeadLength → (r.extend b.unread).line = crlf →
      Goes r b head (.ok (.ended ⟨.ok true, ⟨[], (r.extend b.unread).seen⟩,
        b.skip (segment r.awaitsLf b.unread), head⟩))
  /-- It ends no line, and is all there is. -/
  | dry : (r.extend b.unread).seen ≤ maxHeadLength → NoBreak (r.extend b.unread).line →
      segment r.awaitsLf b.unread = b.unread.length →
      Goes r b head (.ok (.ended ⟨.ok false, r.extend b.unread,
        b.skip (segment r.awaitsLf b.unread), head⟩))
  /-- It ends another line. -/
  | line (content : Bytes) : (r.extend b.unread).seen ≤ maxHeadLength →
      (r.extend b.unread).line = content ++ crlf → content ≠ [] →
      Goes r b head (.ok (.next ⟨[], (r.extend b.unread).seen⟩
        (b.skip (segment r.awaitsLf b.unread)) (head.addLine content)))

section Judge

variable {line : Bytes} {b : ReceiveBuffer} (seen : Nat) (head : ResponseHead)

theorem judge_crlf : judge crlf seen b head = .ok (.ended ⟨.ok true, ⟨[], seen⟩, b, head⟩) :=
  if_pos rfl

theorem judge_of_noBreak (hline : NoBreak line) (hdrained : b.unread = []) :
    judge line seen b head = .ok (.ended ⟨.ok false, ⟨line.reverse, seen⟩, b, head⟩) := by
  have hcrlf : line ≠ crlf := fun heq => hline (heq ▸ List.infix_refl _)
  have hsuffix : crlf.isSuffixOf line = false := by
    rw [Bool.eq_false_iff, Ne, List.isSuffixOf_iff_suffix]
    exact fun h => hline h.isInfix
  have hempty : b.isEmpty = true := by rw [ReceiveBuffer.isEmpty, hdrained]; rfl
  rw [judge, if_neg hcrlf, hsuffix, hempty]
  rfl

theorem judge_of_line {content : Bytes} (hcontent : content ≠ []) :
    judge (content ++ crlf) seen b head = .ok (.next ⟨[], seen⟩ b (head.addLine content)) := by
  have hcrlf : content ++ crlf ≠ crlf := fun heq => hcontent (List.append_left_eq_self.mp heq)
  have hsuffix : crlf.isSuffixOf (content ++ crlf) = true := by
    rw [List.isSuffixOf_iff_suffix]
    exact List.suffix_append _ _
  have hlength : (content ++ crlf).length = content.length + 2 := List.length_append
  rw [judge, if_neg hcrlf, hsuffix, if_neg (by decide), if_neg (by omega), hlength,
    Nat.add_sub_cancel, List.take_left]

end Judge

/-- Without a line end in the line under way, a round does one of these things. -/
theorem round_goes {r : HeadReader} {b : ReceiveBuffer} (hline : NoBreak r.line) (head : ResponseHead) :
    Goes r b head (r.round b head) := by
  have hle := segment_le r.awaitsLf b.unread
  obtain ⟨-, hsegment⟩ := segment_spec hline b.unread
  rw [← awaitsLf_eq] at hsegment
  rw [round, segmentLength_eq]
  by_cases hover : maxHeadLength < r.seen + segment r.awaitsLf b.unread
  · rw [if_pos hover]
    exact .tooLarge hover
  have hfits : (r.extend b.unread).seen ≤ maxHeadLength := Nat.le_of_not_lt hover
  -- The segment is in the buffer, so it can be cut out and passed over.
  have hslice : b.unread.slice? 0 (segment r.awaitsLf b.unread) =
      some (b.unread.take (segment r.awaitsLf b.unread)) := slice?_of_le (Nat.zero_le _) hle
  have hconsume : b.consume (segment r.awaitsLf b.unread) =
      .ok (b.skip (segment r.awaitsLf b.unread)) := if_pos hle
  rw [if_neg hover, hslice, hconsume]
  dsimp only
  rw [← line_extend]
  rcases hsegment with ⟨hall, hbreak⟩ | ⟨content, -, hend⟩
  · have hextended : (r.extend b.unread).line = r.line ++ b.unread := by
      rw [line_extend, hall, List.take_length]
    rw [← hextended] at hbreak
    rw [judge_of_noBreak _ _ hbreak (ReceiveBuffer.unread_skip_of_all hall), reverse_line]
    exact .dry hfits hbreak hall
  · rw [← line_extend] at hend
    rw [hend]
    by_cases hcontent : content = []
    · rw [hcontent, List.nil_append] at hend ⊢
      rw [judge_crlf]
      exact .complete hfits hend
    · rw [judge_of_line _ _ hcontent]
      exact .line content hfits hend hcontent

/-! ## Rounds and absorbing -/

/-- What a round comes to, absorbing comes to: at once, or from where the round leaves off. -/
theorem absorb_of_round {r : HeadReader} {b : ReceiveBuffer} (hbreak : NoBreak r.line)
    (hne : b.unread ≠ []) (head : ResponseHead) :
    (∀ a, r.round b head = .ok (.ended a) → r.absorb b head = a) ∧
      ∀ r' b' head', r.round b head = .ok (.next r' b' head') →
        r.absorb b head = r'.absorb b' head' := by
  have hgoes := round_goes hbreak (b := b) head
  rw [absorb, if_neg hne]
  -- The bytes that absorbing looks at are those of the line, newest first.
  have hline : List.reverseAux (b.unread.take (segment r.awaitsLf b.unread)) r.reversed =
      (r.extend b.unread).line.reverse := (reverse_line (r.extend b.unread)).symm
  generalize r.round b head = o at hgoes
  dsimp only
  rw [hline]
  cases hgoes with
  | tooLarge hover =>
    refine ⟨fun a ha => ?_, fun r' b' head' h => by cases h⟩
    cases ha
    exact if_pos hover
  | complete hfits hend =>
    refine ⟨fun a ha => ?_, fun r' b' head' h => by cases h⟩
    cases ha
    rw [hend]
    exact if_neg (Nat.not_lt.mpr hfits)
  | dry hfits hbreak hall =>
    have hopen : ∀ rest, (r.extend b.unread).line.reverse ≠ 10 :: 13 :: rest := by
      intro rest heq
      rw [List.reverse_eq_iff] at heq
      exact hbreak ⟨rest.reverse, [], by simp [heq, crlf, cr, lf]⟩
    refine ⟨fun a ha => ?_, fun r' b' head' h => by cases h⟩
    cases ha
    refine (if_neg (Nat.not_lt.mpr hfits)).trans ?_
    split
    · rename_i heq
      exact absurd heq (hopen [])
    · rename_i heq
      exact absurd heq (hopen _)
    · rw [reverse_line]
      rfl
  | line content hfits hend hcontent =>
    obtain ⟨first, rest, hcons⟩ := List.exists_cons_of_ne_nil (List.reverse_ne_nil_iff.mpr hcontent)
    have hcontent : content = (first :: rest).reverse := by rw [← hcons, List.reverse_reverse]
    refine ⟨fun a ha => (by cases ha), fun r' b' head' h => ?_⟩
    cases h
    refine (if_neg (Nat.not_lt.mpr hfits)).trans ?_
    rw [hend, List.reverse_append, hcons, hcontent]
    rfl

/-! ## The account of the consumed bytes -/

/-- What the reader carries once it has consumed some bytes of a head. -/
structure Carries (r : HeadReader) (consumed : Bytes) : Prop where
  noBreak : NoBreak r.line
  seen_eq : r.seen = consumed.length
  length_le : r.line.length ≤ r.seen
  seen_le : r.seen ≤ maxHeadLength
  awaitsLf_iff : r.awaitsLf = true ↔ consumed.getLast? = some cr

theorem carries_new : Carries .new [] :=
  ⟨noBreak_nil, rfl, Nat.le_refl _, Nat.zero_le _, nofun, nofun⟩

namespace Carries

variable {r : HeadReader} {consumed bytes : Bytes}

/-- The segments of unread bytes are not empty, so the last byte of one is the last that was consumed. -/
theorem getLast?_consumed (hne : bytes ≠ []) (r : HeadReader) (consumed : Bytes) :
    (consumed ++ bytes.take (segment r.awaitsLf bytes)).getLast? =
      (r.extend bytes).line.getLast? := by
  have htaken : bytes.take (segment r.awaitsLf bytes) ≠ [] := by
    rw [← List.length_pos_iff, List.length_take_of_le (segment_le _ _)]
    exact segment_pos _ hne
  rw [line_extend, List.getLast?_append_of_ne_nil _ htaken, List.getLast?_append_of_ne_nil _ htaken]

theorem length_consumed (h : Carries r consumed) :
    (consumed ++ bytes.take (segment r.awaitsLf bytes)).length = (r.extend bytes).seen := by
  rw [length_append_segment, ← h.seen_eq]
  rfl

/-- A segment that ends no line lengthens the one under way. -/
theorem extend (h : Carries r consumed) (hne : bytes ≠ [])
    (hfits : (r.extend bytes).seen ≤ maxHeadLength) (hbreak : NoBreak (r.extend bytes).line) :
    Carries (r.extend bytes) (consumed ++ bytes.take (segment r.awaitsLf bytes)) := by
  refine ⟨hbreak, h.length_consumed.symm, ?_, hfits, ?_⟩
  · rw [length_line_extend]
    exact Nat.add_le_add_right h.length_le _
  · rw [awaitsLf_eq, getLast?_consumed hne, beq_iff_eq]

/-- One that ends a line leaves nothing to carry. -/
theorem next (h : Carries r consumed) (hne : bytes ≠ [])
    (hfits : (r.extend bytes).seen ≤ maxHeadLength) {content : Bytes}
    (hend : (r.extend bytes).line = content ++ crlf) :
    Carries ⟨[], (r.extend bytes).seen⟩ (consumed ++ bytes.take (segment r.awaitsLf bytes)) := by
  refine ⟨noBreak_nil, h.length_consumed.symm, Nat.zero_le _, hfits, nofun, fun hlast => ?_⟩
  rw [getLast?_consumed hne, hend, List.getLast?_append_of_ne_nil _ (by decide)] at hlast
  exact absurd hlast (by decide)

end Carries

/-- All bytes that came to the buffer were consumed or are unread, and of those that were consumed the
reader carries what it has to. -/
def Accounts (received : Bytes) (r : HeadReader) (b : ReceiveBuffer) : Prop :=
  ∃ consumed, received = consumed ++ b.unread ∧ Carries r consumed

theorem Accounts.noBreak {received : Bytes} {r : HeadReader} {b : ReceiveBuffer}
    (h : Accounts received r b) : NoBreak r.line := by
  obtain ⟨consumed, -, hcarries⟩ := h
  exact hcarries.noBreak

/-- Bytes that are passed over are consumed. -/
theorem accounts_skip {received consumed : Bytes} {r' : HeadReader} {b : ReceiveBuffer} {n : Nat}
    (hreceived : received = consumed ++ b.unread) (h : Carries r' (consumed ++ b.unread.take n)) :
    Accounts received r' (b.skip n) := by
  refine ⟨_, ?_, h⟩
  rw [hreceived, ReceiveBuffer.unread_skip, List.append_assoc, List.take_append_drop]

/-- What a round does that keeps the account. -/
inductive Advances (received : Bytes) (p : HeadProgress) : Except Breach Round → Prop where
  /-- The head is found too large, and nothing is consumed. -/
  | tooLarge (r : HeadReader) : maxHeadLength < r.seen → r.line = p.reader.line →
      Advances received p (.ok (.ended ⟨.error HeadReader.tooLarge, r, p.buffer, p.head⟩))
  /-- Bytes are consumed, and the head is complete. -/
  | complete (r : HeadReader) (b : ReceiveBuffer) : b.unread.length < p.buffer.unread.length →
      Accounts received r b → Advances received p (.ok (.ended ⟨.ok true, r, b, p.head⟩))
  /-- All bytes are consumed, and the head goes on. -/
  | dry (r : HeadReader) (b : ReceiveBuffer) : b.unread.length < p.buffer.unread.length →
      b.unread = [] → Accounts received r b →
      Advances received p (.ok (.ended ⟨.ok false, r, b, p.head⟩))
  /-- Bytes are consumed, and a line is taken in. -/
  | next (r : HeadReader) (b : ReceiveBuffer) (head : ResponseHead) :
      b.unread.length < p.buffer.unread.length → Accounts received r b →
      Advances received p (.ok (.next r b head))

theorem round_advances {received : Bytes} {r : HeadReader} {b : ReceiveBuffer}
    (h : Accounts received r b) (hne : b.unread ≠ []) (head : ResponseHead) :
    Advances received ⟨b, r, head⟩ (r.round b head) := by
  obtain ⟨consumed, hreceived, hcarries⟩ := h
  -- Whatever the line comes to, the segment is not empty and is passed over.
  have hless : (b.skip (segment r.awaitsLf b.unread)).unread.length < b.unread.length :=
    ReceiveBuffer.length_unread_skip_lt (segment_pos r.awaitsLf hne) hne
  have hgoes := round_goes hcarries.noBreak (b := b) head
  generalize r.round b head = o at hgoes
  cases hgoes with
  | tooLarge hover => exact .tooLarge _ hover rfl
  | complete hfits hend =>
    have hend : (r.extend b.unread).line = [] ++ crlf := hend
    exact .complete _ _ hless (accounts_skip hreceived (hcarries.next hne hfits hend))
  | dry hfits hbreak hall =>
    exact .dry _ _ hless (ReceiveBuffer.unread_skip_of_all hall)
      (accounts_skip hreceived (hcarries.extend hne hfits hbreak))
  | line content hfits hend =>
    exact .next _ _ _ hless (accounts_skip hreceived (hcarries.next hne hfits hend))

theorem advances_of_round {received : Bytes} {r : HeadReader} {b : ReceiveBuffer} {head : ResponseHead}
    {o : Except Breach Round} (h : Accounts received r b) (hne : b.unread ≠ [])
    (hround : r.round b head = o) : Advances received ⟨b, r, head⟩ o :=
  hround ▸ round_advances h hne head

/-! ## All rounds of a feed -/

/-- The states that a feed comes through, each at the start of a round or with nothing left to read. -/
inductive Rounds : HeadProgress → HeadProgress → Prop where
  | start (p : HeadProgress) : Rounds p p
  | next {p p' : HeadProgress} {r : HeadReader} {b : ReceiveBuffer} {head : ResponseHead} :
      p.buffer.unread ≠ [] → p.reader.round p.buffer p.head = .ok (.next r b head) →
      Rounds ⟨b, r, head⟩ p' → Rounds p p'

theorem Rounds.accounts {received : Bytes} {p p' : HeadProgress} (h : Rounds p p')
    (hp : Accounts received p.reader p.buffer) : Accounts received p'.reader p'.buffer := by
  induction h with
  | start p => exact hp
  | @next p p' r b head hne hround _ ih =>
    cases advances_of_round hp hne hround with
    | next r b head hless haccounts => exact ih haccounts

/-- What a feed comes to: the head is too large, and that is the only failure; or all bytes are accounted
for, and if the head is not complete none is left unread. -/
def Tells (received : Bytes) (a : Absorbed) : Prop :=
  a.result = .error tooLarge ∧ maxHeadLength < a.reader.seen ∨
    ∃ complete, a.result = .ok complete ∧ (complete = false → a.buffer.unread = []) ∧
      Accounts received a.reader a.buffer

/-- A feed goes through its rounds to what absorbing comes to. -/
theorem feed_tells {received : Bytes} {r : HeadReader} {b : ReceiveBuffer} (h : Accounts received r b)
    (head : ResponseHead) :
    ∃ a, r.feed b head = .ok a ∧ r.absorb b head = a ∧ Tells received a := by
  -- On the rounds; the account of one is what the next starts from.
  fun_induction feed r b head with
  | case1 r b head hnil =>
    exact ⟨_, rfl, by rw [absorb, if_pos hnil], .inr ⟨false, rfl, fun _ => hnil, h⟩⟩
  | case2 r b head hne breach hround => cases advances_of_round h hne hround
  | case3 r b head hne a hround =>
    refine ⟨a, rfl, (absorb_of_round h.noBreak hne head).1 a hround, ?_⟩
    cases advances_of_round h hne hround with
    | tooLarge r' hover hline => exact .inl ⟨rfl, hover⟩
    | complete r' b' hless haccounts => exact .inr ⟨true, rfl, nofun, haccounts⟩
    | dry r' b' hless hdrained haccounts => exact .inr ⟨false, rfl, fun _ => hdrained, haccounts⟩
  | case4 r b head hne r' b' head' hround ih =>
    rw [(absorb_of_round h.noBreak hne head).2 r' b' head' hround]
    cases advances_of_round h hne hround with
    | next _ _ _ hless haccounts => exact ih haccounts

/-! ## Fills and feeds -/

/-- A reader and its buffer after any fills and feeds, and all bytes that came to the buffer. No feed
has found the head complete, or too large. -/
inductive Reached : Bytes → HeadReader → ReceiveBuffer → Prop where
  | start (b : ReceiveBuffer) : Reached b.unread .new b
  | filled {received : Bytes} {r : HeadReader} {b : ReceiveBuffer} {τ : Type} [Transport τ] (t : τ) :
      Reached received r b →
      Reached (received ++ (b.fill t).calls.flatMap Call.received) r (b.fill t).state.1
  | fed {received : Bytes} {r : HeadReader} {b : ReceiveBuffer} (head : ResponseHead) {a : Absorbed} :
      Reached received r b → r.feed b head = .ok a → a.result = .ok false →
      Reached received a.reader a.buffer

theorem Reached.accounts {received : Bytes} {r : HeadReader} {b : ReceiveBuffer}
    (h : Reached received r b) : Accounts received r b := by
  induction h with
  | start b => exact ⟨[], rfl, carries_new⟩
  | filled t _ ih =>
    obtain ⟨consumed, rfl, hcarries⟩ := ih
    exact ⟨consumed, by rw [ReceiveBuffer.unread_fill, List.append_assoc], hcarries⟩
  | fed head _ hfeed hmore ih =>
    obtain ⟨a, hfeed', -, htells⟩ := feed_tells ih head
    obtain rfl := Except.ok.inj (hfeed.symm.trans hfeed')
    rcases htells with ⟨htooLarge, -⟩ | ⟨complete, -, -, haccounts⟩
    · rw [hmore] at htooLarge
      cases htooLarge
    · exact haccounts

/-- However the bytes come and are cut, the reader carries a line without a line end, counts the bytes
that were consumed, and waits for a line feed just when a carriage return was consumed last. The same
holds at the start of every round of the next feed, and there the round consumes bytes unless the head
is too large. The feed comes to an end, and if it asks for more it has left nothing unread. -/
theorem carried_line_sound {received : Bytes} {r : HeadReader} {b : ReceiveBuffer}
    (h : Reached received r b) :
    Accounts received r b ∧ ∀ head,
      (∀ p, Rounds ⟨b, r, head⟩ p → Accounts received p.reader p.buffer ∧
        (p.buffer.unread ≠ [] → Advances received p (p.reader.round p.buffer p.head))) ∧
      ∃ a, r.feed b head = .ok a ∧ r.absorb b head = a ∧ Tells received a := by
  have haccounts := h.accounts
  refine ⟨haccounts, fun head => ⟨fun p hrounds => ?_, feed_tells haccounts head⟩⟩
  have hp := hrounds.accounts haccounts
  exact ⟨hp, fun hne => round_advances hp hne p.head⟩

/-- A line that is cut within its end, and the start of the next line. -/
theorem carried_line_cut_in_line_end :
    ∃ b, Reached [65, 13, 10, 66] ⟨[13, 65], 2⟩ b ∧ b.unread = [10, 66] ∧
      Accounts [65, 13, 10, 66] ⟨[13, 65], 2⟩ b ∧
      ∃ a, feed ⟨[13, 65], 2⟩ b .empty = .ok a ∧ a.result = .ok false ∧
        a.reader = ⟨[66], 4⟩ ∧ a.buffer.unread = [] ∧ a.head.statusLine = "A" := by
  let pieces : Script := { receipts := [.data [65, 13], .data [10, 66]] }
  let first := (ReceiveBuffer.new 0).fill pieces
  have hfilled : Reached [65, 13] .new first.state.1 := (Reached.start (.new 0)).filled pieces
  obtain ⟨-, hfeed⟩ := carried_line_sound hfilled
  obtain ⟨-, a, hfeed, habsorb, -⟩ := hfeed .empty
  have ha : a = ⟨.ok false, ⟨[13, 65], 2⟩, first.state.1.skip 2, .empty⟩ := by
    rw [← habsorb, absorb]
    rfl
  subst ha
  have hfed : Reached [65, 13] ⟨[13, 65], 2⟩ (first.state.1.skip 2) := hfilled.fed .empty hfeed rfl
  have hreached := hfed.filled first.state.2
  let second := ((first.state.1.skip 2).fill first.state.2).state.1
  obtain ⟨haccounts, hfeed⟩ := carried_line_sound hreached
  obtain ⟨-, a, hfeed, habsorb, -⟩ := hfeed .empty
  have hrest : absorb ⟨[], 3⟩ (second.skip 1) (ResponseHead.empty.addLine [65]) =
      ⟨.ok false, ⟨[66], 4⟩, (second.skip 1).skip 1, ResponseHead.empty.addLine [65]⟩ := by
    rw [absorb]
    rfl
  have ha : a = ⟨.ok false, ⟨[66], 4⟩, (second.skip 1).skip 1, ResponseHead.empty.addLine [65]⟩ := by
    rw [← habsorb, absorb]
    exact hrest
  subst ha
  exact ⟨second, hreached, rfl, haccounts, _, hfeed, rfl, rfl, rfl, by decide⟩

end HeadReader
end ObjectStream
