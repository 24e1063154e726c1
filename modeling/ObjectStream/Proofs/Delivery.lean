/-
  ObjectStream.Proofs.Delivery

  What a peer sends, apart from how it comes. `Delivers` says of a byte stream
  that its receives give certain bytes in non-empty pieces: where each piece ends
  is up to the stream, and may depend on the room that is offered. `Ended` says
  that nothing comes any more.

  A script whose data are not empty is such a stream.
-/

import ObjectStream.Transport.Script

namespace ObjectStream

variable {τ : Type} [Transport τ]

/-- The stream gives exactly these bytes, in non-empty pieces, and is then as `next` says. -/
inductive Delivers (next : τ → Prop) : τ → Bytes → Prop where
  | done (t : τ) : next t → Delivers next t []
  | piece (t : τ) (bytes : Bytes) (cut : Nat → Nat) (after : Nat → τ) :
      (∀ room, 0 < room → 0 < cut room ∧ cut room ≤ bytes.length) →
      (∀ room, 0 < room → Transport.receive t room = (.ok (bytes.take (cut room)), after room)) →
      (∀ room, 0 < room → Delivers next (after room) (bytes.drop (cut room))) →
      Delivers next t bytes

/-- The peer has closed the stream: a receive gives no byte. -/
def Ended (t : τ) : Prop := ∀ room, 0 < room → (Transport.receive t room).1 = .ok []

/-! ## Scripts -/

namespace Script

theorem ended_of_receipts {s : Script} (h : s.receipts = []) : Ended s := by
  intro room _
  change (s.receive room).1 = _
  rw [receive, h]

/-- The receipts that data leave when some room was offered. -/
def leave (room : Nat) (bytes : Bytes) (rest : List Receipt) : List Receipt :=
  if bytes.drop room = [] then rest else .data (bytes.drop room) :: rest

theorem receive_data {s : Script} {bytes : Bytes} {rest : List Receipt}
    (h : s.receipts = .data bytes :: rest) (room : Nat) :
    s.receive room =
      (.ok (bytes.take room), { s with receipts := leave room bytes rest }) := by
  rw [receive, h, leave]
  dsimp only
  split
  · rename_i hleft
    rw [if_pos hleft]
  · rename_i hleft
    rw [if_neg hleft]

/-- A script of data, and of other receipts after them, delivers the data, however the room cuts
them. -/
theorem delivers_then (pieces : List Bytes) (hne : [] ∉ pieces) {rest : List Receipt}
    {next : Script → Prop} {s : Script} (h : s.receipts = pieces.map .data ++ rest)
    (hnext : next { s with receipts := rest }) : Delivers next s pieces.flatten := by
  -- On the number of bytes left: a receive may leave a rest of the first piece in its place, so the
  -- list of pieces need not get shorter.
  induction hn : pieces.flatten.length using Nat.strongRecOn generalizing pieces s with
  | ind n ih =>
    cases pieces with
    | nil =>
      have hs : s = { s with receipts := rest } := by rw [← show s.receipts = rest from h]
      rw [← hs] at hnext
      exact .done s hnext
    | cons bytes later =>
      have hbytes : 0 < bytes.length :=
        List.length_pos_iff.mpr fun hnil => hne (hnil ▸ List.mem_cons_self ..)
      have hlater : [] ∉ later := fun hmem => hne (List.mem_cons_of_mem _ hmem)
      have hreceive := receive_data (s := s) h
      refine .piece s _ (fun room => min room bytes.length) (fun room => (s.receive room).2)
        (fun room hroom => ?_) (fun room _ => ?_) (fun room hroom => ?_)
      · rw [List.flatten_cons, List.length_append]
        omega
      · -- What is received is a front of the whole, since it is one of the first piece.
        have htake : (bytes :: later).flatten.take (min room bytes.length) = bytes.take room := by
          rw [List.flatten_cons, List.take_append_of_le_length (Nat.min_le_right ..),
            ← List.take_eq_take_min]
        rw [htake]
        change s.receive room = _
        rw [hreceive]
      · -- The rest of the first piece comes next, unless nothing is left of it.
        rw [List.flatten_cons, List.drop_append_of_le_length (Nat.min_le_right ..), hreceive, leave]
        by_cases hnil : bytes.drop room = []
        · rw [if_pos hnil]
          have hall : bytes.drop (min room bytes.length) = [] := by
            rw [List.drop_eq_nil_iff] at hnil ⊢
            omega
          rw [hall, List.nil_append]
          refine ih _ ?_ later hlater rfl hnext rfl
          rw [← hn, List.flatten_cons, List.length_append]
          omega
        · rw [if_neg hnil]
          have hlong : room < bytes.length := by rwa [List.drop_eq_nil_iff, Nat.not_le] at hnil
          rw [Nat.min_eq_left (Nat.le_of_lt hlong)]
          refine ih _ ?_ (bytes.drop room :: later) ?_ rfl hnext rfl
          · rw [← hn, List.flatten_cons, List.flatten_cons, List.length_append,
              List.length_append, List.length_drop]
            omega
          · exact fun hmem =>
              (List.mem_cons.mp hmem).elim (fun heq => hnil heq.symm) hlater

/-- A script of data delivers them, and then closes the stream. -/
theorem delivers (pieces : List Bytes) (hne : [] ∉ pieces) {s : Script}
    (h : s.receipts = pieces.map .data) : Delivers Ended s pieces.flatten :=
  delivers_then pieces hne (h.trans (List.append_nil _).symm) (ended_of_receipts rfl)

end Script

end ObjectStream
