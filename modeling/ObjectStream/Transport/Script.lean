/-
  ObjectStream.Transport.Script

  Byte streams that behave as a script says, and the maker that hands them out
  one after another.
-/
import ObjectStream.Transport

namespace ObjectStream

/-- What a peer does when it is asked for bytes. -/
inductive Receipt where
  /-- Bytes that arrive together; those that find no room arrive next. -/
  | data (bytes : Bytes)
  /-- One failing receive. -/
  | fail (error : Error)

namespace Receipt

/-- The bytes in pieces of `size`, the last of which may be shorter. -/
def fragments (size : Nat) (bytes : Bytes) : List Receipt :=
  if bytes = [] then []
  else if size = 0 then [.data bytes]
  else .data (bytes.take size) :: fragments size (bytes.drop size)
termination_by bytes.length
decreasing_by
  have : 0 < bytes.length := List.length_pos_iff.mpr (by assumption)
  simp only [List.length_drop]
  omega

end Receipt

/-- The behaviour of one byte stream. -/
structure Script where
  /-- What receives give; after the last, the peer has closed the stream. -/
  receipts : List Receipt := []
  /-- What sends give: a bound on the bytes that are accepted, or a failure. -/
  sends : List (Except Error Nat) := []
  /-- The bound on every send after those. -/
  sendLimit : Option Nat := none
  /-- The failure of taking the stream down. -/
  disconnectError : Option Error := none
  /-- The failure of setting the stream up. -/
  refusal : Option Error := none

namespace Script

/-- One send. -/
def send (s : Script) (bytes : Bytes) : Except Error Nat × Script :=
  match s.sends with
  | .ok bound :: rest => (.ok (min bound bytes.length), { s with sends := rest })
  | .error e :: rest => (.error e, { s with sends := rest })
  | [] =>
    match s.sendLimit with
    | some bound => (.ok (min bound bytes.length), s)
    | none => (.ok bytes.length, s)

/-- One receive. -/
def receive (s : Script) (room : Nat) : Except Error Bytes × Script :=
  match s.receipts with
  | [] => (.ok [], s)
  | .fail e :: rest => (.error e, { s with receipts := rest })
  | .data bytes :: rest =>
    match bytes.drop room with
    | [] => (.ok (bytes.take room), { s with receipts := rest })
    | left => (.ok (bytes.take room), { s with receipts := .data left :: rest })

/-- The result of taking the stream down. -/
def disconnect (s : Script) : Except Error Unit :=
  match s.disconnectError with
  | some e => .error e
  | none => .ok ()

theorem send_le (s : Script) (bytes : Bytes) (n : Nat) (h : (s.send bytes).1 = .ok n) :
    n ≤ bytes.length := by
  unfold send at h
  split at h
  · cases h; exact Nat.min_le_right _ _
  · cases h
  · split at h
    · cases h; exact Nat.min_le_right _ _
    · cases h; exact Nat.le_refl _

theorem receive_le (s : Script) (room : Nat) (bytes : Bytes) (h : (s.receive room).1 = .ok bytes) :
    bytes.length ≤ room := by
  unfold receive at h
  split at h
  · cases h; exact Nat.zero_le _
  · cases h
  · split at h <;> cases h <;> exact List.length_take_le _ _

instance : Transport Script where
  send := send
  receive := receive
  disconnect := disconnect
  send_le := send_le
  receive_le := receive_le

end Script

/-- The scripts of the streams that are still to be set up. -/
structure Scripts where
  waiting : List Script

namespace Scripts

/-- Sets up the next stream; one that accepts everything and sends nothing when none is left. -/
def connect (k : Scripts) : Except Error Script × Scripts :=
  match k.waiting with
  | [] => (.ok {}, k)
  | s :: rest =>
    match s.refusal with
    | some e => (.error e, ⟨rest⟩)
    | none => (.ok s, ⟨rest⟩)

instance : Connector Scripts Script where
  connect k _ _ _ := connect k

end Scripts

end ObjectStream
