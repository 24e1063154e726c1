/-
  ObjectStream.ReceiveBuffer

  The store between a byte stream and its reader. It has a fixed capacity; the
  unread bytes start at a position, new ones are added after them, and the
  position returns to the start when the store is filled again after it ran dry.
-/
import ObjectStream.Transport

namespace ObjectStream

/-- The least capacity. -/
def ReceiveBuffer.minCapacity : Nat := 16

/-- A receive buffer; its capacity is never below the least one, and its unread bytes stay within it. -/
structure ReceiveBuffer where
  capacity : Nat
  position : Nat
  unread : Bytes
  floor : ReceiveBuffer.minCapacity ≤ capacity
  within : position + unread.length ≤ capacity

namespace ReceiveBuffer

/-- The capacity when none is asked for. -/
def defaultCapacity : Nat := 1024

/-- An empty buffer, of at least the least capacity. -/
def new (capacity : Nat) : ReceiveBuffer :=
  ⟨max capacity minCapacity, 0, [], Nat.le_max_right _ _, Nat.zero_le _⟩

/-- The number of unread bytes. -/
def length (b : ReceiveBuffer) : Nat := b.unread.length

/-- Whether there is nothing to read. -/
def isEmpty (b : ReceiveBuffer) : Bool := b.unread.isEmpty

/-- Goes past the first `n` unread bytes, or past all if there are fewer. -/
def skip (b : ReceiveBuffer) (n : Nat) : ReceiveBuffer :=
  { b with
    position := b.position + min n b.unread.length
    unread := b.unread.drop n
    within := by
      have := b.within
      simp only [List.length_drop]
      omega }

/-- Why bytes were not passed over. -/
inductive ConsumeError where
  /-- There are fewer unread bytes. -/
  | pastEnd
deriving DecidableEq, Repr

/-- What a consume error says. -/
def ConsumeError.message : ConsumeError → String
  | .pastEnd => "consumed past end of receive buffer"

/-- Goes past exactly `n` unread bytes. -/
def consume (b : ReceiveBuffer) (n : Nat) : Except ConsumeError ReceiveBuffer :=
  if n ≤ b.unread.length then .ok (b.skip n) else .error .pastEnd

/-- The first unread bytes, up to `n`, and the buffer after them. -/
def take (b : ReceiveBuffer) (n : Nat) : Bytes × ReceiveBuffer :=
  (b.unread.take n, b.skip n)

/-- Drops all bytes and returns to the start. -/
def clear (b : ReceiveBuffer) : ReceiveBuffer :=
  { b with position := 0, unread := [], within := Nat.zero_le _ }

/-- Returns to the start if there is nothing to read. -/
def rewind (b : ReceiveBuffer) : ReceiveBuffer :=
  if b.unread = [] then b.clear else b

/-- The room after the unread bytes. -/
def room (b : ReceiveBuffer) : Nat :=
  b.capacity - (b.position + b.unread.length)

/-- Adds bytes after the unread ones, as far as there is room. -/
def append (b : ReceiveBuffer) (bytes : Bytes) : ReceiveBuffer :=
  { b with
    unread := b.unread ++ bytes.take b.room
    within := by
      have := b.within
      simp only [room, List.length_append, List.length_take]
      omega }

/-- Receives once into the room after the unread bytes, and tells how many bytes came. Without room
it tells zero and leaves the stream alone. -/
def fill {τ : Type} [Transport τ] (b : ReceiveBuffer) (t : τ) :
    Outcome Error (ReceiveBuffer × τ) Nat :=
  let ready := b.rewind
  if ready.room = 0 then .ok (ready, t) 0
  else
    match Transport.receive t ready.room with
    | (.error e, t') => ⟨.error e, (ready, t'), [.receive ready.room (.error e)]⟩
    | (.ok bytes, t') =>
      ⟨.ok bytes.length, (ready.append bytes, t'), [.receive ready.room (.ok bytes)]⟩

/-! ## The unread bytes after each operation -/

@[simp] theorem unread_new (capacity : Nat) : (new capacity).unread = [] := rfl

@[simp] theorem unread_skip (b : ReceiveBuffer) (n : Nat) :
    (b.skip n).unread = b.unread.drop n := rfl

/-- Going past bytes leaves fewer of them. -/
theorem length_unread_skip_lt {b : ReceiveBuffer} {n : Nat} (hpos : 0 < n) (hne : b.unread ≠ []) :
    (b.skip n).unread.length < b.unread.length := by
  have hlength := List.length_pos_iff.mpr hne
  rw [unread_skip, List.length_drop]
  omega

@[simp] theorem unread_clear (b : ReceiveBuffer) : b.clear.unread = [] := rfl

/-- Bytes for which there is room are all added. -/
theorem unread_append (b : ReceiveBuffer) (bytes : Bytes) (fits : bytes.length ≤ b.room) :
    (b.append bytes).unread = b.unread ++ bytes := by
  simp only [append, List.take_of_length_le fits]

@[simp] theorem unread_rewind (b : ReceiveBuffer) : b.rewind.unread = b.unread := by
  unfold rewind
  split
  · simp [*]
  · rfl

/-- When a fill tells of bytes, there are bytes to read. -/
theorem unread_fill_ne_nil {τ : Type} [Transport τ] (b : ReceiveBuffer) (t : τ) (n : Nat)
    (h : (b.fill t).result = .ok n) (hn : n ≠ 0) : (b.fill t).state.1.unread ≠ [] := by
  unfold fill at h ⊢
  simp only at h ⊢
  split at h
  · cases h; exact absurd rfl hn
  · rename_i hroom
    rw [if_neg hroom]
    split at h
    · cases h
    · rename_i bytes t' heq
      cases h
      have hle := Transport.receive_le t b.rewind.room bytes (by rw [heq])
      simp only [unread_append _ _ hle, ne_eq, List.append_eq_nil_iff, not_and]
      intro _ hnil
      exact hn (by rw [hnil]; rfl)

end ReceiveBuffer

end ObjectStream
