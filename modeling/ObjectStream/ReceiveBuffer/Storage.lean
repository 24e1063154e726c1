/-
  ObjectStream.ReceiveBuffer.Storage

  A receive buffer as it lies in memory: one array that is used again and again,
  and the window of the unread bytes in it. Bytes that were passed over stay in
  the array until something is written over them, and a stream may write into all
  of the room that it is offered, not only where it tells of bytes.
-/
import ObjectStream.ReceiveBuffer

namespace ObjectStream

/-- Bytes with others written over their front, as far as there is place. -/
def Bytes.overlay (bytes others : Bytes) : Bytes :=
  others.take bytes.length ++ bytes.drop others.length

namespace ReceiveBuffer

/-! ## Operations -/

/-- What can be done with a receive buffer. -/
inductive Operation where
  /-- Receives once. Behind the bytes that it tells of, the stream leaves `litter` in the room. -/
  | fill (litter : Bytes)
  /-- Goes past unread bytes. -/
  | consume (n : Nat)
  /-- Moves unread bytes to the front of `out`. -/
  | takeInto (out : Bytes)
  | clear

/-- What an operation answers. -/
inductive Reply where
  | filled (count : Nat)
  | consumed
  /-- So many bytes were moved, and this is what they were moved to. -/
  | taken (count : Nat) (out : Bytes)
  | cleared
deriving DecidableEq

/-- Why an operation has no answer. -/
inductive Failure where
  /-- The receive failed. -/
  | stream (e : Error)
  | consume (e : ConsumeError)
  /-- Bytes outside of an array were asked for. -/
  | outOfRange

/-- Carries an operation out on a buffer and the stream that it is filled from. -/
def perform {τ : Type} [Transport τ] (op : Operation) (s : ReceiveBuffer × τ) :
    Outcome Failure (ReceiveBuffer × τ) Reply :=
  match op with
  | .fill _ => ((s.1.fill s.2).map .filled).mapError .stream
  | .consume n =>
    match s.1.consume n with
    | .ok b => .ok (b, s.2) .consumed
    | .error e => .fail s (.consume e)
  | .takeInto out =>
    let (front, b) := s.1.take out.length
    .ok (b, s.2) (.taken front.length (out.overlay front))
  | .clear => .ok (s.1.clear, s.2) .cleared

/-! ## The array -/

/-- The array, and where the unread bytes are in it. -/
structure Storage where
  data : Bytes
  position : Nat
  length : Nat
deriving DecidableEq, Repr

namespace Storage

/-- An array of at least the least capacity, without unread bytes. -/
def new (capacity : Nat) : Storage := ⟨List.replicate (max capacity minCapacity) 0, 0, 0⟩

/-- The unread bytes; none if they do not lie within the array. -/
def content? (s : Storage) : Option Bytes := s.data.slice? s.position (s.position + s.length)

/-- Goes past exactly `n` unread bytes. They stay where they are. -/
def consume (s : Storage) (n : Nat) : Except ConsumeError Storage :=
  if n ≤ s.length then .ok { s with position := s.position + n, length := s.length - n }
  else .error .pastEnd

/-- Copies the first unread bytes over the front of `out`, and goes past them. -/
def takeInto (s : Storage) (out : Bytes) : Except Failure (Storage × Reply) :=
  let count := min out.length s.length
  match s.data.slice? s.position (s.position + count) with
  | none => .error .outOfRange
  | some front =>
    match out.overwrite? 0 count front with
    | none => .error .outOfRange
    | some out =>
      match s.consume count with
      | .ok s => .ok (s, .taken count out)
      | .error e => .error (.consume e)

/-- Returns to the start of the array. Nothing in it changes. -/
def clear (s : Storage) : Storage := { s with position := 0, length := 0 }

/-- Returns to the start of the array if there is nothing to read. -/
def rewind (s : Storage) : Storage := if s.length = 0 then { s with position := 0 } else s

/-- The array with bytes written over what lies behind the unread ones. -/
def arrive (s : Storage) (room bytes : Bytes) : Bytes :=
  s.data.take (s.position + s.length) ++ room.overlay bytes

/-- Receives once into what lies behind the unread bytes, and counts the bytes that came to them. -/
def fill {τ : Type} [Transport τ] (s : Storage) (t : τ) (litter : Bytes) :
    Outcome Failure (Storage × τ) Nat :=
  let ready := s.rewind
  let start := ready.position + ready.length
  if start = ready.data.length then .ok (ready, t) 0
  else
    match ready.data.slice? start ready.data.length with
    | none => .fail (ready, t) .outOfRange
    | some room =>
      match Transport.receive t room.length with
      | (.error e, t') =>
        ⟨.error (.stream e), ({ ready with data := ready.arrive room litter }, t'),
          [.receive room.length (.error e)]⟩
      | (.ok bytes, t') =>
        ⟨.ok bytes.length,
          ({ ready with
              data := ready.arrive room (bytes ++ litter)
              length := ready.length + bytes.length }, t'),
          [.receive room.length (.ok bytes)]⟩

/-- Carries an operation out on an array and the stream that it is filled from. -/
def perform {τ : Type} [Transport τ] (op : Operation) (s : Storage × τ) :
    Outcome Failure (Storage × τ) Reply :=
  match op with
  | .fill litter => (s.1.fill s.2 litter).map .filled
  | .consume n =>
    match s.1.consume n with
    | .ok s' => .ok (s', s.2) .consumed
    | .error e => .fail s (.consume e)
  | .takeInto out =>
    match s.1.takeInto out with
    | .ok (s', reply) => .ok (s', s.2) reply
    | .error e => .fail s e
  | .clear => .ok (s.1.clear, s.2) .cleared

end Storage

end ReceiveBuffer

end ObjectStream
