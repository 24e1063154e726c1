/-
  ObjectStream.Transport

  The byte stream below a connection, as a value that every call replaces: what
  a stream and a maker of streams can do, the log of such calls, and sending a
  whole byte string in as many calls as it takes.
-/
import ObjectStream.Bytes
import ObjectStream.Error
import ObjectStream.Timeouts

namespace ObjectStream

/-! ## Streams and their makers -/

/-- A connected byte stream. No call takes more bytes than it was offered, or gives more than there
was room for. -/
class Transport (τ : Type) where
  /-- Offers bytes; answers how many were accepted. -/
  send : τ → Bytes → Except Error Nat × τ
  /-- Receives into some room; no byte means that the peer has closed the stream. -/
  receive : τ → Nat → Except Error Bytes × τ
  /-- Takes the stream down. -/
  disconnect : τ → Except Error Unit
  send_le : ∀ t bytes n, (send t bytes).1 = .ok n → n ≤ bytes.length
  receive_le : ∀ t room bytes, (receive t room).1 = .ok bytes → bytes.length ≤ room

/-- A maker of byte streams. -/
class Connector (κ : Type) (τ : outParam Type) where
  /-- Sets up a stream to a port of a host. -/
  connect : κ → String → UInt16 → Timeouts → Except Error τ × κ

/-! ## Calls and outcomes -/

/-- A call that was made on a stream or its maker, with what it gave. -/
inductive Call where
  | connect (host : String) (port : UInt16) (timeouts : Timeouts) (result : Except Error Unit)
  | send (offered : Bytes) (accepted : Except Error Nat)
  | receive (room : Nat) (received : Except Error Bytes)
  | disconnect (result : Except Error Unit)

/-- What an operation comes to: its result, the state after it, and the calls it made in order. The
state counts also when the operation failed. -/
structure Outcome (ε σ α : Type) where
  result : Except ε α
  state : σ
  calls : List Call

namespace Outcome

variable {ε ε' σ σ' α β : Type}

/-- Success without a call. -/
def ok (state : σ) (value : α) : Outcome ε σ α := ⟨.ok value, state, []⟩

/-- Failure without a call. -/
def fail (state : σ) (error : ε) : Outcome ε σ α := ⟨.error error, state, []⟩

/-- The same outcome with the state seen through `f`. -/
def mapState (f : σ → σ') (o : Outcome ε σ α) : Outcome ε σ' α := ⟨o.result, f o.state, o.calls⟩

/-- The same outcome with another cause of failure. -/
def mapError (f : ε → ε') (o : Outcome ε σ α) : Outcome ε' σ α :=
  ⟨o.result.mapError f, o.state, o.calls⟩

/-- The same outcome with a value instead of the one it gave. -/
def map (f : α → β) (o : Outcome ε σ α) : Outcome ε σ β := ⟨o.result.map f, o.state, o.calls⟩

/-- The same outcome after earlier calls. -/
def after (calls : List Call) (o : Outcome ε σ α) : Outcome ε σ α :=
  { o with calls := calls ++ o.calls }

/-- Goes on with another operation if this one succeeded. -/
def andThen (o : Outcome ε σ α) (next : σ → α → Outcome ε σ β) : Outcome ε σ β :=
  match o.result with
  | .ok value => (next o.state value).after o.calls
  | .error e => ⟨.error e, o.state, o.calls⟩

end Outcome

/-! ## Sending a whole byte string -/

/-- Sends bytes until all are accepted or a send fails, where accepting none counts as a failure;
`made` are the calls so far, newest first. -/
def sendAllFrom {τ : Type} [Transport τ] (made : List Call) (t : τ) (bytes : Bytes) :
    Outcome Error τ Unit :=
  if bytes = [] then ⟨.ok (), t, made.reverse⟩
  else
    match Transport.send t bytes with
    | (.error e, t') => ⟨.error e, t', (.send bytes (.error e) :: made).reverse⟩
    | (.ok 0, t') => ⟨.error .connectionReset, t', (.send bytes (.ok 0) :: made).reverse⟩
    | (.ok (n + 1), t') =>
      sendAllFrom (.send bytes (.ok (n + 1)) :: made) t' (bytes.drop (n + 1))
termination_by bytes.length
decreasing_by
  have : 0 < bytes.length := List.length_pos_iff.mpr (by assumption)
  simp only [List.length_drop]
  omega

/-- Sends the whole of a byte string. -/
def sendAll {τ : Type} [Transport τ] (t : τ) (bytes : Bytes) : Outcome Error τ Unit :=
  sendAllFrom [] t bytes

end ObjectStream
