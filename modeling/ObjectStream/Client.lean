/-
  ObjectStream.Client

  Opening objects with shared settings. Each open makes a connection of its own;
  one that cannot be opened is closed again.
-/
import ObjectStream.Connection
import ObjectStream.ObjectAddress

namespace ObjectStream

/-- The settings that all connections of a client share. -/
structure Client where
  credentials : Credentials
  timeouts : Timeouts
  bufferCapacity : Nat
deriving DecidableEq, Repr

namespace Client

variable {τ κ : Type}

/-- A client without limits of time and with a buffer of the usual capacity. -/
def new (credentials : Credentials) : Client :=
  ⟨credentials, Timeouts.none, ReceiveBuffer.defaultCapacity⟩

/-- The client as diagnostics show it, with the name of what makes its streams. -/
def describe (client : Client) (connector : String) : String :=
  "Client \x7b connector: " ++ connector ++ ", credentials: " ++ client.credentials.describe ++
    ", timeouts: " ++ client.timeouts.describe ++
    ", buffer_capacity: " ++ toString client.bufferCapacity ++ " \x7d"

/-- The error of a target that no connection is tried for, if it is one. -/
def targetError? (target : Target) (mode : Mode) : Option Error :=
  if target.host.isEmpty then some (.invalidArgument "host must not be empty")
  else if target.path.toList.head? ≠ some '/' then
    some (.invalidArgument ("path must start with '/': " ++ Quoted.encode target.path))
  else if mode = .unopened then some .noMode
  else none

/-- Opens an object. The size is the number of bytes that will be written; reading does not use it. -/
def openTarget [Transport τ] [Connector κ τ] (client : Client) (k : κ) (target : Target) (mode : Mode)
    (size : Nat) (now : Instant) : Outcome Error κ (Connection τ) :=
  match targetError? target mode with
  | some e => .fail k e
  | none =>
    let opened := (Connection.new client.bufferCapacity : Connection τ).openTo k target
      client.credentials mode size client.timeouts now
    match opened.result with
    | .ok () => ⟨.ok opened.state.1, opened.state.2, opened.calls⟩
    | .error e => ⟨.error e, opened.state.2, opened.calls ++ opened.state.1.drop⟩

/-- Opens the object of a URL, which must be of the scheme `http`. -/
def openUrl [Transport τ] [Connector κ τ] (client : Client) (k : κ) (url : String) (mode : Mode)
    (size : Nat) (now : Instant) : Outcome Error κ (Connection τ) :=
  match ObjectAddress.ofUrl url with
  | .error e => .fail k e
  | .ok address =>
    if address.scheme ≠ "http" then
      .fail k (ObjectAddress.refusal url ("unsupported scheme " ++ Quoted.encode address.scheme))
    else client.openTarget k ⟨address.host, address.port, address.path⟩ mode size now

/-- A URL is refused before any call, or else the target that it names is opened. -/
theorem openUrl_cases [Transport τ] [Connector κ τ] (client : Client) (k : κ) (url : String) (mode : Mode)
    (size : Nat) (now : Instant) :
    let o : Outcome Error κ (Connection τ) := client.openUrl k url mode size now
    (∃ message, o = .fail k (.invalidUrl message)) ∨
      ∃ address, ObjectAddress.ofUrl url = .ok address ∧
        o = client.openTarget k ⟨address.host, address.port, address.path⟩ mode size now := by
  dsimp only
  rw [openUrl]
  cases hread : ObjectAddress.ofUrl url with
  | error e =>
    obtain ⟨message, rfl⟩ := ObjectAddress.exists_of_ofUrl_eq_error hread
    exact .inl ⟨message, rfl⟩
  | ok address =>
    dsimp only
    split
    · exact .inl ⟨_, rfl⟩
    · exact .inr ⟨address, rfl, rfl⟩

end Client

end ObjectStream
