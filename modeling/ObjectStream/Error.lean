/-
  ObjectStream.Error

  What can go wrong, as causes with one message each, and the exchange of such
  causes with the faults that a system reports for its streams.
-/

namespace ObjectStream

/-- Why an operation failed. -/
inductive Error where
  /-- A malformed response, an unexpected status, or a failure with no better cause. -/
  | other (detail : String)
  /-- An argument that no call accepts. -/
  | invalidArgument (detail : String)
  /-- A call that does not fit the state of the connection. -/
  | invalidOperation (detail : String)
  /-- A URL that cannot be read, or names nothing that can be reached. -/
  | invalidUrl (detail : String)
  /-- A host name without an address. -/
  | noHost (detail : String)
  /-- Refused by the local system. -/
  | denied
  /-- Refused by the peer. -/
  | refused
  /-- No way to the peer. -/
  | unreachable
  /-- Ended by the peer. -/
  | connectionReset
  /-- Took too long. -/
  | timeout
  /-- A protocol feature that is not supported. -/
  | unsupported (detail : String)
  /-- A response field that is not there. -/
  | noSuchField (name : String)
  /-- The server refuses the request. -/
  | forbidden
  /-- The server does not have the object. -/
  | notFound
  /-- An instant that has no date text: before 1970, or from the year 10000 on. -/
  | undatable
deriving DecidableEq, Repr

namespace Error

/-- The text that reports a cause. -/
def message : Error → String
  | other detail => "An unspecified error occurred: " ++ detail
  | invalidArgument detail => "An invalid argument was passed to a function: " ++ detail
  | invalidOperation detail => "An invalid operation was requested: " ++ detail
  | invalidUrl detail => "An invalid URL was passed to a function: " ++ detail
  | noHost detail => "No such host was found: " ++ detail
  | denied => "Access denied"
  | refused => "The connection was refused"
  | unreachable => "The network is unreachable"
  | connectionReset => "The connection was reset by the peer"
  | timeout => "The operation timed out"
  | unsupported detail => "An unsupported protocol function was encountered: " ++ detail
  | noSuchField name => "The requested field was not found: " ++ name
  | forbidden => "The server refused to authorize the request"
  | notFound => "The object was not found"
  | undatable => "The instant has no date text"

end Error

/-! ## Faults of the system -/

/-- The kinds of fault that a system tells apart. -/
inductive FaultKind where
  | notFound
  | permissionDenied
  | connectionRefused
  | connectionReset
  | hostUnreachable
  | networkUnreachable
  | connectionAborted
  | brokenPipe
  | wouldBlock
  | invalidInput
  | timedOut
  | writeZero
  | unsupported
  | unexpectedEnd
  /-- A kind that nothing here depends on, by its name. -/
  | unclassified (name : String)
deriving DecidableEq, Repr

namespace FaultKind

/-- A fault with no better kind. -/
def other : FaultKind := .unclassified "Other"

/-- The name of a kind. -/
def name : FaultKind → String
  | notFound => "NotFound"
  | permissionDenied => "PermissionDenied"
  | connectionRefused => "ConnectionRefused"
  | connectionReset => "ConnectionReset"
  | hostUnreachable => "HostUnreachable"
  | networkUnreachable => "NetworkUnreachable"
  | connectionAborted => "ConnectionAborted"
  | brokenPipe => "BrokenPipe"
  | wouldBlock => "WouldBlock"
  | invalidInput => "InvalidInput"
  | timedOut => "TimedOut"
  | writeZero => "WriteZero"
  | unsupported => "Unsupported"
  | unexpectedEnd => "UnexpectedEof"
  | unclassified name => name

/-- The kinds with a meaning of their own. -/
def known : List FaultKind :=
  [notFound, permissionDenied, connectionRefused, connectionReset, hostUnreachable,
    networkUnreachable, connectionAborted, brokenPipe, wouldBlock, invalidInput, timedOut, writeZero,
    unsupported, unexpectedEnd]

/-- The kind of a name. -/
def ofName (name : String) : FaultKind :=
  (known.find? (·.name == name)).getD (.unclassified name)

end FaultKind

/-- A fault that the system reports for a stream. -/
structure Fault where
  kind : FaultKind
  message : String
deriving DecidableEq, Repr

namespace Fault

/-- The cause behind a fault of the system; a kind without a cause of its own keeps its text. -/
def cause (fault : Fault) : Error :=
  match fault.kind with
  | .connectionRefused => .refused
  | .connectionReset | .connectionAborted | .brokenPipe | .unexpectedEnd => .connectionReset
  | .timedOut | .wouldBlock => .timeout
  | .permissionDenied => .denied
  | .networkUnreachable | .hostUnreachable => .unreachable
  | _ => .other fault.message

/-- The kind of fault that stands for a cause. -/
def kindOf : Error → FaultKind
  | .refused => .connectionRefused
  | .connectionReset => .connectionReset
  | .timeout => .timedOut
  | .denied | .forbidden => .permissionDenied
  | .notFound | .noSuchField _ => .notFound
  | .invalidArgument _ | .invalidUrl _ => .invalidInput
  | .unsupported _ => .unsupported
  | .unreachable => .networkUnreachable
  | _ => .other

/-- A cause as a fault of the system, with the same text. -/
def ofError (error : Error) : Fault :=
  ⟨kindOf error, error.message⟩

/-- A write that took no byte although some were offered. -/
def nothingWritten : Fault :=
  ⟨.writeZero, "failed to write whole buffer"⟩

end Fault

end ObjectStream
