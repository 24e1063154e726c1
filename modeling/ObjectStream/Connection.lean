/-
  ObjectStream.Connection

  One signed exchange over an owned byte stream: open, read or write the body,
  close. Opening for reading also reads the response head; when writing, the
  head is read once the last body byte is out.
-/
import ObjectStream.HeadReader
import ObjectStream.Request

namespace ObjectStream

/-- Where a connection goes. -/
structure Target where
  host : String
  port : UInt16
  path : String
deriving DecidableEq, Repr

/-- What a connection is open for. -/
inductive Mode where
  | unopened
  | reading
  | writing
deriving DecidableEq, Repr

namespace Mode

/-- The name of a mode. -/
def name : Mode → String
  | unopened => "Unopened"
  | reading => "Reading"
  | writing => "Writing"

/-- The method of the request that a connection sends in a mode. -/
def method? : Mode → Option Method
  | unopened => none
  | reading => some .get
  | writing => some .put

end Mode

/-! ## Errors of connections -/

namespace Error

/-- A call that needs an open connection. -/
def notOpen : Error := .invalidOperation "connection is not open"

/-- A call that needs a closed connection. -/
def alreadyOpen : Error := .invalidOperation "connection is already open"

/-- A port that nothing listens on. -/
def portZero : Error := .invalidOperation "port must be between 1 and 65535"

/-- A mode in which nothing can be opened. -/
def noMode : Error := .invalidArgument "open mode must be Reading or Writing"

/-- A read on a connection that is not open for reading. -/
def notReading : Error := .invalidOperation "connection is not open for reading"

/-- A write on a connection that is not open for writing. -/
def notWriting : Error := .invalidOperation "connection is not open for writing"

/-- A write of more bytes than are due. -/
def writeTooLong : Error := .invalidOperation "write exceeds the declared content length"

/-- A body whose length is not known beforehand. -/
def unboundedBody : Error := .unsupported "chunked or unbounded message body"

end Error

/-! ## Reading a head from a stream -/

/-- The states that reading a head goes through. -/
structure HeadProgress where
  buffer : ReceiveBuffer
  reader : HeadReader
  head : ResponseHead

/-- Fills the buffer and absorbs it until the head is complete; `made` are the calls so far, newest
first. A fill that brings nothing means that the peer has closed the stream. -/
def receiveHeadFrom {τ : Type} [Transport τ] (made : List Call) (t : τ) (p : HeadProgress) :
    Outcome Error (τ × HeadProgress) Unit :=
  let filled := p.buffer.fill t
  let calls := List.reverseAux filled.calls made
  let buffer := filled.state.1
  let t' := filled.state.2
  match _hfill : filled.result with
  | .error e => ⟨.error e, (t', { p with buffer }), calls.reverse⟩
  | .ok 0 => ⟨.error .connectionReset, (t', { p with buffer }), calls.reverse⟩
  | .ok (_ + 1) =>
    let absorbed := p.reader.absorb buffer p.head
    let p' : HeadProgress := ⟨absorbed.buffer, absorbed.reader, absorbed.head⟩
    match _habsorb : absorbed.result with
    | .error e => ⟨.error e, (t', p'), calls.reverse⟩
    | .ok true => ⟨.ok (), (t', p'), calls.reverse⟩
    | .ok false => receiveHeadFrom calls t' p'
termination_by maxHeadLength + 1 - p.reader.seen
decreasing_by
  have hne := ReceiveBuffer.unread_fill_ne_nil p.buffer t _ _hfill (Nat.succ_ne_zero _)
  rcases HeadReader.seen_absorb _ _ _ _habsorb with ⟨hnil, _⟩ | ⟨hlt, hmax⟩
  · exact absurd hnil hne
  · have hlt' : p.reader.seen < absorbed.reader.seen := hlt
    have hmax' : absorbed.reader.seen ≤ maxHeadLength := hmax
    show maxHeadLength + 1 - absorbed.reader.seen < maxHeadLength + 1 - p.reader.seen
    omega

/-! ## Connections -/

/-- A connection. What it knows of an exchange stays until the next one is opened. -/
structure Connection (τ : Type) where
  mode : Mode
  transport : Option τ
  buffer : ReceiveBuffer
  reader : HeadReader
  response : ResponseHead
  /-- Whether the whole response head was read. -/
  responseReceived : Bool
  /-- The length of the body, if it is known: announced by the response when reading, declared when
  writing. -/
  bodyLength : Option Nat
  /-- The number of body bytes that are still to be read or written. -/
  remaining : Nat
  /-- Whether the body comes in chunks. -/
  chunked : Bool
  /-- A failure of the stream that was met after some bytes were already handed out. -/
  deferred : Option Error

namespace Connection

variable {τ κ : Type}

/-- A connection that was never opened, with a receive buffer of some capacity. -/
def new (capacity : Nat) : Connection τ :=
  { mode := .unopened
    transport := none
    buffer := ReceiveBuffer.new capacity
    reader := HeadReader.new
    response := ResponseHead.empty
    responseReceived := false
    bodyLength := none
    remaining := 0
    chunked := false
    deferred := none }

/-- Whether the connection is open. -/
def isOpen (c : Connection τ) : Bool := c.mode != .unopened

/-- The connection at the start of an exchange: what earlier ones left is forgotten. -/
def reset (c : Connection τ) : Connection τ :=
  { c with
    buffer := c.buffer.clear
    reader := HeadReader.new
    response := ResponseHead.empty
    responseReceived := false
    bodyLength := none
    remaining := 0
    chunked := false
    deferred := none }

/-- The error of a body that cannot be read or written, if it is one. -/
def framingError? (c : Connection τ) : Option Error :=
  if c.chunked || c.bodyLength.isNone then some .unboundedBody else none

/-! ### Reading the response head -/

/-- The connection before its response head is read: a head that was begun is dropped, and so is, when
reading, what is known of the body. -/
def beforeHead (c : Connection τ) : Connection τ :=
  if c.mode = .reading then
    { c with response := ResponseHead.empty, bodyLength := none, remaining := 0, chunked := false }
  else { c with response := ResponseHead.empty }

/-- The connection once its response head is complete: when reading, the head tells the length of the
body and whether it is chunked. The result is that of the status. -/
def afterHead (c : Connection τ) : Except Error Unit × Connection τ :=
  let c := { c with responseReceived := true }
  let judged (c : Connection τ) := (c.response.status.bind Status.result, c)
  if c.mode = .reading then
    match c.response.contentLength with
    | .error e => (.error e, c)
    | .ok (some n) =>
      judged { c with bodyLength := some n, remaining := n, chunked := c.response.isChunked }
    | .ok none => judged { c with chunked := c.response.isChunked }
  else judged c

/-- Reads the response head. Once it was read, nothing more is done. -/
def readResponse [Transport τ] (c : Connection τ) : Outcome Error (Connection τ) Unit :=
  if c.responseReceived then .ok c ()
  else
    match c.transport with
    | none => .fail c .notOpen
    | some t =>
      let c := c.beforeHead
      let o := receiveHeadFrom [] t ⟨c.buffer, c.reader, c.response⟩
      let c := { c with
        transport := some o.state.1
        buffer := o.state.2.buffer
        reader := o.state.2.reader
        response := o.state.2.head }
      match o.result with
      | .error e => ⟨.error e, c, o.calls⟩
      | .ok () => ⟨c.afterHead.1, c.afterHead.2, o.calls⟩

/-! ### Opening and closing -/

/-- The connection with a new stream, at the start of an exchange. When writing, a size is the length of
the body, and no size asks for chunks. -/
def begin (c : Connection τ) (t : τ) (mode : Mode) (size : Nat) : Connection τ :=
  let c := { c.reset with mode, transport := some t }
  if mode = .writing then
    if size > 0 then { c with bodyLength := some size, remaining := size }
    else { c with chunked := true }
  else c

/-- Sends the request head over the stream of the connection. -/
def sendHead [Transport τ] (c : Connection τ) (head : RequestHead) :
    Outcome Error (Connection τ) Unit :=
  match c.transport with
  | none => .fail c .notOpen
  | some t => (sendAll t head.encode).mapState fun t => { c with transport := some t }

/-- Sets up a stream, sends the signed request head and, when reading, reads the response head. A failure
after the stream was set up leaves the connection open. -/
def openTo [Transport τ] [Connector κ τ] (c : Connection τ) (k : κ) (target : Target)
    (credentials : Credentials) (mode : Mode) (size : Nat) (timeouts : Timeouts) (now : Instant) :
    Outcome Error (Connection τ × κ) Unit :=
  if target.port = 0 then .fail (c, k) .portZero
  else if c.mode ≠ .unopened then .fail (c, k) .alreadyOpen
  else
    match mode.method? with
    | none => .fail (c, k) .noMode
    | some method =>
      match Connector.connect k target.host target.port timeouts with
      | (.error e, k) =>
        ⟨.error e, (c, k), [.connect target.host target.port timeouts (.error e)]⟩
      | (.ok t, k) =>
        let c := c.begin t mode size
        let draft : RequestHead.Draft := ⟨method, target.host, target.path, c.bodyLength⟩
        let rest : Outcome Error (Connection τ) Unit :=
          match draft.sign? now credentials with
          | none => .fail c .undatable
          | some head =>
            (c.sendHead head).andThen fun c _ =>
              if mode = .reading then c.readResponse else .ok c ()
        (rest.after [.connect target.host target.port timeouts (.ok ())]).mapState (·, k)

/-- Takes the stream down and closes the connection, whatever the stream answers. -/
def close [Transport τ] (c : Connection τ) : Outcome Error (Connection τ) Unit :=
  if c.mode = .unopened then .fail c .notOpen
  else
    let closed := { c with mode := .unopened, transport := none, deferred := none }
    match c.transport with
    | none => .ok closed ()
    | some t =>
      let result := Transport.disconnect t
      ⟨result, closed, [.disconnect result]⟩

/-- Gives the connection up: closes it if it is open. -/
def drop [Transport τ] (c : Connection τ) : List Call :=
  if c.isOpen then c.close.calls else []

/-! ### The body -/

/-- The connection after some body bytes were handed out or accepted. -/
def advance (c : Connection τ) (count : Nat) : Connection τ :=
  { c with remaining := c.remaining - count }

/-- Reads up to `room` body bytes: first those that came with the head, then what one receive gives. A
failure of the stream waits for the next read if there are bytes to hand out. No byte, for some room,
means that the body is at its end. -/
def read [Transport τ] (c : Connection τ) (room : Nat) : Outcome Error (Connection τ) Bytes :=
  if c.mode ≠ .reading then .fail c .notReading
  else
    match c.framingError?, c.deferred with
    | some e, _ => .fail c e
    | none, some e => .fail { c with deferred := none } e
    | none, none =>
      let wanted := min room c.remaining
      if wanted = 0 then .ok c []
      else
        let (front, buffer) := c.buffer.take wanted
        let c := { c with buffer }
        if front.length = wanted then .ok (c.advance wanted) front
        else
          match c.transport with
          | none => .fail c .notOpen
          | some t =>
            let due := wanted - front.length
            let (received, t) := Transport.receive t due
            let c := { c with transport := some t }
            let calls := [.receive due received]
            match front, received with
            | [], .ok [] => ⟨.error .connectionReset, c, calls⟩
            | [], .error e => ⟨.error e, c, calls⟩
            | _ :: _, .error e => ⟨.ok front, { c.advance front.length with deferred := some e }, calls⟩
            | _, .ok back => ⟨.ok (front ++ back), c.advance (front.length + back.length), calls⟩

/-- Writes body bytes in one send and tells how many were accepted. More bytes than are due are refused.
When the last byte is out, the response head is read, and its failure is the result. -/
def write [Transport τ] (c : Connection τ) (bytes : Bytes) : Outcome Error (Connection τ) Nat :=
  if c.mode ≠ .writing then .fail c .notWriting
  else
    match c.framingError? with
    | some e => .fail c e
    | none =>
      if bytes.length > c.remaining then .fail c .writeTooLong
      else
        match c.transport with
        | none => .fail c .notOpen
        | some t =>
          let (accepted, t) := Transport.send t bytes
          let c := { c with transport := some t }
          match accepted with
          | .error e => ⟨.error e, c, [.send bytes (.error e)]⟩
          | .ok count =>
            let c := c.advance count
            let rest := if c.remaining = 0 then c.readResponse else .ok c ()
            (rest.map fun _ => count).after [.send bytes (.ok count)]

/-! ### Questions -/

/-- The status line of the response, without its line end. -/
def statusLine (c : Connection τ) : Except Error String :=
  if c.isOpen then .ok c.response.statusLine else .error .notOpen

/-- The value of a response field, by its name in any case of ASCII letters. -/
def responseField (c : Connection τ) (name : String) : Except Error String :=
  if c.isOpen then
    match c.response.field? (Ascii.lower name) with
    | some value => .ok value
    | none => .error (.noSuchField (Ascii.lower name))
  else .error .notOpen

/-- The length of the body. -/
def contentLength (c : Connection τ) : Except Error Nat :=
  if c.isOpen then
    match c.bodyLength with
    | some n => .ok n
    | none => .error (.noSuchField "content-length")
  else .error .notOpen

/-- The connection as diagnostics show it. -/
def describe (c : Connection τ) : String :=
  "Connection \x7b mode: " ++ c.mode.name ++
    ", response_received: " ++ toString c.responseReceived ++
    ", status_line: " ++ Quoted.encode c.response.statusLine ++
    ", content_length: " ++ toString (c.bodyLength.getD 0) ++
    ", bytes_remaining: " ++ toString c.remaining ++
    ", has_content_length: " ++ toString c.bodyLength.isSome ++
    ", is_chunked: " ++ toString c.chunked ++ " \x7d"

end Connection

end ObjectStream
