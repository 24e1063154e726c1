/-
  ObjectStream.Settings

  The settings of a client: defaults, which a file and then environment
  variables replace, and what is made of them.
-/
import ObjectStream.Client
import ObjectStream.Text.Blank

namespace ObjectStream

/-- The settings of a client. -/
structure Settings where
  /-- The URL that object keys are appended to. -/
  endpoint : Option String := none
  accessKey : String := ""
  secretKey : String := ""
  /-- Milliseconds; zero waits for ever. -/
  connectTimeout : Nat := 0
  /-- Milliseconds; zero waits for ever. -/
  socketTimeout : Nat := 0
  /-- The capacity of each receive buffer. -/
  bufferSize : Nat := ReceiveBuffer.defaultCapacity
deriving DecidableEq, Repr

namespace Settings

/-! ## Checks -/

/-- The error of settings that no client can work with. -/
def check (s : Settings) : Except Error Unit :=
  if s.bufferSize < ReceiveBuffer.minCapacity then
    .error (.invalidArgument ("buffer_size must be at least " ++ toString ReceiveBuffer.minCapacity ++
      ", got " ++ toString s.bufferSize))
  else
    match s.endpoint with
    | none => .ok ()
    | some url => (ObjectAddress.ofUrl url).map fun _ => ()

/-! ## Environment variables -/

/-- The environment: the values of the variables that are set. -/
abbrev Environment := String → Option String

/-- The variable that names the settings file. -/
def fileVariable : String := "S3LITE_CONFIG"

/-- The variable of the endpoint. -/
def endpointVariable : String := "S3LITE_ENDPOINT"

/-- The variable of the access key. -/
def accessKeyVariable : String := "S3LITE_ACCESS_KEY"

/-- The variable of the secret key. -/
def secretKeyVariable : String := "S3LITE_SECRET_KEY"

/-- The variable of the limit for setting up connections. -/
def connectTimeoutVariable : String := "S3LITE_CONNECT_TIMEOUT_MS"

/-- The variable of the limit for sends and receives. -/
def socketTimeoutVariable : String := "S3LITE_SOCKET_TIMEOUT_MS"

/-- Reads the milliseconds of a variable; white space around the number does not count. -/
def milliseconds (name value : String) : Except Error Nat :=
  match Number.unsigned? Number.limit64 (Blank.trim value.toList) with
  | some n => .ok n
  | none => .error (.invalidArgument (name ++ " is not a number: " ++ Quoted.encode value))

/-- The settings with the texts that the environment sets. -/
def withTexts (s : Settings) (env : Environment) : Settings :=
  { s with
    endpoint := env endpointVariable <|> s.endpoint
    accessKey := (env accessKeyVariable).getD s.accessKey
    secretKey := (env secretKeyVariable).getD s.secretKey }

/-- The settings with what the environment sets, and the error of the first variable that cannot be
read; those after it are not looked at. -/
def withEnvironment (s : Settings) (env : Environment) : Except Error Unit × Settings :=
  let s := s.withTexts env
  match (env connectTimeoutVariable).mapM (milliseconds connectTimeoutVariable) with
  | .error e => (.error e, s)
  | .ok connect =>
    let s := { s with connectTimeout := connect.getD s.connectTimeout }
    match (env socketTimeoutVariable).mapM (milliseconds socketTimeoutVariable) with
    | .error e => (.error e, s)
    | .ok socket => (.ok (), { s with socketTimeout := socket.getD s.socketTimeout })

/-! ## What is made of settings -/

/-- The credentials; both keys must be set. -/
def credentials (s : Settings) : Except Error Credentials :=
  if s.accessKey.isEmpty || s.secretKey.isEmpty then
    .error (.invalidArgument "access_key and secret_key must both be set")
  else .ok ⟨s.accessKey, s.secretKey⟩

/-- The limits of time. -/
def timeouts (s : Settings) : Timeouts :=
  Timeouts.ofMilliseconds s.connectTimeout s.socketTimeout

/-- The URL of an object: the endpoint without slashes at its end, a slash, and the key without slashes
at its start. -/
def objectUrl (s : Settings) (key : String) : Except Error String :=
  match s.endpoint with
  | none => .error (.invalidArgument "no endpoint configured")
  | some endpoint =>
    .ok (String.ofList ((endpoint.toList.reverse.dropWhile (· = '/')).reverse ++
      '/' :: key.toList.dropWhile (· = '/')))

/-- The client of settings. -/
def client (s : Settings) : Except Error Client :=
  s.credentials.map fun credentials => ⟨credentials, s.timeouts, s.bufferSize⟩

end Settings

end ObjectStream
