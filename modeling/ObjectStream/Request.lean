/-
  ObjectStream.Request

  Signed request heads and their bytes on the wire.
-/
import ObjectStream.Date
import ObjectStream.Signature
import ObjectStream.Text.Ascii

namespace ObjectStream

/-- What a request asks for. -/
inductive Method where
  /-- Read an object. -/
  | get
  /-- Write an object. -/
  | put
deriving DecidableEq, Repr

/-- The word on the request line. -/
def Method.word : Method → String
  | .get => "GET"
  | .put => "PUT"

/-- A request head, with its fields in the order in which they are sent. -/
structure RequestHead where
  method : Method
  path : String
  fields : List (String × String)
deriving DecidableEq, Repr

namespace RequestHead

/-- The content type that every request has and signs. -/
def contentType : String := "application/octet-stream"

/-- What a request is about, before it is dated and signed. -/
structure Draft where
  method : Method
  host : String
  path : String
  /-- The number of body bytes, where the request announces it. -/
  contentLength : Option Nat
deriving DecidableEq, Repr

/-- The fields of a draft with a date text, under a signature. -/
def Draft.fields (d : Draft) (date : String) (accessKey : String) (s : Signature) :
    List (String × String) :=
  [("Host", d.host), ("Content-Type", contentType), ("Date", date),
    ("Authorization", Signature.authorization accessKey s)] ++
    (d.contentLength.map fun n => ("Content-Length", toString n)).toList

/-- The signature of a draft with a date text. -/
def Draft.signature (d : Draft) (date : String) (secretKey : String) : Signature :=
  Signature.sign (Utf8.encode secretKey)
    (Utf8.encode (Signature.subject d.method.word contentType date d.path))

/-- The head of a draft, dated with a text and signed. -/
def Draft.signWith (d : Draft) (date : String) (credentials : Credentials) : RequestHead :=
  { method := d.method
    path := d.path
    fields := d.fields date credentials.accessKey (d.signature date credentials.secretKey) }

/-- The head of a draft, dated and signed; nothing for an instant without a date text. -/
def Draft.sign? (d : Draft) (now : Instant) (credentials : Credentials) : Option RequestHead :=
  now.httpDate?.map fun date => d.signWith date credentials

/-- The value of the first field of a name, in any case of ASCII letters. -/
def field? (head : RequestHead) (name : String) : Option String :=
  (head.fields.find? fun field => Ascii.equalFold field.1 name).map (·.2)

/-- The bytes of one field line. -/
def encodeField (field : String × String) : Bytes :=
  Utf8.encode field.1 ++ Utf8.encode ": " ++ Utf8.encode field.2 ++ Bytes.crlf

/-- The bytes of the head: request line, field lines, and an empty line. -/
def encode (head : RequestHead) : Bytes :=
  Utf8.encode head.method.word ++ Utf8.encode " " ++ Utf8.encode head.path ++
    Utf8.encode " HTTP/1.1" ++ Bytes.crlf ++ head.fields.flatMap encodeField ++ Bytes.crlf

end RequestHead

end ObjectStream
