/-
  ObjectStream.Response

  Response heads: the status line, the table of fields, and what a client reads
  out of them.
-/
import ObjectStream.Error
import ObjectStream.Text.Number
import ObjectStream.Text.Quoted
import ObjectStream.Text.Utf8

namespace ObjectStream

/-! ## Status -/

/-- The status codes that a client tells apart. -/
inductive Status where
  | ok
  | forbidden
  | notFound
  | other (code : Nat)
deriving DecidableEq, Repr

namespace Status

/-- The status of a code. -/
def ofCode : Nat → Status
  | 200 => ok
  | 403 => forbidden
  | 404 => notFound
  | code => other code

/-- The code of a status. -/
def code : Status → Nat
  | ok => 200
  | forbidden => 403
  | notFound => 404
  | other code => code

/-- What a status line starts with. -/
def versionPrefix : String := "HTTP/1.1 "

/-- The error of a line that is no status line of the supported version. -/
def notSupported : Error := .unsupported "response is not HTTP/1.1"

/-- Reads the status out of a status line: the version, and three digits after it. -/
def ofLine (line : String) : Except Error Status :=
  if versionPrefix.toList.isPrefixOf line.toList then
    match (line.toList.drop versionPrefix.length).take 3 with
    | [a, b, c] =>
      match Ascii.digit? a, Ascii.digit? b, Ascii.digit? c with
      | some x, some y, some z => .ok (ofCode (x * 100 + y * 10 + z))
      | _, _, _ => .error notSupported
    | _ => .error notSupported
  else .error notSupported

/-- Success, or the error that a status stands for. -/
def result : Status → Except Error Unit
  | ok => .ok ()
  | forbidden => .error .forbidden
  | notFound => .error .notFound
  | other code => .error (.other ("unexpected HTTP status " ++ toString code))

end Status

/-! ## Fields -/

/-- The fields of a response: each name once, with its last value. -/
structure FieldTable where
  entries : List (String × String)
deriving DecidableEq, Repr

namespace FieldTable

/-- No fields. -/
def empty : FieldTable := ⟨[]⟩

/-- The value of a name. -/
def get? (table : FieldTable) (name : String) : Option String :=
  table.entries.lookup name

/-- Puts a value in the place of the name, or at the end. -/
def insertEntry (name value : String) : List (String × String) → List (String × String)
  | [] => [(name, value)]
  | entry :: rest =>
    if entry.1 = name then (name, value) :: rest else entry :: insertEntry name value rest

/-- Sets the value of a name. -/
def insert (table : FieldTable) (name value : String) : FieldTable :=
  ⟨insertEntry name value table.entries⟩

end FieldTable

/-- The byte between the name and the value of a field. -/
def colon : UInt8 := 58

/-- Reads a field line at its first colon: the name in small letters and the value without blanks at
its ends. A line without a colon is no field. -/
def readField? (line : Bytes) : Option (String × String) :=
  if line.contains colon then
    some (Ascii.lower (Utf8.decodeLossy (line.takeWhile (· ≠ colon))),
      Utf8.decodeLossy (Ascii.trim ((line.dropWhile (· ≠ colon)).drop 1)))
  else none

/-! ## Heads -/

/-- The status line and the fields of a response, as far as they were received. -/
structure ResponseHead where
  statusLine : String
  fields : FieldTable
deriving DecidableEq, Repr

namespace ResponseHead

/-- A head of which nothing was received. -/
def empty : ResponseHead := ⟨"", FieldTable.empty⟩

/-- Takes in a line: the first is the status line, any later one a field, if it is one. -/
def addLine (head : ResponseHead) (line : Bytes) : ResponseHead :=
  if head.statusLine.isEmpty then { head with statusLine := Utf8.decodeLossy line }
  else
    match readField? line with
    | some (name, value) => { head with fields := head.fields.insert name value }
    | none => head

/-- The value of a field, by its name in small letters. -/
def field? (head : ResponseHead) (name : String) : Option String :=
  head.fields.get? name

/-- The announced length of the body, if there is one; a value that is no number is an error. -/
def contentLength (head : ResponseHead) : Except Error (Option Nat) :=
  match head.field? "content-length" with
  | none => .ok none
  | some value =>
    match Number.word64? value with
    | some n => .ok (some n)
    | none => .error (.other ("invalid content-length: " ++ Quoted.encode value))

/-- Whether the transfer encoding mentions chunks, in small letters. -/
def isChunked (head : ResponseHead) : Bool :=
  match head.field? "transfer-encoding" with
  | none => false
  | some value => Ascii.occursIn "chunked".toList value.toList

/-- The status of the response. -/
def status (head : ResponseHead) : Except Error Status :=
  Status.ofLine head.statusLine

end ResponseHead

end ObjectStream
