/-
  ObjectStream.ObjectAddress

  Where an object is: the scheme, host and port of its URL, and its path exactly
  as it is written there.
-/
import ObjectStream.Error
import ObjectStream.Text.Quoted
import ObjectStream.Url

namespace ObjectStream

/-- The parts of an object's URL that a client needs. -/
structure ObjectAddress where
  scheme : String
  host : String
  port : UInt16
  /-- The text from the first slash after the authority on, with query and fragment. -/
  path : String
deriving DecidableEq, Repr

namespace ObjectAddress

/-- The text after the first `://`. -/
def afterScheme? : List Char → Option (List Char)
  | [] => none
  | ':' :: '/' :: '/' :: rest => some rest
  | _ :: rest => afterScheme? rest

/-- Whether a character starts what follows the authority. -/
def startsTail (c : Char) : Bool := c = '/' || c = '?' || c = '#'

/-- The text of a URL from the first slash, question mark or number sign after the authority on, exactly
as it is written, but with a slash in front where there is none. -/
def rawPath? (text : List Char) : Option (List Char) :=
  (afterScheme? text).map fun rest =>
    match rest.dropWhile fun c => !startsTail c with
    | '/' :: tail => '/' :: tail
    | tail => '/' :: tail

/-- The error of a URL that names no object. -/
def refusal (url reason : String) : Error := .invalidUrl (url ++ ": " ++ reason)

/-- The host of a URL as text, if there is one. -/
def hostText? (url : Url) : Option String :=
  match url.host with
  | none => none
  | some (.domain name) => if name.isEmpty then none else some name
  | some host => some host.text

/-- Reads an object's URL. User information is refused; a scheme without a port of its own has port 80. -/
def ofUrl (text : String) : Except Error ObjectAddress :=
  match Url.parse text with
  | .error e => .error (refusal text e.message)
  | .ok url =>
    if !(url.username.isEmpty && url.password.isEmpty) then
      .error (refusal text "user info is not supported")
    else
      match hostText? url with
      | none => .error (refusal text "missing host")
      | some host =>
        let port := url.effectivePort?.getD 80
        if port = 0 then .error (refusal text "port 0")
        else
          match rawPath? text.toList with
          | none => .error (refusal text "missing \"://\"")
          | some path => .ok { scheme := url.scheme, host, port, path := String.ofList path }

/-- Whatever a URL is refused for, the error is the one of an invalid URL. -/
theorem exists_of_ofUrl_eq_error {text : String} {e : Error} (h : ofUrl text = .error e) :
    ∃ message, e = .invalidUrl message := by
  rw [ofUrl] at h
  dsimp only at h
  repeat' split at h
  all_goals cases h
  all_goals exact ⟨_, rfl⟩

end ObjectAddress

end ObjectStream
