/-
  ObjectStream.Signature

  Signing of requests: the text that a request signs, its keyed digest in
  Base64, and the value of the field that carries it.
-/
import ObjectStream.Base64
import ObjectStream.Digest.Hmac
import ObjectStream.Text.Quoted
import ObjectStream.Text.Utf8

namespace ObjectStream

/-- The two keys of an account. -/
structure Credentials where
  accessKey : String
  secretKey : String
deriving DecidableEq, Repr

/-- The credentials as diagnostics show them, without the secret. -/
def Credentials.describe (c : Credentials) : String :=
  "Credentials \x7b access_key: " ++ Quoted.encode c.accessKey ++
    ", secret_key: " ++ Quoted.encode "<redacted>" ++ " \x7d"

/-- A signature, as the bytes of its text. -/
structure Signature where
  bytes : Bytes
deriving DecidableEq, Repr

namespace Signature

/-- The number of characters of a signature. -/
def length : Nat := Base64.encodedLength Sha1.digestLength

/-- The text of a signature; empty if the bytes are no text. -/
def text (s : Signature) : String := (Utf8.decode? s.bytes).getD ""

/-- Signs a message with a key: the keyed digest in Base64, written into a buffer of the length of a
signature. -/
def sign? (key message : Bytes) : Except Base64.WriteError Signature :=
  (Base64.encodeInto (Hmac.digest key message) (List.replicate length 0)).map fun written =>
    ⟨written.2⟩

/-- The text of a digest fills the buffer. -/
theorem sign?_eq_ok (key message : Bytes) :
    sign? key message = .ok ⟨Base64.encode (Hmac.digest key message)⟩ := by
  have hneeded : Base64.encodedLength (Hmac.digest key message).length = length := by
    rw [Hmac.length_digest]
    rfl
  rw [sign?, Base64.encodeInto, hneeded, if_neg (by rw [List.length_replicate]; exact Nat.lt_irrefl _)]
  show Except.ok (Signature.mk (_ ++ List.drop length (List.replicate length 0))) = _
  rw [List.drop_replicate, Nat.sub_self, List.replicate_zero, List.append_nil]

/-- Signs a message with a key. -/
def sign (key message : Bytes) : Signature :=
  (sign? key message).toOption.get (by rw [sign?_eq_ok]; rfl)

/-- The signature as diagnostics show it. -/
def describe (s : Signature) : String :=
  "Signature(" ++ Quoted.encode s.text ++ ")"

/-- The text that a request signs: method, an empty line for a content digest, content type, date and
path, one on each line. -/
def subject (method contentType date path : String) : String :=
  method ++ "\n\n" ++ contentType ++ "\n" ++ date ++ "\n" ++ path

/-- The value of the `Authorization` field. -/
def authorization (accessKey : String) (s : Signature) : String :=
  "AWS " ++ accessKey ++ ":" ++ s.text

end Signature

end ObjectStream
