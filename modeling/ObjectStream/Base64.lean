/-
  ObjectStream.Base64

  Base64 with the standard alphabet and padding. Three bytes become four
  characters; a last group of one or two bytes is filled with `=`.
-/
import ObjectStream.Bytes

namespace ObjectStream.Base64

/-- The character that fills the last group. -/
def pad : UInt8 := 61

/-- The character of a value below 64: capitals, small letters, digits, `+` and `/`. -/
def symbol (value : Nat) : UInt8 :=
  if value < 26 then UInt8.ofNat (65 + value)
  else if value < 52 then UInt8.ofNat (71 + value)
  else if value < 62 then UInt8.ofNat (value - 4)
  else if value = 62 then 43
  else 47

/-- The number of characters that `length` bytes take, padding included. -/
def encodedLength (length : Nat) : Nat :=
  (length + 2) / 3 * 4

/-- The encoded text, as ASCII bytes. -/
def encode : Bytes → Bytes
  | [] => []
  | [a] =>
    [symbol (a.toNat / 4), symbol (a.toNat % 4 * 16), pad, pad]
  | [a, b] =>
    [symbol (a.toNat / 4), symbol (a.toNat % 4 * 16 + b.toNat / 16),
      symbol (b.toNat % 16 * 4), pad]
  | a :: b :: c :: rest =>
    symbol (a.toNat / 4) :: symbol (a.toNat % 4 * 16 + b.toNat / 16) ::
      symbol (b.toNat % 16 * 4 + c.toNat / 64) :: symbol (c.toNat % 64) :: encode rest

/-- The encoded text as a string. -/
def encodeText (bytes : Bytes) : String :=
  String.ofList ((encode bytes).map fun b => Char.ofNat b.toNat)

/-- Why nothing was written to an output buffer. -/
inductive WriteError where
  /-- The buffer is shorter than the encoded text. -/
  | bufferTooSmall
deriving DecidableEq, Repr

/-- What a write error says. -/
def WriteError.message : WriteError → String
  | .bufferTooSmall => "base64 output buffer too small"

/-- Writes the encoded text over the front of `buffer`: the number of bytes written, and the buffer
after that. A buffer without room for the whole text is refused. -/
def encodeInto (bytes buffer : Bytes) : Except WriteError (Nat × Bytes) :=
  let needed := encodedLength bytes.length
  if buffer.length < needed then .error .bufferTooSmall
  else .ok (needed, encode bytes ++ buffer.drop needed)

/-- The encoded text takes exactly the announced number of bytes. -/
theorem length_encode (bytes : Bytes) : (encode bytes).length = encodedLength bytes.length := by
  fun_induction encode bytes with
  | case1 => rfl
  | case2 => simp [encodedLength]
  | case3 => simp [encodedLength]
  | case4 a b c rest ih =>
    simp only [List.length_cons, ih, encodedLength]
    omega

end ObjectStream.Base64
