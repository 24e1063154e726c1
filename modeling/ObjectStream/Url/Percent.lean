/-
  ObjectStream.Url.Percent

  Bytes written as a percent sign and two hexadecimal digits, and the sets of
  characters that are written so in each part of a URL.
-/
import ObjectStream.Text.Utf8
import ObjectStream.Text.Ascii

namespace ObjectStream.Url.Percent

/-- A percent sign and the two digits of a byte, in capitals. -/
def encodeByte (b : UInt8) : List Char :=
  ['%', (Bytes.hexDigit (b.toNat / 16)).toUpper, (Bytes.hexDigit (b.toNat % 16)).toUpper]

/-- Writes the characters of a set, and all beyond ASCII, byte by byte. -/
def encode (set : Char → Bool) (text : List Char) : List Char :=
  text.flatMap fun c =>
    if set c || 0x80 ≤ c.toNat then (String.utf8EncodeChar c).flatMap encodeByte else [c]

/-- The value of a byte that is a hexadecimal digit. -/
def digit? (b : UInt8) : Option Nat :=
  Ascii.hexDigit? (Char.ofNat b.toNat)

/-- Reads a percent sign with two digits as one byte, and every other byte as itself. -/
def decode : Bytes → Bytes
  | [] => []
  | 37 :: a :: b :: rest =>
    match digit? a, digit? b with
    | some x, some y => UInt8.ofNat (x * 16 + y) :: decode rest
    | _, _ => 37 :: decode (a :: b :: rest)
  | a :: rest => a :: decode rest

/-! ## Sets -/

/-- Control characters of ASCII. -/
def isControl (c : Char) : Bool := c.toNat < 0x20 || c.toNat = 0x7F

/-- The characters that a fragment does not hold as they are. -/
def inFragment (c : Char) : Bool := isControl c || " \"<>`".toList.contains c

/-- The characters that a query does not hold as they are. -/
def inQuery (c : Char) : Bool := isControl c || " \"#<>".toList.contains c

/-- The characters that the query of a special scheme does not hold as they are. -/
def inSpecialQuery (c : Char) : Bool := inQuery c || c = '\''

/-- The characters that a path does not hold as they are. -/
def inPath (c : Char) : Bool := inQuery c || ['?', '^', '`', '\x7b', '\x7d'].contains c

/-- The characters that user information does not hold as they are. -/
def inUserInfo (c : Char) : Bool := inPath c || "/:;=@[\\]|".toList.contains c

end ObjectStream.Url.Percent
