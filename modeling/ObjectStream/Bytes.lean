/-
  ObjectStream.Bytes

  Byte strings as lists, parts of them, their hexadecimal text, big-endian words,
  and the two bytes that end a line on the wire.
-/

namespace ObjectStream

/-- A byte string. -/
abbrev Bytes := List UInt8

namespace Bytes

/-- The byte of a carriage return. -/
def cr : UInt8 := 13

/-- The byte of a line feed. -/
def lf : UInt8 := 10

/-- The two bytes that end a line of a message head. -/
def crlf : Bytes := [cr, lf]

/-! ## Parts -/

/-- The bytes from `start` up to `stop`; none if they are not all there. -/
def slice? (bytes : Bytes) (start stop : Nat) : Option Bytes :=
  if start ≤ stop ∧ stop ≤ bytes.length then some ((bytes.take stop).drop start) else none

/-- The byte string with others in place of the bytes from `start` up to `stop`; none if these are not
all there, or if the others are not as many. -/
def overwrite? (bytes : Bytes) (start stop : Nat) (others : Bytes) : Option Bytes :=
  if start ≤ stop ∧ stop ≤ bytes.length ∧ others.length = stop - start then
    some (bytes.take start ++ others ++ bytes.drop stop)
  else none

theorem slice?_of_le {bytes : Bytes} {start stop : Nat} (horder : start ≤ stop)
    (hwithin : stop ≤ bytes.length) :
    bytes.slice? start stop = some ((bytes.take stop).drop start) :=
  if_pos ⟨horder, hwithin⟩

theorem overwrite?_of_le {bytes others : Bytes} {start stop : Nat} (horder : start ≤ stop)
    (hwithin : stop ≤ bytes.length) (hcount : others.length = stop - start) :
    bytes.overwrite? start stop others = some (bytes.take start ++ others ++ bytes.drop stop) :=
  if_pos ⟨horder, hwithin, hcount⟩

/-! ## Hexadecimal text -/

/-- The digit of a value below 16, in lower case. -/
def hexDigit (n : Nat) : Char :=
  if n < 10 then Char.ofNat (48 + n) else Char.ofNat (87 + n)

/-- Two hexadecimal digits for each byte. -/
def hex (bytes : Bytes) : String :=
  String.ofList (bytes.flatMap fun b => [hexDigit (b.toNat / 16), hexDigit (b.toNat % 16)])

/-! ## Words -/

/-- The bytes of a 32-bit word, most significant first. -/
def ofWord (w : UInt32) : Bytes :=
  [(w >>> 24).toUInt8, (w >>> 16).toUInt8, (w >>> 8).toUInt8, w.toUInt8]

/-- The bytes of a 64-bit word, most significant first. -/
def ofLongWord (w : UInt64) : Bytes :=
  ofWord (w >>> 32).toUInt32 ++ ofWord w.toUInt32

/-- The word whose bytes, most significant first, are these four. -/
def wordOf (a b c d : UInt8) : UInt32 :=
  a.toUInt32 <<< 24 ||| b.toUInt32 <<< 16 ||| c.toUInt32 <<< 8 ||| d.toUInt32

/-- The 32-bit words of a byte string; what does not fill a word is dropped. -/
def words : Bytes → List UInt32
  | a :: b :: c :: d :: rest => wordOf a b c d :: words rest
  | _ => []

theorem length_ofLongWord (w : UInt64) : (ofLongWord w).length = 8 := rfl

end Bytes

end ObjectStream
