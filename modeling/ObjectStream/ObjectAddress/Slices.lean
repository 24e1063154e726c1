/-
  ObjectStream.ObjectAddress.Slices

  The path of an object's URL, cut out of the URL's text by offsets that count bytes:
  one search goes through the bytes of the text, another through its characters, and
  a cut that falls within a character gives nothing.
-/
import ObjectStream.ObjectAddress
import ObjectStream.Text.Utf8

namespace ObjectStream

/-- The offset at which some bytes first occur in others. -/
def Bytes.offsetOf? (needle : Bytes) : Bytes → Option Nat
  | [] => if needle = [] then some 0 else none
  | b :: rest =>
    if needle.isPrefixOf (b :: rest) then some 0 else (offsetOf? needle rest).map (· + 1)

namespace Utf8

/-- The text from an offset on; none if there is no character that starts there, nor the end. -/
def sliceFrom? : List Char → Nat → Option (List Char)
  | text, 0 => some text
  | [], _ + 1 => none
  | c :: rest, offset + 1 =>
    if c.utf8Size ≤ offset + 1 then sliceFrom? rest (offset + 1 - c.utf8Size) else none

/-- The offset of the first of certain characters. -/
def offsetWhere? (p : Char → Bool) : List Char → Option Nat
  | [] => none
  | c :: rest => if p c then some 0 else (offsetWhere? p rest).map (c.utf8Size + ·)

end Utf8

namespace ObjectAddress

/-- What separates the scheme of a URL from its authority. -/
def separator : String := "://"

/-- The path as it is written in a URL, or why there is none. -/
def writtenPath (text : String) : Except Error String :=
  match rawPath? text.toList with
  | none => .error (refusal text "missing \"://\"")
  | some path => .ok (String.ofList path)

/-- The same by offsets; nothing if the text is cut within a character. -/
def cutPath? (text : String) : Option (Except Error String) :=
  match (Utf8.encode separator).offsetOf? (Utf8.encode text) with
  | none => some (.error (refusal text "missing \"://\""))
  | some schemeEnd =>
    (Utf8.sliceFrom? text.toList (schemeEnd + 3)).bind fun rest =>
      match Utf8.offsetWhere? startsTail rest with
      | none => some (.ok "/")
      | some start =>
        (Utf8.sliceFrom? rest start).map fun tail =>
          .ok (if tail.head? = some '/' then String.ofList tail else "/" ++ String.ofList tail)

end ObjectAddress
end ObjectStream
