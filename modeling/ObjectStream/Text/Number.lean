/-
  ObjectStream.Text.Number

  Reading whole numbers that must stay below a limit.
-/
import ObjectStream.Text.Ascii

namespace ObjectStream.Number

/-- The number of values of a 64-bit word. -/
def limit64 : Nat := Nat.pow 2 64

/-- The value of the digits in a base, after a value that was read already. The empty list adds
nothing. -/
def readDigits? (base : Nat) : Nat → List Char → Option Nat
  | value, [] => some value
  | value, c :: rest => (Ascii.digitIn? base c).bind fun d => readDigits? base (value * base + d) rest

/-- Reads one or more digits in a base. -/
def natIn? (base : Nat) (digits : List Char) : Option Nat :=
  if digits.isEmpty then none else readDigits? base 0 digits

/-- Reads a number below `limit`: an optional `+`, then one or more decimal digits. -/
def unsigned? (limit : Nat) (text : List Char) : Option Nat :=
  let digits := match text with
    | '+' :: rest => rest
    | _ => text
  (natIn? 10 digits).filter (· < limit)

/-- Reads a number of 64 bits. -/
def word64? (text : String) : Option Nat :=
  unsigned? limit64 text.toList

end ObjectStream.Number
