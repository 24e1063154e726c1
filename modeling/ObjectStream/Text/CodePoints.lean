/-
  ObjectStream.Text.CodePoints

  Sets of code points, and the compact text in which the larger ones are kept:
  hexadecimal numbers with blanks between them, by turns the length of a gap and
  the length of a run of members.
-/
import ObjectStream.Text.Ascii

namespace ObjectStream

/-- A set of code points as ranges, both ends included. -/
abbrev CodePoints := List (Nat × Nat)

namespace CodePoints

/-- Whether a character is in the set. -/
def contains (set : CodePoints) (c : Char) : Bool :=
  set.any fun (first, last) => first ≤ c.toNat && c.toNat ≤ last

/-- The hexadecimal numbers of a text, one after each other; `current` is the number being read. -/
def hexNumbersFrom : Option Nat → List Char → List Nat → List Nat
  | none, [], found => found.reverse
  | some n, [], found => (n :: found).reverse
  | current, c :: rest, found =>
    match Ascii.hexDigit? c, current with
    | some d, some n => hexNumbersFrom (some (n * 16 + d)) rest found
    | some d, none => hexNumbersFrom (some d) rest found
    | none, some n => hexNumbersFrom none rest (n :: found)
    | none, none => hexNumbersFrom none rest found

/-- The hexadecimal numbers of a text. -/
def hexNumbers (text : String) : List Nat :=
  hexNumbersFrom none text.toList []

/-- The triples of a list of numbers. -/
def triples : List Nat → List (Nat × Nat × Nat)
  | a :: b :: c :: rest => (a, b, c) :: triples rest
  | _ => []

/-- The ranges of gaps and runs that start at code point `next`. -/
def ofRuns : Nat → List Nat → CodePoints
  | next, gap :: run :: rest => (next + gap, next + gap + run - 1) :: ofRuns (next + gap + run) rest
  | _, _ => []

/-- The set of a compact text. -/
def ofText (text : String) : CodePoints :=
  ofRuns 0 (hexNumbers text)

end CodePoints

end ObjectStream
