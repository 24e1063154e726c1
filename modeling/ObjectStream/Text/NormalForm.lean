/-
  ObjectStream.Text.NormalForm

  The composed normal form of a text: one spelling for texts that differ only in
  how characters are put together from others, and in the order of marks that do
  not touch each other.
-/
import ObjectStream.Text.CombiningClass
import ObjectStream.Text.Composition

namespace ObjectStream.NormalForm

/-! ## Taking apart -/

/-- A character in parts that have no parts themselves, or are `depth` steps away from it. -/
def partsOf : Nat → Char → List Char
  | 0, c => [c]
  | depth + 1, c =>
    match Composition.parts? c with
    | none => [c]
    | some (first, second) => partsOf depth first ++ [second]

/-- No character is put together in more steps. -/
def depth : Nat := 4

/-- Puts a character behind others, of which the last comes first: a mark goes before marks of higher
classes. -/
def place (c : Char) : List Char → List Char
  | [] => [c]
  | last :: rest =>
    if CombiningClass.ofChar c ≠ 0 && CombiningClass.ofChar c < CombiningClass.ofChar last then
      last :: place c rest
    else c :: last :: rest

/-- A text taken apart, its marks in order. -/
def decompose (text : List Char) : List Char :=
  ((text.flatMap (partsOf depth)).foldl (fun placed c => place c placed) []).reverse

/-! ## Putting together -/

/-- A text that is being put together, the last characters first. -/
structure State where
  done : List Char := []
  /-- The character that others combine with, if one came yet. -/
  starter : Option Char := none
  /-- What came behind it and does not combine. -/
  pending : List Char := []

/-- Whether nothing stands between the starter and a character that follows: no character that others
combine with, and no mark of its own or a higher class. -/
def State.isOpen (s : State) (c : Char) : Bool :=
  match s.pending with
  | [] => true
  | last :: _ => CombiningClass.ofChar last < CombiningClass.ofChar c

/-- After the next character of a text that was taken apart. -/
def State.step (s : State) (c : Char) : State :=
  match s.starter with
  | none =>
    if CombiningClass.ofChar c = 0 then { s with starter := some c } else { s with done := c :: s.done }
  | some starter =>
    match if s.isOpen c then Composition.whole? starter c else none with
    | some whole => { s with starter := some whole }
    | none =>
      if CombiningClass.ofChar c = 0 then
        { done := s.pending ++ starter :: s.done, starter := some c }
      else { s with pending := c :: s.pending }

/-- The text that was put together. -/
def State.result (s : State) : List Char :=
  (s.pending ++ s.starter.toList ++ s.done).reverse

/-- The composed normal form of a text. ASCII characters have no parts and are no marks. -/
def compose (text : List Char) : List Char :=
  if text.all fun c => c.toNat < 0x80 then text
  else ((decompose text).foldl State.step {}).result

end ObjectStream.NormalForm
