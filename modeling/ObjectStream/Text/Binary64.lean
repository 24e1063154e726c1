/-
  ObjectStream.Text.Binary64

  Floating-point numbers of 64 bits as texts: reading a decimal takes the nearest
  of them, writing one takes the fewest digits that read back, in positional
  notation. All in exact arithmetic on natural numbers.
-/
import ObjectStream.Text.Number

namespace ObjectStream

/-- A finite number of 64 bits: a sign, and a significand below 2 ^ 53 times a power of two that is at
least 2 ^ -1074. -/
structure Binary64 where
  negative : Bool
  significand : Nat
  exponent : Int
deriving DecidableEq, Repr

namespace Binary64

/-- The least exponent. -/
def minExponent : Int := -1074

/-- The number of significands. -/
def significandLimit : Nat := Nat.pow 2 53

/-- The largest exponent. -/
def maxExponent : Int := 971

/-! ## Rounding -/

/-- The natural number nearest to a quotient, the even one of two that are as near. -/
def roundedQuotient (num den : Nat) : Nat :=
  let q := num / den
  let twice := 2 * (num % den)
  if twice < den then q else if den < twice then q + 1 else q + q % 2

/-- A quotient as it is after division by a power of two. -/
def scaledDown (num den : Nat) (power : Int) : Nat × Nat :=
  (num * Nat.pow 2 (-power).toNat, den * Nat.pow 2 power.toNat)

/-- The exponent of the power of two at or just below a quotient. -/
def log2Quotient (num den : Nat) : Int :=
  let guess : Int := (num.log2 : Int) - den.log2
  let (n, d) := scaledDown num den guess
  if n < d then guess - 1 else guess

/-- The number nearest to a quotient that is not zero; none if it is too large. -/
def ofQuotient? (negative : Bool) (num den : Nat) : Option Binary64 :=
  let exponent := max (log2Quotient num den - 52) minExponent
  let (n, d) := scaledDown num den exponent
  let significand := roundedQuotient n d
  let (significand, exponent) :=
    if significand < significandLimit then (significand, exponent) else (significand / 2, exponent + 1)
  if exponent ≤ maxExponent then some ⟨negative, significand, exponent⟩ else none

/-- The number nearest to `digits` times a power of ten; none if it is too large. Powers that decide by
themselves are not computed. -/
def ofDecimal? (negative : Bool) (digits : Nat) (power : Int) : Option Binary64 :=
  if digits = 0 || power + digits.log2 + 1 < -330 then some ⟨negative, 0, minExponent⟩
  else if 310 < power then none
  else ofQuotient? negative (digits * Nat.pow 10 power.toNat) (Nat.pow 10 (-power).toNat)

/-! ## Reading -/

/-- A decimal number as it is written: an optional sign, digits with at most one point, and an optional
power of ten. -/
def ofText? (text : List Char) : Option Binary64 := do
  let (negative, text) := match text with
    | '-' :: rest => (true, rest)
    | '+' :: rest => (false, rest)
    | _ => (false, text)
  let whole := text.takeWhile Char.isDigit
  let text := text.drop whole.length
  let (places, text) := match text with
    | '.' :: rest =>
      let places := rest.takeWhile Char.isDigit
      (places, rest.drop places.length)
    | _ => ([], text)
  let digits ← Number.natIn? 10 (whole ++ places)
  let power ← match text with
    | [] => some 0
    | e :: rest =>
      if e ≠ 'e' && e ≠ 'E' then none
      else match rest with
        | '-' :: rest => (Number.natIn? 10 rest).map fun n => -(n : Int)
        | '+' :: rest => (Number.natIn? 10 rest).map fun n => (n : Int)
        | _ => (Number.natIn? 10 rest).map fun n => (n : Int)
  ofDecimal? negative digits (power - places.length)

/-! ## Writing -/

/-- The numbers that read back as a given one, in quarters of its unit: from, to, and whether the ends
are among them. Below a power of two the next number is nearer. -/
def neighbourhood (x : Binary64) : Nat × Nat × Bool :=
  let m := x.significand
  let below := if m = Nat.pow 2 52 && minExponent < x.exponent then 1 else 2
  (4 * m - below, 4 * m + 2, m % 2 = 0)

/-- The multiple of a power of ten that reads back as a given number. Of two, it is the one that is
nearer, or the larger one. -/
def multiple? (x : Binary64) (power : Int) : Option Nat :=
  let (low, high, closed) := x.neighbourhood
  -- Quarters of the unit of `x` and the power of ten, as whole numbers of one small measure.
  let quarter := Nat.pow 2 (x.exponent - 2).toNat * Nat.pow 10 (-power).toNat
  let ten := Nat.pow 10 power.toNat * Nat.pow 2 (2 - x.exponent).toNat
  let value := 4 * x.significand * quarter
  let readsBack (n : Nat) : Bool :=
    let p := n * ten
    if closed then low * quarter ≤ p && p ≤ high * quarter
    else low * quarter < p && p < high * quarter
  let below := value / ten
  let isNearer := 2 * (value - below * ten) < ten
  match readsBack below, readsBack (below + 1) with
  | true, true => some (if isNearer then below else below + 1)
  | true, false => some below
  | false, true => some (below + 1)
  | false, false => none

/-- The fewest digits that read back, with the power of ten of the last. -/
def shortest (x : Binary64) : Nat × Int :=
  let powers := (List.range 660).map fun i : Nat => 310 - (i : Int)
  (powers.findSome? fun power => (x.multiple? power).map (·, power)).getD (0, 0)

/-- Digits in front of a power of ten, in positional notation with a point. -/
def positional (digits : List Char) (power : Int) : List Char :=
  if 0 ≤ power then digits ++ List.replicate power.toNat '0' ++ ['.', '0']
  else
    let places := (-power).toNat
    let padded := List.replicate (places + 1 - digits.length) '0' ++ digits
    padded.take (padded.length - places) ++ '.' :: padded.drop (padded.length - places)

/-- The text of a number. -/
def render (x : Binary64) : String :=
  let (n, power) := if x.significand = 0 then (0, 0) else x.shortest
  let text := positional (Nat.toDigits 10 n) power
  String.ofList (if x.negative then '-' :: text else text)

end Binary64

end ObjectStream
