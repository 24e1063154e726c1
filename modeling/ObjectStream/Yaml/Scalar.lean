/-
  ObjectStream.Yaml.Scalar

  What scalars mean: nothing, truth values, whole numbers, floating-point numbers
  or text. A plain scalar tells by its form, every other by its tag.
-/
import ObjectStream.Text.Binary64
import ObjectStream.Text.Quoted
import ObjectStream.Yaml.Token

namespace ObjectStream.Yaml

/-- A scalar with its tag, if it has one that counts. -/
structure Scalar where
  text : String
  style : Style
  tag : Option String
deriving DecidableEq, Repr

/-- What a scalar may mean. -/
inductive Meaning where
  | null
  | boolean (b : Bool)
  | integer (n : Int)
  | finite (x : Binary64)
  | infinite (negative : Bool)
  | notANumber
  | text (s : String)
deriving DecidableEq, Repr

namespace Meaning

/-! ## Forms -/

/-- The spellings of nothing. -/
def nulls : List String := ["null", "Null", "NULL", "~"]

/-- The spellings of the truth values. -/
def booleans : List (String × Bool) :=
  [("true", true), ("True", true), ("TRUE", true), ("false", false), ("False", false), ("FALSE", false)]

/-- The spellings of what is no finite number. -/
def specials : List (String × Meaning) :=
  [(".inf", infinite false), (".Inf", infinite false), (".INF", infinite false),
    ("+.inf", infinite false), ("+.Inf", infinite false), ("+.INF", infinite false),
    ("-.inf", infinite true), ("-.Inf", infinite true), ("-.INF", infinite true),
    (".nan", notANumber), (".NaN", notANumber), (".NAN", notANumber)]

/-- A whole number without a sign: hexadecimal, octal or binary behind its mark, or decimal without
leading zeros. -/
def magnitude? : List Char → Option Nat
  | '0' :: 'x' :: digits => Number.natIn? 16 digits
  | '0' :: 'o' :: digits => Number.natIn? 8 digits
  | '0' :: 'b' :: digits => Number.natIn? 2 digits
  | '0' :: _ :: _ => none
  | digits => Number.natIn? 10 digits

/-- A whole number without a minus, below a limit. -/
def unsigned? (limit : Nat) (text : List Char) : Option Nat :=
  let digits := match text with
    | '+' :: rest => rest
    | _ => text
  (magnitude? digits).filter (· < limit)

/-- A whole number of 128 bits, signed or unsigned. -/
def integer? (text : List Char) : Option Int :=
  match text with
  | '-' :: digits => ((magnitude? digits).filter (· ≤ Nat.pow 2 127)).map fun n => -(n : Int)
  | _ => (unsigned? (Nat.pow 2 128) text).map fun n => (n : Int)

/-- Digits that are no number, since a zero leads them. -/
def isPadded (text : List Char) : Bool :=
  let digits := match text with
    | '-' :: rest => rest
    | '+' :: rest => rest
    | _ => text
  1 < digits.length && digits.head? = some '0' && digits.all Char.isDigit

/-- A floating-point number. -/
def float? (text : String) : Option Meaning :=
  specials.lookup text <|> (Binary64.ofText? text.toList).map finite

/-- What a plain scalar without a tag means. -/
def ofPlain (s : String) : Meaning :=
  let chars := s.toList
  if s.isEmpty || nulls.contains s then null
  else
    match booleans.lookup s, integer? chars with
    | some b, _ => boolean b
    | none, some n => integer n
    | none, none => (if isPadded chars then none else float? s).getD (text s)

/-! ## Descriptions -/

/-- What is added to a whole number that does not fit in 64 bits. -/
def width (n : Int) : String :=
  if (Nat.pow 2 64 : Int) ≤ n then " as u128"
  else if n < -(Nat.pow 2 63 : Int) then " as i128"
  else ""

/-- How a meaning is described where another was expected. -/
def describe : Meaning → String
  | null => "unit value"
  | boolean b => "boolean \x60" ++ (if b then "true" else "false") ++ "\x60"
  | integer n => "integer \x60" ++ toString n ++ "\x60" ++ width n
  | finite x => "floating point \x60" ++ x.render ++ "\x60"
  | infinite negative => "floating point \x60" ++ (if negative then "-inf" else "inf") ++ "\x60"
  | notANumber => "floating point \x60NaN\x60"
  | text s => "string " ++ Quoted.encode s

end Meaning

/-! ## Tags -/

/-- The tag of a kind of scalar that every reader knows. -/
def coreTag (name : String) : String := "tag:yaml.org,2002:" ++ name

namespace Scalar

/-- What a scalar means; or what its tag wants it to be, if it is not. -/
def meaning (s : Scalar) : Except String Meaning :=
  let wanted (found : Option Meaning) (expected : String) : Except String Meaning :=
    match found with
    | some m => .ok m
    | none => .error expected
  match s.tag with
  | none => .ok (if s.style = .plain then .ofPlain s.text else .text s.text)
  | some tag =>
    if tag = coreTag "bool" then wanted ((Meaning.booleans.lookup s.text).map .boolean) "a boolean"
    else if tag = coreTag "int" then wanted ((Meaning.integer? s.text.toList).map .integer) "an integer"
    else if tag = coreTag "float" then wanted (Meaning.float? s.text) "a float"
    else if tag = coreTag "null" then
      wanted (if Meaning.nulls.contains s.text then some .null else none) "null"
    else if tag.startsWith "!" && s.style = .plain then .ok (.ofPlain s.text)
    else .ok (.text s.text)

/-- The whole number of 64 bits, without a minus, that a scalar is: plain, or literal with the tag of
whole numbers. -/
def word64? (s : Scalar) : Option Nat :=
  if s.style = .plain || (s.style = .literal && s.tag = some (coreTag "int")) then
    Meaning.unsigned? Number.limit64 s.text.toList
  else none

/-- Whether a scalar stands for no value where one need not be given; or that its tag wants it to, and
it does not. -/
def isAbsent (s : Scalar) : Except Unit Bool :=
  if s.style ≠ .plain then .ok false
  else
    match s.tag with
    | none => .ok (s.text.isEmpty || Meaning.nulls.contains s.text)
    | some tag =>
      if tag ≠ coreTag "null" then .ok false
      else if Meaning.nulls.contains s.text then .ok true
      else .error ()

end Scalar

end ObjectStream.Yaml
