/-
  ObjectStream.Url.Punycode

  Texts in the letters, digits and hyphens of host names. The ASCII characters of
  a text are written as they are; behind them, numbers tell where the others are
  inserted, in the order of their code points. How many digits a number takes
  adapts to the numbers before it.
-/
import ObjectStream.Text.Ascii

namespace ObjectStream.Url.Punycode

/-! ## Digits -/

/-- The number of digits. -/
def base : Nat := 36

/-- The character of a digit. -/
def digitChar (d : Nat) : Char :=
  if d < 26 then Char.ofNat (0x61 + d) else Char.ofNat (0x16 + d)

/-- The value of a digit. -/
def digit? (c : Char) : Option Nat :=
  if 'a' ≤ c ∧ c ≤ 'z' then some (c.toNat - 0x61)
  else if 'A' ≤ c ∧ c ≤ 'Z' then some (c.toNat - 0x41)
  else if '0' ≤ c ∧ c ≤ '9' then some (c.toNat - 0x16)
  else none

/-- The least digit that is not the last of its number, after `k` digits. -/
def threshold (bias k : Nat) : Nat :=
  min 26 (max 1 (base * (k + 1) - bias))

theorem threshold_pos (bias k : Nat) : 0 < threshold bias k := by
  unfold threshold
  omega

/-- The first bias. -/
def firstBias : Nat := 72

/-- The first code point that is not written as it is. -/
def firstPoint : Nat := 0x80

/-- How often 35 can be taken out of a number until it is at most 455, and what is left. -/
def scaled (delta : Nat) : Nat × Nat :=
  if 455 < delta then
    let (count, rest) := scaled (delta / 35)
    (count + 1, rest)
  else (0, delta)

/-- The bias after a number, when the text has so many characters. -/
def adapt (delta count : Nat) (isFirst : Bool) : Nat :=
  let delta := if isFirst then delta / 700 else delta / 2
  let (k, rest) := scaled (delta + delta / count)
  base * k + base * rest / (rest + 38)

/-! ## Writing -/

/-- The digits of a number behind its first `k`. -/
def writeNumber (bias k n : Nat) : List Char :=
  let t := threshold bias k
  if n < t then [digitChar n]
  else digitChar (t + (n - t) % (base - t)) :: writeNumber bias (k + 1) ((n - t) / (base - t))
termination_by n
decreasing_by
  have := threshold_pos bias k
  have := Nat.div_le_self (n - threshold bias k) (base - threshold bias k)
  omega

/-- A text that is being written. -/
structure Writer where
  /-- The number that is due, as far as it is known. -/
  delta : Nat := 0
  bias : Nat := firstBias
  /-- How many characters are written. -/
  count : Nat
  /-- What is written, the last character first. -/
  output : List Char

/-- Passes a character of the text while those of one code point are written. -/
def Writer.step (basicCount point : Nat) (w : Writer) (c : Char) : Writer :=
  if c.toNat < point then { w with delta := w.delta + 1 }
  else if c.toNat = point then
    { delta := 0
      bias := adapt w.delta (w.count + 1) (w.count = basicCount)
      count := w.count + 1
      output := (writeNumber w.bias 0 w.delta).reverse ++ w.output }
  else w

/-- Writes the characters of a text at the code points of an ascending list; `next` is the first code
point that was not passed yet. -/
def writePoints (basicCount : Nat) (text : List Char) (next : Nat) (w : Writer) : List Nat → Writer
  | [] => w
  | point :: rest =>
    let w := { w with delta := w.delta + (point - next) * (w.count + 1) }
    let w := text.foldl (Writer.step basicCount point) w
    writePoints basicCount text (point + 1) { w with delta := w.delta + 1 } rest

/-- Writes a text. -/
def encode (text : List Char) : List Char :=
  let basic := text.filter fun c => c.toNat < firstPoint
  let others := (text.map Char.toNat).filter fun n => firstPoint ≤ n
  let points := (others.mergeSort (· ≤ ·)).eraseDups
  let head := if basic.isEmpty then [] else '-' :: basic.reverse
  (writePoints basic.length text firstPoint { count := basic.length, output := head } points).output.reverse

/-! ## Reading -/

/-- A text that is being read. -/
structure Reader where
  text : List Char
  point : Nat := firstPoint
  /-- Where the next character is inserted, counted on from the last insertion. -/
  index : Nat := 0
  bias : Nat := firstBias
  /-- The index before the number that is being read, how many of its digits were read, and the weight
  of the next. -/
  start : Nat := 0
  digits : Nat := 0
  weight : Nat := 1

/-- After the last digit of a number: inserts a character. -/
def Reader.insert? (r : Reader) : Option Reader :=
  let count := r.text.length + 1
  let point := r.point + r.index / count
  let index := r.index % count
  if h : point.isValidChar then
    some {
      text := r.text.insertIdx index (Char.ofNatAux point h)
      point
      index := index + 1
      bias := adapt (r.index - r.start) count (r.start = 0)
      start := index + 1 }
  else none

/-- After a digit. -/
def Reader.step? (r : Reader) (c : Char) : Option Reader := do
  let d ← digit? c
  let t := threshold r.bias r.digits
  let r := { r with index := r.index + d * r.weight }
  if d < t then r.insert?
  else some { r with digits := r.digits + 1, weight := r.weight * (base - t) }

/-- What comes before the last hyphen, which is not written if that is nothing, and what comes behind
it. -/
def parts (text : List Char) : List Char × List Char :=
  let numbers := (text.reverse.takeWhile (· ≠ '-')).reverse
  let basic := (text.take (text.length - numbers.length)).dropLast
  if basic.isEmpty then ([], text) else (basic, numbers)

/-- Reads a text; the reading must end behind a number. -/
def decode? (text : List Char) : Option (List Char) := do
  let (basic, numbers) := parts text
  if basic.any fun c => firstPoint ≤ c.toNat then none
  else
    let r ← numbers.foldlM Reader.step? { text := basic }
    if r.digits = 0 then some r.text else none

end ObjectStream.Url.Punycode
