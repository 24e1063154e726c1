/-
  ObjectStream.Url.Ipv6

  IPv6 addresses: eight pieces of four hexadecimal digits, of which one run of
  zeros may be left out, and of which the last two may be an IPv4 address.
-/
import ObjectStream.Url.Ipv4

namespace ObjectStream.Url

/-- An IPv6 address, as its eight pieces. -/
structure Ipv6 where
  pieces : List UInt16
deriving DecidableEq, Repr

namespace Ipv6

/-! ## Reading -/

/-- The pieces read so far, and where the run of zeros that was left out goes, if one was. A run that is
left out counts for one piece. -/
structure Reading where
  pieces : List Nat
  gap : Option Nat

/-- The reading with the mark of a run that is left out. -/
def Reading.withGap? (r : Reading) : Option Reading :=
  if r.gap.isSome then none else some ⟨r.pieces ++ [0], some (r.pieces.length + 1)⟩

/-- The leading hexadecimal digits of a text, at most `count`: their value after `value`, how many
there are, and the rest. -/
def piece (count value : Nat) : List Char → Nat × Nat × List Char
  | [] => (value, 0, [])
  | c :: rest =>
    match count, Ascii.hexDigit? c with
    | n + 1, some d =>
      let (v, k, left) := piece n (value * 16 + d) rest
      (v, k + 1, left)
    | _, _ => (value, 0, c :: rest)

/-- A decimal number below 256 without leading zeros. -/
def byte? (digits : List Char) : Option Nat :=
  if digits.length > 1 && digits.head? = some '0' then none
  else if digits.length > 3 then none
  else (digits.mapM Ascii.digit?).bind fun _ => (Number.natIn? 10 digits).filter (· < 256)

/-- The two pieces of an IPv4 address at the end. -/
def embedded? (text : List Char) : Option (List Nat) :=
  match (splitAtChar '.' text).mapM byte? with
  | some [a, b, c, d] => some [a * 256 + b, c * 256 + d]
  | _ => none

/-- Reads pieces to the end of the text; `fuel` bounds the number of pieces. -/
def readPieces : (fuel : Nat) → Reading → List Char → Option Reading
  | _, r, [] => some r
  | 0, _, _ => none
  | fuel + 1, r, ':' :: rest =>
    if r.pieces.length = 8 then none
    else r.withGap?.bind fun r => readPieces fuel r rest
  | fuel + 1, r, text =>
    if r.pieces.length = 8 then none
    else
      match piece 4 0 text with
      | (value, _, []) => some { r with pieces := r.pieces ++ [value] }
      | (value, _, ':' :: c :: rest) =>
        readPieces fuel { r with pieces := r.pieces ++ [value] } (c :: rest)
      | (_, count, '.' :: _) =>
        if count = 0 || r.pieces.length > 6 then none
        else (embedded? text).map fun last => { r with pieces := r.pieces ++ last }
      | _ => none

/-- All eight pieces of a reading, with the run of zeros that was left out. -/
def Reading.complete? (r : Reading) : Option (List Nat) :=
  match r.gap with
  | some i =>
    some (r.pieces.take i ++ List.replicate (8 - r.pieces.length) 0 ++ r.pieces.drop i)
  | none => if r.pieces.length = 8 then some r.pieces else none

/-- Reads the text between the brackets of a host. -/
def ofText? (text : List Char) : Option Ipv6 :=
  let reading := match text with
    | ':' :: ':' :: rest => readPieces 9 ⟨[0], some 1⟩ rest
    | ':' :: _ => none
    | [] => none
    | _ => readPieces 9 ⟨[], none⟩ text
  (reading.bind Reading.complete?).map fun pieces => ⟨pieces.map UInt16.ofNat⟩

/-! ## Writing -/

/-- The first longest run of zeros among the pieces from `index` on: where it starts and its length.
`start` and `length` are the run under way, `best` is the longest run before. -/
def zeroRun (index : Nat) (start length : Nat) (best : Nat × Nat) : List UInt16 → Nat × Nat
  | [] => best
  | p :: rest =>
    if p = 0 then
      let start := if length = 0 then index else start
      let best := if length + 1 > best.2 then (start, length + 1) else best
      zeroRun (index + 1) start (length + 1) best rest
    else zeroRun (index + 1) start 0 best rest

/-- Pieces with colons between them. -/
def joined (pieces : List UInt16) : String :=
  String.intercalate ":" (pieces.map fun p => String.ofList (Nat.toDigits 16 p.toNat))

/-- The address as text: an embedded IPv4 address in its own way, else the first longest run of two or
more zeros left out. -/
def text (addr : Ipv6) : String :=
  match addr.pieces with
  | [0, 0, 0, 0, 0, 0xFFFF, high, low] =>
    "::ffff:" ++ (Ipv4.ofNat (high.toNat * 65536 + low.toNat)).text
  | pieces =>
    let (start, length) := zeroRun 0 0 0 (0, 0) pieces
    if length > 1 then
      joined (pieces.take start) ++ "::" ++ joined (pieces.drop (start + length))
    else joined pieces

end Ipv6

end ObjectStream.Url
