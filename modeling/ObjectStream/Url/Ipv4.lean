/-
  ObjectStream.Url.Ipv4

  IPv4 addresses in host position: one to four numbers with dots between them,
  in decimal, octal or hexadecimal, of which the last fills what is left.
-/
import ObjectStream.Text.Number
import ObjectStream.Url.Error

namespace ObjectStream.Url

/-- An IPv4 address, as its four bytes. -/
structure Ipv4 where
  a : UInt8
  b : UInt8
  c : UInt8
  d : UInt8
deriving DecidableEq, Repr

/-- The pieces of a text between the characters that are `separator`; there is always one. -/
def splitAtChar (separator : Char) : List Char → List (List Char)
  | [] => [[]]
  | c :: rest =>
    if c = separator then [] :: splitAtChar separator rest
    else
      match splitAtChar separator rest with
      | [] => [[c]]
      | piece :: pieces => (c :: piece) :: pieces

namespace Ipv4

/-- The address whose 32 bits are a number. -/
def ofNat (n : Nat) : Ipv4 :=
  ⟨UInt8.ofNat (n / 16777216), UInt8.ofNat (n / 65536), UInt8.ofNat (n / 256), UInt8.ofNat n⟩

/-- The address as text. -/
def text (addr : Ipv4) : String :=
  toString addr.a.toNat ++ "." ++ toString addr.b.toNat ++ "." ++ toString addr.c.toNat ++ "." ++
    toString addr.d.toNat

/-- Reads one number of an address: hexadecimal after `0x`, octal after `0`, else decimal. A prefix
alone is zero. -/
def number? : List Char → Option Nat
  | [] => none
  | '0' :: 'x' :: digits => Number.readDigits? 16 0 digits
  | '0' :: 'X' :: digits => Number.readDigits? 16 0 digits
  | '0' :: d :: digits => Number.readDigits? 8 0 (d :: digits)
  | digits => Number.readDigits? 10 0 digits

/-- The pieces of a host between dots, without an empty last one. -/
def parts (host : List Char) : List (List Char) :=
  let pieces := splitAtChar '.' host
  if pieces.getLast? = some [] then pieces.dropLast else pieces

/-- Whether a host is meant as an address: its last piece is a number. -/
def endsInNumber (host : List Char) : Bool :=
  let pieces := splitAtChar '.' host
  match pieces.reverse with
  | [] => false
  | [[]] => false
  | [] :: last :: _ | last :: _ =>
    (!last.isEmpty && last.all fun c => (Ascii.digit? c).isSome) || (number? last).isSome

/-- The value of the leading numbers, each a byte, followed by the last, which fills the bytes that are
left. -/
def assemble? (leading : List Nat) (last : Nat) : Option Nat :=
  if leading.length > 3 then none
  else if last ≥ Nat.pow 256 (4 - leading.length) then none
  else if leading.any (· > 255) then none
  else
    some ((leading.zipIdx.map fun (n, i) => n * Nat.pow 256 (3 - i)).foldl (· + ·) last)

/-- Reads a host that is meant as an address. -/
def ofHost? (host : List Char) : Option Ipv4 :=
  ((parts host).mapM number?).bind fun numbers =>
    match numbers.reverse with
    | [] => none
    | last :: leading => (assemble? leading.reverse last).map ofNat

end Ipv4

end ObjectStream.Url
