/-
  ObjectStream.Base64.Standard

  Base64 as RFC 4648 defines it, over the bits of a byte string: six of them for
  each character, the last ones filled with zeros, and `=` up to a whole group of
  four characters. The reader accepts canonical text only.
-/
import ObjectStream.Base64
import ObjectStream.Positional

namespace ObjectStream.Base64.Standard

open Positional

/-- The characters that stand for six bits, in the order of their values. -/
def alphabet : Bytes :=
  "ABCDEFGHIJKLMNOPQRSTUVWXYZabcdefghijklmnopqrstuvwxyz0123456789+/".toList.map
    fun c => UInt8.ofNat c.toNat

/-- The bits of a byte string. -/
def bitsOf (bytes : Bytes) : List Nat := bytes.flatMap fun b => digits 2 8 b.toNat

/-! ## Writing -/

/-- The first six bits, with zeros where there are not as many. -/
def firstSix (bits : List Nat) : List Nat := bits.take 6 ++ List.replicate (6 - bits.length) 0

/-- The numbers of six bits each. -/
def sextets (bits : List Nat) : List Nat :=
  if bits = [] then [] else value 2 (firstSix bits) :: sextets (bits.drop 6)
termination_by bits.length
decreasing_by
  rename_i h
  have := List.length_pos_iff.mpr h
  rw [List.length_drop]
  omega

/-- How many `=` make whole groups of some characters. -/
def padCount (length : Nat) : Nat := (4 - length % 4) % 4

/-- The text of a byte string. -/
def encode (bytes : Bytes) : Bytes :=
  let symbols := (sextets (bitsOf bytes)).map fun value => alphabet.getD value pad
  symbols ++ List.replicate (padCount symbols.length) pad

/-! ## Reading -/

/-- The bytes of eight bits each, and the bits after the last whole one. -/
def octets (bits : List Nat) : Bytes × List Nat :=
  if bits.length < 8 then ([], bits)
  else
    let (bytes, rest) := octets (bits.drop 8)
    (UInt8.ofNat (value 2 (bits.take 8)) :: bytes, rest)
termination_by bits.length
decreasing_by
  rw [List.length_drop]
  omega

/-- Reads a text: whole groups of characters, and no bit that is set behind the last byte. -/
def decode? (text : Bytes) : Option Bytes := do
  let symbols := text.takeWhile (· ≠ pad)
  let values ← symbols.mapM fun c => alphabet.idxOf? c
  let (bytes, rest) := octets (values.flatMap (digits 2 6))
  if text = symbols ++ List.replicate (padCount symbols.length) pad ∧ rest.length < 6 ∧
      rest.all (· = 0) then
    some bytes
  else none

end ObjectStream.Base64.Standard
