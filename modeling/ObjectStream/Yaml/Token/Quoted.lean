/-
  ObjectStream.Yaml.Token.Quoted

  Quoted scalars. Between single quotes a quote is written twice and everything
  else stands for itself; between double quotes a backslash starts an escape.
-/
import ObjectStream.Text.Ascii
import ObjectStream.Yaml.Token.Fold

namespace ObjectStream.Yaml.Quoted

/-- The quotation mark around a scalar. -/
inductive Quote where
  | single
  | double
deriving DecidableEq, Repr

/-- The character of a quotation mark. -/
def Quote.char : Quote → Char
  | .single => '\''
  | .double => '"'

/-! ## Escapes -/

/-- What follows a backslash. -/
inductive Escape where
  /-- One character, which stands for a character. -/
  | character (c : Char)
  /-- One character, and then so many digits of a code point. -/
  | codePoint (digits : Nat)

/-- The character that a letter after a backslash stands for. -/
def named : List (Char × Nat) :=
  [('0', 0), ('a', 7), ('b', 8), ('t', 9), ('\t', 9), ('n', 10), ('v', 11), ('f', 12), ('r', 13),
    ('e', 0x1B), (' ', 0x20), ('"', 0x22), ('/', 0x2F), ('\\', 0x5C), ('N', 0x85), ('_', 0xA0),
    ('L', 0x2028), ('P', 0x2029)]

/-- How many digits follow a letter after a backslash. -/
def digitCounts : List (Char × Nat) := [('x', 2), ('u', 4), ('U', 8)]

/-- The escape that a character after a backslash starts. -/
def Escape.ofChar? (c : Char) : Option Escape :=
  match named.lookup c with
  | some n => some (.character (Char.ofNat n))
  | none => (digitCounts.lookup c).map .codePoint

/-- The character of a code point; the halves of surrogate pairs are none. -/
def codePoint? (n : Nat) : Option Char :=
  if h : n.isValidChar then some (Char.ofNatAux n h) else none

/-! ## Reading -/

/-- Where in a quoted scalar the reading is. -/
inductive State where
  | text
  /-- After a backslash. -/
  | escape
  /-- In the digits of a code point: how many are due, and the value so far. -/
  | digits (due value : Nat)

/-- Reads a quoted scalar, from behind its first quotation mark to behind its last. -/
def read (q : Quote) : State → Folding → Mark → List Char → Except Malformed (String × Cursor)
  | _, _, m, [] => .error ⟨"found unexpected end of stream in a quoted scalar", m⟩
  | .digits due value, f, m, c :: rest =>
    match Ascii.hexDigit? c with
    | none => .error ⟨"did not find expected hexadecimal digit", m⟩
    | some d =>
      let value := value * 16 + d
      if 1 < due then read q (.digits (due - 1) value) f m.next rest
      else
        match codePoint? value with
        | none => .error ⟨"found a number that is no character", m⟩
        | some c => read q .text (f.push c) m.next rest
  | .escape, f, m, '\r' :: '\n' :: rest => read q .text f.addEscapedBreak (m.newLine 2) rest
  | .escape, f, m, c :: rest =>
    if isBreak c then read q .text f.addEscapedBreak (m.newLine 1) rest
    else
      match Escape.ofChar? c with
      | none => .error ⟨"found unknown escape character", m⟩
      | some (.character c) => read q .text (f.push c) m.next rest
      | some (.codePoint digits) => read q (.digits digits 0) f m.next rest
  | .text, f, m, '\r' :: '\n' :: rest => read q .text (f.addBreak '\n') (m.newLine 2) rest
  | .text, f, m, c :: rest =>
    if isBreak c then read q .text (f.addBreak c) (m.newLine 1) rest
    else if isBlank c then read q .text (f.addBlank c) m.next rest
    else if m.column = 0 && startsDocumentMark (c :: rest) then
      .error ⟨"found unexpected document mark in a quoted scalar", m⟩
    else if c = '\\' && q = .double then read q .escape f m.next rest
    else if c = q.char then
      match q, rest with
      | .single, '\'' :: rest => read q .text (f.push '\'') (m.advance 2) rest
      | _, _ => .ok (f.settle.result, ⟨rest, m.next⟩)
    else read q .text (f.push c) m.next rest

end ObjectStream.Yaml.Quoted
