/-
  ObjectStream.Yaml.Cursor

  A place in a YAML text: the characters from there on, with the line and the
  column; the classes of characters that matter to YAML; and what is reported of
  a text that is not well formed.
-/

namespace ObjectStream.Yaml

/-- A position: characters from the start, lines and columns, all from zero. -/
structure Mark where
  index : Nat
  line : Nat
  column : Nat
deriving DecidableEq, Repr

/-- The start of a text. -/
def Mark.start : Mark := ⟨0, 0, 0⟩

/-- Where a problem is, for people; nothing for the start of a text. -/
def Mark.suffix (m : Mark) : String :=
  if m.line = 0 && m.column = 0 then ""
  else " at line " ++ toString (m.line + 1) ++ " column " ++ toString (m.column + 1)

/-- A text is not well formed. -/
structure Malformed where
  problem : String
  mark : Mark
deriving DecidableEq, Repr

/-- What is reported of a text that is not well formed. -/
def Malformed.message (m : Malformed) : String := m.problem ++ m.mark.suffix

/-! ## Characters -/

/-- A line break. -/
def isBreak (c : Char) : Bool :=
  c = '\r' || c = '\n' || c.toNat = 0x85 || c.toNat = 0x2028 || c.toNat = 0x2029

/-- A space or a tab. -/
def isBlank (c : Char) : Bool := c = ' ' || c = '\t'

/-- A character of a word: a letter, a digit, a line below or a hyphen. -/
def isWord (c : Char) : Bool := c.isAlphanum || c = '_' || c = '-'

/-- Whether a blank, a break or the end of the text comes first. -/
def startsBlank : List Char → Bool
  | [] => true
  | c :: _ => isBlank c || isBreak c

/-- Whether a break or the end of the text comes first. -/
def startsBreak : List Char → Bool
  | [] => true
  | c :: _ => isBreak c

/-- Whether the text starts with a mark between documents: three hyphens or three points, and then a
blank, a break or the end. -/
def startsDocumentMark : List Char → Bool
  | '-' :: '-' :: '-' :: rest => startsBlank rest
  | '.' :: '.' :: '.' :: rest => startsBlank rest
  | _ => false

/-- The characters of a text that may not be in it at all. -/
def isForbidden (c : Char) : Bool :=
  let n := c.toNat
  !(n = 0x9 || n = 0xA || n = 0xD || (0x20 ≤ n && n ≤ 0x7E) || n = 0x85 ||
    (0xA0 ≤ n && n ≤ 0xD7FF) || (0xE000 ≤ n && n ≤ 0xFFFD) || 0x10000 ≤ n)

/-- How a line break is kept: the separators of lines and paragraphs as they are, every other as a line
feed. -/
def keptBreak (c : Char) : Char :=
  if c.toNat = 0x2028 || c.toNat = 0x2029 then c else '\n'

/-! ## Positions -/

/-- The position after a character that is no break. -/
def Mark.next (m : Mark) : Mark := { m with index := m.index + 1, column := m.column + 1 }

/-- The position after so many characters that are no breaks. -/
def Mark.advance (m : Mark) (n : Nat) : Mark :=
  { m with index := m.index + n, column := m.column + n }

/-- The position after a break of so many characters. -/
def Mark.newLine (m : Mark) (n : Nat) : Mark := ⟨m.index + n, m.line + 1, 0⟩

/-- A place in a text. -/
structure Cursor where
  rest : List Char
  mark : Mark
deriving Repr

namespace Cursor

/-- The place after so many characters that are no breaks. -/
def advance (c : Cursor) (n : Nat) : Cursor := ⟨c.rest.drop n, c.mark.advance n⟩

/-- The longest run of characters of a class, and the place after it. -/
def takeWhile (p : Char → Bool) (c : Cursor) : List Char × Cursor :=
  let run := c.rest.takeWhile p
  (run, c.advance run.length)

/-- The place after the longest run of characters of a class. -/
def skipWhile (p : Char → Bool) (c : Cursor) : Cursor := (c.takeWhile p).2

/-- The place after a break, if there is one here. -/
def skipBreak (c : Cursor) : Cursor :=
  match c.rest with
  | '\r' :: '\n' :: rest => ⟨rest, c.mark.newLine 2⟩
  | b :: rest => if isBreak b then ⟨rest, c.mark.newLine 1⟩ else c
  | [] => c

/-- The place after a comment, if there is one here. -/
def skipComment (c : Cursor) : Cursor :=
  if c.rest.head? = some '#' then c.skipWhile fun x => !isBreak x else c

/-- The place after blanks, a comment and the break that ends the line; nothing else may stand there. -/
def endLine (c : Cursor) : Except Malformed Cursor :=
  let c := (c.skipWhile isBlank).skipComment
  if startsBreak c.rest then .ok c.skipBreak
  else .error ⟨"did not find expected comment or line break", c.mark⟩

/-- The failure of a text at this place. -/
def fail {α : Type} (c : Cursor) (problem : String) : Except Malformed α := .error ⟨problem, c.mark⟩

end Cursor

end ObjectStream.Yaml
