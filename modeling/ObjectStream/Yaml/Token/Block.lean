/-
  ObjectStream.Yaml.Token.Block

  Block scalars: the lines that are indented below a `|` or a `>`. The header
  tells how the breaks at the end are kept and, if it wants to, the indentation;
  otherwise the first line with text does.
-/
import ObjectStream.Text.Ascii
import ObjectStream.Yaml.Cursor

namespace ObjectStream.Yaml.Block

/-- Which breaks at the end of a block scalar are kept. -/
inductive Chomping where
  /-- None. -/
  | strip
  /-- The first. -/
  | clip
  /-- All. -/
  | keep
deriving DecidableEq, Repr

/-- The header of a block scalar. -/
structure Header where
  chomping : Chomping := .clip
  /-- The indentation below the parent, if it is given. -/
  increment : Option Nat := none

/-! ## The header -/

/-- Reads the sign of a chomping. -/
def chomping? : Char → Option Chomping
  | '+' => some .keep
  | '-' => some .strip
  | _ => none

/-- Reads the chomping at a place, if it is given. -/
def readChomping (c : Cursor) : Option Chomping × Cursor :=
  match c.rest.head?.bind chomping? with
  | some chomping => (some chomping, c.advance 1)
  | none => (none, c)

/-- Reads the increment at a place, if it is given. -/
def readIncrement (c : Cursor) : Except Malformed (Option Nat × Cursor) :=
  match c.rest.head?.bind (Ascii.digitIn? 10) with
  | some 0 => c.fail "found an indentation indicator equal to 0"
  | some n => .ok (some n, c.advance 1)
  | none => .ok (none, c)

/-- Reads a header, from behind the sign of the scalar to the start of its first line. Its two parts may
come in either order. -/
def readHeader (c : Cursor) : Except Malformed (Header × Cursor) := do
  let (before, c) := readChomping c
  let (increment, c) ← readIncrement c
  let (after, c) := if before.isNone && increment.isSome then readChomping c else (none, c)
  return (⟨(before <|> after).getD .clip, increment⟩, ← c.endLine)

/-! ## The lines -/

/-- How the lines of a scalar are read. -/
structure Context where
  /-- Whether breaks between lines are folded. -/
  folded : Bool
  /-- The least indentation that can be found; at least 1. -/
  least : Nat

/-- A block scalar under way. Texts have their newest characters first. -/
structure State where
  text : List Char := []
  /-- The break after the last line with text. -/
  lineBreak : List Char := []
  /-- The breaks of empty lines after that. -/
  emptyLines : List Char := []
  /-- Whether the last line with text starts with a blank. -/
  afterBlank : Bool := false
  /-- The indentation, once it is known. -/
  indent : Option Nat
  /-- The largest column at which a line before the first text ended. -/
  widest : Nat := 0
  /-- Whether the reading is inside a line. -/
  inLine : Bool := false

namespace State

/-- Whether a column is left of the indentation, as far as it is known. -/
def isLeft (s : State) (column : Nat) : Bool :=
  s.indent.all (column < ·)

/-- After the break of an empty line that ends at a column. -/
def addEmptyLine (s : State) (column : Nat) (c : Char) : State :=
  { s with emptyLines := keptBreak c :: s.emptyLines, widest := max s.widest column }

/-- With the indentation known, where a line has text at a column. -/
def settleIndent (ctx : Context) (s : State) (column : Nat) : State × Nat :=
  match s.indent with
  | some n => (s, n)
  | none =>
    let n := max (max s.widest column) ctx.least
    ({ s with indent := some n }, n)

/-- What comes between two lines with text. A line feed between lines that do not start with a blank
folds to a space, or to nothing if empty lines follow it. -/
def joined (ctx : Context) (s : State) (blank : Bool) : List Char :=
  if ctx.folded && s.lineBreak = ['\n'] && !s.afterBlank && !blank then
    if s.emptyLines.isEmpty then [' '] else s.emptyLines
  else s.emptyLines ++ s.lineBreak

/-- At the start of a line with text, which begins with a blank or not. -/
def startLine (ctx : Context) (s : State) (blank : Bool) : State :=
  { s with
    text := s.joined ctx blank ++ s.text
    lineBreak := []
    emptyLines := []
    afterBlank := blank
    inLine := true }

/-- After the break of a line with text. -/
def endLine (s : State) (c : Char) : State :=
  { s with lineBreak := [keptBreak c], inLine := false }

/-- The text of the scalar. -/
def result (s : State) : Chomping → String
  | .strip => String.ofList s.text.reverse
  | .clip => String.ofList (s.lineBreak ++ s.text).reverse
  | .keep => String.ofList (s.emptyLines ++ s.lineBreak ++ s.text).reverse

end State

/-- Reads the lines of a block scalar up to the first line with text that is not indented as they are. -/
def readLines (ctx : Context) (s : State) (m : Mark) : List Char → Except Malformed (State × Cursor)
  | [] => .ok (s, ⟨[], m⟩)
  | '\r' :: '\n' :: rest =>
    readLines ctx (if s.inLine then s.endLine '\n' else s.addEmptyLine m.column '\n') (m.newLine 2) rest
  | c :: rest =>
    if isBreak c then
      readLines ctx (if s.inLine then s.endLine c else s.addEmptyLine m.column c) (m.newLine 1) rest
    else if s.inLine then readLines ctx { s with text := c :: s.text } m.next rest
    else if s.isLeft m.column && c = ' ' then readLines ctx s m.next rest
    else if s.isLeft m.column && c = '\t' then
      .error ⟨"found a tab character where an indentation space is expected", m⟩
    else
      let (s, indent) := s.settleIndent ctx m.column
      if m.column = indent then
        let s := s.startLine ctx (isBlank c)
        readLines ctx { s with text := c :: s.text } m.next rest
      else .ok (s, ⟨c :: rest, m⟩)

/-- Reads a block scalar from behind its sign, below a parent of that indentation. -/
def read (folded : Bool) (parent : Int) (c : Cursor) : Except Malformed (String × Cursor) := do
  let (header, c) ← readHeader c
  let ctx : Context := ⟨folded, max (parent + 1).toNat 1⟩
  let indent := header.increment.map (parent.toNat + ·)
  let (s, c) ← readLines ctx { indent } c.mark c.rest
  return (s.result header.chomping, c)

end ObjectStream.Yaml.Block
