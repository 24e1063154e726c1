/-
  ObjectStream.Yaml.Token.Lexer

  The tokens of a YAML text. A mapping key shows itself only by the colon behind
  it, so a token that may begin a key is kept as a candidate: the tokens from it
  on wait until a colon comes, which puts the tokens of a mapping and of a key in
  front of them, or until none can come any more.
-/
import ObjectStream.Yaml.Reading
import ObjectStream.Yaml.Token.Block
import ObjectStream.Yaml.Token.Plain
import ObjectStream.Yaml.Token.Property
import ObjectStream.Yaml.Token.Quoted

namespace ObjectStream.Yaml

/-- A token that a mapping key may begin with. -/
structure Candidate where
  /-- How many brackets are open around it. -/
  depth : Nat
  /-- Whether only a key may stand there. -/
  required : Bool
  /-- How many tokens come before it. -/
  position : Nat
  mark : Mark

/-- The reading of tokens under way. -/
structure Lexer where
  cursor : Cursor
  /-- How many tokens were given away. -/
  given : Nat
  /-- The tokens that wait, in order. -/
  waiting : Array Token
  /-- The columns of the open block collections, innermost first. -/
  indents : List Nat
  /-- Whether a key may begin at the next token. -/
  keyAllowed : Bool
  /-- How many brackets are open. -/
  depth : Nat
  /-- The candidates, innermost first; at most one at each depth. -/
  candidates : List Candidate

namespace Lexer

/-! ## Views -/

/-- Where the reading is. -/
def mark (s : Lexer) : Mark := s.cursor.mark

/-- Whether the reading is between brackets. -/
def inFlow (s : Lexer) : Bool := 0 < s.depth

/-- The column of the innermost block collection; one less than all columns if there is none. -/
def indent (s : Lexer) : Int :=
  match s.indents with
  | [] => -1
  | column :: _ => column

/-- The candidate among the brackets that the reading is in. -/
def candidate (s : Lexer) : Option Candidate :=
  s.candidates.head?.filter (·.depth = s.depth)

/-- How many tokens were read. -/
def position (s : Lexer) : Nat := s.given + s.waiting.size

/-- How many tokens come before all candidates. -/
def settled (s : Lexer) : Nat :=
  s.candidates.foldl (fun n c => min n c.position) s.position

/-- Whether the text has been read to its end. -/
def isDone (s : Lexer) : Bool := s.waiting.back?.any (·.kind = .streamEnd)

/-! ## Candidates -/

/-- A key stays on its line and has at most 1024 characters before its colon. -/
def Candidate.isStale (c : Candidate) (m : Mark) : Bool :=
  c.mark.line < m.line || c.mark.index + 1024 < m.index

/-- The failure where a key without a colon must have one. -/
def missingColon {α : Type} (c : Candidate) : Except Malformed α :=
  .error ⟨"could not find expected ':'", c.mark⟩

/-- Drops the candidates that cannot get their colon any more. -/
def dropStale (s : Lexer) : Except Malformed Lexer :=
  let (stale, fresh) := s.candidates.partition (Candidate.isStale · s.mark)
  match stale.find? (·.required) with
  | some c => missingColon c
  | none => .ok { s with candidates := fresh }

/-- Drops the candidate among the brackets that the reading is in. -/
def dropCandidate (s : Lexer) : Except Malformed Lexer :=
  match s.candidate with
  | some c => if c.required then missingColon c else .ok { s with candidates := s.candidates.drop 1 }
  | none => .ok s

/-- Makes the next token a candidate, if a key may begin there. -/
def addCandidate (s : Lexer) : Except Malformed Lexer :=
  if s.keyAllowed then do
    let s ← s.dropCandidate
    let required := !s.inFlow && s.indent = (s.mark.column : Int)
    return { s with candidates := ⟨s.depth, required, s.position, s.mark⟩ :: s.candidates }
  else .ok s

/-! ## Tokens -/

/-- Adds a token that reaches from the place of the reading to a cursor, and goes on there. -/
def emit (s : Lexer) (kind : TokenKind) (after : Cursor) : Lexer :=
  { s with waiting := s.waiting.push ⟨kind, s.mark, after.mark⟩, cursor := after }

/-- Adds a token of so many characters. -/
def emitChars (s : Lexer) (kind : TokenKind) (n : Nat) : Lexer :=
  s.emit kind (s.cursor.advance n)

/-- Puts an empty token in front of the token at a position. -/
def insert (s : Lexer) (position : Nat) (kind : TokenKind) (m : Mark) : Lexer :=
  { s with waiting := s.waiting.insertIdxIfInBounds (position - s.given) ⟨kind, m, m⟩ }

/-- Opens a block collection in front of the token at a position, if the column is right of the open
ones. -/
def openBlock (s : Lexer) (position : Nat) (kind : TokenKind) (m : Mark) : Lexer :=
  if !s.inFlow && s.indent < (m.column : Int) then
    { s.insert position kind m with indents := m.column :: s.indents }
  else s

/-- Opens a block collection at the next token. -/
def openBlockHere (s : Lexer) (kind : TokenKind) : Lexer :=
  s.openBlock s.position kind s.mark

/-- Closes the block collections that are right of a column. -/
def closeBlocks (s : Lexer) (column : Int) : Lexer :=
  if s.inFlow then s
  else
    let closed := s.indents.takeWhile fun i : Nat => column < (i : Int)
    let blockEnd : Token := ⟨.blockEnd, s.mark, s.mark⟩
    { s with
      indents := s.indents.drop closed.length
      waiting := closed.foldl (fun waiting _ => waiting.push blockEnd) s.waiting }

/-- Behind a bracket that opens. -/
def enterFlow (s : Lexer) : Lexer := { s with depth := s.depth + 1 }

/-- Behind a bracket that closes; its candidate is dropped before. -/
def leaveFlow (s : Lexer) : Lexer := { s with depth := s.depth - 1 }

/-- With keys allowed at the next token or not. -/
def allowKey (s : Lexer) (allowed : Bool) : Lexer := { s with keyAllowed := allowed }

/-! ## Gaps -/

/-- Skips blanks, comments and breaks. A tab counts as a blank between brackets and where no key may
begin; behind a break outside of brackets a key may begin. -/
def skipGap (inFlow : Bool) (comment keyAllowed : Bool) (m : Mark) : List Char → Bool × Cursor
  | [] => (keyAllowed, ⟨[], m⟩)
  | '\r' :: '\n' :: rest => skipGap inFlow false (keyAllowed || !inFlow) (m.newLine 2) rest
  | c :: rest =>
    if isBreak c then skipGap inFlow false (keyAllowed || !inFlow) (m.newLine 1) rest
    else if comment || c = ' ' || (c = '\t' && (inFlow || !keyAllowed)) then
      skipGap inFlow comment keyAllowed m.next rest
    else if c = '#' then skipGap inFlow true keyAllowed m.next rest
    else (keyAllowed, ⟨c :: rest, m⟩)

/-- At the next token. -/
def atToken (s : Lexer) : Lexer :=
  let (keyAllowed, cursor) := skipGap s.inFlow false s.keyAllowed s.mark s.cursor.rest
  { s with keyAllowed, cursor }

/-! ## Steps -/

/-- The end of the text, which counts as the start of a line. -/
def endStream (s : Lexer) : Except Malformed Lexer := do
  let m := s.mark
  let m := if m.column = 0 then m else { m with line := m.line + 1, column := 0 }
  let s ← (closeBlocks { s with cursor := ⟨[], m⟩ } (-1)).dropCandidate
  return (s.allowKey false).emitChars .streamEnd 0

/-- A directive. -/
def directive (s : Lexer) : Except Malformed Lexer := do
  let s ← (s.closeBlocks (-1)).dropCandidate
  let (kind, after) ← Property.readDirective s.cursor
  return (s.allowKey false).emit kind after

/-- A mark between documents. -/
def documentMark (s : Lexer) (kind : TokenKind) : Except Malformed Lexer := do
  let s ← (s.closeBlocks (-1)).dropCandidate
  return (s.allowKey false).emitChars kind 3

/-- A bracket that opens. -/
def openFlow (s : Lexer) (kind : TokenKind) : Except Malformed Lexer := do
  let s ← s.addCandidate
  return (s.enterFlow.allowKey true).emitChars kind 1

/-- A bracket that closes. -/
def closeFlow (s : Lexer) (kind : TokenKind) : Except Malformed Lexer := do
  let s ← s.dropCandidate
  return (s.leaveFlow.allowKey false).emitChars kind 1

/-- A comma between brackets. -/
def flowEntry (s : Lexer) : Except Malformed Lexer := do
  let s ← s.dropCandidate
  return (s.allowKey true).emitChars .flowEntry 1

/-- A hyphen in front of an entry. -/
def blockEntry (s : Lexer) : Except Malformed Lexer := do
  if !s.inFlow && !s.keyAllowed then
    s.cursor.fail "block sequence entries are not allowed here"
  else
    let s ← (s.openBlockHere .blockSequenceStart).dropCandidate
    return (s.allowKey true).emitChars .blockEntry 1

/-- A question mark in front of a key. -/
def key (s : Lexer) : Except Malformed Lexer := do
  if !s.inFlow && !s.keyAllowed then s.cursor.fail "mapping keys are not allowed here"
  else
    let s ← (s.openBlockHere .blockMappingStart).dropCandidate
    return (s.allowKey !s.inFlow).emitChars .key 1

/-- A colon in front of a value. Behind a candidate it makes that a key. -/
def value (s : Lexer) : Except Malformed Lexer :=
  match s.candidate with
  | some c =>
    let s := (s.insert c.position .key c.mark).openBlock c.position .blockMappingStart c.mark
    .ok ((allowKey { s with candidates := s.candidates.drop 1 } false).emitChars .value 1)
  | none =>
    if !s.inFlow && !s.keyAllowed then s.cursor.fail "mapping values are not allowed here"
    else .ok (((s.openBlockHere .blockMappingStart).allowKey !s.inFlow).emitChars .value 1)

/-- An anchor, an alias or a tag, as a function reads it. -/
def property (s : Lexer) (read : Cursor → Except Malformed (TokenKind × Cursor)) :
    Except Malformed Lexer := do
  let s ← s.addCandidate
  let (kind, after) ← read s.cursor
  return (s.allowKey false).emit kind after

/-- A name behind a sign, as a token. -/
def named (make : String → TokenKind) (c : Cursor) : Except Malformed (TokenKind × Cursor) := do
  let (name, after) ← Property.readName (c.advance 1)
  return (make name, after)

/-- A block scalar. -/
def blockScalar (s : Lexer) (style : Style) : Except Malformed Lexer := do
  let s ← s.dropCandidate
  let (text, after) ← Block.read (style = .folded) s.indent (s.cursor.advance 1)
  return (s.allowKey true).emit (.scalar text style) after

/-- A quoted scalar. -/
def quotedScalar (s : Lexer) (quote : Quoted.Quote) (style : Style) : Except Malformed Lexer := do
  let s ← s.addCandidate
  let inner := s.cursor.advance 1
  let (text, after) ← Quoted.read quote .text .empty inner.mark inner.rest
  return (s.allowKey false).emit (.scalar text style) after

/-- A plain scalar. Behind one that reaches into a new line a key may begin. -/
def plainScalar (s : Lexer) : Except Malformed Lexer := do
  let s ← s.addCandidate
  let r ← Plain.read ⟨s.inFlow, s.indent + 1⟩ true .empty s.mark s.mark s.cursor.rest
  let token : Token := ⟨.scalar r.folding.result .plain, s.mark, r.stop⟩
  return { s with keyAllowed := r.folding.broken, waiting := s.waiting.push token, cursor := r.cursor }

/-- The characters that cannot begin a plain scalar, whatever follows. -/
def indicators : List Char :=
  [',', '[', ']', '\x7b', '\x7d', '#', '&', '*', '!', '|', '>', '\'', '"', '%', '@', '\x60']

/-- Whether a plain scalar may begin with a character, before some text. -/
def beginsPlain (inFlow : Bool) (c : Char) (rest : List Char) : Bool :=
  if isBlank c || isBreak c then false
  else if c = '-' then !startsBlank rest
  else if c = '?' || c = ':' then !inFlow && !startsBlank rest
  else !indicators.contains c

/-- Reads the token that begins with a character, before some text. -/
def token (s : Lexer) (c : Char) (rest : List Char) : Except Malformed Lexer :=
  let separate := startsBlank rest
  if s.mark.column = 0 && c = '%' then s.directive
  else if s.mark.column = 0 && c = '-' && startsDocumentMark (c :: rest) then s.documentMark .documentStart
  else if s.mark.column = 0 && c = '.' && startsDocumentMark (c :: rest) then s.documentMark .documentEnd
  else if c = '[' then s.openFlow .flowSequenceStart
  else if c = '\x7b' then s.openFlow .flowMappingStart
  else if c = ']' then s.closeFlow .flowSequenceEnd
  else if c = '\x7d' then s.closeFlow .flowMappingEnd
  else if c = ',' then s.flowEntry
  else if c = '-' && separate then s.blockEntry
  else if c = '?' && (s.inFlow || separate) then s.key
  else if c = ':' && (s.inFlow || separate) then s.value
  else if c = '*' then s.property (named .alias)
  else if c = '&' then s.property (named .anchor)
  else if c = '!' then s.property (Property.readTag s.inFlow)
  else if c = '|' && !s.inFlow then s.blockScalar .literal
  else if c = '>' && !s.inFlow then s.blockScalar .folded
  else if c = '\'' then s.quotedScalar .single .singleQuoted
  else if c = '"' then s.quotedScalar .double .doubleQuoted
  else if beginsPlain s.inFlow c rest then s.plainScalar
  else s.cursor.fail "found character that cannot start any token"

/-- Reads the next token. -/
def step (s : Lexer) : Except Malformed Lexer := do
  let s ← s.atToken.dropStale
  let s := s.closeBlocks s.mark.column
  match s.cursor.rest with
  | [] => s.endStream
  | c :: rest => s.token c rest

/-! ## Texts -/

/-- The mark in front of a text that tells how it is encoded. -/
def byteOrderMark : Char := Char.ofNat 0xFEFF

/-- The start of a text. A byte order mark does not count; a second one counts as a column. -/
def start (text : List Char) : Lexer :=
  let text := if text.head? = some byteOrderMark then text.drop 1 else text
  let cursor : Cursor := ⟨text, Mark.start⟩
  { cursor := if text.head? = some byteOrderMark then cursor.advance 1 else cursor
    given := 1
    waiting := #[]
    indents := []
    keyAllowed := true
    depth := 0
    candidates := [] }

/-- Gives away the tokens before all candidates, behind others. -/
def giveAway (s : Lexer) (tokens : Array Token) : Array Token × Lexer :=
  let n := s.settled - s.given
  if n = s.waiting.size then (tokens ++ s.waiting, { s with given := s.given + n, waiting := #[] })
  else
    (tokens ++ s.waiting.extract 0 n,
      { s with given := s.given + n, waiting := s.waiting.extract n s.waiting.size })

/-- Reads the tokens from a state on, in at most so many steps, behind those that were given away. A
failure comes behind the tokens before it that do not wait. -/
def run : Nat → Array Token → Lexer → Reading Token
  | 0, tokens, s => ⟨tokens.toList, some ⟨"the text does not end", s.mark⟩⟩
  | steps + 1, tokens, s =>
    match s.step.bind dropStale with
    | .error e => ⟨tokens.toList, some e⟩
    | .ok s =>
      let isDone := s.isDone
      let (tokens, s) := s.giveAway tokens
      if isDone then ⟨tokens.toList, none⟩ else run steps tokens s

end Lexer

/-- The tokens of a text. Each step but the last reads a character, so there are enough of them. -/
def Token.ofText (text : String) : Reading Token :=
  let chars := text.toList
  if chars.any isForbidden then .failed ⟨"control characters are not allowed", Mark.start⟩
  else
    Lexer.run (chars.length + 1) #[⟨.streamStart, Mark.start, Mark.start⟩] (Lexer.start chars)

end ObjectStream.Yaml
