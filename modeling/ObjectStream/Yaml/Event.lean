/-
  ObjectStream.Yaml.Event

  The events of a YAML text: documents and nodes as they start and end. What the
  tokens read so far leave open is a stack of things that are due.
-/
import ObjectStream.Yaml.Reading
import ObjectStream.Yaml.Token

namespace ObjectStream.Yaml

/-- What may stand before a node. -/
structure Properties where
  anchor : Option String := none
  /-- The whole tag. -/
  tag : Option String := none
deriving DecidableEq, Repr

/-- What an event is. -/
inductive EventKind where
  | documentStart
  | documentEnd
  | alias (name : String)
  | scalar (properties : Properties) (text : String) (style : Style)
  | sequenceStart (properties : Properties)
  | sequenceEnd
  | mappingStart (properties : Properties)
  | mappingEnd
deriving DecidableEq, Repr

/-- An event with where it starts. -/
structure Event where
  kind : EventKind
  mark : Mark
deriving DecidableEq, Repr

/-- What is due at a place among the tokens. -/
inductive Due where
  /-- The next document, if there is one; the first needs no mark. -/
  | document (isFirst : Bool)
  /-- What comes behind the mark of a document. -/
  | documentContent
  | documentEnd
  /-- The node of a document without a mark. -/
  | node
  /-- An entry or the end of a block sequence. -/
  | entry
  /-- An entry of a block sequence that is not indented below its key. -/
  | indentlessEntry
  /-- A key or the end of a block mapping. -/
  | key
  | value
  /-- An entry or the end of a sequence between brackets. -/
  | flowEntry (isFirst : Bool)
  /-- The key of a pair that is an entry of a sequence between brackets. -/
  | pairKey
  | pairValue
  | pairEnd
  /-- A key or the end of a mapping between brackets. -/
  | flowKey (isFirst : Bool)
  | flowValue
  /-- The missing value of a node that stands for a key. -/
  | flowNoValue
deriving DecidableEq, Repr

/-- The tokens that are left, why there are no more, and what is due. -/
structure Outline where
  tokens : List Token
  failure : Option Malformed
  dues : List Due
  /-- The handles of tags, and what they stand for. -/
  handles : List (String × String)

/-- An event, and what is left behind it. -/
abbrev Outline.Step := Except Malformed (Event × Outline)

namespace Outline

/-! ## Tokens -/

/-- The next token. -/
def peek (s : Outline) : Except Malformed Token :=
  match s.tokens with
  | t :: _ => .ok t
  | [] => .error (s.failure.getD ⟨"did not find expected token", Mark.start⟩)

/-- Behind the next token. -/
def skip (s : Outline) : Outline := { s with tokens := s.tokens.drop 1 }

/-- With something due before the rest. -/
def push (s : Outline) (due : Due) : Outline := { s with dues := due :: s.dues }

/-- An event that takes the next token. -/
def take (s : Outline) (kind : EventKind) (m : Mark) : Step := .ok (⟨kind, m⟩, s.skip)

/-- An event that takes no token. -/
def leave (s : Outline) (kind : EventKind) (m : Mark) : Step := .ok (⟨kind, m⟩, s)

/-- A scalar that is not written. -/
def emptyScalar (s : Outline) (m : Mark) : Step := s.leave (.scalar {} "" .plain) m

/-- A failure at the next token. -/
def fail (t : Token) (problem : String) : Step := .error ⟨problem, t.start⟩

/-! ## Tags -/

/-- The handles that need no directive. -/
def defaultHandles : List (String × String) := [("!", "!"), ("!!", "tag:yaml.org,2002:")]

/-- The tag of a handle and a suffix. -/
def tag? (s : Outline) (handle suffix : String) : Option String :=
  if handle.isEmpty then some suffix else (s.handles.lookup handle).map (· ++ suffix)

/-- The properties of a node as they are read: the tag in its two parts, and the mark of the first. -/
structure RawProperties where
  anchor : Option String := none
  tag : Option (String × String) := none
  mark : Option Mark := none

/-- Takes the properties in front of a node: an anchor and a tag in either order, each at most once. -/
def takeProperties (p : RawProperties) (s : Outline) : List Token → RawProperties × Outline
  | [] => (p, s)
  | t :: rest =>
    match t.kind, p.anchor, p.tag with
    | .anchor name, none, _ =>
      takeProperties { p with anchor := some name, mark := p.mark <|> some t.start } s.skip rest
    | .tag handle suffix, _, none =>
      takeProperties { p with tag := some (handle, suffix), mark := p.mark <|> some t.start } s.skip rest
    | _, _, _ => (p, s)

/-- The properties in front of a node, where they start, and what is left behind them. -/
def properties (s : Outline) : Except Malformed (Properties × Mark × Outline) := do
  let (p, after) := takeProperties {} s s.tokens
  let t ← after.peek
  let m := p.mark.getD t.start
  match p.tag with
  | none => return (⟨p.anchor, none⟩, m, after)
  | some (handle, suffix) =>
    match s.tag? handle suffix with
    | some tag => return (⟨p.anchor, some tag⟩, m, after)
    | none => .error ⟨"found undefined tag handle", m⟩

/-! ## Nodes -/

/-- The properties of a scalar that is written: the tag `!` says no more than none. -/
def scalarProperties (p : Properties) : Properties :=
  if p.tag = some "!" then { p with tag := none } else p

/-- The event of a node. A node in a block may be a block collection, and below a key the entries of a
sequence need not be indented. -/
def node (inBlock belowKey : Bool) (s : Outline) : Step := do
  let first ← s.peek
  if let .alias name := first.kind then s.take (.alias name) first.start
  else
    let (p, m, s) ← s.properties
    let t ← s.peek
    match t.kind with
    | .scalar text style => s.take (.scalar (scalarProperties p) text style) m
    | .flowSequenceStart => (s.push (.flowEntry true)).take (.sequenceStart p) m
    | .flowMappingStart => (s.push (.flowKey true)).take (.mappingStart p) m
    | kind =>
      if belowKey && kind = .blockEntry then (s.push .indentlessEntry).leave (.sequenceStart p) m
      else if inBlock && kind = .blockSequenceStart then (s.push .entry).take (.sequenceStart p) m
      else if inBlock && kind = .blockMappingStart then (s.push .key).take (.mappingStart p) m
      else if p.anchor.isSome || p.tag.isSome then s.leave (.scalar p "" .plain) m
      else fail t "did not find expected node content"

/-- The event of a node, unless a token of one of some kinds comes: then the node is not written. -/
def nodeUnless (ends : List TokenKind) (inBlock belowKey : Bool) (due : Due) (m : Option Mark)
    (s : Outline) : Step := do
  let t ← s.peek
  let s := s.push due
  if ends.contains t.kind then s.emptyScalar (m.getD t.start) else node inBlock belowKey s

/-! ## Documents -/

/-- Takes the directives in front of a document: whether its version was given, and the handles. -/
def takeDirectives (versioned : Bool) (s : Outline) : List Token → Except Malformed Outline
  | [] => .ok s
  | t :: rest =>
    match t.kind with
    | .versionDirective major minor =>
      if versioned then .error ⟨"found duplicate version directive", t.start⟩
      else if major ≠ 1 || (minor ≠ 1 && minor ≠ 2) then
        .error ⟨"found incompatible version", t.start⟩
      else takeDirectives true s.skip rest
    | .tagDirective handle lead =>
      if (s.handles.lookup handle).isSome then .error ⟨"found duplicate tag directive", t.start⟩
      else takeDirectives versioned { s.skip with handles := s.handles ++ [(handle, lead)] } rest
    | _ => .ok s

/-- With the default handles, where no directive redefines them. -/
def addDefaultHandles (s : Outline) : Outline :=
  { s with handles := s.handles ++ defaultHandles }

/-- Takes the marks of documents that end here. -/
def skipDocumentEnds (s : Outline) : Outline :=
  { s with tokens := s.tokens.dropWhile (·.kind = .documentEnd) }

/-- The start of a document; none at the end of the text. -/
def document (isFirst : Bool) (s : Outline) : Except Malformed (Option (Event × Outline)) := do
  let s := if isFirst then s else s.skipDocumentEnds
  let t ← s.peek
  match t.kind, isFirst with
  | .streamEnd, _ => return none
  | .versionDirective _ _, _ | .tagDirective _ _, _ | .documentStart, _ | _, false =>
    let s := (← s.takeDirectives false s.tokens).addDefaultHandles
    let mark ← s.peek
    if mark.kind = .documentStart then
      return some (⟨.documentStart, t.start⟩, ((s.skip).push .documentEnd).push .documentContent)
    else .error ⟨"did not find expected start of a document", mark.start⟩
  | _, true =>
    return some (⟨.documentStart, t.start⟩, (s.addDefaultHandles.push .documentEnd).push .node)

/-- Whether a token ends a document. -/
def endsDocument : TokenKind → Bool
  | .versionDirective _ _ | .tagDirective _ _ | .documentStart | .documentEnd | .streamEnd => true
  | _ => false

/-- The content of a document behind its mark. -/
def documentContent (s : Outline) : Step := do
  let t ← s.peek
  if endsDocument t.kind then s.emptyScalar t.start else node true false s

/-- The end of a document. Its handles end with it. -/
def documentEnd (s : Outline) : Step := do
  let t ← s.peek
  let s := push { s with handles := [] } (.document false)
  if t.kind = .documentEnd then s.take .documentEnd t.start else s.leave .documentEnd t.start

/-! ## Collections in blocks -/

/-- An entry or the end of a block sequence. -/
def entry (s : Outline) : Step := do
  let t ← s.peek
  match t.kind with
  | .blockEntry => nodeUnless [.blockEntry, .blockEnd] true false .entry t.stop s.skip
  | .blockEnd => s.take .sequenceEnd t.start
  | _ => fail t "did not find expected '-' indicator"

/-- An entry or the end of a block sequence that is not indented. -/
def indentlessEntry (s : Outline) : Step := do
  let t ← s.peek
  match t.kind with
  | .blockEntry =>
    nodeUnless [.blockEntry, .key, .value, .blockEnd] true false .indentlessEntry t.stop s.skip
  | _ => s.leave .sequenceEnd t.start

/-- A key or the end of a block mapping. -/
def key (s : Outline) : Step := do
  let t ← s.peek
  match t.kind with
  | .key => nodeUnless [.key, .value, .blockEnd] true true .value t.stop s.skip
  | .blockEnd => s.take .mappingEnd t.start
  | _ => fail t "did not find expected key"

/-- A value of a block mapping. -/
def value (s : Outline) : Step := do
  let t ← s.peek
  match t.kind with
  | .value => nodeUnless [.key, .value, .blockEnd] true true .key t.stop s.skip
  | _ => (s.push .key).emptyScalar t.start

/-! ## Collections between brackets -/

/-- Behind the comma before a member, which the first member does not need. -/
def separated (isFirst : Bool) (close : TokenKind) (s : Outline) : Except Malformed Outline := do
  let t ← s.peek
  if t.kind = close || isFirst then return s
  else if t.kind = .flowEntry then return s.skip
  else .error ⟨"did not find expected ',' or closing bracket", t.start⟩

/-- An entry or the end of a sequence between brackets. -/
def flowEntry (isFirst : Bool) (s : Outline) : Step := do
  let s ← s.separated isFirst .flowSequenceEnd
  let t ← s.peek
  match t.kind with
  | .flowSequenceEnd => s.take .sequenceEnd t.start
  | .key => (s.push .pairKey).take (.mappingStart {}) t.start
  | _ => node false false (s.push (.flowEntry false))

/-- The key of a pair. Where it is not written, the token that shows this is taken. -/
def pairKey (s : Outline) : Step := do
  let t ← s.peek
  match t.kind with
  | .value | .flowEntry | .flowSequenceEnd => (s.skip.push .pairValue).emptyScalar t.stop
  | _ => node false false (s.push .pairValue)

/-- The value of a pair. -/
def pairValue (s : Outline) : Step := do
  let t ← s.peek
  match t.kind with
  | .value => nodeUnless [.flowEntry, .flowSequenceEnd] false false .pairEnd none s.skip
  | _ => (s.push .pairEnd).emptyScalar t.start

/-- The end of a pair. -/
def pairEnd (s : Outline) : Step := do
  let t ← s.peek
  (s.push (.flowEntry false)).leave .mappingEnd t.start

/-- A key or the end of a mapping between brackets. -/
def flowKey (isFirst : Bool) (s : Outline) : Step := do
  let s ← s.separated isFirst .flowMappingEnd
  let t ← s.peek
  match t.kind with
  | .flowMappingEnd => s.take .mappingEnd t.start
  | .key => nodeUnless [.value, .flowEntry, .flowMappingEnd] false false .flowValue none s.skip
  | _ => node false false (s.push .flowNoValue)

/-- A value of a mapping between brackets. -/
def flowValue (s : Outline) : Step := do
  let t ← s.peek
  match t.kind with
  | .value => nodeUnless [.flowEntry, .flowMappingEnd] false false (.flowKey false) none s.skip
  | _ => (s.push (.flowKey false)).emptyScalar t.start

/-- The missing value of a node that stands for a key. -/
def flowNoValue (s : Outline) : Step := do
  let t ← s.peek
  (s.push (.flowKey false)).emptyScalar t.start

/-! ## Steps -/

/-- The event of something that is due, before the rest; none at the end of the text. -/
def event (s : Outline) : Due → Except Malformed (Option (Event × Outline))
  | .document isFirst => s.document isFirst
  | .documentContent => s.documentContent.map some
  | .documentEnd => s.documentEnd.map some
  | .node => (node true false s).map some
  | .entry => s.entry.map some
  | .indentlessEntry => s.indentlessEntry.map some
  | .key => s.key.map some
  | .value => s.value.map some
  | .flowEntry isFirst => (flowEntry isFirst s).map some
  | .pairKey => s.pairKey.map some
  | .pairValue => s.pairValue.map some
  | .pairEnd => s.pairEnd.map some
  | .flowKey isFirst => (flowKey isFirst s).map some
  | .flowValue => s.flowValue.map some
  | .flowNoValue => s.flowNoValue.map some

/-- The events from an outline on, at most so many. -/
def events : Nat → Outline → Reading Event
  | 0, _ => .failed ⟨"the text does not end", Mark.start⟩
  | n + 1, s =>
    match s.dues with
    | [] => ⟨[], none⟩
    | due :: dues =>
      match event { s with dues } due with
      | .error e => .failed e
      | .ok none => ⟨[], none⟩
      | .ok (some (e, s)) => (events n s).cons e

end Outline

/-- The events of a text, as its tokens tell them. No token makes more than four of them. -/
def Event.ofTokens (tokens : Reading Token) : Reading Event :=
  let inner := match tokens.items with
    | ⟨.streamStart, _, _⟩ :: rest => rest
    | items => items
  Outline.events (4 * inner.length + 4) ⟨inner, tokens.failure, [.document true], []⟩

end ObjectStream.Yaml
