/-
  ObjectStream.Yaml.Document

  The document of a YAML text: its nodes as they start and end, with aliases
  resolved by number. A text holds one document, and an empty text an empty one.
-/
import ObjectStream.Yaml.Event
import ObjectStream.Yaml.Scalar
import ObjectStream.Yaml.Token.Lexer

namespace ObjectStream.Yaml

/-- What starts or ends at a place of a document. -/
inductive Item where
  | scalar (s : Scalar)
  | sequenceStart
  | sequenceEnd
  | mappingStart
  | mappingEnd
  /-- The node with a number. -/
  | alias (number : Nat)
  /-- A document without any node. -/
  | nothing
deriving DecidableEq, Repr

/-- A document, as far as it is well formed. -/
structure Document where
  /-- The items in order, each with where it starts. -/
  items : Array (Item × Mark)
  /-- The items that numbers stand for; the first pair with a number counts. -/
  anchors : List (Nat × Nat)
  /-- Why the document does not go on. -/
  failure : Option Malformed

namespace Document

/-- A document while its items come in. -/
structure Builder where
  items : Array (Item × Mark) := #[]
  anchors : List (Nat × Nat) := []
  /-- The numbers of the names of anchors; the first pair with a name counts. -/
  numbers : List (String × Nat) := []
  /-- How many different names those are. -/
  nameCount : Nat := 0

namespace Builder

/-- With an item. -/
def push (b : Builder) (item : Item) (m : Mark) : Builder :=
  { b with items := b.items.push (item, m) }

/-- With the anchor of the next item. Its number is the count of names before it; a name that comes
again makes no name of its own, so that the next name takes the same number. -/
def addAnchor (b : Builder) : Option String → Builder
  | none => b
  | some name =>
    let isNew := (b.numbers.lookup name).isNone
    { b with
      anchors := (b.nameCount, b.items.size) :: b.anchors
      numbers := (name, b.nameCount) :: b.numbers
      nameCount := if isNew then b.nameCount + 1 else b.nameCount }

/-- The document with a failure or none. -/
def build (b : Builder) (failure : Option Malformed) : Document := ⟨b.items, b.anchors, failure⟩

end Builder

/-- The failure of a text with more than one document. -/
def moreThanOne (m : Mark) : Malformed :=
  ⟨"deserializing from YAML containing more than one document is not supported", m⟩

/-- The failure behind the end of the first document: another one, or anything that is malformed. -/
def failureBehind (rest : Reading Event) : Option Malformed :=
  match rest.items with
  | e :: _ => some (moreThanOne e.mark)
  | [] => rest.failure

/-- Adds the events of a document up to its end. -/
def build (failure : Option Malformed) (b : Builder) : List Event → Document
  | [] => b.build failure
  | ⟨kind, m⟩ :: rest =>
    match kind with
    | .documentStart => build failure b rest
    | .documentEnd => b.build (failureBehind ⟨rest, failure⟩)
    | .alias name =>
      match b.numbers.lookup name with
      | some number => build failure (b.push (.alias number) m) rest
      | none => b.build (some ⟨"unknown anchor", m⟩)
    | .scalar p text style =>
      build failure ((b.addAnchor p.anchor).push (.scalar ⟨text, style, p.tag⟩) m) rest
    | .sequenceStart p => build failure ((b.addAnchor p.anchor).push .sequenceStart m) rest
    | .mappingStart p => build failure ((b.addAnchor p.anchor).push .mappingStart m) rest
    | .sequenceEnd => build failure (b.push .sequenceEnd m) rest
    | .mappingEnd => build failure (b.push .mappingEnd m) rest

/-- The document of the events of a text. -/
def ofEvents (events : Reading Event) : Document :=
  match events.items, events.failure with
  | [], none => ⟨#[(.nothing, Mark.start)], [], none⟩
  | items, failure => build failure {} items

/-- The document of a text. -/
def ofText (text : String) : Document := ofEvents (Event.ofTokens (Token.ofText text))

/-- The item at a place, with where it starts; a place behind the last item has the failure. -/
def item (d : Document) (place : Nat) : Except Malformed (Item × Mark) :=
  match d.items[place]? with
  | some item => .ok item
  | none => .error (d.failure.getD ⟨"the text ends too early", Mark.start⟩)

/-- The item at a place, behind its alias if it is one. -/
def target (d : Document) (place : Nat) : Except Malformed (Item × Mark) := do
  let (item, m) ← d.item place
  match item with
  | .alias number => d.item ((d.anchors.lookup number).getD place)
  | _ => return (item, m)

end Document

end ObjectStream.Yaml
