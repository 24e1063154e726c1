/-
  ObjectStream.Yaml.Record

  Records in a document: a mapping with known fields, each given at most once,
  and each a scalar. An alias counts as the node that it stands for.
-/
import ObjectStream.Yaml.Document

namespace ObjectStream.Yaml

/-- Why a well-formed document is not what was expected. -/
inductive Mismatch where
  /-- A node of another kind. -/
  | kind (found expected : String)
  /-- A text that is not what its tag says. -/
  | value (found expected : String)
  | unknownField (name : String) (known : List String)
  | duplicateField (name : String)
deriving DecidableEq, Repr

namespace Mismatch

/-- A name as messages show it. -/
def shown (name : String) : String := "\x60" ++ name ++ "\x60"

/-- What is reported of a mismatch. -/
def message : Mismatch → String
  | kind found expected => "invalid type: " ++ found ++ ", expected " ++ expected
  | value found expected => "invalid value: string " ++ Quoted.encode found ++ ", expected " ++ expected
  | unknownField name known =>
    "unknown field " ++ shown name ++ ", expected one of " ++ ", ".intercalate (known.map shown)
  | duplicateField name => "duplicate field " ++ shown name

/-- The mismatch of a scalar where something else was expected. -/
def ofScalar (s : Scalar) (expected : String) : Mismatch :=
  match s.meaning with
  | .ok m => kind m.describe expected
  | .error wanted => value s.text wanted

end Mismatch

/-- Why a text is not what was expected. -/
inductive Problem where
  | malformed (m : Malformed)
  /-- A mismatch at a place: the field that it is in, if it is in one. -/
  | mismatch (field : Option String) (m : Mismatch) (mark : Mark)
deriving DecidableEq, Repr

namespace Problem

/-- What is reported of a problem. -/
def message : Problem → String
  | malformed m => m.message
  | mismatch none m mark => m.message ++ mark.suffix
  | mismatch (some field) m mark => field ++ ": " ++ m.message ++ mark.suffix

end Problem

/-! ## Nodes -/

/-- How a node differs from what was expected. -/
def Item.mismatch (expected : String) : Item → Mismatch
  | .scalar s => .ofScalar s expected
  | .sequenceStart | .sequenceEnd => .kind "sequence" expected
  | .mappingStart | .mappingEnd | .alias _ => .kind "map" expected
  | .nothing => .kind "unit value" expected

namespace Document

/-- The node at a place, behind its alias. -/
def node (d : Document) (place : Nat) : Except Problem (Item × Mark) :=
  (d.target place).mapError .malformed

/-- The scalar at a place, in a field; `expected` says what for. -/
def scalar (d : Document) (field : Option String) (expected : String) (place : Nat) :
    Except Problem (Scalar × Mark) := do
  let (item, m) ← d.node place
  match item with
  | .scalar s => return (s, m)
  | _ => .error (.mismatch field (item.mismatch expected) m)

end Document

/-! ## Values -/

/-- The value of a field of a record. -/
structure Value where
  document : Document
  place : Nat
  /-- How problems name the field. -/
  label : String
  /-- Where the record starts. -/
  record : Mark

namespace Value

/-- The scalar that a value is. -/
def scalar (v : Value) (expected : String) : Except Problem (Scalar × Mark) :=
  v.document.scalar (some v.label) expected v.place

/-- The text that a value is. Every scalar is one. -/
def text (v : Value) : Except Problem String :=
  (v.scalar "a string").map (·.1.text)

/-- The text that a value is, unless it says that there is none. A tag that wants none and has some is a
problem of the record. -/
def text? (v : Value) : Except Problem (Option String) := do
  let (s, _) ← v.scalar "a string"
  match s.isAbsent with
  | .ok true => return none
  | .ok false => return some s.text
  | .error () => .error (.mismatch none (.value s.text "null") v.record)

/-- The number that a value is: a whole number of 64 bits without a minus. -/
def word64 (v : Value) (expected : String) : Except Problem Nat := do
  let (s, m) ← v.scalar expected
  match s.word64? with
  | some n => return n
  | none => .error (.mismatch (some v.label) (.ofScalar s expected) m)

end Value

/-! ## Records -/

/-- A kind of record, read into a value of some type: the names of its fields, whether one was given
before, and how the value of a field changes what was read so far. -/
structure RecordType (α : Type) where
  name : String
  fields : List String
  isGiven : α → String → Bool
  assign : α → String → Value → Except Problem α

namespace Document

/-- How problems with the value behind a key name the field: by the key, unless that is an alias. -/
def label (d : Document) (place : Nat) : String :=
  match d.items[place]? with
  | some (.scalar s, _) => s.text
  | _ => "?"

/-- The name of a field by the key at a place. Each field is given at most once. -/
def fieldName {α : Type} (d : Document) (type : RecordType α) (start : Mark) (place : Nat) (a : α) :
    Except Problem String := do
  let (key, m) ← d.scalar none "field identifier" place
  if !type.fields.contains key.text then
    .error (.mismatch none (.unknownField key.text type.fields) m)
  else if type.isGiven a key.text then .error (.mismatch none (.duplicateField key.text) start)
  else return key.text

/-- Reads the fields of a record from a place on. -/
def readFields {α : Type} (d : Document) (type : RecordType α) (start : Mark) (place : Nat) (a : α) :
    Except Problem α :=
  match h : d.items[place]? with
  | none => (d.node place).map fun _ => a
  | some (.mappingEnd, _) => .ok a
  | some _ => do
    let name ← d.fieldName type start place a
    let a ← type.assign a name ⟨d, place + 1, d.label place, start⟩
    readFields d type start (place + 2) a
termination_by d.items.size - place
decreasing_by
  have := (Array.getElem?_eq_some_iff.mp h).1
  omega

/-- Reads a record on top of some value. An empty document is a record without fields. -/
def record {α : Type} (d : Document) (type : RecordType α) (a : α) : Except Problem α := do
  let (item, m) ← d.node 0
  let a ← match item with
    | .nothing | .scalar ⟨"", .plain, _⟩ => .ok a
    | .mappingStart => d.readFields type m 1 a
    | _ => .error (.mismatch none (item.mismatch ("struct " ++ type.name)) m)
  match d.failure with
  | some e => .error (.malformed e)
  | none => return a

end Document

end ObjectStream.Yaml
