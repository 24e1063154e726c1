/-
  ObjectStream.Yaml.Reading

  What is read of a text that may turn out to be malformed: the items that came
  before the failure, and the failure.
-/
import ObjectStream.Yaml.Cursor

namespace ObjectStream.Yaml

/-- Items in order, and why no more were found, unless they are all. -/
structure Reading (α : Type) where
  items : List α
  failure : Option Malformed

namespace Reading

/-- Nothing but a failure. -/
def failed {α : Type} (e : Malformed) : Reading α := ⟨[], some e⟩

/-- The items with another one in front. -/
def cons {α : Type} (a : α) (r : Reading α) : Reading α := { r with items := a :: r.items }

end Reading

end ObjectStream.Yaml
