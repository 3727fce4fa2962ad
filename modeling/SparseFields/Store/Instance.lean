import SparseFields.Json.Printer
import SparseFields.Store.Error

/-!
# Instances

One record of an entity: an object of values, labelled with the entity's name.
-/

namespace SparseFields

/-- A record of an entity. -/
structure Instance where
  entity : String
  values : List (String × Json)

namespace Instance

/-- The value of a field, if the record holds one. -/
def get? (x : Instance) (field : String) : Option Json :=
  SortedMap.find? field x.values

/-- The record as an object. -/
def toJson (x : Instance) : Json :=
  .object x.values

/-- The record of an entity that an object is. -/
def ofJson (entity : String) : Json → Except StoreError Instance
  | .object values => .ok ⟨entity, values⟩
  | other => .error (.decode entity ("expected a JSON object, got " ++ other.text))

/-- The same record under another name. -/
def relabel (x : Instance) (entity : String) : Instance :=
  { x with entity }

end Instance
end SparseFields
