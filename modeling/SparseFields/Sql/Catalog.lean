import SparseFields.Schema.Reader
import SparseFields.Sql.Query

/-!
# Catalogs of database entities

A catalog holds the descriptors of the entities in a database.  It knows what can be decided about a
query before the query is sent.
-/

namespace SparseFields

/-- Why a schema cannot be loaded. -/
inductive SchemaError
  | unavailable
  | unreadable (fault : Schema.Fault)
deriving DecidableEq, Repr

/-- Loads the descriptors in the text of a schema file, if there is such a file. -/
def Schema.load (text : Option String) : Except SchemaError (List Descriptor) :=
  match text with
  | none => .error .unavailable
  | some text =>
      match Schema.readText text with
      | .ok descriptors => .ok descriptors
      | .error fault => .error (.unreadable fault)

namespace Sql

/-- The descriptors of the entities in a database, by name. -/
structure Catalog where
  descriptors : SortedMap Descriptor

namespace Catalog

/-- The catalog of some entities; a later one replaces an earlier one of the same name. -/
def ofList (descriptors : List Descriptor) : Catalog :=
  ⟨SortedMap.ofList (descriptors.map fun d => (d.name, d))⟩

/-- The descriptor of an entity. -/
def describe (catalog : Catalog) (entity : String) : Except StoreError Descriptor :=
  match catalog.descriptors.find? entity with
  | some d => .ok d
  | none => .error (.unknownEntity entity)

/-- The query for the records of an entity that a filter accepts, with what is bound to its
parameters. -/
def query (catalog : Catalog) (entity : String) (filter : Filter) (firstOnly : Bool) :
    Except StoreError (String × List (Option String)) := do
  let d ← catalog.describe entity
  let text ← select d filter firstOnly
  return (text, parameters filter)

end Catalog
end Sql
end SparseFields
