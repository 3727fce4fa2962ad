import SparseFields.Schema.Descriptor
import SparseFields.Store.Filter

/-!
# Sources of records

A source answers questions about records.  It is a function of the question, so asking again gives
the same answer.
-/

namespace SparseFields

/-- What can be asked of a source. -/
structure Source where
  /-- The descriptor of an entity. -/
  describe : String → Except StoreError Descriptor
  /-- All records of an entity that a filter accepts. -/
  findMany : String → Filter → Except StoreError (List Instance)
  /-- The first record of an entity that a filter accepts. -/
  findOne : String → Filter → Except StoreError (Option Instance)

/-- One question to a source. -/
inductive Call
  | describe (entity : String)
  | findMany (entity : String) (filter : Filter)
  | findOne (entity : String) (filter : Filter)

/-- The same source, but with every single record under another name. -/
def Source.relabelled (source : Source) (entity : String) : Source :=
  { source with
    findOne := fun e f => (source.findOne e f).map fun found => found.map (·.relabel entity) }

end SparseFields
