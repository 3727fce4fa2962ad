/-!
# Errors of stores

Why a store cannot answer, and how it is reported.
-/

namespace SparseFields

/-- Why a store cannot answer. -/
inductive StoreError
  | unknownEntity (entity : String)
  | query (entity reason : String)
  | decode (entity reason : String)
deriving DecidableEq, Repr

/-- The report of an error. -/
def StoreError.message : StoreError → String
  | .unknownEntity entity => "unknown entity '" ++ entity ++ "'"
  | .query entity reason => "query on '" ++ entity ++ "' failed: " ++ reason
  | .decode entity reason => "could not decode '" ++ entity ++ "' row: " ++ reason

end SparseFields
