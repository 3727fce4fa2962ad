import SparseFields.Store.Error

/-!
# Errors of a reduction

Why a selection cannot be answered, and where in a collection this came up.
-/

namespace SparseFields

/-- Why the records found do not fit the shape that is asked for. -/
inductive ShapeConflict
  /-- A selection under an entity nests beyond the limit. -/
  | tooDeep (entity : String) (limit : Nat)
  /-- Two selected fields of an entity are written under one key. -/
  | outputTaken (entity key : String)
  /-- A source answered with a record of another entity. -/
  | wrongEntity (found expected : String)
  /-- A conflict reported in words. -/
  | reported (text : String)
deriving DecidableEq, Repr

/-- What is in conflict. -/
def ShapeConflict.description : ShapeConflict → String
  | .tooDeep entity limit =>
      "selection under " ++ entity ++ " nests deeper than " ++ toString limit ++ " levels"
  | .outputTaken entity key =>
      entity ++ " output field '" ++ key ++ "' is written by two selected fields"
  | .wrongEntity found expected => "store returned a " ++ found ++ " row for " ++ expected
  | .reported text => text

/-- Why a selection cannot be answered. -/
inductive ReduceError
  | unknownField (entity field : String)
  | fetchFailed (cause : StoreError)
  | shapeConflict (conflict : ShapeConflict)
  | atIndex (index : Nat) (source : ReduceError)
deriving DecidableEq, Repr

namespace ReduceError

/-- The report of an error. -/
def message : ReduceError → String
  | .unknownField entity field => entity ++ " doesn't have " ++ field
  | .fetchFailed cause => "fetching related entities failed: " ++ cause.message
  | .shapeConflict conflict => "response shape conflict: " ++ conflict.description
  | .atIndex index source => "element " ++ toString index ++ ": " ++ source.message

/-- The error itself, without the places in collections around it. -/
def rootCause : ReduceError → ReduceError
  | .atIndex _ source => source.rootCause
  | other => other

/-- The place in the outermost collection, if there is one. -/
def failingIndex : ReduceError → Option Nat
  | .atIndex index _ => some index
  | _ => none

end ReduceError
end SparseFields
