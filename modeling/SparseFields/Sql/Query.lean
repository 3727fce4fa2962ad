import SparseFields.Schema.Descriptor
import SparseFields.Store.Filter

/-!
# SQL queries

The query that fetches the records a filter accepts from the table of an entity, in the order of
their ids.  Only plain identifiers are put into the text; the values of a filter are bound to its
parameters and never become a part of it.
-/

namespace SparseFields
namespace Sql

/-- Whether a name is a plain identifier: ASCII letters, digits and `_`, with no digit in front. -/
def isIdentifier (name : String) : Bool :=
  match name.toList with
  | [] => false
  | first :: rest =>
      (first.isAlpha || first == '_') && rest.all fun c => c.isAlphanum || c == '_'

/-- A descriptor with a name that is no plain identifier. -/
structure InvalidName where
  entity : String
  name : String
deriving DecidableEq, Repr

/-- The report of a name that is no plain identifier. -/
def InvalidName.message (e : InvalidName) : String :=
  "Entity '" ++ e.entity ++ "' uses '" ++ e.name ++ "', which is not a plain SQL identifier"

/-- The names that a descriptor puts into queries. -/
def namesOf (d : Descriptor) : List String :=
  d.tableName :: d.idField :: d.attributes

/-- Checks that every name of a descriptor is a plain identifier, and reports the first that is
not. -/
def validate (d : Descriptor) : Except InvalidName Unit :=
  match (namesOf d).find? fun name => !isIdentifier name with
  | some name => .error ⟨d.name, name⟩
  | none => .ok ()

/-- A name between double quotes. -/
def quoted (name : String) : String :=
  "\"" ++ name ++ "\""

/-- The conditions that columns have the texts bound to the parameters from `index` on. -/
def conditions (index : Nat) : List String → List String
  | [] => []
  | column :: rest =>
      ("t." ++ quoted column ++ "::text = $" ++ toString index) :: conditions (index + 1) rest

/-- The part of a query that names its conditions, if there are any. -/
def whereClause (columns : List String) : String :=
  if columns.isEmpty then "" else " WHERE " ++ " AND ".intercalate (conditions 1 columns)

/-- The query for the records that a filter accepts, or for the first of them.  A column that is no
plain identifier is an error; of several the first one in order is reported. -/
def select (d : Descriptor) (filter : Filter) (firstOnly : Bool) : Except StoreError String :=
  match filter.columns.find? fun column => !isIdentifier column with
  | some column => .error (.query d.name ("invalid column name '" ++ column ++ "'"))
  | none =>
      .ok ("SELECT row_to_json(t)::text AS row_json FROM " ++ quoted d.tableName ++ " t" ++
        whereClause filter.columns ++ " ORDER BY t." ++ quoted d.idField ++
        if firstOnly then " LIMIT 1" else "")

/-- The texts bound to the parameters of the query for a filter, in order. -/
def parameters (filter : Filter) : List (Option String) :=
  filter.conditions.map fun condition => textForm condition.2

end Sql
end SparseFields
