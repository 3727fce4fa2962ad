import SparseFields.Number.Basic
import SparseFields.SortedMap

/-!
# JSON values

Values of the data format.  Wherever the library builds an object it keeps the members in key
order, so that an object is a map and its members are listed in one way only.
-/

namespace SparseFields

/-- A JSON value. -/
inductive Json
  | null
  | bool (value : Bool)
  | number (value : Number)
  | string (value : String)
  | array (items : List Json)
  | object (members : List (String × Json))
deriving Inhabited

namespace Json

/-- An integer value. -/
def int (i : Int) : Json :=
  .number (.int i)

/-- The object with the given members; the last one wins under a repeated key. -/
def ofMembers (members : List (String × Json)) : Json :=
  .object (SortedMap.ofList members)

/-- A member of an object. -/
def member? (key : String) : Json → Option Json
  | .object members => SortedMap.find? key members
  | _ => none

mutual

/-- Equality of values: objects member by member, numbers by value within their kind. -/
def sameValue : Json → Json → Bool
  | .null, .null => true
  | .bool a, .bool b => a == b
  | .number a, .number b => a.sameValue b
  | .string a, .string b => a == b
  | .array as, .array bs => sameItems as bs
  | .object as, .object bs => sameMembers as bs
  | _, _ => false

/-- Equality of lists of values. -/
def sameItems : List Json → List Json → Bool
  | [], [] => true
  | a :: as, b :: bs => a.sameValue b && sameItems as bs
  | _, _ => false

/-- Equality of maps of values. -/
def sameMembers : List (String × Json) → List (String × Json) → Bool
  | [], [] => true
  | (key, a) :: as, (key', b) :: bs => key == key' && a.sameValue b && sameMembers as bs
  | _, _ => false

end

end Json
end SparseFields
