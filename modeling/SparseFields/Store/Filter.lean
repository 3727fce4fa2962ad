import SparseFields.Store.Instance

/-!
# Filters

A filter asks that some columns of a record hold given values.  Values are compared by their text,
so that the text `3` in a path finds the number 3, and `null` matches nothing, not even itself.
-/

namespace SparseFields

/-- The text by which a value is compared; `null` has none. -/
def textForm : Json → Option String
  | .null => none
  | .string s => some s
  | other => some other.text

/-- The values asked for, by column. -/
structure Filter where
  conditions : SortedMap Json

namespace Filter

/-- The filter that asks for nothing. -/
def empty : Filter := ⟨[]⟩

/-- Asks for a value in a column, and no longer for another one in it. -/
def insert (f : Filter) (column : String) (value : Json) : Filter :=
  ⟨f.conditions.insert column value⟩

/-- The filter with one condition. -/
def single (column : String) (value : Json) : Filter :=
  empty.insert column value

/-- The columns, in order. -/
def columns (f : Filter) : List String :=
  f.conditions.map (·.1)

/-- Whether a filter asks for nothing. -/
def isEmpty (f : Filter) : Bool :=
  f.conditions.isEmpty

/-- Whether a stored value, if there is one, meets a condition. -/
def meets (actual : Option Json) (expected : Json) : Bool :=
  match actual.bind textForm, textForm expected with
  | some a, some b => a == b
  | _, _ => false

/-- Whether a record meets every condition. -/
def accepts (f : Filter) (x : Instance) : Bool :=
  f.conditions.all fun (column, expected) => meets (x.get? column) expected

/-- Equality of filters, by the values of their conditions. -/
def same (f g : Filter) : Bool :=
  Json.sameMembers f.conditions g.conditions

/-- The JSON form of a filter. -/
def toJson (f : Filter) : Json :=
  .object f.conditions

end Filter
end SparseFields
