import SparseFields.Json.Printer
import SparseFields.Selection.Basic

/-!
# Writing selections

The fields syntax of a selection has its fields in order, separated by `,`, and a picked part in
parentheses after its field.  Its JSON form is an object whose members have that same order: `true`
for a field taken whole, and an object for a part.
-/

namespace SparseFields
namespace Selection

/-- The characters of the fields syntax; `separated` says whether a field stands before. -/
def writeFrom (separated : Bool) : Selection → List Char
  | .nil => []
  | .whole field rest =>
      (if separated then [','] else []) ++ field.toList ++ writeFrom true rest
  | .part field sub rest =>
      (if separated then [','] else []) ++ field.toList ++ '(' :: writeFrom false sub ++ ')' ::
        writeFrom true rest

/-- The fields syntax of a selection. -/
def write (s : Selection) : String :=
  String.ofList (writeFrom false s)

/-- The members of the JSON form, in the order of the selection. -/
def toMembers : Selection → List (String × Json)
  | .nil => []
  | .whole field rest => (field, .bool true) :: rest.toMembers
  | .part field sub rest => (field, .object sub.toMembers) :: rest.toMembers

/-- The JSON form of a selection. -/
def toJson (s : Selection) : Json :=
  .object s.toMembers

/-- The JSON form of a pick. -/
def Pick.toJson : Pick → Json
  | .whole => .bool true
  | .part sub => sub.toJson

end Selection
end SparseFields
