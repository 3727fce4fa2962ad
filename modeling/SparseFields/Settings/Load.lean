import SparseFields.Json.Draft
import SparseFields.Settings.Reader

/-!
# Loading settings

Settings come from three layers: the defaults, a file, and the variables of the environment.
-/

namespace SparseFields
namespace Settings

/-- The deepest nesting of lists and tables in a file. -/
def maxFileNesting : Nat := 127

/-- The layer in the text of a file, which must be an object. -/
def fileLayer? (text : String) : Option (SortedMap Json) :=
  match Json.Draft.ofText text with
  | (draft, []) =>
      if draft.nesting ≤ maxFileNesting then
        match draft.toJson?.map Layer.ofJson with
        | some (.object members) => some members
        | _ => none
      else none
  | _ => none

/-- The gathered layers: the defaults, the file if there is one, and the environment. -/
def gathered (file : SortedMap Json) (environment : List (String × String)) : Json :=
  [Layer.entries (Layer.ofJson default.toJson), file, Layer.ofEnvironment environment].foldl
    Layer.apply (.object [])

/-- Loads the settings, if all that is set can be read. -/
def load? (file : Option String) (environment : List (String × String)) : Option Settings :=
  match file with
  | none => ofJson? (gathered [] environment)
  | some text => (fileLayer? text).bind fun layer => ofJson? (gathered layer environment)

end Settings
end SparseFields
