import SparseFields.Request.Query

/-!
# Routes

What a path asks for.  Paths are compared as they are written, and one more or one fewer `/` makes
another path.  A parameter is one segment; it is decoded only after the path has been recognised.
-/

namespace SparseFields

/-- A thing that can be asked for; parameters are as they are written in the path. -/
inductive Route
  | health
  | fieldsPreview
  | schema (entity : List Char)
  | list (entity : List Char)
  | item (entity id : List Char)
deriving DecidableEq, Repr

/-- What the segments of a path ask for.  The last segment must not be empty. -/
def Route.ofSegments? (segments : List (List Char)) : Option Route :=
  match segments with
  | [first] => if first = "health".toList then some .health else none
  | [first, last] =>
      if first = "fields".toList ∧ last = "parse".toList then some .fieldsPreview
      else if last.isEmpty then none
      else if first = "schema".toList then some (.schema last)
      else if first = "entities".toList then some (.list last)
      else none
  | [first, entity, last] =>
      if first = "entities".toList ∧ !last.isEmpty then some (.item entity last) else none
  | _ => none

/-- What a path asks for. -/
def Route.ofPath? : List Char → Option Route
  | '/' :: rest => Route.ofSegments? (Query.splitAt '/' rest)
  | _ => none

/-- The parameters of paths. -/
inductive Param
  | entity
  | id
deriving DecidableEq, Repr

/-- The name of a parameter. -/
def Param.name : Param → String
  | .entity => "entity"
  | .id => "id"

/-- The text of a parameter, or the parameter itself if its bytes are no text. -/
def Param.decode (param : Param) (written : List Char) : Except Param String :=
  match Text.decodeUtf8? (Text.percentBytes written) with
  | some cs => .ok (String.ofList cs)
  | none => .error param

end SparseFields
