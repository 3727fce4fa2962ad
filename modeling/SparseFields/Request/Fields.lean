import SparseFields.Reduction.Error
import SparseFields.Selection.Parser
import SparseFields.Text.Case

/-!
# The fields parameter of a request

A request may carry a selection only if it reads, and a blank one is the same as none.
-/

namespace SparseFields

/-- Why a request is refused. -/
inductive RequestError
  | methodNotAllowed (method : String)
  | syntaxError (error : SyntaxError)
  | reduceError (error : ReduceError)
deriving DecidableEq, Repr

/-- The report of an error. -/
def RequestError.message : RequestError → String
  | .methodNotAllowed method => "Fields parameter is not allowed for " ++ method ++ " call."
  | .syntaxError error => error.message
  | .reduceError error => error.message

/-- The one method that may carry a selection, in any case. -/
def mayCarryFields (method : String) : Bool :=
  Text.asciiLower method.toList == "get".toList

/-- The selection of a request, if it carries one. -/
def requestedFields (method : String) (raw : Option String) :
    Except RequestError (Option Selection) :=
  match raw.map fun raw => Text.trim raw.toList with
  | none => .ok none
  | some [] => .ok none
  | some trimmed =>
      if mayCarryFields method then
        match Selection.parse (String.ofList trimmed) with
        | .ok s => .ok (some s)
        | .error e => .error (.syntaxError e)
      else .error (.methodNotAllowed method)

end SparseFields
