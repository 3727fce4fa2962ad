import SparseFields.Request.Fields
import SparseFields.Text.Percent

/-!
# Query strings

The target of a request is a path and a query.  A query is a list of pairs separated by `&`; in
names and values `+` stands for a blank and percent-encoding for bytes, and what is not UTF-8 is
replaced.  The pair named `fields` carries the selection and must not be repeated.
-/

namespace SparseFields

/-- A path and a query, as they are written. -/
structure Target where
  path : List Char
  query : List Char
deriving DecidableEq, Repr

namespace Target

/-- The characters of a scheme. -/
def isSchemeChar (c : Char) : Bool :=
  c.isAlphanum || c == '+' || c == '-' || c == '.'

/-- What follows a scheme, which may be empty, if the text begins with one. -/
def afterScheme? (cs : List Char) : Option (List Char) :=
  match cs.dropWhile isSchemeChar with
  | ':' :: '/' :: '/' :: rest => some rest
  | _ => none

/-- The path and query of a text: the query follows the first `?`. -/
def ofPathAndQuery (cs : List Char) : Target :=
  ⟨cs.takeWhile (· != '?'), (cs.dropWhile (· != '?')).drop 1⟩

/-- The target of what follows a scheme: the authority is dropped, and without a path there is the
root. -/
def ofAuthority (cs : List Char) : Target :=
  let target := ofPathAndQuery (cs.dropWhile fun c => c != '/' && c != '?')
  if target.path.isEmpty then { target with path := ['/'] } else target

/-- Splits a written target, of which a fragment is dropped.  A target may be absolute, with a
scheme and an authority in front. -/
def ofText (text : String) : Target :=
  let cs := text.toList.takeWhile (· != '#')
  match afterScheme? cs with
  | some rest => ofAuthority rest
  | none => ofPathAndQuery cs

end Target

namespace Query

/-- The pieces between separators. -/
def splitAt (separator : Char) : List Char → List (List Char)
  | [] => [[]]
  | c :: cs =>
      if c = separator then [] :: splitAt separator cs
      else
        match splitAt separator cs with
        | [] => [[c]]
        | first :: others => (c :: first) :: others

/-- The text of a written name or value. -/
def decode (cs : List Char) : List Char :=
  Text.decodeUtf8Lossy (Text.percentBytes (cs.map fun c => if c = '+' then ' ' else c))

/-- The name and value of a piece: they are separated by the first `=`, without which the value is
empty. -/
def pair (piece : List Char) : String × String :=
  (String.ofList (decode (piece.takeWhile (· != '='))),
    String.ofList (decode ((piece.dropWhile (· != '=')).drop 1)))

/-- The pairs of a query; empty pieces are passed over. -/
def pairs (query : List Char) : List (String × String) :=
  ((splitAt '&' query).filter fun piece => !piece.isEmpty).map pair

end Query

/-- The name of the pair that carries a selection. -/
def fieldsKey : String := "fields"

/-- Why the selection of a request is refused. -/
inductive FieldsError
  | repeated
  | refused (error : RequestError)
deriving DecidableEq, Repr

/-- The report of an error. -/
def FieldsError.message : FieldsError → String
  | .repeated =>
      "Invalid query string: Failed to deserialize query string: duplicate field `fields`"
  | .refused error => error.message

/-- The status with which a refused request is answered. -/
def RequestError.status : RequestError → Nat
  | .methodNotAllowed _ => 405
  | .syntaxError _ => 400
  | .reduceError _ => 400

/-- The status with which a refused selection is answered. -/
def FieldsError.status : FieldsError → Nat
  | .repeated => 400
  | .refused error => error.status

/-- The values that a query gives for the selection. -/
def fieldsValues (query : List Char) : List String :=
  ((Query.pairs query).filter fun entry => entry.1 == fieldsKey).map (·.2)

/-- The selection in the query of a request, if it carries one. -/
def queriedFields (method : String) (query : List Char) :
    Except FieldsError (Option Selection) :=
  match fieldsValues query with
  | _ :: _ :: _ => .error .repeated
  | values =>
      match requestedFields method values.head? with
      | .ok selection => .ok selection
      | .error e => .error (.refused e)

end SparseFields
