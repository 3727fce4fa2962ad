import SparseFields.Json.Printer
import SparseFields.Request.Query
import SparseFields.Request.Route
import SparseFields.Schema.Descriptor
import SparseFields.Selection.Printer

/-!
# Responses

The answers of the service: a status, headers and a body.
-/

namespace SparseFields

/-- An answer to a request. -/
structure Response where
  status : Nat
  contentType : Option String
  allow : Option String
  body : String
deriving DecidableEq, Repr

namespace Response

/-- An answer without a body. -/
def empty (status : Nat) : Response :=
  ⟨status, none, none, ""⟩

/-- An answer whose body is a JSON value. -/
def json (status : Nat) (body : Json) : Response :=
  ⟨status, some "application/json", none, body.text⟩

/-- An answer whose body is plain text. -/
def plain (status : Nat) (body : String) : Response :=
  ⟨status, some "text/plain; charset=utf-8", none, body⟩

/-- The answer when nothing has the path. -/
def noRoute : Response :=
  empty 404

/-- The answer to a method that is not served. -/
def wrongMethod : Response :=
  { empty 405 with allow := some "GET,HEAD" }

/-- The answer to a parameter that is no text. -/
def badParam (param : Param) : Response :=
  plain 400 ("Invalid URL: Invalid UTF-8 in `" ++ param.name ++ "`")

/-- The report of an error. -/
def error (status : Nat) (message : String) : Response :=
  json status (.object [("error", .string message)])

/-- The answer to a refused selection. -/
def fieldsError (e : FieldsError) : Response :=
  error e.status e.message

/-- The answer to a failed reduction. -/
def reduceError (e : ReduceError) : Response :=
  error (RequestError.reduceError e).status (RequestError.reduceError e).message

/-- The answer when the store fails. -/
def storeError (e : StoreError) : Response :=
  match e with
  | .unknownEntity _ => error 404 e.message
  | _ => error 500 e.message

/-- The answer when an entity has no record with an id. -/
def notFound (entity id : String) : Response :=
  error 404 (entity ++ " '" ++ id ++ "' not found")

/-- The answer that holds the content asked for. -/
def content (v : Json) : Response :=
  json 200 (.object [("content", v)])

/-- The answer that shows a selection. -/
def preview (selection : Option Selection) : Response :=
  json 200 (.object [("fields", (selection.map Selection.toJson).getD .null),
    ("depth", .int ((selection.map Selection.depth).getD 0))])

/-- The answer that shows a descriptor. -/
def schema (d : Descriptor) : Response :=
  json 200 d.toJson

/-- The answer that all is well at a time. -/
def healthy (time : String) : Response :=
  json 200 (.object [("status", .string "healthy"), ("timestamp", .string time)])

/-- The same answer without its body. -/
def withoutBody (r : Response) : Response :=
  { r with body := "" }

end Response
end SparseFields
