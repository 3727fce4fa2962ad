import SparseFields.Json.Basic
import SparseFields.Json.Token

/-!
# Drafts of JSON values

A draft is what a text says about a value as far as it can be read.  Members keep the order and the
repetitions of the text, and where the text is malformed or ends too early the draft holds `broken`
as its last part.  A reader that knows which value it wants can thus report whichever fault comes
first: a value of the wrong kind, or the end of what can be read.
-/

namespace SparseFields
namespace Json

/-- What a text says about a value.  A number beyond the largest double has no value, a key or
string with half of a surrogate pair no content, and the key of a `broken` member may be missing. -/
inductive Draft
  | null
  | bool (value : Bool)
  | number (value : Option Number)
  | string (content : Option String)
  | array (items : List Draft)
  | object (members : List (Option String × Draft))
  | broken
deriving Inhabited

namespace Draft

/-- A container around the value being read: the items or members before it, the last one first. -/
inductive Frame
  | items (done : List Draft)
  | member (done : List (Option String × Draft)) (key : Option String)

/-- What is due next, with what the innermost container holds so far, the last part first. -/
inductive State
  | value
  | firstItem
  | afterItem (done : List Draft)
  | firstKey
  | nextKey (done : List (Option String × Draft))
  | colon (done : List (Option String × Draft)) (key : Option String)
  | afterMember (done : List (Option String × Draft))

/-- What one token leads to. -/
inductive Step
  | finished (value : Draft)
  | next (state : State) (outer : List Frame)
  | fault

/-- A complete value goes to the container around it. -/
def deliver (value : Draft) : List Frame → Step
  | [] => .finished value
  | .items done :: outer => .next (.afterItem (value :: done)) outer
  | .member done key :: outer => .next (.afterMember ((key, value) :: done)) outer

/-- The effect of a token where a value is due. -/
def stepValue (outer : List Frame) : Token → Step
  | .null => deliver .null outer
  | .bool b => deliver (.bool b) outer
  | .number l => deliver (.number l.value?) outer
  | .string s => deliver (.string s) outer
  | .openArray => .next .firstItem outer
  | .openObject => .next .firstKey outer
  | _ => .fault

/-- The effect of a token. -/
def step (outer : List Frame) : State → Token → Step
  | .value, token => stepValue outer token
  | .firstItem, .closeArray => deliver (.array []) outer
  | .firstItem, token => stepValue (.items [] :: outer) token
  | .afterItem done, .closeArray => deliver (.array done.reverse) outer
  | .afterItem done, .comma => .next .value (.items done :: outer)
  | .firstKey, .closeObject => deliver (.object []) outer
  | .firstKey, .string key => .next (.colon [] key) outer
  | .nextKey done, .string key => .next (.colon done key) outer
  | .colon done key, .colon => .next .value (.member done key :: outer)
  | .afterMember done, .closeObject => deliver (.object done.reverse) outer
  | .afterMember done, .comma => .next (.nextKey done) outer
  | _, _ => .fault

/-- The innermost container where reading stops. -/
def State.abandon : State → Draft
  | .value => .broken
  | .firstItem => .array [.broken]
  | .afterItem done => .array (.broken :: done).reverse
  | .firstKey => .object [(none, .broken)]
  | .nextKey done => .object ((none, .broken) :: done).reverse
  | .colon done key => .object ((key, .broken) :: done).reverse
  | .afterMember done => .object ((none, .broken) :: done).reverse

/-- The draft when reading stops inside containers. -/
def abandon (value : Draft) : List Frame → Draft
  | [] => value
  | .items done :: outer => abandon (.array (value :: done).reverse) outer
  | .member done key :: outer => abandon (.object ((key, value) :: done).reverse) outer

/-- Reads a draft, and what follows it. -/
def read (state : State) (outer : List Frame) : List Token → Draft × List Token
  | [] => (abandon state.abandon outer, [])
  | token :: rest =>
      match step outer state token with
      | .finished value => (value, rest)
      | .next state outer => read state outer rest
      | .fault => (abandon state.abandon outer, token :: rest)

/-- The draft at the front of a text, and the tokens after it. -/
def ofText (text : String) : Draft × List Token :=
  read .value [] (Token.readAll text.toList)

mutual

/-- Whether a draft is readable to its end, whatever its strings and numbers hold. -/
def intact : Draft → Bool
  | .array items => intactItems items
  | .object members => intactMembers members
  | .broken => false
  | _ => true

/-- Whether all items are readable. -/
def intactItems : List Draft → Bool
  | [] => true
  | item :: rest => item.intact && intactItems rest

/-- Whether all members are readable. -/
def intactMembers : List (Option String × Draft) → Bool
  | [] => true
  | (_, value) :: rest => value.intact && intactMembers rest

end

mutual

/-- The number of containers around the innermost value. -/
def nesting : Draft → Nat
  | .array items => 1 + nestingItems items
  | .object members => 1 + nestingMembers members
  | _ => 0

/-- The deepest nesting among items. -/
def nestingItems : List Draft → Nat
  | [] => 0
  | item :: rest => max item.nesting (nestingItems rest)

/-- The deepest nesting among members. -/
def nestingMembers : List (Option String × Draft) → Nat
  | [] => 0
  | (_, value) :: rest => max value.nesting (nestingMembers rest)

end

mutual

/-- The value of a draft that is readable to its end and whose strings and numbers have a value.
The last member wins under a repeated key. -/
def toJson? : Draft → Option Json
  | .null => some .null
  | .bool b => some (.bool b)
  | .number n => n.map .number
  | .string s => s.map .string
  | .array items => (toItems? items).map .array
  | .object members => (toMembers? members).map .ofMembers
  | .broken => none

/-- The values of items. -/
def toItems? : List Draft → Option (List Json)
  | [] => some []
  | item :: rest => do
      let value ← item.toJson?
      let values ← toItems? rest
      return value :: values

/-- The values of members. -/
def toMembers? : List (Option String × Draft) → Option (List (String × Json))
  | [] => some []
  | (key, value) :: rest => do
      let key ← key
      let value ← value.toJson?
      let members ← toMembers? rest
      return (key, value) :: members

end

mutual

/-- The draft that says all about a value. -/
def ofJson : Json → Draft
  | .null => .null
  | .bool b => .bool b
  | .number n => .number (some n)
  | .string s => .string (some s)
  | .array items => .array (ofItems items)
  | .object members => .object (ofMembers members)

/-- The drafts of items. -/
def ofItems : List Json → List Draft
  | [] => []
  | item :: rest => ofJson item :: ofItems rest

/-- The drafts of members. -/
def ofMembers : List (String × Json) → List (Option String × Draft)
  | [] => []
  | (key, value) :: rest => (some key, ofJson value) :: ofMembers rest

end

end Draft

/-- The value that a text is, blanks around it apart. -/
def parse? (text : String) : Option Json :=
  match Draft.ofText text with
  | (draft, []) => draft.toJson?
  | _ => none

end Json
end SparseFields
