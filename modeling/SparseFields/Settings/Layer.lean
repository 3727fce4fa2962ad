import SparseFields.Json.Basic
import SparseFields.Settings.Path
import SparseFields.Text.Case

/-!
# Layers of settings

Settings are gathered from layers, each of which is laid over those before it.  A table is merged
key by key into the table below it; any other value replaces what is below.
-/

namespace SparseFields
namespace Layer

/-- The entries of a table; any other value has none. -/
def entries : Json → SortedMap Json
  | .object members => members
  | _ => []

/-- The items of a list; any other value has none. -/
def items : Json → List Json
  | .array items => items
  | _ => []

mutual

/-- Lays a value over another one. -/
def merge : Json → Json → Json
  | .object members, below => mergeMembers members below
  | value, _ => value

/-- Lays the entries of a table one after another over a value, which becomes a table if there is
an entry. -/
def mergeMembers : List (String × Json) → Json → Json
  | [], below => below
  | (key, value) :: rest, below =>
      let table := entries below
      let under := ((SortedMap.find? key table).getD (.object []))
      mergeMembers rest (.object (SortedMap.insert key (merge value under) table))

end

/-- The place in a list of a given length to which an index leads. -/
def place (i : Int) (length : Nat) : Nat :=
  if 0 ≤ i then i.toNat else length - i.natAbs

/-- Fills a list with `null` until it has a place, and puts a value there. -/
def setItem (place : Nat) (value : Json) (items : List Json) : List Json :=
  (items ++ List.replicate (place + 1 - items.length) Json.null).set place value

/-- Puts a value where a path leads, making the tables and lists on the way. -/
def set (value : Json) : List PathStep → Json → Json
  | [], _ => value
  | [.key name], below => mergeMembers [(name, value)] below
  | .key name :: rest, below =>
      let table := entries below
      let under := (SortedMap.find? name table).getD .null
      .object (SortedMap.insert name (set value rest under) table)
  | .index i :: rest, below =>
      let list := items below
      let target := place i list.length
      .array (setItem target (set value rest (list[target]?.getD .null)) list)

/-- Lays a layer over the settings so far.  Its keys are paths. -/
def apply (below : Json) (layer : SortedMap Json) : Json :=
  layer.foldl (fun below entry => set entry.2 (pathOf entry.1) below) below

/-- A key in lower case. -/
def lowerKey (key : String) : String :=
  String.ofList (Text.lower key.toList)

/-- An integer that does not fit 64 bits with a sign counts as a double. -/
def narrow : Number → Number
  | .int i =>
      if i ≤ maxSigned 64 then .int i
      else ((Double.ofRatio? false i.natAbs 1).map .double).getD (.int i)
  | .double d => .double d

mutual

/-- A value as it stands in a layer: keys are in lower case, and integers narrow. -/
def ofJson : Json → Json
  | .number n => .number (narrow n)
  | .array items => .array (ofItems items)
  | .object members => .object (SortedMap.ofList (ofMembers members))
  | other => other

/-- Items as they stand in a layer. -/
def ofItems : List Json → List Json
  | [] => []
  | item :: rest => ofJson item :: ofItems rest

/-- Members as they stand in a layer. -/
def ofMembers : List (String × Json) → List (String × Json)
  | [] => []
  | (key, value) :: rest => (lowerKey key, ofJson value) :: ofMembers rest

end

/-- What the names of variables that set something start with, in lower case. -/
def variableStart : List Char :=
  "partial_".toList

/-- A name in which each `__` is a `.`. -/
def dotted : List Char → List Char
  | '_' :: '_' :: cs => '.' :: dotted cs
  | c :: cs => c :: dotted cs
  | [] => []

/-- The path of what a variable sets, if it sets something. -/
def variablePath? (name : String) : Option String :=
  let lower := Text.lower name.toList
  if variableStart.isPrefixOf lower then
    some (String.ofList (dotted (lower.drop variableStart.length)))
  else none

/-- The layer of the environment's variables. -/
def ofEnvironment (environment : List (String × String)) : SortedMap Json :=
  SortedMap.ofList (environment.filterMap fun (name, value) =>
    (variablePath? name).map fun path => (path, .string value))

end Layer
end SparseFields
