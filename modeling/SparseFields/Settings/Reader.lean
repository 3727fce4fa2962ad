import SparseFields.Settings.Basic
import SparseFields.Settings.Layer

/-!
# Reading settings

Settings are read leniently from the gathered layers: a text can give a number or a truth value, and
a number a text.  A group of settings is a table, or a list that gives them in order; other entries
of the table and further items of the list are passed over.
-/

namespace SparseFields
namespace Settings

/-- A text in lower case. -/
def lower (s : String) : String :=
  String.ofList (Text.lower s.toList)

/-- Doubles in texts have no exponent, and no fraction if they are whole.  A tie goes up. -/
def plainLayout : Double.Layout :=
  { tie := .up
    positional := fun _ => true
    wholeEnding := "" }

/-- Reads a text. -/
def readText? : Json → Option String
  | .string s => some s
  | .bool b => some (if b then "true" else "false")
  | .number (.int i) => some (Number.intText i)
  | .number (.double d) => some (d.text plainLayout)
  | _ => none

/-- The truth value that a word names, if it is one of the words in use. -/
def truthOf? (word : String) : Option Bool :=
  if word ∈ ["true", "on", "yes"] then some true
  else if word ∈ ["false", "off", "no"] then some false
  else none

/-- Reads a truth value. -/
def readBool? : Json → Option Bool
  | .bool b => some b
  | .number (.int i) => some (i != 0)
  | .number (.double d) => some (!d.isZero)
  | .string s =>
      let word := lower s
      if word = "1" then some true else if word = "0" then some false else truthOf? word
  | _ => none

/-- The largest number that is read before its own range is looked at. -/
def maxNatural : Nat := maxUnsigned 64

/-- Reads decimal digits, after an optional plus sign. -/
def readDigits? (s : String) : Option Nat :=
  let value? := match s.toList with
    | '+' :: ds => Digits.toNat? ds
    | ds => Digits.toNat? ds
  value?.bind fun n => if n ≤ maxNatural then some n else none

/-- Reads a number.  A double is rounded, a half going up, and one beyond the range of numbers is
moved to the nearer end; an integer must be in the range. -/
def readNatural? : Json → Option Nat
  | .number (.int i) => if 0 ≤ i then some i.toNat else none
  | .number (.double d) => some (if d.negative then 0 else min d.roundHalfUp maxNatural)
  | .bool b => some (if b then 1 else 0)
  | .string s =>
      match truthOf? (lower s) with
      | some b => some (if b then 1 else 0)
      | none => readDigits? s
  | _ => none

/-- Reads a number that is at most `limit`. -/
def readWithin? (limit : Nat) (v : Json) : Option Nat :=
  (readNatural? v).bind fun n => if n ≤ limit then some n else none

/-- The kind of store that a name in any case names. -/
def storeOf? (name : String) : Option StoreKind :=
  if lower name = StoreKind.memory.name then some .memory
  else if lower name = StoreKind.postgres.name then some .postgres
  else none

/-- Reads a kind of store: its name, or a table with that one key. -/
def readStore? : Json → Option StoreKind
  | .string s => storeOf? s
  | .object [(key, _)] => storeOf? key
  | _ => none

/-- The values of a group of settings with the given names. -/
def group? (names : List String) : Json → Option (List (Option Json))
  | .object members => some (names.map fun name => SortedMap.find? name members)
  | .array items =>
      if items.length < names.length then none else some ((items.take names.length).map some)
  | _ => none

/-- Reads a value that may be missing or `null`. -/
def optional? {α : Type} (read : Json → Option α) : Option Json → Option (Option α)
  | none => some none
  | some .null => some none
  | some v => (read v).map some

/-- Reads where the service listens. -/
def readServer? (v : Json) : Option ServerSettings :=
  match group? ["host", "port"] v with
  | some [host, portNumber] => do
      return ⟨← host >>= readText?, ← portNumber >>= readWithin? (maxUnsigned 16)⟩
  | _ => none

/-- Reads how a database is reached. -/
def readDatabase? (v : Json) : Option DatabaseSettings :=
  match group? ["connection_string", "max_connections", "schema_path"] v with
  | some [connectionString, maxConnections, schemaPath] => do
      return ⟨← optional? readText? connectionString,
        ← optional? (readWithin? (maxUnsigned 32)) maxConnections, ← optional? readText? schemaPath⟩
  | _ => none

/-- Reads how selections are answered. -/
def readFields? (v : Json) : Option ReduceOptions :=
  match group? ["empty_on_fetch_failure", "max_depth"] v with
  | some [empty, maxDepth] => do
      return ⟨← empty >>= readBool?, ← maxDepth >>= readWithin? maxNatural⟩
  | _ => none

/-- Reads all settings. -/
def ofJson? (v : Json) : Option Settings :=
  match group? ["server", "database", "fields", "store"] v with
  | some [server, database, fields, store] => do
      return ⟨← server >>= readServer?, ← database >>= readDatabase?, ← fields >>= readFields?,
        ← store >>= readStore?⟩
  | _ => none

end Settings
end SparseFields
