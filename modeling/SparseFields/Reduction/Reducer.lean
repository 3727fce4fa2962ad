import SparseFields.Naming.Rules
import SparseFields.Reduction.Run
import SparseFields.Selection.Basic

/-!
# Reducing content to a selection

A reducer walks records and a selection together, asks a source for related records where the
selection reaches an association, and keeps only what is selected.  Fields and records are taken one
at a time in order, and the first failure ends the run.

A selected field is an owned one of the descriptor if it is its id or an attribute; else it names
the first has-many association that the naming rules relate to it; else the first such belongs-to
association; else it is unknown.  Records of a has-many association are written under the singular
of the field, all other values under the field itself, and no key is written twice.
-/

namespace SparseFields

/-- Settings of a reduction. -/
structure ReduceOptions where
  /-- Whether records of a has-many association that cannot be fetched count as none. -/
  emptyOnFetchFailure : Bool
  /-- The deepest level of a selection that is answered, the top one being the first. -/
  maxDepth : Nat
deriving DecidableEq, Repr

/-- Failures are reported, and sixteen levels are answered. -/
def ReduceOptions.default : ReduceOptions := ⟨false, 16⟩

/-- What is reduced: one record, or several in order. -/
inductive Content
  | one (x : Instance)
  | many (xs : List Instance)

/-- The records as they are. -/
def Content.toJson : Content → Json
  | .one x => x.toJson
  | .many xs => .array (xs.map Instance.toJson)

/-- What a field of a descriptor is. -/
inductive Resolution
  | owned
  | many (link : HasMany)
  | one (link : BelongsTo)
  | unknown
deriving DecidableEq, Repr

/-- Finds out what a field of a descriptor is. -/
def Descriptor.resolve (d : Descriptor) (naming : NamingRules) (field : String) : Resolution :=
  if d.owns field then .owned
  else
    match d.hasMany.find? fun link => naming.namesMany field link.name with
    | some link => .many link
    | none =>
        match d.belongsTo.find? fun link => naming.namesOne field link.foreignKey with
        | some link => .one link
        | none => .unknown

/-- Where records come from, how keys are related to associations, and the settings. -/
structure Reducer where
  source : Source
  naming : NamingRules
  options : ReduceOptions

namespace Reducer

/-- What becomes of related records: of all records of a target, or of one with its descriptor. -/
structure Shaping where
  many : String → List Instance → Run Json
  one : Descriptor → Instance → Run Json

/-- Related records are taken whole. -/
def whole : Shaping where
  many _ rows := pure (.array (rows.map Instance.toJson))
  one _ row := pure row.toJson

/-- A selection must not reach below the deepest level. -/
def checkLevel (r : Reducer) (d : Descriptor) (level : Nat) : Run Unit :=
  if r.options.maxDepth < level then .fail (.shapeConflict (.tooDeep d.name r.options.maxDepth))
  else pure ()

/-- Shapes records one after another, counting from `index`; a failure says at which one. -/
def shapeEach (shape : Instance → Run Json) (index : Nat) : List Instance → Run (List Json)
  | [] => pure []
  | x :: xs => do
      let value ← (shape x).mapError (.atIndex index)
      let values ← shapeEach shape (index + 1) xs
      return value :: values

/-- Related records are reduced by `shape` at a level. -/
def reduced (r : Reducer) (level : Nat) (shape : Descriptor → Instance → Run Json) : Shaping where
  many target rows := do
    let d ← Run.describe r.source target
    r.checkLevel d level
    let values ← shapeEach (shape d) 0 rows
    return .array values
  one d row := do
    r.checkLevel d level
    shape d row

/-- The value of a has-many association: the records of the target that hold this record's id. -/
def manyValue (r : Reducer) (d : Descriptor) (x : Instance) (link : HasMany) (shaping : Shaping) :
    Run Json := do
  let filter := Filter.single link.foreignKey ((x.get? d.idField).getD .null)
  match ← Run.findMany r.source link.target filter with
  | .ok rows => shaping.many link.target rows
  | .error e => if r.options.emptyOnFetchFailure then pure (.array []) else .fail (.fetchFailed e)

/-- The value of a belongs-to association: the record whose id this record holds, if any. -/
def oneValue (r : Reducer) (x : Instance) (link : BelongsTo) (shaping : Shaping) : Run Json :=
  match (x.get? link.foreignKey).getD .null with
  | .null => pure .null
  | key => do
      let target ← Run.describe r.source link.target
      match ← Run.findOne r.source link.target (Filter.single target.idField key) with
      | none => pure .null
      | some row =>
          if row.entity = target.name then shaping.one target row
          else .fail (.shapeConflict (.wrongEntity row.entity target.name))

/-- The key and value of a selected field. -/
def entry (r : Reducer) (d : Descriptor) (x : Instance) (field : String) (shaping : Shaping) :
    Run (String × Json) :=
  match d.resolve r.naming field with
  | .owned => pure (field, (x.get? field).getD .null)
  | .many link => do return (r.naming.singular field, ← r.manyValue d x link shaping)
  | .one link => do return (field, ← r.oneValue x link shaping)
  | .unknown => .fail (.unknownField d.name field)

/-- Writes an entry under a key that is still free. -/
def write (d : Descriptor) (output : SortedMap Json) (entry : String × Json) :
    Run (SortedMap Json) :=
  if output.contains entry.1 then .fail (.shapeConflict (.outputTaken d.name entry.1))
  else pure (output.insert entry.1 entry.2)

/-- The selected fields of a record at a level, written after what `output` holds. -/
def reduceFields (r : Reducer) (d : Descriptor) (x : Instance) (level : Nat)
    (output : SortedMap Json) : Selection → Run (SortedMap Json)
  | .nil => pure output
  | .whole field rest => do
      let entry ← r.entry d x field whole
      let output ← write d output entry
      r.reduceFields d x level output rest
  | .part field sub rest => do
      let shape := fun d x => do
        let output ← r.reduceFields d x (level + 1) [] sub
        return .object output
      let entry ← r.entry d x field (r.reduced (level + 1) shape)
      let output ← write d output entry
      r.reduceFields d x level output rest

/-- The selected fields of a record at a level, as an object. -/
def reduceInstance (r : Reducer) (d : Descriptor) (x : Instance) (level : Nat) (s : Selection) :
    Run Json := do
  let output ← r.reduceFields d x level [] s
  return .object output

/-- Content reduced to a selection at a level. -/
def reduceAt (r : Reducer) (d : Descriptor) (level : Nat) (content : Content) (s : Selection) :
    Run Json := do
  r.checkLevel d level
  match content with
  | .one x => r.reduceInstance d x level s
  | .many xs => do
      let values ← shapeEach (fun x => r.reduceInstance d x level s) 0 xs
      return .array values

/-- Content reduced to a selection. -/
def reduce (r : Reducer) (d : Descriptor) (content : Content) (s : Selection) : Run Json :=
  r.reduceAt d 1 content s

/-- The answer to a request: its content, if there is any, reduced to the selection, if there is
one. -/
def answer (r : Reducer) (d : Descriptor) (content : Option Content)
    (selection : Option Selection) : Run (Option Json) :=
  match content, selection with
  | none, _ => pure none
  | some content, none => pure (some content.toJson)
  | some content, some s => do return some (← r.reduce d content s)

end Reducer
end SparseFields
