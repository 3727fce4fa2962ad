import SparseFields.Json.Draft
import SparseFields.Schema.Descriptor

/-!
# Reading descriptors

A descriptor is read from a draft of an object, or of an array that gives its fields in order.  In
an object unknown members are passed over and a known one must not be repeated; in both forms the
fields with a default may be missing, in an array only at its end.  The faults are reported in the
order of the text: what is readable but of the wrong kind is `unexpected` as soon as it is met.
-/

namespace SparseFields
namespace Schema

/-- Why a text or value is no schema. -/
inductive Fault
  | malformed
  | unexpected
deriving DecidableEq, Repr

/-- The fault of a draft of the wrong kind.  Containers are of the wrong kind from their first
character on, all else must be readable. -/
def mismatch : Json.Draft → Fault
  | .broken => .malformed
  | .number none => .malformed
  | .string none => .malformed
  | _ => .unexpected

/-- Reads a string. -/
def readString : Json.Draft → Except Fault String
  | .string (some s) => .ok s
  | draft => .error (mismatch draft)

/-- Reads a string or `null`. -/
def readOptional : Json.Draft → Except Fault (Option String)
  | .null => .ok none
  | draft => (readString draft).map some

/-- Reads the items of a list one after another. -/
def readItems {α : Type} (read : Json.Draft → Except Fault α) :
    List Json.Draft → Except Fault (List α)
  | [] => .ok []
  | item :: rest => do
      let value ← read item
      let values ← readItems read rest
      return value :: values

/-- Reads a list. -/
def readList {α : Type} (read : Json.Draft → Except Fault α) :
    Json.Draft → Except Fault (List α)
  | .array items => readItems read items
  | draft => .error (mismatch draft)

/-- Reads the next field of an array; a missing one takes the default, if it has one. -/
def readNext {α : Type} (read : Json.Draft → Except Fault α) (default : Option α) :
    List Json.Draft → Except Fault (α × List Json.Draft)
  | [] =>
      match default with
      | some value => .ok (value, [])
      | none => .error .unexpected
  | item :: rest => (read item).map fun value => (value, rest)

/-- An array of fields must end after the last one. -/
def checkEnd : List Json.Draft → Except Fault Unit
  | [] => .ok ()
  | _ :: _ => .error .malformed

/-- Reads a known member, which must not have been read before. -/
def fill {α : Type} (read : Json.Draft → Except Fault α) (slot : Option α) (draft : Json.Draft) :
    Except Fault (Option α) :=
  match slot with
  | some _ => .error .unexpected
  | none => (read draft).map some

/-- A member after the last one must have been read, or has a default. -/
def required {α : Type} : Option α → Except Fault α
  | some value => .ok value
  | none => .error .unexpected

/-- Passes over the value of an unknown member. -/
def passOver {α : Type} (parts : α) (draft : Json.Draft) : Except Fault α :=
  if draft.intact then .ok parts else .error .malformed

/-- Reads members one after another into parts; a key without content is malformed. -/
def readMembers {α : Type} (read : α → String → Json.Draft → Except Fault α) (parts : α) :
    List (Option String × Json.Draft) → Except Fault α
  | [] => .ok parts
  | (none, _) :: _ => .error .malformed
  | (some key, value) :: rest => do
      let parts ← read parts key value
      readMembers read parts rest

/-! ## Has-many associations -/

/-- The members of a has-many association read so far. -/
structure ManyParts where
  name : Option String := none
  target : Option String := none
  foreignKey : Option String := none

/-- Reads a member of a has-many association. -/
def ManyParts.read (parts : ManyParts) (key : String) (value : Json.Draft) :
    Except Fault ManyParts :=
  match key with
  | "name" => do return { parts with name := ← fill readString parts.name value }
  | "target" => do return { parts with target := ← fill readString parts.target value }
  | "foreign_key" => do return { parts with foreignKey := ← fill readString parts.foreignKey value }
  | _ => passOver parts value

/-- Reads a has-many association. -/
def readMany : Json.Draft → Except Fault HasMany
  | .object members => do
      let parts ← readMembers ManyParts.read {} members
      return ⟨← required parts.name, ← required parts.target, ← required parts.foreignKey⟩
  | .array items => do
      let (name, items) ← readNext readString none items
      let (target, items) ← readNext readString none items
      let (foreignKey, items) ← readNext readString none items
      checkEnd items
      return ⟨name, target, foreignKey⟩
  | draft => .error (mismatch draft)

/-! ## Belongs-to associations -/

/-- The members of a belongs-to association read so far. -/
structure OneParts where
  target : Option String := none
  foreignKey : Option String := none

/-- Reads a member of a belongs-to association. -/
def OneParts.read (parts : OneParts) (key : String) (value : Json.Draft) :
    Except Fault OneParts :=
  match key with
  | "target" => do return { parts with target := ← fill readString parts.target value }
  | "foreign_key" => do return { parts with foreignKey := ← fill readString parts.foreignKey value }
  | _ => passOver parts value

/-- Reads a belongs-to association. -/
def readOne : Json.Draft → Except Fault BelongsTo
  | .object members => do
      let parts ← readMembers OneParts.read {} members
      return ⟨← required parts.target, ← required parts.foreignKey⟩
  | .array items => do
      let (target, items) ← readNext readString none items
      let (foreignKey, items) ← readNext readString none items
      checkEnd items
      return ⟨target, foreignKey⟩
  | draft => .error (mismatch draft)

/-! ## Descriptors -/

/-- The members of a descriptor read so far. -/
structure DescriptorParts where
  name : Option String := none
  table : Option (Option String) := none
  idField : Option String := none
  attributes : Option (List String) := none
  hasMany : Option (List HasMany) := none
  belongsTo : Option (List BelongsTo) := none

/-- Reads a member of a descriptor. -/
def DescriptorParts.read (parts : DescriptorParts) (key : String) (value : Json.Draft) :
    Except Fault DescriptorParts :=
  match key with
  | "name" => do return { parts with name := ← fill readString parts.name value }
  | "table" => do return { parts with table := ← fill readOptional parts.table value }
  | "id_field" => do return { parts with idField := ← fill readString parts.idField value }
  | "attributes" => do
      return { parts with attributes := ← fill (readList readString) parts.attributes value }
  | "has_many" => do
      return { parts with hasMany := ← fill (readList readMany) parts.hasMany value }
  | "belongs_to" => do
      return { parts with belongsTo := ← fill (readList readOne) parts.belongsTo value }
  | _ => passOver parts value

/-- The descriptor of all members. -/
def DescriptorParts.descriptor (parts : DescriptorParts) : Except Fault Descriptor := do
  let name ← required parts.name
  let attributes ← required parts.attributes
  return {
    name
    table := parts.table.getD none
    idField := parts.idField.getD Descriptor.defaultIdField
    attributes
    hasMany := parts.hasMany.getD []
    belongsTo := parts.belongsTo.getD [] }

/-- Reads a descriptor. -/
def readDescriptor : Json.Draft → Except Fault Descriptor
  | .object members => do
      let parts ← readMembers DescriptorParts.read {} members
      parts.descriptor
  | .array items => do
      let (name, items) ← readNext readString none items
      let (table, items) ← readNext readOptional (some none) items
      let (idField, items) ← readNext readString (some Descriptor.defaultIdField) items
      let (attributes, items) ← readNext (readList readString) none items
      let (hasMany, items) ← readNext (readList readMany) (some []) items
      let (belongsTo, items) ← readNext (readList readOne) (some []) items
      checkEnd items
      return { name, table, idField, attributes, hasMany, belongsTo }
  | draft => .error (mismatch draft)

end Schema

/-- The descriptor that a JSON value is, if it is one. -/
def Descriptor.ofJson? (v : Json) : Option Descriptor :=
  (Schema.readDescriptor (.ofJson v)).toOption

namespace Schema

/-- Reads a text that is a list of descriptors and nothing else. -/
def readText (text : String) : Except Fault (List Descriptor) :=
  match Json.Draft.ofText text with
  | (draft, rest) =>
      match readList readDescriptor draft with
      | .error fault => .error fault
      | .ok descriptors => if rest.isEmpty then .ok descriptors else .error .malformed

end Schema
end SparseFields
