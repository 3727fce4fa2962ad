import SparseFields.Json.Basic

/-!
# Entity descriptors

A descriptor says what the records of an entity hold and how they are linked to the records of other
entities.
-/

namespace SparseFields

/-- Many records of `target` hold this entity's id under their `foreignKey`. -/
structure HasMany where
  name : String
  target : String
  foreignKey : String
deriving DecidableEq, Repr

/-- This entity's `foreignKey` holds the id of one record of `target`. -/
structure BelongsTo where
  target : String
  foreignKey : String
deriving DecidableEq, Repr

/-- What is known of the records of an entity. -/
structure Descriptor where
  name : String
  table : Option String
  idField : String
  attributes : List String
  hasMany : List HasMany
  belongsTo : List BelongsTo
deriving DecidableEq, Repr

/-- The name of the id where a descriptor does not give one. -/
def Descriptor.defaultIdField : String := "id"

namespace Descriptor

/-- A descriptor without links, whose id has the default name. -/
def plain (name : String) (attributes : List String) : Descriptor :=
  { name, table := none, idField := defaultIdField, attributes, hasMany := [], belongsTo := [] }

/-- Adds a has-many association. -/
def withMany (d : Descriptor) (name target foreignKey : String) : Descriptor :=
  { d with hasMany := d.hasMany ++ [⟨name, target, foreignKey⟩] }

/-- Adds a belongs-to association. -/
def withOne (d : Descriptor) (target foreignKey : String) : Descriptor :=
  { d with belongsTo := d.belongsTo ++ [⟨target, foreignKey⟩] }

/-- The table that holds the records: the entity's name unless another is given. -/
def tableName (d : Descriptor) : String :=
  d.table.getD d.name

/-- Whether a field is the id or an attribute. -/
def owns (d : Descriptor) (field : String) : Bool :=
  field == d.idField || d.attributes.contains field

/-- The JSON form of a has-many association. -/
def manyToJson (link : HasMany) : Json :=
  .object [("name", .string link.name), ("target", .string link.target),
    ("foreign_key", .string link.foreignKey)]

/-- The JSON form of a belongs-to association. -/
def oneToJson (link : BelongsTo) : Json :=
  .object [("target", .string link.target), ("foreign_key", .string link.foreignKey)]

/-- The member for the table, if one is given. -/
def tableMember (table : Option String) : List (String × Json) :=
  match table with
  | some table => [("table", .string table)]
  | none => []

/-- The JSON form of a descriptor, with its members in this order. -/
def toJson (d : Descriptor) : Json :=
  .object (("name", .string d.name) :: tableMember d.table ++
    [("id_field", .string d.idField), ("attributes", .array (d.attributes.map .string)),
      ("has_many", .array (d.hasMany.map manyToJson)),
      ("belongs_to", .array (d.belongsTo.map oneToJson))])

end Descriptor
end SparseFields
