import SparseFields.Naming.Singular
import SparseFields.Text.CamelCase

/-!
# Naming rules

How a selected key is related to the associations of an entity, and which key its records get in the
response.  The conventional rules fit keys in camel case over associations named in snake case; the
exact rules inflect nothing.
-/

namespace SparseFields

/-- Rules that relate keys to associations. -/
structure NamingRules where
  /-- The key under which the records of a has-many association are written. -/
  singular : String → String
  /-- Whether a key names a has-many association of this name. -/
  namesMany : (key association : String) → Bool
  /-- Whether a key names the belongs-to association with this foreign key. -/
  namesOne : (key foreignKey : String) → Bool

namespace NamingRules

/-- The camel case of a name. -/
def camelCase (name : String) : String :=
  String.ofList (Text.camelCase name.toList)

/-- A key names a has-many association by its name or the camel case of it, and a belongs-to
association when its foreign key is the key or its singular with `Id` after it. -/
def conventional : NamingRules where
  singular := Naming.singular
  namesMany key association := key == association || key == camelCase association
  namesOne key foreignKey := foreignKey == key ++ "Id" || foreignKey == Naming.singular key ++ "Id"

/-- Keys are the names of associations and the foreign keys themselves. -/
def exact : NamingRules where
  singular key := key
  namesMany key association := key == association
  namesOne key foreignKey := key == foreignKey

end NamingRules
end SparseFields
