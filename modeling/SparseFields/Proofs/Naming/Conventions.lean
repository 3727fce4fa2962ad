import SparseFields.Proofs.Reduction.Fields
import SparseFields.Proofs.Text.CamelCase

/-!
# Conventional schemas

A schema follows the conventions when its has-many associations have different names in snake case
and its belongs-to associations have different foreign keys that are a singular with `Id` after it.
A key then says which association it can name: the has-many association that is read back from its
camel case, and the belongs-to association whose foreign key is made of its singular.  So it names
at most one of each kind, and the order in which a descriptor lists what it has does not matter.
-/

namespace SparseFields

theorem length_filter_le_one {α β : Type} {p : α → Bool} {f : α → β} {b : β} {l : List α}
    (h : (l.map f).Nodup) (hp : ∀ a ∈ l, p a = true → f a = b) : (l.filter p).length ≤ 1 := by
  have hsame : (l.filter p).map f = List.replicate (l.filter p).length b := by
    rw [List.eq_replicate_iff]
    refine ⟨List.length_map f, fun b' hb' => ?_⟩
    obtain ⟨a, ha, rfl⟩ := List.mem_map.mp hb'
    obtain ⟨hmem, hpa⟩ := List.mem_filter.mp ha
    exact hp a hmem hpa
  have hnodup : ((l.filter p).map f).Nodup := h.sublist (List.filter_sublist.map f)
  rw [hsame] at hnodup
  exact List.nodup_replicate.mp hnodup

/-- Where at most one element fits, the order does not say which one is found. -/
theorem find?_eq_of_perm {α : Type} {p : α → Bool} {l l' : List α} (h : l'.Perm l)
    (hp : (l.filter p).length ≤ 1) : l'.find? p = l.find? p := by
  have hperm : (l'.filter p).Perm (l.filter p) := h.filter p
  have heq : l'.filter p = l.filter p := by
    rcases Nat.le_one_iff_eq_zero_or_eq_one.mp hp with hzero | hone
    · rw [List.length_eq_zero_iff.mp hzero] at hperm ⊢
      exact hperm.eq_nil
    · obtain ⟨a, ha⟩ := List.length_eq_one_iff.mp hone
      rw [ha] at hperm ⊢
      exact List.perm_singleton.mp hperm
  rw [← List.head?_filter, ← List.head?_filter, heq]

/-! ## Names of associations -/

/-- A name of lower-case words with `_` between them. -/
def IsSnakeCase (name : String) : Prop :=
  ∃ first others, Text.IsWord first ∧ (∀ word ∈ others, Text.IsWord word) ∧
    name.toList = Text.snakeCase first others

namespace NamingRules

variable {key name foreignKey : String}

theorem namesMany_iff :
    conventional.namesMany key name = true ↔ key = name ∨ key = camelCase name := by
  rw [conventional, Bool.or_eq_true, beq_iff_eq, beq_iff_eq]

/-- A key names an association in snake case by its words, as they are or in camel case. -/
theorem namesMany_snakeCase_iff {first : List Char} {others : List (List Char)}
    (hfirst : Text.IsWord first) (hothers : ∀ word ∈ others, Text.IsWord word) :
    conventional.namesMany key (String.ofList (Text.snakeCase first others)) = true ↔
      key = String.ofList (Text.snakeCase first others) ∨
        key = String.ofList (Text.humped first others) := by
  rw [namesMany_iff, camelCase, String.toList_ofList, Text.camelCase_snakeCase hfirst hothers]

/-- The name of an association is read back from a key that names it. -/
theorem name_of_namesMany (hname : IsSnakeCase name)
    (h : conventional.namesMany key name = true) :
    name = String.ofList (Text.unhumped key.toList) := by
  obtain ⟨first, others, hfirst, hothers, hwords⟩ := hname
  have hread : Text.unhumped key.toList = name.toList := by
    rcases namesMany_iff.mp h with rfl | rfl
    · rw [hwords]
      exact Text.unhumped_snakeCase hfirst hothers
    · rw [camelCase, String.toList_ofList, hwords, Text.camelCase_snakeCase hfirst hothers]
      exact Text.unhumped_humped hfirst hothers
  rw [hread, String.ofList_toList]

/-- A key does not name two associations with different names. -/
theorem namesMany_eq_false_of_ne {name' : String} (hname : IsSnakeCase name)
    (hname' : IsSnakeCase name') (hne : name ≠ name')
    (h : conventional.namesMany key name = true) : conventional.namesMany key name' = false := by
  rw [Bool.eq_false_iff]
  intro h'
  apply hne
  rw [name_of_namesMany hname h, name_of_namesMany hname' h']

/-- Neither form of a name is the camel case of a different name. -/
theorem ne_camelCase_of_ne {name' : String} (hname : IsSnakeCase name)
    (hname' : IsSnakeCase name') (hne : name ≠ name') :
    camelCase name ≠ camelCase name' ∧ name ≠ camelCase name' := by
  have hself : conventional.namesMany (camelCase name') name' = true :=
    namesMany_iff.mpr (.inr rfl)
  constructor
  · intro heq
    have hother := namesMany_eq_false_of_ne hname hname' hne (namesMany_iff.mpr (.inr heq.symm))
    exact absurd hself (Bool.eq_false_iff.mp hother)
  · intro heq
    have hother := namesMany_eq_false_of_ne hname hname' hne (namesMany_iff.mpr (.inl heq.symm))
    exact absurd hself (Bool.eq_false_iff.mp hother)

/-- A foreign key is made of the singular of any key that names its association. -/
theorem foreignKey_of_namesOne
    (hforeignKey : ∃ base, foreignKey = base ++ "Id" ∧ Naming.singular base = base)
    (h : conventional.namesOne key foreignKey = true) :
    foreignKey = Naming.singular key ++ "Id" := by
  obtain ⟨base, rfl, hbase⟩ := hforeignKey
  rw [conventional, Bool.or_eq_true, beq_iff_eq, beq_iff_eq] at h
  rcases h with h | h
  · have hkey : base = key := (String.append_left_inj "Id").mp h
    rw [← hkey, hbase]
  · exact h

end NamingRules

/-! ## Descriptors -/

namespace Descriptor

/-- The associations of a descriptor follow the conventions. -/
structure Conventional (d : Descriptor) : Prop where
  names_nodup : (d.hasMany.map (·.name)).Nodup
  names_snakeCase : ∀ link ∈ d.hasMany, IsSnakeCase link.name
  foreignKeys_nodup : (d.belongsTo.map (·.foreignKey)).Nodup
  foreignKeys_singular : ∀ link ∈ d.belongsTo,
    ∃ base, link.foreignKey = base ++ "Id" ∧ Naming.singular base = base

/-- The second descriptor lists what the first one has in any order. -/
structure Reorders (d d' : Descriptor) : Prop where
  name_eq : d'.name = d.name
  table_eq : d'.table = d.table
  idField_eq : d'.idField = d.idField
  attributes : d'.attributes.Perm d.attributes
  hasMany : d'.hasMany.Perm d.hasMany
  belongsTo : d'.belongsTo.Perm d.belongsTo

variable {d d' : Descriptor}

/-- A key names at most one has-many association. -/
theorem Conventional.length_filter_hasMany (h : d.Conventional) (key : String) :
    (d.hasMany.filter fun link => NamingRules.conventional.namesMany key link.name).length ≤ 1 := by
  apply length_filter_le_one h.names_nodup
  intro link hlink hkey
  exact NamingRules.name_of_namesMany (h.names_snakeCase link hlink) hkey

/-- A key names at most one belongs-to association. -/
theorem Conventional.length_filter_belongsTo (h : d.Conventional) (key : String) :
    (d.belongsTo.filter fun link =>
      NamingRules.conventional.namesOne key link.foreignKey).length ≤ 1 := by
  apply length_filter_le_one h.foreignKeys_nodup
  intro link hlink hkey
  exact NamingRules.foreignKey_of_namesOne (h.foreignKeys_singular link hlink) hkey

theorem Reorders.owns_eq (h : d.Reorders d') (field : String) : d'.owns field = d.owns field := by
  rw [owns, owns, h.idField_eq, h.attributes.contains_eq]

/-- In a conventional schema a field is the same, in whatever order it is listed. -/
theorem Reorders.resolve_eq (h : d.Reorders d') (hd : d.Conventional) (field : String) :
    d'.resolve .conventional field = d.resolve .conventional field := by
  rw [resolve, resolve, h.owns_eq, find?_eq_of_perm h.hasMany (hd.length_filter_hasMany field),
    find?_eq_of_perm h.belongsTo (hd.length_filter_belongsTo field)]

end Descriptor
end SparseFields
