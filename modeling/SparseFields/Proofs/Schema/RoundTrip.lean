import SparseFields.Proofs.Json.Reading
import SparseFields.Proofs.Schema.Layouts
import SparseFields.Proofs.SortedMap
import SparseFields.Sql.Catalog

/-!
# Descriptors written and read back

The JSON form of a descriptor is one of the values that describe it, and it stands for all of them:
the descriptor is read back from the form itself, from what its text is parsed as and from a schema
file, so that whatever describes the same entity is written as the same text.
-/

namespace SparseFields
namespace Schema

variable {α : Type}

/-! ## The written form -/

theorem isList_map {reads : Json → α → Prop} (write : α → Json) (h : ∀ a, reads (write a) a)
    (values : List α) : IsList reads (.array (values.map write)) values :=
  ⟨_, rfl, List.forall₂_map_left_iff.mpr (List.forall₂_same.mpr fun a _ => h a)⟩

/-- An object with members under distinct keys lays out fields, whichever keys they have. -/
theorem laysOut_of_nodup {members : List (String × Json)} (h : (members.map Prod.fst).Nodup)
    (keys : List String) : LaysOut keys (.object members) :=
  fun key _ => List.nodup_iff_count_le_one.mp h key

theorem isMany_manyToJson (link : HasMany) : IsMany (Descriptor.manyToJson link) link :=
  ⟨laysOut_of_nodup (by simp) _, rfl, rfl, rfl⟩

theorem isOne_oneToJson (link : BelongsTo) : IsOne (Descriptor.oneToJson link) link :=
  ⟨laysOut_of_nodup (by simp) _, rfl, rfl⟩

/-- The form of a descriptor describes it. -/
theorem isDescriptor_toJson (d : Descriptor) : IsDescriptor d.toJson d := by
  obtain ⟨name, table, idField, attributes, hasMany, belongsTo⟩ := d
  have areAttributes : IsList IsString (.array (attributes.map Json.string)) attributes :=
    isList_map Json.string (fun _ => rfl) attributes
  have areMany := isList_map Descriptor.manyToJson isMany_manyToJson hasMany
  have areOne := isList_map Descriptor.oneToJson isOne_oneToJson belongsTo
  cases table <;>
    exact ⟨laysOut_of_nodup (by simp [Descriptor.tableMember]) _, rfl, rfl, rfl, areAttributes,
      areMany, areOne⟩

theorem numberFreeItems_map (write : α → Json) (h : ∀ a, (write a).NumberFree)
    (values : List α) : Json.NumberFreeItems (values.map write) := by
  induction values with
  | nil => trivial
  | cons value rest ih => exact ⟨h value, ih⟩

theorem numberFree_toJson (d : Descriptor) : d.toJson.NumberFree := by
  have attributes := numberFreeItems_map Json.string (fun _ => trivial) d.attributes
  have hasMany := numberFreeItems_map Descriptor.manyToJson
    (fun _ => ⟨trivial, trivial, trivial, trivial⟩) d.hasMany
  have belongsTo := numberFreeItems_map Descriptor.oneToJson
    (fun _ => ⟨trivial, trivial, trivial⟩) d.belongsTo
  cases htable : d.table with
  | none =>
      rw [Descriptor.toJson, htable]
      exact ⟨trivial, trivial, attributes, hasMany, belongsTo, trivial⟩
  | some table =>
      rw [Descriptor.toJson, htable]
      exact ⟨trivial, trivial, trivial, attributes, hasMany, belongsTo, trivial⟩

/-! ## Parsed values -/

section InKeyOrder

variable {keys : List String} {v : Json}

theorem LaysOut.inKeyOrder (h : LaysOut keys v) : LaysOut keys v.inKeyOrder := by
  cases v with
  | object members => exact fun key _ => SortedMap.count_keys_ofList_le_one key _
  | array items =>
      rw [Json.inKeyOrder, Json.inKeyOrderItems_eq_map, LaysOut, List.length_map]
      exact h
  | _ => exact h.elim

/-- Key order changes what is given for a field only inside. -/
theorem LaysOut.given_inKeyOrder (h : LaysOut keys v) {key : String} (hkey : key ∈ keys) :
    given keys v.inKeyOrder key = (given keys v key).map Json.inKeyOrder := by
  cases v with
  | object members =>
      have hkeys : (members.map fun member => (member.1, member.2.inKeyOrder)).map Prod.fst =
          members.map Prod.fst := by
        rw [List.map_map]
        rfl
      rw [Json.inKeyOrder, Json.inKeyOrderMembers_eq_map, Json.ofMembers, given, given,
        SortedMap.lookup_ofList (hkeys ▸ h key hkey), SortedMap.lookup_map_values]
  | array items =>
      rw [Json.inKeyOrder, Json.inKeyOrderItems_eq_map, given, given, List.getElem?_map]
  | _ => exact h.elim

/-- What a value describes it also describes with the members of its objects in key order. -/
def IgnoresKeyOrder (reads : Json → α → Prop) : Prop :=
  ∀ v a, reads v a → reads v.inKeyOrder a

theorem LaysOut.isField_inKeyOrder {reads : Json → α → Prop} (hreads : IgnoresKeyOrder reads)
    {default : Option α} {a : α} {key : String} (h : LaysOut keys v) (hkey : key ∈ keys)
    (hfield : IsField reads default (given keys v key) a) :
    IsField reads default (given keys v.inKeyOrder key) a := by
  rw [h.given_inKeyOrder hkey]
  cases hgiven : given keys v key with
  | none =>
      rw [hgiven] at hfield
      exact hfield
  | some item =>
      rw [hgiven] at hfield
      exact hreads item a hfield

theorem ignoresKeyOrder_string : IgnoresKeyOrder IsString := by
  rintro v s rfl
  rfl

theorem ignoresKeyOrder_optional : IgnoresKeyOrder IsOptional := by
  rintro v s rfl
  cases s <;> rfl

theorem IgnoresKeyOrder.list {reads : Json → α → Prop} (h : IgnoresKeyOrder reads) :
    IgnoresKeyOrder (IsList reads) := by
  rintro v values ⟨items, rfl, hitems⟩
  refine ⟨items.map Json.inKeyOrder, ?_, List.forall₂_map_left_iff.mpr (hitems.imp h)⟩
  rw [Json.inKeyOrder, Json.inKeyOrderItems_eq_map]

theorem ignoresKeyOrder_many : IgnoresKeyOrder IsMany := fun _ _ h =>
  { laysOut := h.laysOut.inKeyOrder
    name := h.laysOut.isField_inKeyOrder ignoresKeyOrder_string (by decide) h.name
    target := h.laysOut.isField_inKeyOrder ignoresKeyOrder_string (by decide) h.target
    foreignKey := h.laysOut.isField_inKeyOrder ignoresKeyOrder_string (by decide) h.foreignKey }

theorem ignoresKeyOrder_one : IgnoresKeyOrder IsOne := fun _ _ h =>
  { laysOut := h.laysOut.inKeyOrder
    target := h.laysOut.isField_inKeyOrder ignoresKeyOrder_string (by decide) h.target
    foreignKey := h.laysOut.isField_inKeyOrder ignoresKeyOrder_string (by decide) h.foreignKey }

theorem ignoresKeyOrder_descriptor : IgnoresKeyOrder IsDescriptor := fun _ _ h =>
  { laysOut := h.laysOut.inKeyOrder
    name := h.laysOut.isField_inKeyOrder ignoresKeyOrder_string (by decide) h.name
    table := h.laysOut.isField_inKeyOrder ignoresKeyOrder_optional (by decide) h.table
    idField := h.laysOut.isField_inKeyOrder ignoresKeyOrder_string (by decide) h.idField
    attributes :=
      h.laysOut.isField_inKeyOrder ignoresKeyOrder_string.list (by decide) h.attributes
    hasMany := h.laysOut.isField_inKeyOrder ignoresKeyOrder_many.list (by decide) h.hasMany
    belongsTo := h.laysOut.isField_inKeyOrder ignoresKeyOrder_one.list (by decide) h.belongsTo }

end InKeyOrder

/-! ## Reading back -/

theorem ofJson?_eq_some_iff {v : Json} {d : Descriptor} :
    Descriptor.ofJson? v = some d ↔ IsDescriptor v d := by
  rw [← accepts_descriptor v d, Descriptor.ofJson?]
  cases readDescriptor (.ofJson v) <;> simp [Except.toOption]

/-- A schema file that lists values without numbers is loaded when each of them describes an
entity. -/
theorem load_text_iff {items : List Json} (h : Json.NumberFreeItems items)
    {descriptors : List Descriptor} :
    load (some (Json.array items).text) = .ok descriptors ↔
      List.Forall₂ IsDescriptor items descriptors := by
  have htext : Json.Draft.ofText (Json.array items).text = (.ofJson (.array items), []) :=
    Json.Draft.ofText_text h
  rw [← readItems_ofItems_iff accepts_descriptor]
  simp only [load, readText, htext, Json.Draft.ofJson, readList]
  cases readItems readDescriptor (Json.Draft.ofItems items) <;> simp

theorem forall₂_toJson (descriptors : List Descriptor) :
    List.Forall₂ IsDescriptor (descriptors.map Descriptor.toJson) descriptors :=
  List.forall₂_map_left_iff.mpr (List.forall₂_same.mpr fun d _ => isDescriptor_toJson d)

theorem ofJson?_toJson (d : Descriptor) : Descriptor.ofJson? d.toJson = some d :=
  ofJson?_eq_some_iff.mpr (isDescriptor_toJson d)

/-- The table is written exactly where there is one. -/
theorem given_table_toJson (d : Descriptor) :
    given descriptorKeys d.toJson "table" = d.table.map Json.string := by
  obtain ⟨name, table, idField, attributes, hasMany, belongsTo⟩ := d
  cases table <;> rfl

theorem parse?_text_toJson (d : Descriptor) :
    (Json.parse? d.toJson.text).bind Descriptor.ofJson? = some d := by
  rw [Json.parse?_text (numberFree_toJson d), Option.bind_some, ofJson?_eq_some_iff]
  exact ignoresKeyOrder_descriptor _ d (isDescriptor_toJson d)

theorem load_text_toJson (descriptors : List Descriptor) :
    load (some (Json.array (descriptors.map Descriptor.toJson)).text) = .ok descriptors :=
  (load_text_iff (numberFreeItems_map Descriptor.toJson numberFree_toJson descriptors)).mpr
    (forall₂_toJson descriptors)

/-- Descriptors that are written as the same text are the same. -/
theorem text_toJson_injective : Function.Injective fun d : Descriptor => d.toJson.text := by
  intro d d' h
  have hjson : d.toJson = d'.toJson := Json.text_injective h
  rw [← Option.some_inj, ← ofJson?_toJson d, ← ofJson?_toJson d', hjson]

end Schema

/-- The JSON form of a descriptor is read back as that descriptor: from the form, from what its text
is parsed as, and in a list from a schema file.  The values that are read as a descriptor are those
that describe it, by named members or by items in order, and of all these values the form is the
canonical one: two of them are read as the same descriptor exactly when what is read is written as
the same text. -/
theorem Descriptor.toJson_isCanonical :
    (∀ d : Descriptor, ofJson? d.toJson = some d) ∧
    (∀ d : Descriptor,
      Schema.given Schema.descriptorKeys d.toJson "table" = d.table.map Json.string) ∧
    (∀ d : Descriptor, (Json.parse? d.toJson.text).bind ofJson? = some d) ∧
    (∀ ds : List Descriptor, Schema.load (some (Json.array (ds.map toJson)).text) = .ok ds) ∧
    (∀ v d, ofJson? v = some d ↔ Schema.IsDescriptor v d) ∧
    ∀ v d, ofJson? v = some d →
      ofJson? d.toJson = some d ∧
      ∀ v' d', ofJson? v' = some d' → (d = d' ↔ d.toJson.text = d'.toJson.text) :=
  ⟨Schema.ofJson?_toJson, Schema.given_table_toJson, Schema.parse?_text_toJson,
    Schema.load_text_toJson, fun _ _ => Schema.ofJson?_eq_some_iff,
    fun _ d _ => ⟨Schema.ofJson?_toJson d,
      fun _ _ _ => Schema.text_toJson_injective.eq_iff.symm⟩⟩

/-- An object that leaves out what has a default and the array of the first four items are read as
one descriptor; with a table it would be another and be written otherwise. -/
theorem Descriptor.toJson_orders :
    let attributes := Json.array [.string "total"]
    let object := Json.object [("comment", .null), ("attributes", attributes),
      ("name", .string "Order")]
    let array := Json.array [.string "Order", .null, .string "id", attributes]
    let tabled := Json.array [.string "Order", .string "orders", .string "id", attributes]
    let d := Descriptor.plain "Order" ["total"]
    let d' := { d with table := some "orders" }
    ofJson? object = some d ∧ ofJson? array = some d ∧ ofJson? tabled = some d' ∧
      d.toJson.text ≠ d'.toJson.text := by
  intro attributes object array tabled d d'
  have hobject : ofJson? object = some d := by rfl
  have harray : ofJson? array = some d := by rfl
  have htabled : ofJson? tabled = some d' := by rfl
  obtain ⟨-, hwritten⟩ := Descriptor.toJson_isCanonical.2.2.2.2.2 object d hobject
  exact ⟨hobject, harray, htabled, (hwritten tabled d' htabled).not.mp (by decide)⟩

end SparseFields
