import SparseFields.Schema.Reader
import Mathlib.Data.List.Forall2
import Mathlib.Data.Option.Basic

/-!
# Values that describe entities

What a value must be to describe an entity, said without the reader: a record of named fields is an
object, with its members in any order among others, or an array of the fields in order, where fields
may be left out at the end.  A field that is left out has its default, if there is one.  The main
statement is that the reader accepts exactly these values, and reads from them what they describe.
-/

namespace SparseFields
namespace Schema

variable {α β : Type}

/-! ## Fields and layouts -/

/-- A value lays out the fields under some keys: in an object none of the keys is repeated, and an
array has no more items than there are keys. -/
def LaysOut (keys : List String) : Json → Prop
  | .object members => ∀ key ∈ keys, (members.map Prod.fst).count key ≤ 1
  | .array items => items.length ≤ keys.length
  | _ => False

/-- What a value gives for the field under a key: the member under it, or the item in its place. -/
def given (keys : List String) : Json → String → Option Json
  | .object members, key => members.lookup key
  | .array items, key => items[keys.idxOf key]?
  | _, _ => none

/-- What is given for a field is a value for it; where nothing is given the field has a default. -/
def IsField (reads : Json → α → Prop) (default : Option α) : Option Json → α → Prop
  | some v, a => reads v a
  | none, a => default = some a

/-- The value of a text. -/
def IsString (v : Json) (s : String) : Prop :=
  v = .string s

/-- The value of a text that may be missing. -/
def IsOptional (v : Json) (s : Option String) : Prop :=
  v = (s.map Json.string).getD .null

/-- The value of a list. -/
def IsList (reads : Json → α → Prop) (v : Json) (values : List α) : Prop :=
  ∃ items, v = .array items ∧ List.Forall₂ reads items values

/-- The keys of a has-many association, in order. -/
def manyKeys : List String := ["name", "target", "foreign_key"]

/-- A value that describes a has-many association. -/
structure IsMany (v : Json) (link : HasMany) : Prop where
  laysOut : LaysOut manyKeys v
  name : IsField IsString none (given manyKeys v "name") link.name
  target : IsField IsString none (given manyKeys v "target") link.target
  foreignKey : IsField IsString none (given manyKeys v "foreign_key") link.foreignKey

/-- The keys of a belongs-to association, in order. -/
def oneKeys : List String := ["target", "foreign_key"]

/-- A value that describes a belongs-to association. -/
structure IsOne (v : Json) (link : BelongsTo) : Prop where
  laysOut : LaysOut oneKeys v
  target : IsField IsString none (given oneKeys v "target") link.target
  foreignKey : IsField IsString none (given oneKeys v "foreign_key") link.foreignKey

/-- The keys of a descriptor, in order. -/
def descriptorKeys : List String :=
  ["name", "table", "id_field", "attributes", "has_many", "belongs_to"]

/-- A value that describes an entity. -/
structure IsDescriptor (v : Json) (d : Descriptor) : Prop where
  laysOut : LaysOut descriptorKeys v
  name : IsField IsString none (given descriptorKeys v "name") d.name
  table : IsField IsOptional (some none) (given descriptorKeys v "table") d.table
  idField : IsField IsString (some "id") (given descriptorKeys v "id_field") d.idField
  attributes : IsField (IsList IsString) none (given descriptorKeys v "attributes") d.attributes
  hasMany : IsField (IsList IsMany) (some []) (given descriptorKeys v "has_many") d.hasMany
  belongsTo : IsField (IsList IsOne) (some []) (given descriptorKeys v "belongs_to") d.belongsTo

/-! ## Readers -/

/-- A reader accepts exactly the values that are related to something, and reads that. -/
def Accepts (read : Json.Draft → Except Fault α) (reads : Json → α → Prop) : Prop :=
  ∀ v a, read (.ofJson v) = .ok a ↔ reads v a

theorem bind_eq_ok_iff {x : Except Fault α} {f : α → Except Fault β} {b : β} :
    (x >>= f) = .ok b ↔ ∃ a, x = .ok a ∧ f a = .ok b := by
  cases x with
  | error e => exact iff_of_false nofun fun ⟨_, ha, _⟩ => by cases ha
  | ok a => exact ⟨fun h => ⟨a, rfl, h⟩, fun ⟨_, ha, h⟩ => by cases ha; exact h⟩

theorem map_eq_ok_iff {x : Except Fault α} {f : α → β} {b : β} :
    x.map f = .ok b ↔ ∃ a, x = .ok a ∧ f a = b := by
  cases x with
  | error e => exact iff_of_false nofun fun ⟨_, ha, _⟩ => by cases ha
  | ok a => simp [Except.map]

theorem accepts_string : Accepts readString IsString := by
  intro v s
  cases v <;> simp [Json.Draft.ofJson, readString, mismatch, IsString]

theorem accepts_optional : Accepts readOptional IsOptional := by
  intro v s
  cases v <;> cases s <;>
    simp [Json.Draft.ofJson, readOptional, readString, mismatch, IsOptional, Except.map]

theorem readItems_ofItems_iff {read : Json.Draft → Except Fault α} {reads : Json → α → Prop}
    (h : Accepts read reads) {items : List Json} {values : List α} :
    readItems read (Json.Draft.ofItems items) = .ok values ↔ List.Forall₂ reads items values := by
  induction items generalizing values with
  | nil =>
      rw [Json.Draft.ofItems, readItems, List.forall₂_nil_left_iff, Except.ok.injEq]
      exact eq_comm
  | cons item items ih =>
      simp only [Json.Draft.ofItems, readItems, bind_eq_ok_iff, h item, ih,
        List.forall₂_cons_left_iff]
      constructor
      · rintro ⟨value, hvalue, rest, hrest, heq⟩
        cases heq
        exact ⟨value, rest, hvalue, hrest, rfl⟩
      · rintro ⟨value, rest, hvalue, hrest, rfl⟩
        exact ⟨value, hvalue, rest, hrest, rfl⟩

theorem Accepts.list {read : Json.Draft → Except Fault α} {reads : Json → α → Prop}
    (h : Accepts read reads) : Accepts (readList read) (IsList reads) := by
  intro v values
  cases v with
  | array items => simp [Json.Draft.ofJson, readList, readItems_ofItems_iff h, IsList]
  | _ => simp [Json.Draft.ofJson, readList, IsList]

/-! ## Members -/

mutual

/-- The draft of a value is readable to its end. -/
theorem intact_ofJson (v : Json) : (Json.Draft.ofJson v).intact = true := by
  match v with
  | .null => rfl
  | .bool _ => rfl
  | .number _ => rfl
  | .string _ => rfl
  | .array items =>
      rw [Json.Draft.ofJson, Json.Draft.intact]
      exact intactItems_ofItems items
  | .object members =>
      rw [Json.Draft.ofJson, Json.Draft.intact]
      exact intactMembers_ofMembers members

theorem intactItems_ofItems (items : List Json) :
    Json.Draft.intactItems (Json.Draft.ofItems items) = true := by
  match items with
  | [] => rfl
  | item :: rest =>
      rw [Json.Draft.ofItems, Json.Draft.intactItems, intact_ofJson, intactItems_ofItems]
      rfl

theorem intactMembers_ofMembers (members : List (String × Json)) :
    Json.Draft.intactMembers (Json.Draft.ofMembers members) = true := by
  match members with
  | [] => rfl
  | (_, value) :: rest =>
      rw [Json.Draft.ofMembers, Json.Draft.intactMembers, intact_ofJson, intactMembers_ofMembers]
      rfl

end

/-- What a member does to a field: under the key of the field it makes known what was not known
before, and under any other key it leaves the field as it is. -/
def Takes (reads : Json → α → Prop) (key : String) (member : String × Json)
    (before after : Option α) : Prop :=
  if member.1 = key then before = none ∧ ∃ a, reads member.2 a ∧ some a = after
  else before = after

/-- Members lead one after another from what was known of a field to what is known of it after
them. -/
def Fills (reads : Json → α → Prop) (key : String) :
    List (String × Json) → Option α → Option α → Prop
  | [], before, after => before = after
  | member :: rest, before, after =>
      ∃ slot, Takes reads key member before slot ∧ Fills reads key rest slot after

section Fills

variable {reads : Json → α → Prop} {key : String} {members : List (String × Json)}
  {before after : Option α}

theorem takes_self {v : Json} :
    Takes reads key (key, v) before after ↔ before = none ∧ ∃ a, reads v a ∧ some a = after := by
  rw [Takes, if_pos rfl]

theorem takes_of_ne {k : String} (h : k ≠ key) {v : Json} :
    Takes reads key (k, v) before after ↔ before = after := by
  rw [Takes, if_neg h]

theorem fills_cons_self {v : Json} :
    Fills reads key ((key, v) :: members) before after ↔
      before = none ∧ ∃ a, reads v a ∧ Fills reads key members (some a) after := by
  simp only [Fills, takes_self]
  constructor
  · rintro ⟨_, ⟨hbefore, a, ha, rfl⟩, hrest⟩
    exact ⟨hbefore, a, ha, hrest⟩
  · rintro ⟨hbefore, a, ha, hrest⟩
    exact ⟨_, ⟨hbefore, a, ha, rfl⟩, hrest⟩

theorem fills_cons_of_ne {k : String} (h : k ≠ key) {v : Json} :
    Fills reads key ((k, v) :: members) before after ↔ Fills reads key members before after := by
  simp only [Fills, takes_of_ne h, exists_eq_left']

/-- A field that is known is not filled again. -/
theorem fills_some_iff {a : α} :
    Fills reads key members (some a) after ↔
      (members.map Prod.fst).count key = 0 ∧ after = some a := by
  induction members with
  | nil =>
      rw [Fills, eq_comm]
      exact ⟨fun h => ⟨rfl, h⟩, fun h => h.2⟩
  | cons member members ih =>
      obtain ⟨k, v⟩ := member
      rw [List.map_cons]
      by_cases h : k = key
      · subst h
        rw [fills_cons_self, List.count_cons_self]
        exact iff_of_false nofun nofun
      · rw [fills_cons_of_ne h, List.count_cons_of_ne h]
        exact ih

/-- A field is filled from the one member under its key, or stays unknown. -/
theorem fills_none_iff :
    Fills reads key members none after ↔
      (members.map Prod.fst).count key ≤ 1 ∧ Option.Rel reads (members.lookup key) after := by
  induction members with
  | nil =>
      constructor
      · rintro rfl
        exact ⟨Nat.zero_le 1, .none⟩
      · rintro ⟨-, hrel⟩
        cases hrel
        rfl
  | cons member members ih =>
      obtain ⟨k, v⟩ := member
      rw [List.map_cons]
      by_cases h : k = key
      · subst h
        rw [fills_cons_self, List.count_cons_self, List.lookup_cons_self]
        simp only [fills_some_iff, true_and]
        constructor
        · rintro ⟨a, ha, hcount, rfl⟩
          exact ⟨by omega, .some ha⟩
        · rintro ⟨hcount, hrel⟩
          cases hrel with
          | some ha => exact ⟨_, ha, by omega, rfl⟩
      · rw [fills_cons_of_ne h, List.count_cons_of_ne h, List.lookup_cons,
          beq_false_of_ne (Ne.symm h)]
        exact ih

/-- A field of an object is what its slot holds in the end, or its default. -/
theorem exists_fills_iff {default : Option α} {a : α} :
    (∃ slot, Fills reads key members none slot ∧ slot.or default = some a) ↔
      (members.map Prod.fst).count key ≤ 1 ∧ IsField reads default (members.lookup key) a := by
  simp only [fills_none_iff, and_assoc, exists_and_left]
  refine and_congr_right fun _ => ?_
  cases members.lookup key with
  | none =>
      constructor
      · rintro ⟨slot, hrel, hslot⟩
        cases hrel
        exact hslot
      · intro h
        exact ⟨none, .none, h⟩
  | some v =>
      constructor
      · rintro ⟨slot, hrel, hslot⟩
        cases hrel with
        | some hv =>
            cases hslot
            exact hv
      · intro h
        exact ⟨some a, .some h, rfl⟩

end Fills

/-- A slot is filled by the member under its key. -/
theorem fill_eq_ok_iff {read : Json.Draft → Except Fault α} {reads : Json → α → Prop}
    (h : Accepts read reads) (key : String) {v : Json} {slot slot' : Option α} :
    fill read slot (.ofJson v) = .ok slot' ↔ Takes reads key (key, v) slot slot' := by
  rw [takes_self]
  cases slot with
  | some a => exact iff_of_false nofun nofun
  | none =>
      rw [fill, map_eq_ok_iff]
      simp only [h v, true_and]

/-- Parts are read from a member by filling its slot in them. -/
theorem map_fill_eq_ok_iff {read : Json.Draft → Except Fault α} {reads : Json → α → Prop}
    (h : Accepts read reads) (key : String) {v : Json} {slot : Option α}
    {withSlot : Option α → β} {parts : β} :
    withSlot <$> fill read slot (.ofJson v) = .ok parts ↔
      ∃ slot', Takes reads key (key, v) slot slot' ∧ withSlot slot' = parts := by
  show (fill read slot (.ofJson v)).map withSlot = .ok parts ↔ _
  rw [map_eq_ok_iff]
  simp only [fill_eq_ok_iff h key]

theorem passOver_ofJson (parts : α) (v : Json) : passOver parts (.ofJson v) = .ok parts := by
  rw [passOver, intact_ofJson, if_pos rfl]

theorem required_eq_ok_iff {slot : Option α} {a : α} :
    required slot = .ok a ↔ slot.or none = some a := by
  cases slot <;> simp [required]

theorem getD_eq_iff {slot : Option α} {default a : α} :
    slot.getD default = a ↔ slot.or (some default) = some a := by
  cases slot <;> simp

/-! ## Items -/

/-- The next field of an array is read from the item in its place. -/
theorem readNext_bind_eq_ok_iff {read : Json.Draft → Except Fault α} {reads : Json → α → Prop}
    (h : Accepts read reads) {default : Option α} {items : List Json} {i : Nat}
    {f : α × List Json.Draft → Except Fault β} {b : β} :
    (readNext read default (Json.Draft.ofItems (items.drop i)) >>= f) = .ok b ↔
      ∃ a, IsField reads default items[i]? a ∧
        f (a, Json.Draft.ofItems (items.drop (i + 1))) = .ok b := by
  rw [← List.head?_drop, ← List.tail_drop, bind_eq_ok_iff]
  cases items.drop i with
  | nil => cases default <;> simp [Json.Draft.ofItems, readNext, IsField]
  | cons item rest =>
      simp only [Json.Draft.ofItems, readNext, map_eq_ok_iff, h item]
      constructor
      · rintro ⟨_, ⟨a, ha, rfl⟩, hf⟩
        exact ⟨a, ha, hf⟩
      · rintro ⟨a, ha, hf⟩
        exact ⟨_, ⟨a, ha, rfl⟩, hf⟩

/-- An array ends after the last field. -/
theorem checkEnd_bind_eq_ok_iff {items : List Json} {i : Nat} {f : Unit → Except Fault β} {b : β} :
    (checkEnd (Json.Draft.ofItems (items.drop i)) >>= f) = .ok b ↔
      items.length ≤ i ∧ f () = .ok b := by
  rw [← List.drop_eq_nil_iff, bind_eq_ok_iff]
  cases items.drop i with
  | nil => exact ⟨fun ⟨_, _, hf⟩ => ⟨rfl, hf⟩, fun ⟨_, hf⟩ => ⟨(), rfl, hf⟩⟩
  | cons item rest => exact iff_of_false nofun nofun

/-! ## Associations and descriptors -/

theorem ManyParts.read_eq_ok_iff {key : String} {v : Json} {parts parts' : ManyParts} :
    parts.read key (.ofJson v) = .ok parts' ↔
      Takes IsString "name" (key, v) parts.name parts'.name ∧
      Takes IsString "target" (key, v) parts.target parts'.target ∧
      Takes IsString "foreign_key" (key, v) parts.foreignKey parts'.foreignKey := by
  obtain ⟨name, target, foreignKey⟩ := parts
  obtain ⟨name', target', foreignKey'⟩ := parts'
  unfold ManyParts.read
  split
  · simp (disch := decide) [map_fill_eq_ok_iff accepts_string "name", takes_of_ne]
  · simp (disch := decide) [map_fill_eq_ok_iff accepts_string "target", takes_of_ne, and_left_comm]
  · simp (disch := decide) [map_fill_eq_ok_iff accepts_string "foreign_key", takes_of_ne, and_assoc,
      and_comm]
  · next hname htarget hforeignKey =>
    simp [passOver_ofJson, takes_of_ne hname, takes_of_ne htarget, takes_of_ne hforeignKey]

theorem ManyParts.readMembers_eq_ok_iff {members : List (String × Json)}
    {parts parts' : ManyParts} :
    readMembers ManyParts.read parts (Json.Draft.ofMembers members) = .ok parts' ↔
      Fills IsString "name" members parts.name parts'.name ∧
      Fills IsString "target" members parts.target parts'.target ∧
      Fills IsString "foreign_key" members parts.foreignKey parts'.foreignKey := by
  induction members generalizing parts with
  | nil =>
      cases parts
      cases parts'
      simp [Json.Draft.ofMembers, readMembers, Fills]
  | cons member members ih =>
      simp only [Json.Draft.ofMembers, readMembers, bind_eq_ok_iff, ManyParts.read_eq_ok_iff, ih,
        Fills]
      constructor
      · rintro ⟨_, ⟨name, target, foreignKey⟩, names, targets, foreignKeys⟩
        exact ⟨⟨_, name, names⟩, ⟨_, target, targets⟩, _, foreignKey, foreignKeys⟩
      · rintro ⟨⟨_, name, names⟩, ⟨_, target, targets⟩, _, foreignKey, foreignKeys⟩
        exact ⟨⟨_, _, _⟩, ⟨name, target, foreignKey⟩, names, targets, foreignKeys⟩

theorem OneParts.read_eq_ok_iff {key : String} {v : Json} {parts parts' : OneParts} :
    parts.read key (.ofJson v) = .ok parts' ↔
      Takes IsString "target" (key, v) parts.target parts'.target ∧
      Takes IsString "foreign_key" (key, v) parts.foreignKey parts'.foreignKey := by
  obtain ⟨target, foreignKey⟩ := parts
  obtain ⟨target', foreignKey'⟩ := parts'
  unfold OneParts.read
  split
  · simp (disch := decide) [map_fill_eq_ok_iff accepts_string "target", takes_of_ne]
  · simp (disch := decide) [map_fill_eq_ok_iff accepts_string "foreign_key", takes_of_ne, and_comm]
  · next htarget hforeignKey =>
    simp [passOver_ofJson, takes_of_ne htarget, takes_of_ne hforeignKey]

theorem OneParts.readMembers_eq_ok_iff {members : List (String × Json)}
    {parts parts' : OneParts} :
    readMembers OneParts.read parts (Json.Draft.ofMembers members) = .ok parts' ↔
      Fills IsString "target" members parts.target parts'.target ∧
      Fills IsString "foreign_key" members parts.foreignKey parts'.foreignKey := by
  induction members generalizing parts with
  | nil =>
      cases parts
      cases parts'
      simp [Json.Draft.ofMembers, readMembers, Fills]
  | cons member members ih =>
      simp only [Json.Draft.ofMembers, readMembers, bind_eq_ok_iff, OneParts.read_eq_ok_iff, ih,
        Fills]
      constructor
      · rintro ⟨_, ⟨target, foreignKey⟩, targets, foreignKeys⟩
        exact ⟨⟨_, target, targets⟩, _, foreignKey, foreignKeys⟩
      · rintro ⟨⟨_, target, targets⟩, _, foreignKey, foreignKeys⟩
        exact ⟨⟨_, _⟩, ⟨target, foreignKey⟩, targets, foreignKeys⟩

theorem accepts_many : Accepts readMany IsMany := by
  intro v link
  cases v with
  | object members =>
      simp only [Json.Draft.ofJson, readMany, bind_eq_ok_iff, ManyParts.readMembers_eq_ok_iff,
        required_eq_ok_iff]
      constructor
      · rintro ⟨parts, ⟨hname, htarget, hforeignKey⟩, _, name, _, target, _, foreignKey, hlink⟩
        cases hlink
        obtain ⟨nameOnce, isName⟩ := exists_fills_iff.mp ⟨_, hname, name⟩
        obtain ⟨targetOnce, isTarget⟩ := exists_fills_iff.mp ⟨_, htarget, target⟩
        obtain ⟨foreignKeyOnce, isForeignKey⟩ := exists_fills_iff.mp ⟨_, hforeignKey, foreignKey⟩
        exact ⟨by simp [LaysOut, manyKeys, *], isName, isTarget, isForeignKey⟩
      · rintro ⟨once, isName, isTarget, isForeignKey⟩
        obtain ⟨_, hname, name⟩ := exists_fills_iff.mpr ⟨once "name" (by decide), isName⟩
        obtain ⟨_, htarget, target⟩ := exists_fills_iff.mpr ⟨once "target" (by decide), isTarget⟩
        obtain ⟨_, hforeignKey, foreignKey⟩ :=
          exists_fills_iff.mpr ⟨once "foreign_key" (by decide), isForeignKey⟩
        exact ⟨⟨_, _, _⟩, ⟨hname, htarget, hforeignKey⟩, _, name, _, target, _, foreignKey, rfl⟩
  | array items =>
      rw [Json.Draft.ofJson, readMany, ← List.drop_zero (l := items)]
      simp only [readNext_bind_eq_ok_iff accepts_string, checkEnd_bind_eq_ok_iff]
      constructor
      · rintro ⟨_, name, _, target, _, foreignKey, noMore, hlink⟩
        cases hlink
        exact ⟨noMore, name, target, foreignKey⟩
      · rintro ⟨noMore, name, target, foreignKey⟩
        exact ⟨_, name, _, target, _, foreignKey, noMore, rfl⟩
  | _ => exact iff_of_false nofun fun h => h.laysOut

theorem accepts_one : Accepts readOne IsOne := by
  intro v link
  cases v with
  | object members =>
      simp only [Json.Draft.ofJson, readOne, bind_eq_ok_iff, OneParts.readMembers_eq_ok_iff,
        required_eq_ok_iff]
      constructor
      · rintro ⟨parts, ⟨htarget, hforeignKey⟩, _, target, _, foreignKey, hlink⟩
        cases hlink
        obtain ⟨targetOnce, isTarget⟩ := exists_fills_iff.mp ⟨_, htarget, target⟩
        obtain ⟨foreignKeyOnce, isForeignKey⟩ := exists_fills_iff.mp ⟨_, hforeignKey, foreignKey⟩
        exact ⟨by simp [LaysOut, oneKeys, *], isTarget, isForeignKey⟩
      · rintro ⟨once, isTarget, isForeignKey⟩
        obtain ⟨_, htarget, target⟩ := exists_fills_iff.mpr ⟨once "target" (by decide), isTarget⟩
        obtain ⟨_, hforeignKey, foreignKey⟩ :=
          exists_fills_iff.mpr ⟨once "foreign_key" (by decide), isForeignKey⟩
        exact ⟨⟨_, _⟩, ⟨htarget, hforeignKey⟩, _, target, _, foreignKey, rfl⟩
  | array items =>
      rw [Json.Draft.ofJson, readOne, ← List.drop_zero (l := items)]
      simp only [readNext_bind_eq_ok_iff accepts_string, checkEnd_bind_eq_ok_iff]
      constructor
      · rintro ⟨_, target, _, foreignKey, noMore, hlink⟩
        cases hlink
        exact ⟨noMore, target, foreignKey⟩
      · rintro ⟨noMore, target, foreignKey⟩
        exact ⟨_, target, _, foreignKey, noMore, rfl⟩
  | _ => exact iff_of_false nofun fun h => h.laysOut

theorem DescriptorParts.read_eq_ok_iff {key : String} {v : Json}
    {parts parts' : DescriptorParts} :
    parts.read key (.ofJson v) = .ok parts' ↔
      Takes IsString "name" (key, v) parts.name parts'.name ∧
      Takes IsOptional "table" (key, v) parts.table parts'.table ∧
      Takes IsString "id_field" (key, v) parts.idField parts'.idField ∧
      Takes (IsList IsString) "attributes" (key, v) parts.attributes parts'.attributes ∧
      Takes (IsList IsMany) "has_many" (key, v) parts.hasMany parts'.hasMany ∧
      Takes (IsList IsOne) "belongs_to" (key, v) parts.belongsTo parts'.belongsTo := by
  obtain ⟨name, table, idField, attributes, hasMany, belongsTo⟩ := parts
  obtain ⟨name', table', idField', attributes', hasMany', belongsTo'⟩ := parts'
  unfold DescriptorParts.read
  split
  · simp (disch := decide) [map_fill_eq_ok_iff accepts_string "name", takes_of_ne]
  · simp (disch := decide) [map_fill_eq_ok_iff accepts_optional "table", takes_of_ne,
      and_left_comm]
  · simp (disch := decide) [map_fill_eq_ok_iff accepts_string "id_field", takes_of_ne,
      and_left_comm]
  · simp (disch := decide) [map_fill_eq_ok_iff accepts_string.list "attributes", takes_of_ne,
      and_left_comm]
  · simp (disch := decide) [map_fill_eq_ok_iff accepts_many.list "has_many", takes_of_ne,
      and_left_comm]
  · simp (disch := decide) [map_fill_eq_ok_iff accepts_one.list "belongs_to", takes_of_ne,
      and_assoc, and_comm, and_left_comm]
  · next hname htable hidField hattributes hhasMany hbelongsTo =>
    simp [passOver_ofJson, takes_of_ne hname, takes_of_ne htable, takes_of_ne hidField,
      takes_of_ne hattributes, takes_of_ne hhasMany, takes_of_ne hbelongsTo]

theorem DescriptorParts.readMembers_eq_ok_iff {members : List (String × Json)}
    {parts parts' : DescriptorParts} :
    readMembers DescriptorParts.read parts (Json.Draft.ofMembers members) = .ok parts' ↔
      Fills IsString "name" members parts.name parts'.name ∧
      Fills IsOptional "table" members parts.table parts'.table ∧
      Fills IsString "id_field" members parts.idField parts'.idField ∧
      Fills (IsList IsString) "attributes" members parts.attributes parts'.attributes ∧
      Fills (IsList IsMany) "has_many" members parts.hasMany parts'.hasMany ∧
      Fills (IsList IsOne) "belongs_to" members parts.belongsTo parts'.belongsTo := by
  induction members generalizing parts with
  | nil =>
      cases parts
      cases parts'
      simp [Json.Draft.ofMembers, readMembers, Fills]
  | cons member members ih =>
      simp only [Json.Draft.ofMembers, readMembers, bind_eq_ok_iff,
        DescriptorParts.read_eq_ok_iff, ih, Fills]
      constructor
      · rintro ⟨_, ⟨name, table, idField, attributes, many, one⟩,
          names, tables, idFields, attributeLists, manyLists, oneLists⟩
        exact ⟨⟨_, name, names⟩, ⟨_, table, tables⟩, ⟨_, idField, idFields⟩,
          ⟨_, attributes, attributeLists⟩, ⟨_, many, manyLists⟩, _, one, oneLists⟩
      · rintro ⟨⟨_, name, names⟩, ⟨_, table, tables⟩, ⟨_, idField, idFields⟩,
          ⟨_, attributes, attributeLists⟩, ⟨_, many, manyLists⟩, _, one, oneLists⟩
        exact ⟨⟨_, _, _, _, _, _⟩, ⟨name, table, idField, attributes, many, one⟩,
          names, tables, idFields, attributeLists, manyLists, oneLists⟩

/-- A descriptor is what its known members are, with the defaults for those that are missing. -/
theorem DescriptorParts.descriptor_eq_ok_iff {parts : DescriptorParts} {d : Descriptor} :
    parts.descriptor = .ok d ↔
      parts.name.or none = some d.name ∧
      parts.table.or (some none) = some d.table ∧
      parts.idField.or (some "id") = some d.idField ∧
      parts.attributes.or none = some d.attributes ∧
      parts.hasMany.or (some []) = some d.hasMany ∧
      parts.belongsTo.or (some []) = some d.belongsTo := by
  simp only [descriptor, bind_eq_ok_iff, required_eq_ok_iff, ← getD_eq_iff]
  constructor
  · rintro ⟨_, name, _, attributes, hd⟩
    cases hd
    exact ⟨name, rfl, rfl, attributes, rfl, rfl⟩
  · rintro ⟨name, table, idField, attributes, hasMany, belongsTo⟩
    refine ⟨_, name, _, attributes, congrArg Except.ok ?_⟩
    rw [table, hasMany, belongsTo, Descriptor.defaultIdField, idField]

/-- The reader of descriptors accepts exactly the values that describe an entity. -/
theorem accepts_descriptor : Accepts readDescriptor IsDescriptor := by
  intro v d
  cases v with
  | object members =>
      simp only [Json.Draft.ofJson, readDescriptor, bind_eq_ok_iff,
        DescriptorParts.readMembers_eq_ok_iff, DescriptorParts.descriptor_eq_ok_iff]
      constructor
      · rintro ⟨parts, ⟨hname, htable, hidField, hattributes, hhasMany, hbelongsTo⟩,
          name, table, idField, attributes, hasMany, belongsTo⟩
        obtain ⟨nameOnce, isName⟩ := exists_fills_iff.mp ⟨_, hname, name⟩
        obtain ⟨tableOnce, isTable⟩ := exists_fills_iff.mp ⟨_, htable, table⟩
        obtain ⟨idFieldOnce, isIdField⟩ := exists_fills_iff.mp ⟨_, hidField, idField⟩
        obtain ⟨attributesOnce, areAttributes⟩ := exists_fills_iff.mp ⟨_, hattributes, attributes⟩
        obtain ⟨hasManyOnce, areMany⟩ := exists_fills_iff.mp ⟨_, hhasMany, hasMany⟩
        obtain ⟨belongsToOnce, areOne⟩ := exists_fills_iff.mp ⟨_, hbelongsTo, belongsTo⟩
        exact ⟨by simp [LaysOut, descriptorKeys, *], isName, isTable, isIdField, areAttributes,
          areMany, areOne⟩
      · rintro ⟨once, isName, isTable, isIdField, areAttributes, areMany, areOne⟩
        obtain ⟨_, hname, name⟩ := exists_fills_iff.mpr ⟨once "name" (by decide), isName⟩
        obtain ⟨_, htable, table⟩ := exists_fills_iff.mpr ⟨once "table" (by decide), isTable⟩
        obtain ⟨_, hidField, idField⟩ :=
          exists_fills_iff.mpr ⟨once "id_field" (by decide), isIdField⟩
        obtain ⟨_, hattributes, attributes⟩ :=
          exists_fills_iff.mpr ⟨once "attributes" (by decide), areAttributes⟩
        obtain ⟨_, hhasMany, hasMany⟩ :=
          exists_fills_iff.mpr ⟨once "has_many" (by decide), areMany⟩
        obtain ⟨_, hbelongsTo, belongsTo⟩ :=
          exists_fills_iff.mpr ⟨once "belongs_to" (by decide), areOne⟩
        exact ⟨⟨_, _, _, _, _, _⟩,
          ⟨hname, htable, hidField, hattributes, hhasMany, hbelongsTo⟩,
          name, table, idField, attributes, hasMany, belongsTo⟩
  | array items =>
      rw [Json.Draft.ofJson, readDescriptor, ← List.drop_zero (l := items)]
      simp only [readNext_bind_eq_ok_iff accepts_string, readNext_bind_eq_ok_iff accepts_optional,
        readNext_bind_eq_ok_iff accepts_string.list, readNext_bind_eq_ok_iff accepts_many.list,
        readNext_bind_eq_ok_iff accepts_one.list, checkEnd_bind_eq_ok_iff]
      constructor
      · rintro ⟨_, name, _, table, _, idField, _, attributes, _, hasMany, _, belongsTo, noMore, hd⟩
        cases hd
        exact ⟨noMore, name, table, idField, attributes, hasMany, belongsTo⟩
      · rintro ⟨noMore, name, table, idField, attributes, hasMany, belongsTo⟩
        exact ⟨_, name, _, table, _, idField, _, attributes, _, hasMany, _, belongsTo, noMore, rfl⟩
  | _ => exact iff_of_false nofun fun h => h.laysOut

end Schema
end SparseFields
