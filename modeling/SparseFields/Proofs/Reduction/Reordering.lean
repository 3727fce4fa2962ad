import SparseFields.Proofs.Naming.Conventions
import SparseFields.Proofs.Reduction.Nodes

/-!
# Schemas that are listed in another order

A reduction sees of a descriptor its name, its id field and what its fields are.  Descriptors that
agree in these are interchangeable, at the start of a reduction and in every answer of the source:
each step then asks the same, is answered with the same records and has the same outcome.  In a
conventional schema the order in which a descriptor lists its attributes and associations does not
change what its fields are, so it does not change any run.
-/

namespace SparseFields

/-- Descriptors that a reduction cannot tell apart. -/
structure Descriptor.Interchangeable (naming : NamingRules) (d d' : Descriptor) : Prop where
  name_eq : d'.name = d.name
  idField_eq : d'.idField = d.idField
  resolve_eq : ∀ field, d'.resolve naming field = d.resolve naming field

/-- The second descriptor is the first one, or lists in any order what the first one has, which
follows the conventions. -/
def Descriptor.MayReorder (d d' : Descriptor) : Prop :=
  d' = d ∨ d.Conventional ∧ d.Reorders d'

theorem Descriptor.MayReorder.interchangeable {d d' : Descriptor} (h : d.MayReorder d') :
    d.Interchangeable .conventional d' := by
  rcases h with rfl | ⟨hd, h⟩
  · exact ⟨rfl, rfl, fun _ => rfl⟩
  · exact ⟨h.name_eq, h.idField_eq, h.resolve_eq hd⟩

/-- Sources with the same records and the same refusals, whose descriptors are related. -/
structure Source.SameUpTo (R : Descriptor → Descriptor → Prop) (source source' : Source) :
    Prop where
  findMany_eq : source'.findMany = source.findMany
  findOne_eq : source'.findOne = source.findOne
  describe : ∀ entity,
    (∃ e, source.describe entity = .error e ∧ source'.describe entity = .error e) ∨
      ∃ d d', source.describe entity = .ok d ∧ source'.describe entity = .ok d' ∧ R d d'

theorem Source.SameUpTo.refl {R : Descriptor → Descriptor → Prop} (hR : ∀ d, R d d)
    (source : Source) : source.SameUpTo R source where
  findMany_eq := rfl
  findOne_eq := rfl
  describe entity := by
    cases h : source.describe entity with
    | error e => exact .inl ⟨e, rfl, rfl⟩
    | ok d => exact .inr ⟨d, d, rfl, rfl, hR d⟩

theorem Source.SameUpTo.mono {R R' : Descriptor → Descriptor → Prop} {source source' : Source}
    (h : source.SameUpTo R source') (hR : ∀ d d', R d d' → R' d d') :
    source.SameUpTo R' source' where
  findMany_eq := h.findMany_eq
  findOne_eq := h.findOne_eq
  describe entity := by
    rcases h.describe entity with herror | ⟨d, d', hd, hd', hrel⟩
    · exact .inl herror
    · exact .inr ⟨d, d', hd, hd', hR d d' hrel⟩

namespace Reducer

open Run

/-- Reducers that differ in the descriptors of their sources only, and there by interchangeable
ones. -/
structure Interchangeable (r r' : Reducer) : Prop where
  naming_eq : r'.naming = r.naming
  options_eq : r'.options = r.options
  source : r.source.SameUpTo (Descriptor.Interchangeable r.naming) r'.source

namespace Interchangeable

variable {r r' : Reducer} {d d' : Descriptor} {level : Nat}

/-! ## Content -/

theorem checkLevel_eq (h : Interchangeable r r') (hd : d.Interchangeable r.naming d') :
    r'.checkLevel d' level = r.checkLevel d level := by
  rw [checkLevel, checkLevel, h.options_eq, hd.name_eq]

theorem reduceAt_eq (h : Interchangeable r r') (hd : d.Interchangeable r.naming d')
    {s : Selection}
    (hone : ∀ x, r'.reduceInstance d' x level s = r.reduceInstance d x level s) :
    ∀ content, r'.reduceAt d' level content s = r.reduceAt d level content s
  | .one x => by rw [reduceAt, reduceAt, h.checkLevel_eq hd, hone]
  | .many xs => by rw [reduceAt_many, reduceAt_many, h.checkLevel_eq hd, funext hone]

/-! ## Associations -/

/-- What follows the description of an entity is the same if it is for interchangeable
descriptors. -/
theorem describe_andThen_eq (h : Interchangeable r r') (entity : String) {α : Type}
    {f f' : Descriptor → Run α}
    (hf : ∀ d d', d.Interchangeable r.naming d' → f' d' = f d) :
    (describe r'.source entity).andThen f' = (describe r.source entity).andThen f := by
  rcases h.source.describe entity with ⟨e, herror, herror'⟩ | ⟨d, d', hd, hd', hrel⟩
  · rw [describe_andThen_of_error herror, describe_andThen_of_error herror']
  · rw [describe_andThen_of_ok hd, describe_andThen_of_ok hd', hf d d' hrel]

/-- What becomes of related records is the same. -/
structure Shapings (naming : NamingRules) (shaping shaping' : Shaping) : Prop where
  many : ∀ target rows, shaping'.many target rows = shaping.many target rows
  one : ∀ d d' row, d.Interchangeable naming d' → shaping'.one d' row = shaping.one d row

theorem pickShaping (h : Interchangeable r r') {pick : Selection.Pick}
    (hpart : ∀ sub, pick = .part sub → ∀ d d', d.Interchangeable r.naming d' →
      ∀ x, r'.reduceInstance d' x (level + 1) sub = r.reduceInstance d x (level + 1) sub) :
    Shapings r.naming (r.pickShaping level pick) (r'.pickShaping level pick) := by
  cases pick with
  | whole => exact ⟨fun _ _ => rfl, fun _ _ _ _ => rfl⟩
  | part sub =>
      constructor
      · intro target rows
        rw [pickShaping_part_many, pickShaping_part_many]
        apply h.describe_andThen_eq
        intro d d' hd
        exact h.reduceAt_eq hd (hpart sub rfl d d' hd) _
      · intro d d' row hd
        rw [pickShaping_part_one, pickShaping_part_one]
        exact h.reduceAt_eq hd (hpart sub rfl d d' hd) _

section Values

variable {shaping shaping' : Shaping} (h : Interchangeable r r')
  (hshaping : Shapings r.naming shaping shaping')

include h hshaping

theorem manyValue_eq (hd : d.Interchangeable r.naming d') (x : Instance) (link : HasMany) :
    r'.manyValue d' x link shaping' = r.manyValue d x link shaping := by
  have hfilter : manyFilter d' x link = manyFilter d x link := by
    rw [manyFilter, manyFilter, hd.idField_eq]
  cases hrows : r.source.findMany link.target (manyFilter d x link) with
  | error e =>
      have hrows' : r'.source.findMany link.target (manyFilter d' x link) = .error e := by
        rw [h.source.findMany_eq, hfilter, hrows]
      rw [r.manyValue_of_error hrows, r'.manyValue_of_error hrows', hfilter, h.options_eq]
  | ok rows =>
      have hrows' : r'.source.findMany link.target (manyFilter d' x link) = .ok rows := by
        rw [h.source.findMany_eq, hfilter, hrows]
      rw [r.manyValue_of_ok hrows, r'.manyValue_of_ok hrows', hfilter, hshaping.many]

theorem oneValue_eq (x : Instance) (link : BelongsTo) :
    r'.oneValue x link shaping' = r.oneValue x link shaping := by
  by_cases hnull : (x.get? link.foreignKey).getD .null = .null
  · rw [r.oneValue_of_null hnull, r'.oneValue_of_null hnull]
  · rw [r.oneValue_of_ne_null hnull, r'.oneValue_of_ne_null hnull]
    apply h.describe_andThen_eq
    intro target target' htarget
    rw [findOne, findOne, h.source.findOne_eq, htarget.idField_eq, htarget.name_eq]
    congr 1
    funext found
    cases found with
    | none => rfl
    | some row => simp only [hshaping.one target target' row htarget]

/-! ## Fields -/

theorem entry_eq (hd : d.Interchangeable r.naming d') (x : Instance) (field : String) :
    r'.entry d' x field shaping' = r.entry d x field shaping := by
  rw [entry, entry, h.naming_eq, hd.resolve_eq, hd.name_eq]
  cases d.resolve r.naming field with
  | owned => rfl
  | unknown => rfl
  | many link => simp only [manyValue_eq h hshaping hd]
  | one link => simp only [oneValue_eq h hshaping]

end Values

theorem writeEach_eq (hd : d.Interchangeable r.naming d') (output : SortedMap Json)
    (runs : List (Run (String × Json))) :
    writeEach d' output runs = writeEach d output runs := by
  induction runs generalizing output with
  | nil => rfl
  | cons run runs ih =>
      have hwrite : write d' = write d := by
        funext output entry
        rw [write, write, hd.name_eq]
      rw [writeEach, writeEach, hwrite]
      simp only [ih]

/-- A record is reduced in the same way. -/
theorem reduceInstance_eq (h : Interchangeable r r') (s : Selection)
    (hd : d.Interchangeable r.naming d') (x : Instance) :
    r'.reduceInstance d' x level s = r.reduceInstance d x level s := by
  induction s using Selection.parts_induction generalizing d d' x level with
  | step s ih =>
      have hentries : ∀ choice ∈ s.toList,
          r'.fieldEntry d' x level choice = r.fieldEntry d x level choice := by
        rintro ⟨field, pick⟩ hmem
        refine entry_eq h (h.pickShaping ?_) hd x field
        rintro sub rfl d d' hd x
        exact ih field sub hmem hd x
      rw [reduceInstance, reduceInstance, reduceFields_eq_writeEach, reduceFields_eq_writeEach,
        List.map_congr_left hentries, writeEach_eq hd]

/-- Content is reduced in the same way. -/
theorem reduce_eq (h : Interchangeable r r') (hd : d.Interchangeable r.naming d')
    (content : Content) (s : Selection) : r'.reduce d' content s = r.reduce d content s :=
  h.reduceAt_eq hd (h.reduceInstance_eq s hd) content

end Interchangeable

/-! ## Conventional schemas -/

/-- Under the conventional rules, a key names at most one association of each kind in a conventional
schema: a has-many association by its words, as they are or in camel case, and neither form of a
name is a form of another one.  So reductions that differ in the order in which conventional
descriptors list what they have are the same runs, with the same questions and outcome, whether the
descriptor at the start is reordered or those of the source are. -/
theorem reduce_of_reorders :
    (∀ d : Descriptor, d.Conventional → ∀ key,
      (d.hasMany.filter fun link =>
        NamingRules.conventional.namesMany key link.name).length ≤ 1 ∧
      (d.belongsTo.filter fun link =>
        NamingRules.conventional.namesOne key link.foreignKey).length ≤ 1) ∧
    (∀ first others, Text.IsWord first → (∀ word ∈ others, Text.IsWord word) → ∀ key,
      NamingRules.conventional.namesMany key (String.ofList (Text.snakeCase first others)) = true ↔
        key = String.ofList (Text.snakeCase first others) ∨
          key = String.ofList (Text.humped first others)) ∧
    (∀ name name', IsSnakeCase name → IsSnakeCase name' → name ≠ name' →
      NamingRules.camelCase name ≠ NamingRules.camelCase name' ∧
        name ≠ NamingRules.camelCase name') ∧
    (∀ source options d d' content s, d.Conventional → d.Reorders d' →
      Reducer.reduce ⟨source, .conventional, options⟩ d' content s =
        Reducer.reduce ⟨source, .conventional, options⟩ d content s) ∧
    ∀ source source' options d d' content s, source.SameUpTo Descriptor.MayReorder source' →
      d.MayReorder d' →
      Reducer.reduce ⟨source', .conventional, options⟩ d' content s =
        Reducer.reduce ⟨source, .conventional, options⟩ d content s := by
  have hreduce : ∀ source source' options d d' content s,
      source.SameUpTo Descriptor.MayReorder source' → d.MayReorder d' →
      Reducer.reduce ⟨source', .conventional, options⟩ d' content s =
        Reducer.reduce ⟨source, .conventional, options⟩ d content s := by
    intro source source' options d d' content s hsource hd
    have hreducers : Interchangeable ⟨source, .conventional, options⟩
        ⟨source', .conventional, options⟩ :=
      ⟨rfl, rfl, hsource.mono fun _ _ h => h.interchangeable⟩
    exact hreducers.reduce_eq hd.interchangeable content s
  refine ⟨?_, ?_, ?_, ?_, hreduce⟩
  · intro d hd key
    exact ⟨hd.length_filter_hasMany key, hd.length_filter_belongsTo key⟩
  · intro first others hfirst hothers key
    exact NamingRules.namesMany_snakeCase_iff hfirst hothers
  · intro name name' hname hname' hne
    exact NamingRules.ne_camelCase_of_ne hname hname' hne
  · intro source options d d' content s hd h
    exact hreduce source source options d d' content s (.refl (fun _ => .inl rfl) source)
      (.inr ⟨hd, h⟩)

/-- The descriptor of users with its attributes and associations in reverse order. -/
def sampleReversed : Descriptor :=
  { Sample.user with
    attributes := Sample.user.attributes.reverse
    hasMany := Sample.user.hasMany.reverse }

/-- The sample shop with this descriptor of users. -/
def sampleReversedSource : Source :=
  { Sample.shop.source with
    describe entity :=
      if entity = "User" then .ok sampleReversed else Sample.shop.source.describe entity }

theorem sample_conventional : Sample.user.Conventional where
  names_nodup := by decide
  names_snakeCase := by
    refine List.forall_mem_cons.mpr ⟨?_, List.forall_mem_singleton.mpr ?_⟩
    · exact ⟨"orders".toList, [], .ofAll (by decide) (by decide), nofun, by decide⟩
    · exact ⟨"addresses".toList, [], .ofAll (by decide) (by decide), nofun, by decide⟩
  foreignKeys_nodup := List.nodup_nil
  foreignKeys_singular := nofun

theorem sample_reorders : Sample.user.Reorders sampleReversed where
  name_eq := rfl
  table_eq := rfl
  idField_eq := rfl
  attributes := List.reverse_perm _
  hasMany := List.reverse_perm _
  belongsTo := .refl _

theorem sample_sameUpTo :
    Sample.shop.source.SameUpTo Descriptor.MayReorder sampleReversedSource where
  findMany_eq := rfl
  findOne_eq := rfl
  describe entity := by
    by_cases hentity : entity = "User"
    · subst hentity
      have hreorders : Sample.user.MayReorder sampleReversed :=
        .inr ⟨sample_conventional, sample_reorders⟩
      exact .inr ⟨Sample.user, sampleReversed, rfl, rfl, hreorders⟩
    · have hsame : sampleReversedSource.describe entity = Sample.shop.source.describe entity :=
        if_neg hentity
      rw [hsame]
      exact (Source.SameUpTo.refl (fun _ => .inl rfl) Sample.shop.source).describe entity

theorem sample_reversed :
    Sample.user.Conventional ∧ Sample.user.Reorders sampleReversed ∧
      Sample.shop.source.SameUpTo Descriptor.MayReorder sampleReversedSource ∧
      (sampleReversed.hasMany.map (·.name) = ["addresses", "orders"] ∧
        sampleReversed.hasMany ≠ Sample.user.hasMany) ∧
      (Sample.user.hasMany.filter fun link =>
        NamingRules.conventional.namesMany "orders" link.name).length ≤ 1 ∧
      NamingRules.conventional.namesMany "lineItems" "line_items" = true ∧
      NamingRules.camelCase "orders" ≠ NamingRules.camelCase "addresses" ∧
      Reducer.reduce ⟨Sample.shop.source, .conventional, .default⟩ sampleReversed
          (.one Sample.ann) Sample.selection =
        Sample.reducer.reduce Sample.user (.one Sample.ann) Sample.selection ∧
      Reducer.reduce ⟨sampleReversedSource, .conventional, .default⟩ sampleReversed
          (.one Sample.ann) Sample.selection =
        Sample.reducer.reduce Sample.user (.one Sample.ann) Sample.selection := by
  obtain ⟨honce, hforms, hdistinct, hroot, hall⟩ := reduce_of_reorders
  have hnames := sample_conventional.names_snakeCase
  refine ⟨sample_conventional, sample_reorders, sample_sameUpTo, by decide, ?_, ?_, ?_, ?_, ?_⟩
  · exact (honce Sample.user sample_conventional "orders").1
  · have hitems := hforms "line".toList ["items".toList] (.ofAll (by decide) (by decide))
      (List.forall_mem_singleton.mpr (.ofAll (by decide) (by decide))) "lineItems"
    exact hitems.mpr (.inr (by decide))
  · exact (hdistinct "orders" "addresses" (hnames _ (.head _)) (hnames _ (.tail _ (.head _)))
      (by decide)).1
  · exact hroot _ _ _ _ _ _ sample_conventional sample_reorders
  · exact hall _ _ _ _ _ _ _ sample_sameUpTo (.inr ⟨sample_conventional, sample_reorders⟩)

end Reducer
end SparseFields
