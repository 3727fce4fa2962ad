import SparseFields.Proofs.Reduction.Nodes
import SparseFields.Proofs.Store.Columns

/-!
# Columns that are not read

A column of an entity is read where a field of its records is selected, where the records are taken
whole, where their keys lead to related records, and where they are looked for by it.  When no node
of a selection does any of this, stores that differ in the column only give runs that are the same:
they ask the same questions and end in the same way.

Both runs are kept side by side.  They hold records that are alike, each step of a reduction asks
the same of both, and the answers are again alike.
-/

namespace SparseFields

/-- A selected field of a node, being what it is, does not read a column of an entity.  Where the
node's own records are of the entity, the column is neither the field nor the key of an association.
An association to the entity is not taken whole, and its records are not looked for by the
column. -/
def Resolution.Overlooks (source : Source) (entity column : String) (node : Node)
    (choice : String × Selection.Pick) : Resolution → Prop
  | .owned => node.via = some entity → choice.1 ≠ column
  | .many link =>
      (node.via = some entity → node.descriptor.idField ≠ column) ∧
        (link.target = entity → choice.2 ≠ .whole ∧ link.foreignKey ≠ column)
  | .one link =>
      (node.via = some entity → link.foreignKey ≠ column) ∧
        (link.target = entity → choice.2 ≠ .whole ∧
          ∀ target, source.describe entity = .ok target → target.idField ≠ column)
  | .unknown => True

/-- A node does not read a column of an entity. -/
def Node.Overlooks (naming : NamingRules) (source : Source) (entity column : String)
    (node : Node) : Prop :=
  ∀ choice ∈ node.selection.toList,
    (node.descriptor.resolve naming choice.1).Overlooks source entity column node choice

/-- What is asked of the descriptor of an entity can be checked if it can be of any descriptor. -/
instance (source : Source) (entity : String) (P : Descriptor → Prop) [DecidablePred P] :
    Decidable (∀ target, source.describe entity = .ok target → P target) :=
  match source.describe entity with
  | .ok target =>
      decidable_of_iff (P target) ⟨fun h _ heq => Except.ok.inj heq ▸ h, fun h => h target rfl⟩
  | .error _ => .isTrue nofun

instance (source : Source) (entity column : String) (node : Node)
    (choice : String × Selection.Pick) :
    ∀ resolution : Resolution, Decidable (resolution.Overlooks source entity column node choice)
  | .owned => inferInstanceAs (Decidable (_ → _))
  | .many _ => inferInstanceAs (Decidable (_ ∧ _))
  | .one _ => inferInstanceAs (Decidable (_ ∧ _))
  | .unknown => .isTrue trivial

instance (naming : NamingRules) (source : Source) (entity column : String) (node : Node) :
    Decidable (node.Overlooks naming source entity column) :=
  inferInstanceAs (Decidable (∀ choice ∈ node.selection.toList, _))

namespace Reducer

open Run

/-- Reducers that differ in their sources only, and in these by a column of an entity at most. -/
structure SameBut (entity column : String) (r r' : Reducer) : Prop where
  naming_eq : r.naming = r'.naming
  options_eq : r.options = r'.options
  source : r.source.SameBut entity column r'.source

variable {entity column : String} {r r' : Reducer}

theorem SameBut.checkLevel_eq (h : SameBut entity column r r') (d : Descriptor) (level : Nat) :
    r.checkLevel d level = r'.checkLevel d level := by
  rw [checkLevel, checkLevel, h.options_eq]

/-! ## Content -/

theorem shapeEach_congr {R : Instance → Instance → Prop} {shape shape' : Instance → Run Json}
    (hshape : ∀ x y, R x y → shape x = shape' y) {xs ys : List Instance}
    (h : List.Forall₂ R xs ys) (index : Nat) :
    shapeEach shape index xs = shapeEach shape' index ys := by
  induction h generalizing index with
  | nil => rfl
  | cons hxy _ ih => rw [shapeEach, shapeEach, hshape _ _ hxy, ih]

/-- Content of the same form whose records are alike. -/
inductive ContentAlike (entity column : String) (via : Option String) : Content → Content → Prop
  | one {x y : Instance} (record : x.Alike entity column via y) :
      ContentAlike entity column via (.one x) (.one y)
  | many {xs ys : List Instance} (records : List.Forall₂ (Instance.Alike entity column via) xs ys) :
      ContentAlike entity column via (.many xs) (.many ys)

theorem ContentAlike.refl (entity column : String) (via : Option String) :
    ∀ content, ContentAlike entity column via content content
  | .one _ => .one (.inl rfl)
  | .many xs => .many (forall₂_alike_refl entity column via xs)

theorem SameBut.reduceAt_eq (h : SameBut entity column r r') {via : Option String}
    {d : Descriptor} {level : Nat} {s : Selection}
    (hone : ∀ x y, Instance.Alike entity column via x y →
      r.reduceInstance d x level s = r'.reduceInstance d y level s)
    {content content' : Content} (hcontent : ContentAlike entity column via content content') :
    r.reduceAt d level content s = r'.reduceAt d level content' s := by
  cases hcontent with
  | one hrecord => rw [reduceAt, reduceAt, h.checkLevel_eq, hone _ _ hrecord]
  | many hrecords =>
      rw [reduceAt_many, reduceAt_many, h.checkLevel_eq, shapeEach_congr hone hrecords]

/-! ## Associations -/

/-- What becomes of related records of a target is the same for records that are alike. -/
structure ShapingsAgree (entity column : String) (source : Source) (target : String)
    (shaping shaping' : Shaping) : Prop where
  many : ∀ rows rows', List.Forall₂ (Instance.Alike entity column (some target)) rows rows' →
    shaping.many target rows = shaping'.many target rows'
  one : ∀ d, source.describe target = .ok d →
    ∀ row row', Instance.Alike entity column (some target) row row' →
      shaping.one d row = shaping'.one d row'

theorem describe_congr {source source' : Source} {target : String}
    (h : source.describe target = source'.describe target) :
    describe source target = describe source' target := by
  rw [describe, describe, h]

theorem SameBut.shapingsAgree_of_pick (h : SameBut entity column r r') {target : String}
    {level : Nat} {pick : Selection.Pick} (hwhole : pick = .whole → target ≠ entity)
    (hpart : ∀ sub, pick = .part sub → ∀ d, r.source.describe target = .ok d →
      ∀ x y, Instance.Alike entity column (some target) x y →
        r.reduceInstance d x (level + 1) sub = r'.reduceInstance d y (level + 1) sub) :
    ShapingsAgree entity column r.source target (r.pickShaping level pick)
      (r'.pickShaping level pick) := by
  cases pick with
  | whole =>
      have hrows := @eq_of_forall₂_alike entity column target (hwhole rfl)
      constructor
      · intro rows rows' halike
        rw [hrows halike]
        rfl
      · intro d _ row row' halike
        have hrow := hrows (.cons halike .nil)
        rw [List.singleton_injective hrow]
        rfl
  | part sub =>
      constructor
      · intro rows rows' halike
        rw [pickShaping_part_many, pickShaping_part_many]
        rw [← describe_congr (h.source.describe_eq target)]
        cases hdescribe : r.source.describe target with
        | error e => rw [describe_andThen_of_error hdescribe, describe_andThen_of_error hdescribe]
        | ok d =>
            rw [describe_andThen_of_ok hdescribe, describe_andThen_of_ok hdescribe,
              h.reduceAt_eq (hpart sub rfl d hdescribe) (.many halike)]
      · intro d hdescribe row row' halike
        exact h.reduceAt_eq (hpart sub rfl d hdescribe) (.one halike)

section Values

variable {d : Descriptor} {x y : Instance} {shaping shaping' : Shaping}

theorem SameBut.manyValue_eq (h : SameBut entity column r r') {link : HasMany}
    (hid : x.get? d.idField = y.get? d.idField)
    (hforeign : link.target = entity → link.foreignKey ≠ column)
    (hshaping : ShapingsAgree entity column r.source link.target shaping shaping') :
    r.manyValue d x link shaping = r'.manyValue d y link shaping' := by
  have hfilter : manyFilter d x link = manyFilter d y link := by
    rw [manyFilter, manyFilter, hid]
  have hcolumns : link.target = entity → column ∉ (manyFilter d x link).columns := by
    intro htarget hmem
    exact hforeign htarget (List.mem_singleton.mp hmem).symm
  rcases h.source.findMany link.target (manyFilter d x link) hcolumns with
    ⟨e, hrefused, hrefused'⟩ | ⟨rows, rows', hfound, hfound', halike⟩
  · rw [hfilter] at hrefused'
    rw [r.manyValue_of_error hrefused, r'.manyValue_of_error hrefused', hfilter, h.options_eq]
  · rw [hfilter] at hfound'
    rw [r.manyValue_of_ok hfound, r'.manyValue_of_ok hfound', hfilter,
      hshaping.many rows rows' halike]

theorem SameBut.oneValue_eq (h : SameBut entity column r r') {link : BelongsTo}
    (hreference : x.get? link.foreignKey = y.get? link.foreignKey)
    (hid : link.target = entity →
      ∀ target, r.source.describe entity = .ok target → target.idField ≠ column)
    (hshaping : ShapingsAgree entity column r.source link.target shaping shaping') :
    r.oneValue x link shaping = r'.oneValue y link shaping' := by
  by_cases hnull : (x.get? link.foreignKey).getD .null = .null
  · rw [r.oneValue_of_null hnull, r'.oneValue_of_null (hreference ▸ hnull)]
  · rw [r.oneValue_of_ne_null hnull, r'.oneValue_of_ne_null (hreference ▸ hnull), ← hreference,
      ← describe_congr (h.source.describe_eq link.target)]
    cases hdescribe : r.source.describe link.target with
    | error e => rw [describe_andThen_of_error hdescribe, describe_andThen_of_error hdescribe]
    | ok target =>
        rw [describe_andThen_of_ok hdescribe, describe_andThen_of_ok hdescribe]
        have hcolumns : link.target = entity → column ∉ (Filter.single target.idField
            ((x.get? link.foreignKey).getD .null)).columns := by
          intro htarget hmem
          exact hid htarget target (htarget ▸ hdescribe) (List.mem_singleton.mp hmem).symm
        rcases h.source.findOne link.target _ hcolumns with
          ⟨e, hrefused, hrefused'⟩ | ⟨found, found', hfound, hfound', halike⟩
        · rw [findOne_andThen_of_error hrefused, findOne_andThen_of_error hrefused']
        · rw [findOne_andThen_of_ok hfound, findOne_andThen_of_ok hfound']
          cases halike with
          | none => rfl
          | @some row row' halike =>
              simp only [halike.entity_eq, hshaping.one target hdescribe row row' halike]

end Values

/-! ## Fields -/

/-- A field of records that are alike has the same entry, if it does not read the column and the
reductions to the picked part are the same. -/
theorem SameBut.fieldEntry_eq (h : SameBut entity column r r') {via : Option String}
    {d : Descriptor} {s : Selection} {field : String} {pick : Selection.Pick}
    (hfield : (d.resolve r.naming field).Overlooks r.source entity column ⟨via, d, s⟩
      (field, pick)) {x y : Instance} (halike : x.Alike entity column via y) {level : Nat}
    (hpart : ∀ sub, pick = .part sub → ∀ target, d.targetOf r.naming field = some target →
      ∀ d', r.source.describe target = .ok d' →
        ∀ x y, Instance.Alike entity column (some target) x y →
          r.reduceInstance d' x (level + 1) sub = r'.reduceInstance d' y (level + 1) sub) :
    r.fieldEntry d x level (field, pick) = r'.fieldEntry d y level (field, pick) := by
  have hshaping : ∀ target, d.targetOf r.naming field = some target →
      (target = entity → pick ≠ .whole) →
        ShapingsAgree entity column r.source target (r.pickShaping level pick)
          (r'.pickShaping level pick) := by
    intro target hlinked hwhole
    refine h.shapingsAgree_of_pick ?_ fun sub hsub => hpart sub hsub target hlinked
    intro hpick htarget
    exact hwhole htarget hpick
  rw [fieldEntry, fieldEntry, entry, entry, ← h.naming_eq]
  cases hresolve : d.resolve r.naming field with
  | owned =>
      rw [hresolve] at hfield
      have hvalue : x.get? field = y.get? field := halike.get?_eq hfield
      simp only [hvalue]
  | many link =>
      rw [hresolve] at hfield
      obtain ⟨hown, htarget⟩ := hfield
      have hrecords := hshaping link.target (Descriptor.targetOf_of_many hresolve)
        fun heq => (htarget heq).1
      simp only [h.manyValue_eq (halike.get?_eq hown) (fun heq => (htarget heq).2) hrecords]
  | one link =>
      rw [hresolve] at hfield
      obtain ⟨hown, htarget⟩ := hfield
      have hrecord := hshaping link.target (Descriptor.targetOf_of_one hresolve)
        fun heq => (htarget heq).1
      simp only [h.oneValue_eq (halike.get?_eq hown) (fun heq => (htarget heq).2) hrecord]
  | unknown => rfl

/-- Records that are alike are reduced in the same way, if no node of the selection reads the
column. -/
theorem SameBut.reduceInstance_eq (h : SameBut entity column r r') {s : Selection}
    {via : Option String} {d : Descriptor}
    (hnodes : ∀ node, Node.Reaches r.naming r.source ⟨via, d, s⟩ node →
      node.Overlooks r.naming r.source entity column) {x y : Instance}
    (halike : x.Alike entity column via y) (level : Nat) :
    r.reduceInstance d x level s = r'.reduceInstance d y level s := by
  induction s using Selection.parts_induction generalizing via d x y level with
  | step s ih =>
      have hentries : ∀ choice ∈ s.toList,
          r.fieldEntry d x level choice = r'.fieldEntry d y level choice := by
        rintro ⟨field, pick⟩ hmem
        refine h.fieldEntry_eq (hnodes _ (.here _) _ hmem) halike ?_
        rintro sub rfl target hlinked d' hdescribe x y halike
        -- The nodes of a part are nodes of the selection, now reached through its target.
        refine ih field sub hmem ?_ halike (level + 1)
        intro node hbelow
        exact hnodes node (.part hmem hlinked hdescribe hbelow)
      rw [reduceInstance, reduceInstance, reduceFields_eq_writeEach, reduceFields_eq_writeEach,
        List.map_congr_left hentries]

/-! ## Stores that differ in a column -/

/-- A column of an entity that no node of a selection reads has no influence: over stores that
differ in it only, the same questions are asked and the outcome is the same. -/
theorem reduce_eq_of_overlooks {entity column : String} {store store' : Store}
    (hstores : store.SameBut entity column store') (naming : NamingRules)
    (options : ReduceOptions) (d : Descriptor) (s : Selection)
    (hnodes : ∀ node, Node.Reaches naming store.source (.root d s) node →
      node.Overlooks naming store.source entity column) (content : Content) :
    (Reducer.reduce ⟨store.source, naming, options⟩ d content s).outcome =
        (Reducer.reduce ⟨store'.source, naming, options⟩ d content s).outcome ∧
      (Reducer.reduce ⟨store.source, naming, options⟩ d content s).calls =
        (Reducer.reduce ⟨store'.source, naming, options⟩ d content s).calls := by
  have hreducers : SameBut entity column ⟨store.source, naming, options⟩
      ⟨store'.source, naming, options⟩ := ⟨rfl, rfl, hstores.source⟩
  have hruns := hreducers.reduceAt_eq
    (fun x y halike => hreducers.reduceInstance_eq hnodes halike 1)
    (ContentAlike.refl entity column none content)
  exact ⟨congrArg Run.outcome hruns, congrArg Run.calls hruns⟩

/-- The sample shop, where the order has a total. -/
def samplePriced : Store :=
  { Sample.shop with
    tables := Sample.shop.tables.insert "Order"
      [⟨"Order", [("id", .int 10), ("status", .string "open"), ("total", .int 99),
        ("userId", .int 1)]⟩] }

theorem sample_sameBut : Sample.shop.SameBut "Order" "total" samplePriced where
  descriptors_eq := rfl
  failures_eq := rfl
  table_eq other hother := by
    rw [samplePriced, SortedMap.find?_insert, if_neg (Ne.symm hother)]
  table_agree := by
    refine .some (.cons ⟨rfl, ?_⟩ .nil)
    intro field hfield
    simp [Instance.get?, SortedMap.find?, Ne.symm hfield]

theorem sample_overlooks :
    Sample.shop.SameBut "Order" "total" samplePriced ∧
      (∀ node, Node.Reaches .conventional Sample.shop.source
          (.root Sample.user Sample.selection) node →
        node.Overlooks .conventional Sample.shop.source "Order" "total") ∧
      (Sample.reducer.reduce Sample.user (.one Sample.ann) Sample.selection).outcome =
        (Reducer.reduce ⟨samplePriced.source, .conventional, .default⟩ Sample.user
          (.one Sample.ann) Sample.selection).outcome ∧
      (Sample.reducer.reduce Sample.user (.one Sample.ann) Sample.selection).calls =
        (Reducer.reduce ⟨samplePriced.source, .conventional, .default⟩ Sample.user
          (.one Sample.ann) Sample.selection).calls := by
  have hnodes : ∀ node,
      Node.Reaches .conventional Sample.shop.source (.root Sample.user Sample.selection) node →
        node.Overlooks .conventional Sample.shop.source "Order" "total" :=
    Sample.forall_nodes (by decide) (by decide) (by decide)
  have h := reduce_eq_of_overlooks sample_sameBut .conventional .default Sample.user
    Sample.selection hnodes (.one Sample.ann)
  exact ⟨sample_sameBut, hnodes, h⟩

end Reducer
end SparseFields
