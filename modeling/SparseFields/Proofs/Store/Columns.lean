import SparseFields.Proofs.Store.History
import Mathlib.Data.List.Forall2

/-!
# Stores that differ in a column

Two stores may hold the same records but for the values of one column of one entity.  A query that
does not ask for this column cannot tell them apart: it is refused by both for the same reason, or
it finds records in the same places, and these differ in this column at most.
-/

namespace SparseFields

/-! ## Records -/

/-- Records that differ in a column at most. -/
structure Instance.AgreesBut (column : String) (x y : Instance) : Prop where
  entity_eq : x.entity = y.entity
  get?_eq : ∀ field, field ≠ column → x.get? field = y.get? field

/-- Records that are equal, or that were found as records of an entity and differ in a column of it
at most. -/
def Instance.Alike (entity column : String) (via : Option String) (x y : Instance) : Prop :=
  x = y ∨ via = some entity ∧ x.AgreesBut column y

theorem Instance.Alike.entity_eq {entity column : String} {via : Option String} {x y : Instance}
    (h : x.Alike entity column via y) : x.entity = y.entity := by
  rcases h with rfl | ⟨-, hagrees⟩
  · rfl
  · exact hagrees.entity_eq

theorem Instance.Alike.get?_eq {entity column : String} {via : Option String} {x y : Instance}
    (h : x.Alike entity column via y) {field : String}
    (hfield : via = some entity → field ≠ column) : x.get? field = y.get? field := by
  rcases h with rfl | ⟨hvia, hagrees⟩
  · rfl
  · exact hagrees.get?_eq field (hfield hvia)

/-- Equal lists of records are alike. -/
theorem forall₂_alike_refl (entity column : String) (via : Option String) (rows : List Instance) :
    List.Forall₂ (Instance.Alike entity column via) rows rows :=
  List.forall₂_same.mpr fun _ _ => .inl rfl

/-- Records that are not of the entity are equal if they are alike. -/
theorem eq_of_forall₂_alike {entity column target : String} (htarget : target ≠ entity)
    {rows rows' : List Instance}
    (h : List.Forall₂ (Instance.Alike entity column (some target)) rows rows') : rows = rows' := by
  apply List.forall₂_eq_eq_eq ▸ h.imp ?_
  rintro x y (rfl | ⟨hvia, -⟩)
  · rfl
  · exact absurd (Option.some.inj hvia) htarget

/-! ## Answers -/

/-- Answers that are refused for the same reason, or related by what they hold. -/
def SameAnswer {α : Type} (R : α → α → Prop) (answer answer' : Except StoreError α) : Prop :=
  (∃ e, answer = .error e ∧ answer' = .error e) ∨
    ∃ a b, answer = .ok a ∧ answer' = .ok b ∧ R a b

theorem SameAnswer.map {α β : Type} {R : α → α → Prop} {S : β → β → Prop} {f : α → β}
    (hf : ∀ a b, R a b → S (f a) (f b)) {answer answer' : Except StoreError α}
    (h : SameAnswer R answer answer') : SameAnswer S (answer.map f) (answer'.map f) := by
  rcases h with ⟨e, rfl, rfl⟩ | ⟨a, b, rfl, rfl, hab⟩
  · exact .inl ⟨e, rfl, rfl⟩
  · exact .inr ⟨f a, f b, rfl, rfl, hf a b hab⟩

/-- Sources that are told apart by a column of an entity at most. -/
structure Source.SameBut (entity column : String) (source source' : Source) : Prop where
  describe_eq : ∀ target, source.describe target = source'.describe target
  findMany : ∀ target filter, (target = entity → column ∉ Filter.columns filter) →
    SameAnswer (List.Forall₂ (Instance.Alike entity column (some target)))
      (source.findMany target filter) (source'.findMany target filter)
  findOne : ∀ target filter, (target = entity → column ∉ Filter.columns filter) →
    SameAnswer (Option.Rel (Instance.Alike entity column (some target)))
      (source.findOne target filter) (source'.findOne target filter)

/-! ## Stores -/

/-- A filter accepts records alike that agree on its columns. -/
theorem Filter.accepts_eq {filter : Filter} {x y : Instance}
    (h : ∀ column ∈ filter.columns, x.get? column = y.get? column) :
    filter.accepts x = filter.accepts y := by
  rw [accepts, accepts, Bool.eq_iff_iff, List.all_eq_true, List.all_eq_true]
  apply forall₂_congr
  rintro ⟨column, expected⟩ hcondition
  have hcolumn : column ∈ filter.columns := List.mem_map.mpr ⟨_, hcondition, rfl⟩
  show Filter.meets (x.get? column) expected = true ↔ Filter.meets (y.get? column) expected = true
  rw [h column hcolumn]

namespace Store

/-- Stores with the same descriptors, the same failures, and the same tables but for a column in
the table of an entity. -/
structure SameBut (entity column : String) (store store' : Store) : Prop where
  descriptors_eq : store.descriptors = store'.descriptors
  failures_eq : store.failures = store'.failures
  table_eq : ∀ other, other ≠ entity → store.tables.find? other = store'.tables.find? other
  table_agree : Option.Rel (List.Forall₂ (Instance.AgreesBut column))
    (store.tables.find? entity) (store'.tables.find? entity)

variable {entity column : String} {store store' : Store}

theorem filter_agree {filter : Filter} (hfilter : column ∉ filter.columns)
    {rows rows' : List Instance} (h : List.Forall₂ (Instance.AgreesBut column) rows rows') :
    List.Forall₂ (Instance.AgreesBut column) (rows.filter filter.accepts)
      (rows'.filter filter.accepts) := by
  have haccepts : ∀ x y, Instance.AgreesBut column x y →
      (filter.accepts x = true ↔ filter.accepts y = true) := by
    intro x y hagrees
    rw [Filter.accepts_eq fun other hother =>
      hagrees.get?_eq other (ne_of_mem_of_not_mem hother hfilter)]
  exact List.rel_filter (fun x y => haccepts x y) h

theorem SameBut.findMany (h : store.SameBut entity column store') {target : String}
    {filter : Filter} (hfilter : target = entity → column ∉ filter.columns) :
    SameAnswer (List.Forall₂ (Instance.Alike entity column (some target)))
      (store.findMany target filter) (store'.findMany target filter) := by
  have hfails : store.fails target filter = store'.fails target filter := by
    rw [fails, fails, h.failures_eq]
  rw [Store.findMany, Store.findMany, hfails]
  split
  · exact .inl ⟨_, rfl, rfl⟩
  · -- Only the table of the entity itself may differ, and there the filter does not see the column.
    by_cases htarget : target = entity
    · subst htarget
      have hagree := h.table_agree
      generalize store.tables.find? target = table, store'.tables.find? target = table'
        at hagree ⊢
      cases hagree with
      | none => exact .inl ⟨_, rfl, rfl⟩
      | some hrows =>
          refine .inr ⟨_, _, rfl, rfl, (filter_agree (hfilter rfl) hrows).imp ?_⟩
          exact fun x y hagrees => .inr ⟨rfl, hagrees⟩
    · rw [h.table_eq target htarget]
      cases store'.tables.find? target with
      | none => exact .inl ⟨_, rfl, rfl⟩
      | some rows => exact .inr ⟨_, _, rfl, rfl, forall₂_alike_refl _ _ _ _⟩

theorem head?_rel {R : Instance → Instance → Prop} (rows rows' : List Instance)
    (h : List.Forall₂ R rows rows') : Option.Rel R rows.head? rows'.head? := by
  cases h with
  | nil => exact .none
  | cons hrow _ => exact .some hrow

/-- Sources over such stores are told apart by the column at most. -/
theorem SameBut.source (h : store.SameBut entity column store') :
    store.source.SameBut entity column store'.source where
  describe_eq target := by
    show store.describe target = store'.describe target
    rw [describe, describe, h.descriptors_eq]
  findMany _ _ hfilter := h.findMany hfilter
  findOne _ _ hfilter := (h.findMany hfilter).map head?_rel

end Store
end SparseFields
