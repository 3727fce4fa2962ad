import SparseFields.Proofs.SortedMap
import SparseFields.Store.Memory

/-!
# Stores by their history

A store comes about from the empty one by registering entities, inserting records and telling it
on which queries to fail.  Descriptors and tables of records are kept apart, but whatever the order
of these changes, the same entities have the one and the other, every descriptor stands under its
own name, and every record in a table is labelled with the table's entity.  A change keeps these
three invariants, so that they hold of every history.

They let a query be read off the descriptors: a store that was never told to fail answers every
query about a registered entity, with records of that entity.
-/

namespace SparseFields
namespace Store

/-- What is done to a store. -/
inductive Change
  | register (d : Descriptor)
  | insert (entity : String) (values : Json)
  | failOn (entity : String) (filter : Filter)

/-- Whether a change makes a query fail. -/
def Change.isFailOn : Change → Bool
  | .failOn _ _ => true
  | _ => false

/-- A store after a change.  A record that cannot be inserted leaves it as it is. -/
def apply (store : Store) : Change → Store
  | .register d => store.register d
  | .insert entity values =>
      match store.insert entity values with
      | .ok store' => store'
      | .error _ => store
  | .failOn entity filter => store.failOn entity filter

/-- The store that a list of changes leads to from the empty one. -/
def after (changes : List Change) : Store :=
  changes.foldl apply empty

/-- Something that holds of the empty store, and that every change keeps, holds of every store. -/
theorem after_induction {P : Store → Prop} (hempty : P empty) {changes : List Change}
    (hchange : ∀ store, ∀ change ∈ changes, P store → P (store.apply change)) :
    P (after changes) :=
  List.foldlRecOn changes apply hempty fun store hstore change hmem =>
    hchange store change hmem hstore

/-! ## What a change does -/

/-- An insertion that succeeds puts an object into the table of a registered entity. -/
theorem insert_eq_ok {store store' : Store} {entity : String} {values : Json}
    (h : store.insert entity values = .ok store') :
    store.descriptors.contains entity = true ∧
      ∃ members, values = .object members ∧ store' = store.push entity ⟨entity, members⟩ := by
  rw [insert] at h
  split at h
  · next hregistered =>
    cases values with
    | object members => exact ⟨hregistered, members, rfl, (Except.ok.inj h).symm⟩
    | _ => cases h
  · cases h

/-- A change registers an entity, puts a record into the table of a registered one, leaves the store
as it is, or adds a failure. -/
theorem apply_cases (store : Store) (change : Change) :
    (∃ d, change = .register d ∧ store.apply change = store.register d) ∨
      (∃ entity members, change = .insert entity (.object members) ∧
        store.descriptors.contains entity = true ∧
        store.apply change = store.push entity ⟨entity, members⟩) ∨
      (∃ entity values e, change = .insert entity values ∧
        store.insert entity values = .error e ∧ store.apply change = store) ∨
      ∃ entity filter, change = .failOn entity filter ∧
        store.apply change = store.failOn entity filter := by
  cases change with
  | register d => exact .inl ⟨d, rfl, rfl⟩
  | failOn entity filter => exact .inr (.inr (.inr ⟨entity, filter, rfl, rfl⟩))
  | insert entity values =>
      cases hinsert : store.insert entity values with
      | error e =>
          exact .inr (.inr (.inl ⟨entity, values, e, rfl, hinsert, by rw [apply, hinsert]⟩))
      | ok store' =>
          obtain ⟨hregistered, members, rfl, rfl⟩ := insert_eq_ok hinsert
          exact .inr (.inl ⟨entity, members, rfl, hregistered, by rw [apply, hinsert]⟩)

theorem apply_descriptors (store : Store) (change : Change) :
    (store.apply change).descriptors =
      match change with
      | .register d => store.descriptors.insert d.name d
      | _ => store.descriptors := by
  obtain ⟨d, rfl, h⟩ | ⟨entity, members, rfl, -, h⟩ | ⟨entity, values, e, rfl, -, h⟩ |
    ⟨entity, filter, rfl, h⟩ := store.apply_cases change
  all_goals exact (congrArg Store.descriptors h).trans rfl

theorem apply_failures {store : Store} {change : Change} (h : change.isFailOn = false) :
    (store.apply change).failures = store.failures := by
  obtain ⟨d, rfl, happly⟩ | ⟨entity, members, rfl, -, happly⟩ |
    ⟨entity, values, e, rfl, -, happly⟩ | ⟨entity, filter, rfl, -⟩ := store.apply_cases change
  case inr.inr.inr => cases h
  all_goals exact (congrArg Store.failures happly).trans rfl

/-- A registration leaves all records where they are: a table that it adds is empty. -/
theorem rowsOf_register (store : Store) (d : Descriptor) (entity : String) :
    (store.register d).rowsOf entity = store.rowsOf entity := by
  rw [rowsOf, register, SortedMap.find?_insert]
  split
  · next hname =>
    subst hname
    rfl
  · rfl

/-- A record is put behind those of its own table. -/
theorem rowsOf_push (store : Store) (entity other : String) (x : Instance) :
    (store.push entity x).rowsOf other =
      store.rowsOf other ++ if entity = other then [x] else [] := by
  rw [rowsOf, push, SortedMap.find?_insert]
  split
  · next hother =>
    subst hother
    rfl
  · rw [List.append_nil]
    rfl

theorem describe_eq_ok_iff {store : Store} {entity : String} {d : Descriptor} :
    store.describe entity = .ok d ↔ store.descriptors.find? entity = some d := by
  rw [describe]
  cases store.descriptors.find? entity with
  | none => exact iff_of_false nofun nofun
  | some d' => simp

/-! ## What holds of every history -/

/-- The tables and the descriptors of a store belong together. -/
structure Consistent (store : Store) : Prop where
  /-- Every descriptor stands under its own name. -/
  named : ∀ entity d, store.describe entity = .ok d → d.name = entity
  /-- The entities that have a table are those that have a descriptor. -/
  sameKeys : ∀ entity, store.tables.contains entity = store.descriptors.contains entity
  /-- The records in a table are labelled with its entity. -/
  labelled : ∀ entity, ∀ row ∈ store.rowsOf entity, row.entity = entity

theorem consistent_empty : empty.Consistent :=
  ⟨nofun, fun _ => rfl, nofun⟩

namespace Consistent

variable {store : Store} (h : store.Consistent)

include h

theorem register (d : Descriptor) : (store.register d).Consistent where
  named entity d' hd := by
    rw [describe_eq_ok_iff, Store.register, SortedMap.find?_insert] at hd
    split at hd
    · next hname =>
      cases hd
      exact hname
    · exact h.named entity d' (describe_eq_ok_iff.mpr hd)
  sameKeys entity := by
    rw [Store.register, SortedMap.contains_insert, SortedMap.contains_insert, h.sameKeys]
  labelled entity row hrow := by
    rw [rowsOf_register] at hrow
    exact h.labelled entity row hrow

/-- A record of a registered entity finds its table there. -/
theorem push {entity : String} (hregistered : store.descriptors.contains entity = true)
    (members : List (String × Json)) : (store.push entity ⟨entity, members⟩).Consistent where
  named := h.named
  sameKeys other := by
    rw [Store.push, SortedMap.contains_insert, h.sameKeys]
    by_cases hother : entity = other
    · rw [← hother, hregistered, Bool.or_true]
    · rw [beq_eq_false_iff_ne.mpr hother, Bool.false_or]
  labelled other row hrow := by
    rw [rowsOf_push] at hrow
    rcases List.mem_append.mp hrow with hrow | hrow
    · exact h.labelled other row hrow
    · split at hrow
      · next hother =>
        rw [List.mem_singleton.mp hrow]
        exact hother
      · cases hrow

theorem failOn (entity : String) (filter : Filter) : (store.failOn entity filter).Consistent :=
  ⟨h.named, h.sameKeys, h.labelled⟩

theorem apply (change : Change) : (store.apply change).Consistent := by
  obtain ⟨d, -, happly⟩ | ⟨entity, members, -, hregistered, happly⟩ |
    ⟨entity, values, e, -, -, happly⟩ | ⟨entity, filter, -, happly⟩ := store.apply_cases change
  · rw [happly]
    exact h.register d
  · rw [happly]
    exact h.push hregistered members
  · rw [happly]
    exact h
  · rw [happly]
    exact h.failOn entity filter

end Consistent

theorem consistent_after (changes : List Change) : (after changes).Consistent :=
  after_induction consistent_empty fun _ change _ hstore => hstore.apply change

theorem failures_after {changes : List Change}
    (h : ∀ change ∈ changes, change.isFailOn = false) : (after changes).failures = [] :=
  after_induction (P := fun store => store.failures = []) rfl fun _ change hmem hstore =>
    (apply_failures (h change hmem)).trans hstore

/-! ## Queries -/

variable {store : Store} {entity : String} {filter : Filter}

theorem contains_of_describe {d : Descriptor} (h : store.describe entity = .ok d) :
    store.descriptors.contains entity = true := by
  rw [SortedMap.contains, describe_eq_ok_iff.mp h]
  rfl

/-- The records that a query answers with are those in the table that the filter accepts. -/
theorem findMany_eq_ok {rows : List Instance} (h : store.findMany entity filter = .ok rows) :
    rows = (store.rowsOf entity).filter filter.accepts := by
  rw [findMany] at h
  split at h
  · cases h
  · split at h
    · next table htable =>
      rw [rowsOf, htable]
      exact (Except.ok.inj h).symm
    · cases h

theorem mem_rowsOf_of_findMany {rows : List Instance} {row : Instance}
    (h : store.findMany entity filter = .ok rows) (hrow : row ∈ rows) :
    row ∈ store.rowsOf entity := by
  rw [findMany_eq_ok h] at hrow
  exact List.mem_of_mem_filter hrow

/-- The first record found is one of all records found. -/
theorem findOne_eq_ok_some {row : Instance} (h : store.findOne entity filter = .ok (some row)) :
    ∃ rows, store.findMany entity filter = .ok rows ∧ row ∈ rows := by
  rw [findOne] at h
  cases hrows : store.findMany entity filter with
  | error e =>
      rw [hrows] at h
      cases h
  | ok rows =>
      rw [hrows] at h
      exact ⟨rows, rfl, List.mem_of_head? (Except.ok.inj h)⟩

namespace Consistent

variable (h : store.Consistent)

include h

/-- A query that is not made to fail is answered if its entity is registered: then there is a table
for it. -/
theorem findMany_eq (entity : String) (filter : Filter) :
    store.findMany entity filter =
      if store.fails entity filter then .error (.query entity failureReason)
      else if store.descriptors.contains entity then
        .ok ((store.rowsOf entity).filter filter.accepts)
      else .error (.unknownEntity entity) := by
  rw [findMany, ← h.sameKeys, SortedMap.contains, rowsOf]
  cases store.tables.find? entity with
  | none => rfl
  | some table => rfl

/-- In a store without failures every query about a registered entity is answered. -/
theorem findMany_of_describe {d : Descriptor} (hfailures : store.failures = [])
    (hdescribe : store.describe entity = .ok d) :
    store.findMany entity filter = .ok ((store.rowsOf entity).filter filter.accepts) := by
  have hfails : store.fails entity filter = false := by
    rw [fails, hfailures]
    rfl
  rw [h.findMany_eq, hfails, contains_of_describe hdescribe]
  rfl

theorem entity_of_findOne {row : Instance} (hfound : store.findOne entity filter = .ok (some row)) :
    row.entity = entity := by
  obtain ⟨rows, hrows, hmem⟩ := findOne_eq_ok_some hfound
  exact h.labelled entity row (mem_rowsOf_of_findMany hrows hmem)

/-- The record found and the descriptor of an entity bear the same name. -/
theorem entity_eq_name {target : Descriptor} {row : Instance}
    (hdescribed : store.describe entity = .ok target)
    (hfound : store.findOne entity filter = .ok (some row)) : row.entity = target.name := by
  rw [h.entity_of_findOne hfound, h.named entity target hdescribed]

end Consistent
end Store
end SparseFields
