import SparseFields.Proofs.Reduction.Fields

/-!
# The requested shape

What a record shows under a selection, said without the reduction: one member for each selected
field, under the field's key, and for each of them the value that the schema and the answers of
the source call for, at every level.  The main statement is that a record reduced to a selection
shows exactly this.
-/

namespace SparseFields
namespace Reducer

open Run

/-- What a value must be to show a record of a descriptor. -/
abbrev Shape := Descriptor → Instance → Json → Prop

/-- What all records of a target show: the records copied whole, each as the object of all its
values, or, where a part is picked, one value for each of them in order, each in the shape of that
part. -/
inductive RecordsShow (r : Reducer) (target : String) (rows : List Instance) :
    Option Shape → Json → Prop
  | whole : RecordsShow r target rows none (.array (rows.map fun row => .object row.values))
  | part {shape : Shape} {d values} (described : r.source.describe target = .ok d)
      (shown : List.Forall₂ (shape d) rows values) :
      RecordsShow r target rows (some shape) (.array values)

/-- What one record shows: the record copied whole, as the object of all its values, or a value in
the shape of the picked part. -/
inductive RecordShows (d : Descriptor) (row : Instance) : Option Shape → Json → Prop
  | whole : RecordShows d row none (.object row.values)
  | part {shape : Shape} {value} (shown : shape d row value) :
      RecordShows d row (some shape) value

/-- What a field of a record shows.

An owned field shows the record's value, or `null` where it has none, whatever part is picked.  A
has-many association shows the records found for this record, or none where they cannot be fetched
and that is forgiven.  A belongs-to association shows the record found under this record's key, or
`null` where there is no key or no such record. -/
inductive FieldShows (r : Reducer) (d : Descriptor) (x : Instance) (field : String)
    (part : Option Shape) : Json → Prop
  | owned (owned : d.owns field = true) :
      FieldShows r d x field part ((x.get? field).getD .null)
  | records {link rows value} (names : d.resolve r.naming field = .many link)
      (found : r.source.findMany link.target (manyFilter d x link) = .ok rows)
      (shown : RecordsShow r link.target rows part value) : FieldShows r d x field part value
  | forgiven {link e} (names : d.resolve r.naming field = .many link)
      (failed : r.source.findMany link.target (manyFilter d x link) = .error e)
      (forgiven : r.options.emptyOnFetchFailure = true) :
      FieldShows r d x field part (.array [])
  | noKey {link} (names : d.resolve r.naming field = .one link)
      (noKey : (x.get? link.foreignKey).getD .null = .null) : FieldShows r d x field part .null
  | noRecord {link target} (names : d.resolve r.naming field = .one link)
      (key : (x.get? link.foreignKey).getD .null ≠ .null)
      (described : r.source.describe link.target = .ok target)
      (missing : r.source.findOne link.target
        (.single target.idField ((x.get? link.foreignKey).getD .null)) = .ok none) :
      FieldShows r d x field part .null
  | record {link target row value} (names : d.resolve r.naming field = .one link)
      (key : (x.get? link.foreignKey).getD .null ≠ .null)
      (described : r.source.describe link.target = .ok target)
      (found : r.source.findOne link.target
        (.single target.idField ((x.get? link.foreignKey).getD .null)) = .ok (some row))
      (labelled : row.entity = target.name) (shown : RecordShows target row part value) :
      FieldShows r d x field part value

/-- A value shows a record under a selection when it is an object whose keys are exactly the keys
of the selected fields, one for each of them, and under the key of each field the object holds what
the field shows, with the same of the selection inside for a picked part. -/
def HasShape (r : Reducer) (s : Selection) (d : Descriptor) (x : Instance) (value : Json) :
    Prop :=
  ∃ members, value = .object members ∧ SortedMap.Sorted members ∧
    (members.map (·.1)).Perm (s.fields.map (r.outputKey d)) ∧
    ∀ (field : String) (pick : Selection.Pick) (h : (field, pick) ∈ s.toList),
      ∃ shown, SortedMap.find? (r.outputKey d field) members = some shown ∧
        FieldShows r d x field
          (match pick, h with
            | .whole, _ => none
            | .part sub, _ => some (r.HasShape sub))
          shown
termination_by sizeOf s
decreasing_by exact Selection.sizeOf_part_lt ‹_›

variable (r : Reducer)

/-- An entry of a field shows the field, whatever becomes of related records, if that shows
them. -/
theorem fieldShows_of_entry {d : Descriptor} {x : Instance} {field : String}
    {shaping : Shaping} {part : Option Shape} {entry : String × Json}
    (hmany : ∀ target rows value, (shaping.many target rows).outcome = .ok value →
      RecordsShow r target rows part value)
    (hone : ∀ target row value, (shaping.one target row).outcome = .ok value →
      RecordShows target row part value)
    (h : (r.entry d x field shaping).outcome = .ok entry) :
    FieldShows r d x field part entry.2 := by
  obtain ⟨-, h⟩ := (r.entry_outcome_eq_ok_iff d x).mp h
  cases hfield : d.resolve r.naming field with
  | owned =>
      rw [hfield] at h
      rw [h]
      exact .owned (Descriptor.resolve_eq_owned_iff.mp hfield)
  | many link =>
      rw [hfield] at h
      rcases r.manyValue_outcome_eq_ok_iff.mp h with
        ⟨rows, hrows, hvalue⟩ | ⟨e, hfailed, hforgiven, hvalue⟩
      · exact .records hfield hrows (hmany _ _ _ hvalue)
      · rw [hvalue]
        exact .forgiven hfield hfailed hforgiven
  | one link =>
      rw [hfield] at h
      rcases r.oneValue_outcome_eq_ok_iff.mp h with
        ⟨hnull, hvalue⟩ | ⟨hkey, target, found, hdescribe, hfound, hvalue⟩
      · rw [hvalue]
        exact .noKey hfield hnull
      · rcases hvalue with ⟨rfl, hvalue⟩ | ⟨row, rfl, hname, hvalue⟩
        · rw [hvalue]
          exact .noRecord hfield hkey hdescribe hfound
        · exact .record hfield hkey hdescribe hfound hname (hone _ _ _ hvalue)
  | unknown =>
      rw [hfield] at h
      exact h.elim

/-- What a pick makes of related records shows them, if the reduction of records to a picked part
shows these. -/
theorem fieldShows_of_fieldEntry {d : Descriptor} {x : Instance} {level : Nat}
    {field : String} {pick : Selection.Pick} {part : Option Shape} {entry : String × Json}
    (hwhole : pick = .whole → part = none)
    (hpart : ∀ sub, pick = .part sub → ∃ shape : Shape, part = some shape ∧
      ∀ d x value, (r.reduceInstance d x (level + 1) sub).outcome = .ok value →
        shape d x value)
    (h : (r.fieldEntry d x level (field, pick)).outcome = .ok entry) :
    FieldShows r d x field part entry.2 := by
  refine r.fieldShows_of_entry ?_ ?_ h
  · intro target rows value hvalue
    cases pick with
    | whole =>
        rw [hwhole rfl]
        cases hvalue
        exact .whole
    | part sub =>
        obtain ⟨shape, rfl, hshape⟩ := hpart sub rfl
        obtain ⟨target', hdescribe, -, values, hvalues, rfl⟩ :=
          r.reduced_many_outcome_eq_ok_iff.mp hvalue
        exact .part hdescribe (hvalues.imp fun row value => hshape target' row value)
  · intro target row value hvalue
    cases pick with
    | whole =>
        rw [hwhole rfl]
        cases hvalue
        exact .whole
    | part sub =>
        obtain ⟨shape, rfl, hshape⟩ := hpart sub rfl
        exact .part (hshape target row value (r.reduced_one_outcome_eq_ok_iff.mp hvalue).2)

/-- A record reduced to a selection at any level has the shape of the selection. -/
theorem hasShape_of_reduceInstance {s : Selection} {d : Descriptor} {x : Instance}
    {level : Nat} {value : Json}
    (h : (r.reduceInstance d x level s).outcome = .ok value) : r.HasShape s d x value := by
  induction s using Selection.parts_induction generalizing d x level value with
  | step s ih =>
      obtain ⟨entries, hentries, hnodup, rfl⟩ :=
        (r.reduceInstance_outcome_eq_ok_iff d x level).mp h
      have hperm := SortedMap.ofList_perm hnodup
      have hsorted := SortedMap.sorted_ofList entries
      rw [HasShape]
      refine ⟨_, rfl, hsorted, ?_, ?_⟩
      · rw [← r.keys_of_fieldEntries d x level hentries]
        exact hperm.map _
      · intro field pick hmem
        obtain ⟨entry, hentry, hrun⟩ := exists_of_forall₂_mem hentries hmem
        have hkey := ((r.entry_outcome_eq_ok_iff d x).mp hrun).1
        refine ⟨entry.2, ?_, ?_⟩
        · rw [SortedMap.find?_eq_some_iff hsorted.keys_nodup, ← hkey]
          exact hperm.mem_iff.mpr hentry
        · refine r.fieldShows_of_fieldEntry ?_ ?_ hrun
          · rintro rfl
            rfl
          · rintro sub rfl
            exact ⟨r.HasShape sub, rfl, fun d x value => ih field sub hmem⟩

/-- When a record is reduced to a selection, the result shows exactly what is selected. -/
theorem reduce_one_hasShape (s : Selection) (d : Descriptor) (x : Instance) (value : Json)
    (h : (r.reduce d (.one x) s).outcome = .ok value) : r.HasShape s d x value :=
  r.hasShape_of_reduceInstance (r.reduceAt_one_outcome_eq_ok_iff.mp h).2

/-- A user's orders whole, and her id, under which nothing can be picked. -/
def sampleOrders : Selection :=
  .part "id" (.whole "name" .nil) (.whole "email" (.whole "orders" .nil))

/-- What is shown of these: she has no address for mail. -/
def sampleOrdersShown : Json :=
  .object [("email", .null), ("id", .int 1), ("order", .array
    [.object [("id", .int 10), ("status", .string "open"), ("userId", .int 1)]])]

/-- Of a user's orders the user whole. -/
def sampleOwners : Selection := .part "orders" (.whole "user" .nil) .nil

/-- What is shown of these. -/
def sampleOwnersShown : Json :=
  .object [("order", .array
    [.object [("user", .object [("id", .int 1), ("name", .string "Ann")])]])]

theorem sample_hasShape :
    (Sample.reducer.reduce Sample.user (.one Sample.ann) Sample.selection).outcome =
        .ok Sample.result ∧
      Sample.reducer.HasShape Sample.selection Sample.user Sample.ann Sample.result ∧
      (Sample.reducer.reduce Sample.user (.one Sample.ann) sampleOrders).outcome =
        .ok sampleOrdersShown ∧
      Sample.reducer.HasShape sampleOrders Sample.user Sample.ann sampleOrdersShown ∧
      (Sample.reducer.reduce Sample.user (.one Sample.ann) sampleOwners).outcome =
        .ok sampleOwnersShown ∧
      Sample.reducer.HasShape sampleOwners Sample.user Sample.ann sampleOwnersShown := by
  refine ⟨rfl, ?_, rfl, ?_, rfl, ?_⟩
  · exact Sample.reducer.reduce_one_hasShape _ _ _ _ rfl
  · exact Sample.reducer.reduce_one_hasShape _ _ _ _ rfl
  · exact Sample.reducer.reduce_one_hasShape _ _ _ _ rfl

end Reducer
end SparseFields
