import SparseFields.Proofs.Reduction.Failures
import SparseFields.Proofs.Reduction.Joins
import SparseFields.Request.Service

/-!
# Items of a list

The records of an entity can be asked for all at once, or one by one with an id.  Both answers are
made of the same parts: what a record comes to on its own.  The list is answered when every record
comes to a value, and else refused for the first one that does not; a single record is the first one
with the id.  So the one answer can be read off the other, as far as the list got.
-/

namespace SparseFields

/-- The id of a record, which is not null, has a text. -/
def Instance.HasId (x : Instance) (idField id : String) : Prop :=
  ∃ v, x.get? idField = some v ∧ v ≠ .null ∧ textForm v = some id

theorem Instance.hasId_iff_sameKey {x : Instance} {idField id : String} :
    x.HasId idField id ↔ SameKey (x.get? idField) (some (.string id)) := by
  constructor
  · rintro ⟨v, hv, hne, htext⟩
    exact ⟨v, .string id, hv, rfl, hne, nofun, htext⟩
  · rintro ⟨v, w, hv, hw, hne, -, htext⟩
    cases hw
    exact ⟨v, hv, hne, htext⟩

instance (x : Instance) (idField id : String) : Decidable (x.HasId idField id) :=
  decidable_of_iff _ Instance.hasId_iff_sameKey.symm

/-- The place of the first record of an entity that has an id. -/
def Store.placeOf (store : Store) (entity idField id : String) : Option Nat :=
  (store.rowsOf entity).findIdx? fun x => x.HasId idField id

namespace Service

open Run Reducer

variable {service : Service} {d : Descriptor}

/-! ## What a record comes to -/

/-- What is shown of a record: all of it, or what a selection leaves. -/
def shown (service : Service) (d : Descriptor) (selection : Option Selection) (x : Instance) :
    Except ReduceError Json :=
  match selection with
  | none => .ok x.toJson
  | some s => (service.reducer.reduceInstance d x 1 s).outcome

theorem respond_of_ok {content : Content} {s : Selection} {value : Json}
    (h : (service.reducer.reduce d content s).outcome = .ok value) :
    service.respond d content (some s) = .content value := by
  rw [respond, readContent_some, h]

theorem respond_of_error {content : Content} {s : Selection} {e : ReduceError}
    (h : (service.reducer.reduce d content s).outcome = .error e) :
    service.respond d content (some s) = .reduceError e := by
  rw [respond, readContent_some, h]

variable (hdepth : 1 ≤ service.options.maxDepth) {selection : Option Selection}

include hdepth

theorem respond_one_of_ok {x : Instance} {value : Json}
    (h : service.shown d selection x = .ok value) :
    service.respond d (.one x) selection = .content value := by
  cases selection with
  | none =>
      cases h
      rfl
  | some s => exact respond_of_ok ((reduceAt_one_outcome_eq_ok_iff _).mpr ⟨hdepth, h⟩)

theorem respond_one_of_error {x : Instance} {e : ReduceError}
    (h : service.shown d selection x = .error e) :
    service.respond d (.one x) selection = .reduceError e := by
  cases selection with
  | none => cases h
  | some s =>
      exact respond_of_error ((reduceAt_one_outcome_eq_error_iff _).mpr (.inr ⟨hdepth, h⟩))

theorem respond_many_of_ok {xs : List Instance} {values : List Json}
    (h : List.Forall₂ (fun x value => service.shown d selection x = .ok value) xs values) :
    service.respond d (.many xs) selection = .content (.array values) := by
  cases selection with
  | none =>
      have hvalues : xs.map Instance.toJson = values := by
        apply List.forall₂_eq_eq_eq ▸ List.forall₂_map_left_iff.mpr _
        exact h.imp fun _ _ hvalue => Except.ok.inj hvalue
      rw [← hvalues]
      rfl
  | some s =>
      exact respond_of_ok ((reduceAt_many_outcome_eq_ok_iff _).mpr ⟨hdepth, values, h, rfl⟩)

theorem respond_many_of_error {before after : List Instance} {x : Instance} {e : ReduceError}
    (hbefore : ∀ y ∈ before, ∃ value, service.shown d selection y = .ok value)
    (h : service.shown d selection x = .error e) :
    service.respond d (.many (before ++ x :: after)) selection =
      .reduceError (.atIndex before.length e) := by
  cases selection with
  | none => cases h
  | some s =>
      exact respond_of_error ((reduceAt_many_outcome_eq_error_iff _).mpr
        (.inr ⟨hdepth, before, x, after, e, rfl, hbefore, h, rfl⟩))

omit hdepth

/-! ## Lists and items -/

section Records

variable {store : Store} {entity : String} (hsource : service.source = store.source)
  (hstore : store.Consistent) (hfailures : store.failures = [])
  (hdescribe : store.describe entity = .ok d)

include hsource hdescribe in
theorem describe_source : service.source.describe entity = .ok d := by
  rw [hsource]
  exact hdescribe

include hsource hstore hfailures hdescribe

theorem listRecords_eq :
    service.listRecords entity selection =
      service.respond d (.many (store.rowsOf entity)) selection := by
  have hall : (store.rowsOf entity).filter Filter.empty.accepts = store.rowsOf entity :=
    List.filter_eq_self.mpr fun _ _ => rfl
  have hmany : service.source.findMany entity .empty = .ok (store.rowsOf entity) := by
    rw [hsource, ← hall]
    exact hstore.findMany_of_describe hfailures hdescribe
  simp only [listRecords, readList, Exchange.ask, describe_source hsource hdescribe, hmany, respond]

/-- The record that is shown is the first one with the id. -/
theorem showRecord_eq (id : String) :
    service.showRecord entity id selection =
      match (store.rowsOf entity).find? fun x => x.HasId d.idField id with
      | none => .notFound entity id
      | some x => service.respond d (.one x) selection := by
  have hholding : (store.holding entity d.idField (some (.string id))).head? =
      (store.rowsOf entity).find? fun x => x.HasId d.idField id := by
    rw [Store.holding, List.head?_filter]
    simp only [Instance.hasId_iff_sameKey]
  have hfound : store.findOne entity
      (.single d.idField ((some (Json.string id)).getD .null)) =
      .ok (store.holding entity d.idField (some (.string id))).head? :=
    hstore.findOne_single hfailures hdescribe
  have hone : service.source.findOne entity (.single d.idField (.string id)) =
      .ok ((store.rowsOf entity).find? fun x => x.HasId d.idField id) := by
    rw [hsource, ← hholding]
    exact hfound
  simp only [showRecord, readItem, Exchange.ask, describe_source hsource hdescribe, hone]
  cases (store.rowsOf entity).find? fun x => x.HasId d.idField id with
  | none => rfl
  | some x => rfl

/-- The place of an id leads to the record that is shown. -/
theorem showRecord_of_placeOf {id : String} {i : Nat}
    (hplace : store.placeOf entity d.idField id = some i) :
    ∃ x, (store.rowsOf entity)[i]? = some x ∧
      service.showRecord entity id selection = service.respond d (.one x) selection := by
  have hplace' : (store.rowsOf entity).findIdx? (fun x => x.HasId d.idField id) = some i := hplace
  obtain ⟨hi, -⟩ := List.findIdx?_eq_some_iff_getElem.mp hplace'
  have hfind : (store.rowsOf entity).find? (fun x => x.HasId d.idField id) =
      some (store.rowsOf entity)[i] := by
    rw [List.find?_eq_bind_findIdx?_getElem?, hplace']
    exact List.getElem?_eq_getElem hi
  refine ⟨_, List.getElem?_eq_getElem hi, ?_⟩
  rw [showRecord_eq hsource hstore hfailures hdescribe id, hfind]

theorem showRecord_of_no_place {id : String}
    (hplace : store.placeOf entity d.idField id = none) :
    service.showRecord entity id selection = .notFound entity id := by
  have hfind : (store.rowsOf entity).find? (fun x => x.HasId d.idField id) = none := by
    rw [List.find?_eq_none]
    intro x hx
    exact ne_true_of_eq_false (List.findIdx?_eq_none_iff.mp hplace x hx)
  rw [showRecord_eq hsource hstore hfailures hdescribe id, hfind]

/-- Where every record comes to a value, an item is the value at the place of its id. -/
theorem showRecord_of_all_shown
    (hdepth : 1 ≤ service.options.maxDepth) {values : List Json}
    (hvalues : List.Forall₂ (fun x value => service.shown d selection x = .ok value)
      (store.rowsOf entity) values)
    {id : String} {i : Nat} (hplace : store.placeOf entity d.idField id = some i) :
    ∃ value, values[i]? = some value ∧
      service.showRecord entity id selection = .content value := by
  obtain ⟨x, hx, hshow⟩ := showRecord_of_placeOf hsource hstore hfailures hdescribe hplace
  obtain ⟨hi, rfl⟩ := List.getElem?_eq_some_iff.mp hx
  have hi' : i < values.length := hvalues.length_eq ▸ hi
  have hvalue := hvalues.get hi hi'
  refine ⟨values[i], List.getElem?_eq_getElem hi', ?_⟩
  rw [hshow]
  exact respond_one_of_ok hdepth hvalue

/-- Where a record comes to an error, an item at its place is refused with this error, and an item
before it is answered. -/
theorem showRecord_of_first_error (hdepth : 1 ≤ service.options.maxDepth)
    {before after : List Instance} {x : Instance} {e : ReduceError}
    (hrows : store.rowsOf entity = before ++ x :: after)
    (hbefore : ∀ y ∈ before, ∃ value, service.shown d selection y = .ok value)
    (hx : service.shown d selection x = .error e)
    {id : String} {i : Nat} (hplace : store.placeOf entity d.idField id = some i) :
    (i = before.length → service.showRecord entity id selection = .reduceError e) ∧
      (i < before.length → ∃ value, service.showRecord entity id selection = .content value) := by
  obtain ⟨y, hy, hshow⟩ := showRecord_of_placeOf hsource hstore hfailures hdescribe hplace
  rw [hrows] at hy
  rw [hshow]
  constructor
  · rintro rfl
    rw [List.getElem?_append_right (Nat.le_refl _), Nat.sub_self, List.getElem?_cons_zero] at hy
    cases hy
    exact respond_one_of_error hdepth hx
  · intro hi
    rw [List.getElem?_append_left hi] at hy
    obtain ⟨value, hvalue⟩ := hbefore y (List.mem_of_getElem? hy)
    exact ⟨value, respond_one_of_ok hdepth hvalue⟩

end Records

variable {entity : String}

/-- A service over three users and their orders. -/
def sampleService : Service := ⟨(Store.after sampleJoin).source, .default⟩

end Service
end SparseFields
