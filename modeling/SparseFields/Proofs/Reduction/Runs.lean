import SparseFields.Reduction.Reducer
import Mathlib.Data.List.Forall2

/-!
# Runs of associations

How a run that is put after another one asks and ends, and what each step of a reduction asks for
in each case: a question to the source, the check of the level, and the values of the two kinds of
association.  Everything else about a reduction is derived from these equations.
-/

namespace SparseFields

theorem exists_of_forall₂_mem {α β : Type} {R : α → β → Prop} {as : List α} {bs : List β}
    (h : List.Forall₂ R as bs) {a : α} (ha : a ∈ as) : ∃ b ∈ bs, R a b := by
  induction h with
  | nil => cases ha
  | @cons a' b' _ _ hab _ ih =>
      rcases List.mem_cons.mp ha with rfl | ha
      · exact ⟨b', List.mem_cons_self, hab⟩
      · obtain ⟨b, hb, hR⟩ := ih ha
        exact ⟨b, List.mem_cons_of_mem _ hb, hR⟩

namespace Run

variable {α β : Type}

theorem andThen_outcome_of_ok {r : Run α} {a : α} (h : r.outcome = .ok a) (f : α → Run β) :
    (r.andThen f).outcome = (f a).outcome := by
  simp [andThen, h]

theorem andThen_calls_of_ok {r : Run α} {a : α} (h : r.outcome = .ok a) (f : α → Run β) :
    (r.andThen f).calls = r.calls ++ (f a).calls := by
  simp [andThen, h]

/-- One run after another succeeds when both do. -/
theorem andThen_outcome_eq_ok_iff {r : Run α} {f : α → Run β} {b : β} :
    (r.andThen f).outcome = .ok b ↔ ∃ a, r.outcome = .ok a ∧ (f a).outcome = .ok b := by
  cases h : r.outcome with
  | error e => simp [andThen, h]
  | ok a => simp [andThen, h]

@[simp]
theorem done_outcome (a : α) : (done a).outcome = .ok a := rfl

@[simp]
theorem done_calls (a : α) : (done a).calls = [] := rfl

@[simp]
theorem fail_outcome (e : ReduceError) : (fail e : Run α).outcome = .error e := rfl

@[simp]
theorem fail_calls (e : ReduceError) : (fail e : Run α).calls = [] := rfl

@[simp]
theorem mapError_calls (f : ReduceError → ReduceError) (r : Run α) :
    (r.mapError f).calls = r.calls := rfl

theorem mapError_outcome_eq_ok_iff {f : ReduceError → ReduceError} {r : Run α} {a : α} :
    (r.mapError f).outcome = .ok a ↔ r.outcome = .ok a := by
  cases h : r.outcome <;> simp [mapError, h]

/-! ## Questions -/

/-- The same run with one question put before it. -/
def afterCall (call : Call) (r : Run α) : Run α := ⟨call :: r.calls, r.outcome⟩

@[simp]
theorem afterCall_calls (call : Call) (r : Run α) : (r.afterCall call).calls = call :: r.calls :=
  rfl

@[simp]
theorem afterCall_outcome (call : Call) (r : Run α) : (r.afterCall call).outcome = r.outcome :=
  rfl

theorem ask_andThen (call : Call) (answer : Except StoreError α)
    (f : Except StoreError α → Run β) :
    (ask call answer).andThen f = (f answer).afterCall call :=
  rfl

variable {source : Source} {entity : String} {filter : Filter}

@[simp]
theorem describe_calls : (describe source entity).calls = [.describe entity] := by
  rw [describe, ask_andThen, afterCall_calls]
  cases source.describe entity <;> rfl

@[simp]
theorem findOne_calls : (findOne source entity filter).calls = [.findOne entity filter] := by
  rw [findOne, ask_andThen, afterCall_calls]
  cases source.findOne entity filter <;> rfl

theorem describe_andThen_of_ok {d : Descriptor} (h : source.describe entity = .ok d)
    (f : Descriptor → Run α) :
    (describe source entity).andThen f = (f d).afterCall (.describe entity) := by
  rw [describe, andThen_assoc, ask_andThen, h, expect, done_andThen]

theorem describe_andThen_of_error {e : StoreError} (h : source.describe entity = .error e)
    (f : Descriptor → Run α) :
    (describe source entity).andThen f =
      (fail (.fetchFailed e)).afterCall (.describe entity) := by
  rw [describe, andThen_assoc, ask_andThen, h, expect, fail_andThen]

theorem findOne_andThen_of_ok {row : Option Instance}
    (h : source.findOne entity filter = .ok row) (f : Option Instance → Run α) :
    (findOne source entity filter).andThen f =
      (f row).afterCall (.findOne entity filter) := by
  rw [findOne, andThen_assoc, ask_andThen, h, expect, done_andThen]

theorem findOne_andThen_of_error {e : StoreError}
    (h : source.findOne entity filter = .error e) (f : Option Instance → Run α) :
    (findOne source entity filter).andThen f =
      (fail (.fetchFailed e)).afterCall (.findOne entity filter) := by
  rw [findOne, andThen_assoc, ask_andThen, h, expect, fail_andThen]

end Run

namespace Reducer

open Run

variable (r : Reducer)

/-! ## The check of the level -/

theorem checkLevel_of_le {d : Descriptor} {level : Nat} (h : level ≤ r.options.maxDepth) :
    r.checkLevel d level = done () := by
  rw [checkLevel, if_neg (Nat.not_lt.mpr h)]
  rfl

theorem checkLevel_of_lt {d : Descriptor} {level : Nat} (h : r.options.maxDepth < level) :
    r.checkLevel d level = fail (.shapeConflict (.tooDeep d.name r.options.maxDepth)) :=
  if_pos h

@[simp]
theorem checkLevel_calls (d : Descriptor) (level : Nat) : (r.checkLevel d level).calls = [] := by
  rw [checkLevel]
  split <;> rfl

theorem checkLevel_andThen_outcome_eq_ok_iff {α : Type} {d : Descriptor} {level : Nat}
    {f : Unit → Run α} {a : α} :
    ((r.checkLevel d level).andThen f).outcome = .ok a ↔
      level ≤ r.options.maxDepth ∧ (f ()).outcome = .ok a := by
  by_cases h : level ≤ r.options.maxDepth
  · simp [r.checkLevel_of_le h, h]
  · simp [r.checkLevel_of_lt (Nat.not_le.mp h), h]

/-! ## Several records -/

/-- Records are shaped when each one is. -/
theorem shapeEach_outcome_eq_ok_iff {shape : Instance → Run Json} {index : Nat}
    {xs : List Instance} {values : List Json} :
    (shapeEach shape index xs).outcome = .ok values ↔
      List.Forall₂ (fun x value => (shape x).outcome = .ok value) xs values := by
  induction xs generalizing index values with
  | nil => simp [shapeEach, eq_comm]
  | cons x xs ih =>
      rw [shapeEach]
      simp only [bind_eq_andThen, pure_eq_done, andThen_outcome_eq_ok_iff,
        mapError_outcome_eq_ok_iff, ih, done_outcome, Except.ok.injEq]
      constructor
      · rintro ⟨value, hvalue, values, hvalues, rfl⟩
        exact .cons hvalue hvalues
      · rintro (_ | ⟨hvalue, hvalues⟩)
        exact ⟨_, hvalue, _, hvalues, rfl⟩

theorem array_outcome_eq_ok_iff {run : Run (List Json)} {value : Json} :
    (run.andThen fun values => done (.array values)).outcome = .ok value ↔
      ∃ values, run.outcome = .ok values ∧ value = .array values := by
  rw [andThen_outcome_eq_ok_iff]
  simp only [done_outcome, Except.ok.injEq, eq_comm]

theorem reduced_many {level : Nat} (shape : Descriptor → Instance → Run Json)
    (target : String) (rows : List Instance) :
    (r.reduced level shape).many target rows =
      (describe r.source target).andThen fun d =>
        (r.checkLevel d level).andThen fun _ =>
          (shapeEach (shape d) 0 rows).andThen fun values => done (.array values) :=
  rfl

/-- All records of a target are reduced when the target is described, the level is not too deep,
and each record is shaped. -/
theorem reduced_many_outcome_eq_ok_iff {level : Nat}
    {shape : Descriptor → Instance → Run Json} {target : String} {rows : List Instance}
    {value : Json} :
    ((r.reduced level shape).many target rows).outcome = .ok value ↔
      ∃ d, r.source.describe target = .ok d ∧ level ≤ r.options.maxDepth ∧
        ∃ values, List.Forall₂ (fun row value => (shape d row).outcome = .ok value) rows values ∧
          value = .array values := by
  rw [reduced_many]
  cases hdescribe : r.source.describe target with
  | error e => simp [describe_andThen_of_error hdescribe]
  | ok d =>
      rw [describe_andThen_of_ok hdescribe, afterCall_outcome,
        checkLevel_andThen_outcome_eq_ok_iff]
      simp only [array_outcome_eq_ok_iff, shapeEach_outcome_eq_ok_iff, Except.ok.injEq,
        exists_eq_left']

theorem reduced_one_outcome_eq_ok_iff {level : Nat}
    {shape : Descriptor → Instance → Run Json} {d : Descriptor} {row : Instance}
    {value : Json} :
    ((r.reduced level shape).one d row).outcome = .ok value ↔
      level ≤ r.options.maxDepth ∧ (shape d row).outcome = .ok value :=
  r.checkLevel_andThen_outcome_eq_ok_iff

/-! ## Content -/

theorem reduceAt_many (d : Descriptor) (level : Nat) (xs : List Instance) (s : Selection) :
    r.reduceAt d level (.many xs) s =
      (r.checkLevel d level).andThen fun _ =>
        (shapeEach (fun x => r.reduceInstance d x level s) 0 xs).andThen fun values =>
          done (.array values) :=
  rfl

theorem reduceAt_one_outcome_eq_ok_iff {d : Descriptor} {level : Nat} {x : Instance}
    {s : Selection} {value : Json} :
    (r.reduceAt d level (.one x) s).outcome = .ok value ↔
      level ≤ r.options.maxDepth ∧ (r.reduceInstance d x level s).outcome = .ok value :=
  r.checkLevel_andThen_outcome_eq_ok_iff

theorem reduceAt_many_outcome_eq_ok_iff {d : Descriptor} {level : Nat} {xs : List Instance}
    {s : Selection} {value : Json} :
    (r.reduceAt d level (.many xs) s).outcome = .ok value ↔
      level ≤ r.options.maxDepth ∧
        ∃ values, List.Forall₂ (fun x value => (r.reduceInstance d x level s).outcome = .ok value)
          xs values ∧ value = .array values := by
  rw [reduceAt_many, checkLevel_andThen_outcome_eq_ok_iff]
  simp only [array_outcome_eq_ok_iff, shapeEach_outcome_eq_ok_iff]

/-! ## The records of a has-many association -/

/-- The filter for the records of a has-many association: those that hold this record's id. -/
def manyFilter (d : Descriptor) (x : Instance) (link : HasMany) : Filter :=
  .single link.foreignKey ((x.get? d.idField).getD .null)

section Many

variable {d : Descriptor} {x : Instance} {link : HasMany}

theorem manyValue_of_ok {rows : List Instance}
    (h : r.source.findMany link.target (manyFilter d x link) = .ok rows) (shaping : Shaping) :
    r.manyValue d x link shaping =
      (shaping.many link.target rows).afterCall
        (.findMany link.target (manyFilter d x link)) := by
  rw [manyFilter] at h
  rw [manyValue, bind_eq_andThen, findMany, ask_andThen, h]
  rfl

theorem manyValue_of_error {e : StoreError}
    (h : r.source.findMany link.target (manyFilter d x link) = .error e)
    (shaping : Shaping) :
    r.manyValue d x link shaping =
      (if r.options.emptyOnFetchFailure then done (.array [])
        else fail (.fetchFailed e)).afterCall
          (.findMany link.target (manyFilter d x link)) := by
  rw [manyFilter] at h
  rw [manyValue, bind_eq_andThen, findMany, ask_andThen, h]
  rfl

/-- A has-many association has a value when its records are found and shaped, or when they are
not found and that is forgiven. -/
theorem manyValue_outcome_eq_ok_iff {shaping : Shaping} {value : Json} :
    (r.manyValue d x link shaping).outcome = .ok value ↔
      (∃ rows, r.source.findMany link.target (manyFilter d x link) = .ok rows ∧
        (shaping.many link.target rows).outcome = .ok value) ∨
      (∃ e, r.source.findMany link.target (manyFilter d x link) = .error e ∧
        r.options.emptyOnFetchFailure = true ∧ value = .array []) := by
  cases h : r.source.findMany link.target (manyFilter d x link) with
  | ok rows => simp [r.manyValue_of_ok h]
  | error e =>
      rw [r.manyValue_of_error h, afterCall_outcome]
      cases hforgiven : r.options.emptyOnFetchFailure with
      | false => simp
      | true => simp [eq_comm]

end Many

/-! ## The record of a belongs-to association -/

section One

variable {x : Instance} {link : BelongsTo}

theorem oneValue_of_null (h : (x.get? link.foreignKey).getD .null = .null)
    (shaping : Shaping) : r.oneValue x link shaping = done .null := by
  rw [oneValue, h]
  rfl

/-- With a key, the target is described and its record with that id is asked for. -/
theorem oneValue_of_ne_null (h : (x.get? link.foreignKey).getD .null ≠ .null)
    (shaping : Shaping) :
    r.oneValue x link shaping =
      (describe r.source link.target).andThen fun target =>
        (findOne r.source link.target
          (.single target.idField ((x.get? link.foreignKey).getD .null))).andThen fun
            | none => done .null
            | some row =>
                if row.entity = target.name then shaping.one target row
                else fail (.shapeConflict (.wrongEntity row.entity target.name)) := by
  rw [oneValue]
  split
  · next hnull => exact absurd hnull h
  · rfl

/-- A belongs-to association has a value when there is no key, when no record has the key for its
id, or when a record of the described entity is found and shaped. -/
theorem oneValue_outcome_eq_ok_iff {shaping : Shaping} {value : Json} :
    (r.oneValue x link shaping).outcome = .ok value ↔
      ((x.get? link.foreignKey).getD .null = .null ∧ value = .null) ∨
      (x.get? link.foreignKey).getD .null ≠ .null ∧
        ∃ target found, r.source.describe link.target = .ok target ∧
          r.source.findOne link.target
            (.single target.idField ((x.get? link.foreignKey).getD .null)) = .ok found ∧
          (found = none ∧ value = .null ∨
            ∃ row, found = some row ∧ row.entity = target.name ∧
              (shaping.one target row).outcome = .ok value) := by
  by_cases hkey : (x.get? link.foreignKey).getD .null = .null
  · simp [r.oneValue_of_null hkey, hkey, eq_comm]
  · rw [r.oneValue_of_ne_null hkey]
    cases hdescribe : r.source.describe link.target with
    | error e => simp [describe_andThen_of_error hdescribe, hkey]
    | ok target =>
        rw [describe_andThen_of_ok hdescribe, afterCall_outcome]
        cases hfound : r.source.findOne link.target
            (.single target.idField ((x.get? link.foreignKey).getD .null)) with
        | error e => simp [findOne_andThen_of_error hfound, hkey, hfound]
        | ok found =>
            rw [findOne_andThen_of_ok hfound, afterCall_outcome]
            cases found with
            | none => simp [hkey, hfound, eq_comm]
            | some row =>
                by_cases hname : row.entity = target.name
                · simp [hkey, hfound, hname]
                · simp [hkey, hfound, hname]

end One

end Reducer
end SparseFields
