import SparseFields.Proofs.Reduction.Failures

/-!
# Collections, element by element

A collection is reduced by reducing its elements one after another, as if each of them had been
asked for alone.  The main statement says this of whole runs: values and questions are those of the
elements in order, up to the first element that fails, whose error gets its position.  So the run
of a collection that is split in two is made of the runs of its parts.  The records of a has-many
association are such a collection, wherever the association is reached.
-/

namespace SparseFields

/-- A later part of a collection counts its positions from its own start. -/
def ReduceError.shift (n : Nat) : ReduceError → ReduceError
  | .atIndex index source => .atIndex (n + index) source
  | e => e

/-- The items of two arrays, one after the other. -/
def Json.concat : Json → Json → Json
  | .array items, .array items' => .array (items ++ items')
  | value, _ => value

namespace Run

/-- The run of a collection from those of its first `n` elements and of the others. -/
def appendAt (n : Nat) (first others : Run Json) : Run Json :=
  first.andThen fun value =>
    (others.mapError (.shift n)).andThen fun value' => done (value.concat value')

variable {α β : Type}

theorem mapError_andThen (r : Run α) (f : α → Run β) (g : ReduceError → ReduceError) :
    (r.andThen f).mapError g = (r.mapError g).andThen fun a => (f a).mapError g := by
  obtain ⟨calls, outcome⟩ := r
  cases outcome with
  | error e => rfl
  | ok a => rfl

theorem afterCall_andThen (call : Call) (r : Run α) (f : α → Run β) :
    (r.afterCall call).andThen f = (r.andThen f).afterCall call := by
  obtain ⟨calls, outcome⟩ := r
  cases outcome with
  | error e => rfl
  | ok a => rfl

theorem mapError_mapError (r : Run α) (f g : ReduceError → ReduceError) :
    (r.mapError f).mapError g = r.mapError fun e => g (f e) := by
  obtain ⟨calls, outcome⟩ := r
  cases outcome with
  | error e => rfl
  | ok a => rfl

end Run

namespace Reducer

open Run

variable (r : Reducer)

/-! ## Records one after another -/

/-- The run over records that are all shaped. -/
theorem shapeEach_of_forall₂ {shape : Instance → Run Json} {xs : List Instance}
    {values : List Json}
    (h : List.Forall₂ (fun x value => (shape x).outcome = .ok value) xs values) (index : Nat) :
    shapeEach shape index xs = ⟨xs.flatMap fun x => (shape x).calls, .ok values⟩ := by
  induction h generalizing index with
  | nil => rfl
  | @cons x value xs values hx _ ih =>
      have hmapped : ((shape x).mapError (.atIndex index)).outcome = .ok value :=
        mapError_outcome_eq_ok_iff.mpr hx
      rw [shapeEach]
      simp only [bind_eq_andThen, pure_eq_done, ih]
      simp [andThen, hmapped, done]

/-- The run over records of which one is not shaped, and all before it are. -/
theorem shapeEach_of_first_error {shape : Instance → Run Json} {before after : List Instance}
    {x : Instance} {e : ReduceError}
    (hbefore : ∀ y ∈ before, ∃ value, (shape y).outcome = .ok value)
    (hx : (shape x).outcome = .error e) (index : Nat) :
    shapeEach shape index (before ++ x :: after) =
      ⟨(before ++ [x]).flatMap fun y => (shape y).calls,
        .error (.atIndex (index + before.length) e)⟩ := by
  induction before generalizing index with
  | nil =>
      have hmapped : ((shape x).mapError (.atIndex index)).outcome = .error (.atIndex index e) :=
        mapError_outcome_eq_error_iff.mpr ⟨e, hx, rfl⟩
      rw [List.nil_append, shapeEach, bind_eq_andThen]
      simp [andThen, hmapped]
  | cons y before ih =>
      obtain ⟨⟨value, hy⟩, hbefore⟩ := List.forall_mem_cons.mp hbefore
      have hmapped : ((shape y).mapError (.atIndex index)).outcome = .ok value :=
        mapError_outcome_eq_ok_iff.mpr hy
      rw [List.cons_append, shapeEach]
      simp only [bind_eq_andThen, ih hbefore]
      simp [andThen, hmapped, Nat.add_assoc, Nat.add_comm 1]

theorem shapeEach_append (shape : Instance → Run Json) (index : Nat) (xs ys : List Instance) :
    shapeEach shape index (xs ++ ys) =
      (shapeEach shape index xs).andThen fun values =>
        (shapeEach shape (index + xs.length) ys).andThen fun values' =>
          done (values ++ values') := by
  induction xs generalizing index with
  | nil => simp [shapeEach]
  | cons x xs ih =>
      have hindex : index + 1 + xs.length = index + (x :: xs).length := by
        rw [List.length_cons]
        omega
      rw [List.cons_append, shapeEach, shapeEach]
      simp only [bind_eq_andThen, pure_eq_done, ih, hindex, andThen_assoc, done_andThen,
        List.cons_append]

theorem shapeEach_add (shape : Instance → Run Json) (n index : Nat) (xs : List Instance) :
    shapeEach shape (n + index) xs = (shapeEach shape index xs).mapError (.shift n) := by
  induction xs generalizing index with
  | nil => rfl
  | cons x xs ih =>
      have hshift : (fun e => ReduceError.shift n (.atIndex index e)) =
          ReduceError.atIndex (n + index) := rfl
      rw [shapeEach, shapeEach]
      simp only [bind_eq_andThen, pure_eq_done, Nat.add_assoc, ih, mapError_andThen,
        mapError_mapError, hshift]
      rfl

/-! ## Collections -/

/-- The run of a collection is made of those of its elements: of all of them, or of those up to the
first one that fails. -/
inductive MadeOf (one : Instance → Run Json) : List Instance → Run Json → Prop
  | all {xs values}
      (reduced : List.Forall₂ (fun x value => (one x).outcome = .ok value) xs values) :
      MadeOf one xs ⟨xs.flatMap fun x => (one x).calls, .ok (.array values)⟩
  | upTo {before x after e}
      (reduced : ∀ y ∈ before, ∃ value, (one y).outcome = .ok value)
      (failed : (one x).outcome = .error e) :
      MadeOf one (before ++ x :: after)
        ⟨(before ++ [x]).flatMap fun y => (one y).calls, .error (.atIndex before.length e)⟩

/-- Collections are reduced element by element. -/
structure Elementwise (one : Instance → Run Json) (many : List Instance → Run Json) : Prop where
  madeOf : ∀ xs, MadeOf one xs (many xs)
  append : ∀ xs ys, many (xs ++ ys) = (many xs).appendAt xs.length (many ys)

theorem reduceAt_one_of_le {level : Nat} (h : level ≤ r.options.maxDepth) (d : Descriptor)
    (x : Instance) (s : Selection) :
    r.reduceAt d level (.one x) s = r.reduceInstance d x level s := by
  rw [reduceAt, r.checkLevel_of_le h, bind_eq_andThen, done_andThen]

theorem reduceAt_many_of_le {level : Nat} (h : level ≤ r.options.maxDepth) (d : Descriptor)
    (xs : List Instance) (s : Selection) :
    r.reduceAt d level (.many xs) s =
      (shapeEach (fun x => r.reduceInstance d x level s) 0 xs).andThen fun values =>
        done (.array values) := by
  rw [reduceAt_many, r.checkLevel_of_le h, done_andThen]

theorem elementwise_reduceAt {level : Nat} (h : level ≤ r.options.maxDepth) (d : Descriptor)
    (s : Selection) :
    Elementwise (fun x => r.reduceAt d level (.one x) s)
      (fun xs => r.reduceAt d level (.many xs) s) := by
  constructor
  · intro xs
    simp only [r.reduceAt_one_of_le h, r.reduceAt_many_of_le h]
    rcases exists_forall₂_or_first_error (fun x => (r.reduceInstance d x level s).outcome) xs with
      ⟨values, hvalues⟩ | ⟨before, x, after, e, rfl, hbefore, hx⟩
    · rw [shapeEach_of_forall₂ hvalues]
      simpa [andThen, done] using MadeOf.all hvalues
    · rw [shapeEach_of_first_error hbefore hx]
      simpa [andThen] using MadeOf.upTo hbefore hx
  · intro xs ys
    simp only [r.reduceAt_many_of_le h, shapeEach_append, Nat.zero_add]
    rw [← Nat.add_zero xs.length, shapeEach_add, appendAt]
    simp only [andThen_assoc, done_andThen, mapError_andThen]
    rfl

/-- The entry of a has-many association of which a part is picked: its records are found, their
target is described, and then they are reduced as a collection one level deeper. -/
theorem fieldEntry_part_many {d : Descriptor} {x : Instance} {field : String} {link : HasMany}
    {rows : List Instance} {target : Descriptor}
    (hfield : d.resolve r.naming field = .many link)
    (hfound : r.source.findMany link.target (manyFilter d x link) = .ok rows)
    (hdescribe : r.source.describe link.target = .ok target) (level : Nat) (sub : Selection) :
    r.fieldEntry d x level (field, .part sub) =
      (((r.reduceAt target (level + 1) (.many rows) sub).andThen fun value =>
        done (r.naming.singular field, value)).afterCall (.describe link.target)).afterCall
          (.findMany link.target (manyFilter d x link)) := by
  have hshaping : (r.pickShaping level (.part sub)).many link.target rows =
      (r.reduceAt target (level + 1) (.many rows) sub).afterCall (.describe link.target) := by
    rw [pickShaping_part_many, describe_andThen_of_ok hdescribe]
  rw [fieldEntry, entry_of_many hfield, r.manyValue_of_ok hfound, hshaping, afterCall_andThen,
    afterCall_andThen]

/-- A collection is reduced element by element.  So are, at every level that is not too deep, the
records that are found for a has-many association of which a part is picked: each of them as if it
were reduced alone. -/
theorem reduce_isElementwise (hdepth : 1 ≤ r.options.maxDepth) :
    (∀ d s, Elementwise (fun x => r.reduce d (.one x) s) (fun xs => r.reduce d (.many xs) s)) ∧
      ∀ d x level field sub link rows target, d.resolve r.naming field = .many link →
        r.source.findMany link.target (manyFilter d x link) = .ok rows →
        r.source.describe link.target = .ok target → level + 1 ≤ r.options.maxDepth →
          r.fieldEntry d x level (field, .part sub) =
            (((r.reduceAt target (level + 1) (.many rows) sub).andThen fun value =>
              done (r.naming.singular field, value)).afterCall (.describe link.target)).afterCall
                (.findMany link.target (manyFilter d x link)) ∧
          Elementwise (fun row => r.reduceAt target (level + 1) (.one row) sub)
            (fun rows => r.reduceAt target (level + 1) (.many rows) sub) := by
  constructor
  · intro d s
    exact r.elementwise_reduceAt hdepth d s
  · intro d x level field sub link rows target hfield hfound hdescribe hlevel
    constructor
    · exact r.fieldEntry_part_many hfield hfound hdescribe level sub
    · exact r.elementwise_reduceAt hlevel target sub

/-- A user without orders, and one whose order does not have the field that is picked. -/
def sampleUsers : List Instance := [⟨"User", [("id", .int 2)]⟩, Sample.ann]

theorem sample_isElementwise :
    1 ≤ Sample.reducer.options.maxDepth ∧
      MadeOf (fun x => Sample.reducer.reduce Sample.user (.one x)
        (.part "orders" (.whole "colour" .nil) .nil)) sampleUsers
        (Sample.reducer.reduce Sample.user (.many sampleUsers)
          (.part "orders" (.whole "colour" .nil) .nil)) ∧
      (Sample.reducer.reduce Sample.user (.many sampleUsers)
        (.part "orders" (.whole "colour" .nil) .nil)).outcome =
          .error (.atIndex 1 (.atIndex 0 (.unknownField "Order" "colour"))) ∧
      ∃ rows target, rows.length = 1 ∧
        Sample.reducer.source.findMany "Order"
          (manyFilter Sample.user Sample.ann ⟨"orders", "Order", "userId"⟩) = .ok rows ∧
        Sample.reducer.source.describe "Order" = .ok target ∧
        MadeOf (fun row => Sample.reducer.reduceAt target 2 (.one row) (.whole "colour" .nil)) rows
          (Sample.reducer.reduceAt target 2 (.many rows) (.whole "colour" .nil)) := by
  have hdepth : 1 ≤ Sample.reducer.options.maxDepth := by decide
  have hdeeper : 1 + 1 ≤ Sample.reducer.options.maxDepth := by decide
  have hfield : Sample.user.resolve Sample.reducer.naming "orders" =
      .many ⟨"orders", "Order", "userId"⟩ := rfl
  obtain ⟨hcollections, hrecords⟩ := Sample.reducer.reduce_isElementwise hdepth
  refine ⟨hdepth, (hcollections Sample.user _).madeOf sampleUsers, rfl, _, _, ?_, rfl, rfl, ?_⟩
  · rfl
  · exact (hrecords Sample.user Sample.ann 1 "orders" _ _ _ _ hfield rfl rfl hdeeper).2.madeOf _

end Reducer
end SparseFields
