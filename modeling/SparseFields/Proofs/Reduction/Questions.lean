import SparseFields.Proofs.Reduction.Failures

/-!
# The questions of a run

What the questions of a run say about how it ends.  A reduction goes on after a question only when
it is answered, or when it asked for the records of a has-many association and their lack is
forgiven.  So the questions before the last one have not stopped the run, and an error that comes
from the source is what its last question was refused with.  The steps of a reduction are taken
one by one: if what becomes of related records accounts for its questions, so does an entry that
is made of it, and if every entry does, so does the object.
-/

namespace SparseFields

namespace Source

/-- A question is answered. -/
def Answers (source : Source) : Call → Prop
  | .describe entity => ∃ d, source.describe entity = .ok d
  | .findMany entity filter => ∃ rows, source.findMany entity filter = .ok rows
  | .findOne entity filter => ∃ found, source.findOne entity filter = .ok found

/-- A question is refused with an error. -/
def Refuses (source : Source) (e : StoreError) : Call → Prop
  | .describe entity => source.describe entity = .error e
  | .findMany entity filter => source.findMany entity filter = .error e
  | .findOne entity filter => source.findOne entity filter = .error e

end Source

/-- The entity that a question is about. -/
def Call.entity : Call → String
  | .describe entity => entity
  | .findMany entity _ => entity
  | .findOne entity _ => entity

/-- A question for the records of a has-many association. -/
def Call.IsFindMany : Call → Prop
  | .findMany _ _ => True
  | _ => False

namespace Reducer

open Run

variable (r : Reducer)

/-- A run is not stopped by a question: it is answered, or it asks for the records of a has-many
association and failures of these are forgiven. -/
def GoesOnAfter (call : Call) : Prop :=
  r.source.Answers call ∨ (r.options.emptyOnFetchFailure = true ∧ call.IsFindMany)

/-- How the questions of a run are related to the root cause of its error.  An error of the source
is what the last question was refused with.  A record of another entity is what the last question
was answered with, after the question for the descriptor that it does not fit.  No other cause
comes from a question. -/
def CauseOfQuestions (calls : List Call) : ReduceError → Prop
  | .fetchFailed e =>
      ∃ before last, calls = before ++ [last] ∧ (∀ call ∈ before, r.GoesOnAfter call) ∧
        r.source.Refuses e last ∧ ¬r.GoesOnAfter last
  | .shapeConflict (.wrongEntity found expected) =>
      (∀ call ∈ calls, r.GoesOnAfter call) ∧
        ∃ before entity filter target row,
          calls = before ++ [.describe entity, .findOne entity filter] ∧
          r.source.describe entity = .ok target ∧ target.name = expected ∧
          r.source.findOne entity filter = .ok (some row) ∧ row.entity = found ∧
          found ≠ expected
  | _ => ∀ call ∈ calls, r.GoesOnAfter call

/-- The outcome of a run accounts for its questions: all of them let a successful run go on, and an
error has a cause that fits them. -/
structure Accounts {α : Type} (run : Run α) : Prop where
  ok : ∀ a, run.outcome = .ok a → ∀ call ∈ run.calls, r.GoesOnAfter call
  error : ∀ e, run.outcome = .error e → r.CauseOfQuestions run.calls e.rootCause

variable {r} {α β : Type}

/-- Questions that let the run go on may come before. -/
theorem CauseOfQuestions.append {before calls : List Call} {cause : ReduceError}
    (h : r.CauseOfQuestions calls cause) (hbefore : ∀ call ∈ before, r.GoesOnAfter call) :
    r.CauseOfQuestions (before ++ calls) cause := by
  have hall : (∀ call ∈ calls, r.GoesOnAfter call) →
      ∀ call ∈ before ++ calls, r.GoesOnAfter call := fun hcalls =>
    List.forall_mem_append.mpr ⟨hbefore, hcalls⟩
  unfold CauseOfQuestions at h ⊢
  split at h
  · obtain ⟨before', last, rfl, hgoes, hrefused⟩ := h
    exact ⟨before ++ before', last, (List.append_assoc _ _ _).symm,
      List.forall_mem_append.mpr ⟨hbefore, hgoes⟩, hrefused⟩
  · obtain ⟨hgoes, before', entity, filter, target, row, rfl, hrest⟩ := h
    exact ⟨hall hgoes, before ++ before', entity, filter, target, row,
      (List.append_assoc _ _ _).symm, hrest⟩
  · exact hall h

/-- No question before the last one stops a run. -/
theorem CauseOfQuestions.goesOn_dropLast {calls : List Call} {cause : ReduceError}
    (h : r.CauseOfQuestions calls cause) : ∀ call ∈ calls.dropLast, r.GoesOnAfter call := by
  have hall : (∀ call ∈ calls, r.GoesOnAfter call) →
      ∀ call ∈ calls.dropLast, r.GoesOnAfter call := fun hcalls call hcall =>
    hcalls call ((List.dropLast_sublist calls).subset hcall)
  unfold CauseOfQuestions at h
  split at h
  · obtain ⟨before, last, rfl, hgoes, -⟩ := h
    rw [List.dropLast_concat]
    exact hgoes
  · exact hall h.1
  · exact hall h

theorem accounts_done (a : α) : r.Accounts (done a) where
  ok _ _ := nofun
  error _ := nofun

/-- An error that no question causes may come before any. -/
theorem accounts_fail {e : ReduceError} (h : r.CauseOfQuestions [] e.rootCause) :
    r.Accounts (fail e : Run α) where
  ok _ := nofun
  error e' he' := by
    cases he'
    exact h

theorem Accounts.andThen {run : Run α} {f : α → Run β} (hrun : r.Accounts run)
    (hf : ∀ a, run.outcome = .ok a → r.Accounts (f a)) : r.Accounts (run.andThen f) where
  ok b hb := by
    obtain ⟨a, ha, hfa⟩ := andThen_outcome_eq_ok_iff.mp hb
    rw [andThen_calls_of_ok ha]
    exact List.forall_mem_append.mpr ⟨hrun.ok a ha, (hf a ha).ok b hfa⟩
  error e he := by
    rcases andThen_outcome_eq_error_iff.mp he with herror | ⟨a, ha, herror⟩
    · rw [andThen_calls_of_error herror]
      exact hrun.error e herror
    · rw [andThen_calls_of_ok ha]
      exact ((hf a ha).error e herror).append (hrun.ok a ha)

theorem Accounts.mapError {run : Run α} (h : r.Accounts run) {f : ReduceError → ReduceError}
    (hf : ∀ e, (f e).rootCause = e.rootCause) : r.Accounts (run.mapError f) where
  ok a ha := h.ok a (mapError_outcome_eq_ok_iff.mp ha)
  error e he := by
    obtain ⟨e', he', rfl⟩ := mapError_outcome_eq_error_iff.mp he
    rw [hf]
    exact h.error e' he'

theorem Accounts.afterCall {run : Run α} (h : r.Accounts run) {call : Call}
    (hcall : r.GoesOnAfter call) : r.Accounts (run.afterCall call) where
  ok a ha := List.forall_mem_cons.mpr ⟨hcall, h.ok a ha⟩
  error e he := by
    show r.CauseOfQuestions ([call] ++ run.calls) e.rootCause
    exact (h.error e he).append (List.forall_mem_singleton.mpr hcall)

/-- A question that stops the run is its last one. -/
theorem accounts_refused {call : Call} {e : StoreError} (hrefused : r.source.Refuses e call)
    (hstops : ¬r.GoesOnAfter call) :
    r.Accounts ((fail (.fetchFailed e) : Run α).afterCall call) where
  ok _ := nofun
  error e' he' := by
    cases he'
    exact ⟨[], call, rfl, nofun, hrefused, hstops⟩

/-- A record of another entity stops the run right after the questions for it. -/
theorem accounts_wrongEntity {entity : String} {filter : Filter} {target : Descriptor}
    {row : Instance} (hdescribe : r.source.describe entity = .ok target)
    (hfound : r.source.findOne entity filter = .ok (some row))
    (hname : row.entity ≠ target.name) :
    r.Accounts (((fail (.shapeConflict (.wrongEntity row.entity target.name)) : Run α).afterCall
      (.findOne entity filter)).afterCall (.describe entity)) where
  ok _ := nofun
  error e he := by
    cases he
    refine ⟨?_, [], entity, filter, target, row, rfl, hdescribe, rfl, hfound, rfl, hname⟩
    simp only [afterCall_calls, fail_calls, List.forall_mem_cons]
    exact ⟨.inl ⟨target, hdescribe⟩, .inl ⟨some row, hfound⟩, nofun⟩

/-! ## The steps of a reduction -/

/-- A question that is not forgiven stops the run when it is refused. -/
theorem not_goesOnAfter_of_refuses {call : Call} {e : StoreError}
    (hrefused : r.source.Refuses e call)
    (hforgiven : ¬(r.options.emptyOnFetchFailure = true ∧ call.IsFindMany)) :
    ¬r.GoesOnAfter call := by
  rintro (hanswers | h)
  · cases call with
    | describe entity =>
        obtain ⟨d, hd⟩ := hanswers
        cases hd.symm.trans hrefused
    | findMany entity filter =>
        obtain ⟨rows, hrows⟩ := hanswers
        cases hrows.symm.trans hrefused
    | findOne entity filter =>
        obtain ⟨found, hfound⟩ := hanswers
        cases hfound.symm.trans hrefused
  · exact hforgiven h

theorem accounts_describe_andThen {entity : String} {f : Descriptor → Run α}
    (hf : ∀ d, r.source.describe entity = .ok d → r.Accounts (f d)) :
    r.Accounts ((describe r.source entity).andThen f) := by
  cases hdescribe : r.source.describe entity with
  | error e =>
      rw [describe_andThen_of_error hdescribe]
      exact accounts_refused hdescribe (not_goesOnAfter_of_refuses hdescribe (And.right ·))
  | ok d =>
      rw [describe_andThen_of_ok hdescribe]
      exact (hf d hdescribe).afterCall (.inl ⟨d, hdescribe⟩)

theorem accounts_checkLevel (d : Descriptor) (level : Nat) :
    r.Accounts (r.checkLevel d level) := by
  rw [checkLevel]
  split
  · exact accounts_fail (List.forall_mem_nil r.GoesOnAfter)
  · exact accounts_done ()

theorem accounts_shapeEach {shape : Instance → Run Json} (h : ∀ x, r.Accounts (shape x))
    (index : Nat) (xs : List Instance) : r.Accounts (shapeEach shape index xs) := by
  induction xs generalizing index with
  | nil => exact accounts_done []
  | cons x xs ih =>
      have hx : r.Accounts ((shape x).mapError (.atIndex index)) := (h x).mapError fun _ => rfl
      refine hx.andThen fun value _ => ?_
      exact (ih (index + 1)).andThen fun _ _ => accounts_done _

theorem accounts_reduceAt {s : Selection}
    (h : ∀ d x level, r.Accounts (r.reduceInstance d x level s)) (d : Descriptor)
    (level : Nat) : ∀ content, r.Accounts (r.reduceAt d level content s)
  | .one x => (accounts_checkLevel d level).andThen fun _ _ => h d x level
  | .many xs => (accounts_checkLevel d level).andThen fun _ _ =>
      (accounts_shapeEach (fun x => h d x level) 0 xs).andThen fun _ _ => accounts_done _

/-- What becomes of related records accounts for its questions. -/
structure ShapingAccounts (r : Reducer) (shaping : Shaping) : Prop where
  many : ∀ target rows, r.Accounts (shaping.many target rows)
  one : ∀ d row, r.Accounts (shaping.one d row)

theorem shapingAccounts_of_pick {level : Nat} {pick : Selection.Pick}
    (h : ∀ sub, pick = .part sub → ∀ d x level, r.Accounts (r.reduceInstance d x level sub)) :
    r.ShapingAccounts (r.pickShaping level pick) := by
  cases pick with
  | whole => exact ⟨fun _ _ => accounts_done _, fun _ _ => accounts_done _⟩
  | part sub =>
      refine ⟨fun target rows => ?_, fun d row => ?_⟩
      · rw [pickShaping_part_many]
        exact accounts_describe_andThen fun d _ => accounts_reduceAt (h sub rfl) d _ _
      · rw [pickShaping_part_one]
        exact accounts_reduceAt (h sub rfl) d _ _

theorem accounts_manyValue {shaping : Shaping} (h : r.ShapingAccounts shaping)
    (d : Descriptor) (x : Instance) (link : HasMany) :
    r.Accounts (r.manyValue d x link shaping) := by
  cases hrows : r.source.findMany link.target (manyFilter d x link) with
  | ok rows =>
      rw [r.manyValue_of_ok hrows]
      exact (h.many link.target rows).afterCall (.inl ⟨rows, hrows⟩)
  | error e =>
      rw [r.manyValue_of_error hrows]
      split
      · next hforgiven => exact (accounts_done _).afterCall (.inr ⟨hforgiven, trivial⟩)
      · next hforgiven =>
        exact accounts_refused hrows (not_goesOnAfter_of_refuses hrows (hforgiven ·.1))

theorem accounts_oneValue {shaping : Shaping} (h : r.ShapingAccounts shaping) (x : Instance)
    (link : BelongsTo) : r.Accounts (r.oneValue x link shaping) := by
  by_cases hkey : (x.get? link.foreignKey).getD .null = .null
  · rw [r.oneValue_of_null hkey]
    exact accounts_done _
  · rw [r.oneValue_of_ne_null hkey]
    cases hdescribe : r.source.describe link.target with
    | error e =>
        rw [describe_andThen_of_error hdescribe]
        exact accounts_refused hdescribe (not_goesOnAfter_of_refuses hdescribe (And.right ·))
    | ok target =>
        have hdescribed : r.GoesOnAfter (.describe link.target) := .inl ⟨target, hdescribe⟩
        rw [describe_andThen_of_ok hdescribe]
        cases hfound : r.source.findOne link.target
            (.single target.idField ((x.get? link.foreignKey).getD .null)) with
        | error e =>
            have hrefused : r.source.Refuses e (.findOne link.target
                (.single target.idField ((x.get? link.foreignKey).getD .null))) := hfound
            rw [findOne_andThen_of_error hfound]
            exact (accounts_refused hrefused
              (not_goesOnAfter_of_refuses hrefused (And.right ·))).afterCall hdescribed
        | ok found =>
            have hasked : r.GoesOnAfter (.findOne link.target
                (.single target.idField ((x.get? link.foreignKey).getD .null))) :=
              .inl ⟨found, hfound⟩
            rw [findOne_andThen_of_ok hfound]
            cases found with
            | none => exact ((accounts_done _).afterCall hasked).afterCall hdescribed
            | some row =>
                by_cases hname : row.entity = target.name
                · simp only [if_pos hname]
                  exact ((h.one target row).afterCall hasked).afterCall hdescribed
                · simp only [if_neg hname]
                  exact accounts_wrongEntity hdescribe hfound hname

theorem accounts_entry {shaping : Shaping} (h : r.ShapingAccounts shaping) (d : Descriptor)
    (x : Instance) (field : String) : r.Accounts (r.entry d x field shaping) := by
  rw [Reducer.entry]
  cases d.resolve r.naming field with
  | owned => exact accounts_done _
  | many link => exact (accounts_manyValue h d x link).andThen fun _ _ => accounts_done _
  | one link => exact (accounts_oneValue h x link).andThen fun _ _ => accounts_done _
  | unknown => exact accounts_fail (List.forall_mem_nil r.GoesOnAfter)

theorem accounts_writeEach {runs : List (Run (String × Json))}
    (h : ∀ run ∈ runs, r.Accounts run) (d : Descriptor) (output : SortedMap Json) :
    r.Accounts (writeEach d output runs) := by
  induction runs generalizing output with
  | nil => exact accounts_done _
  | cons run runs ih =>
      obtain ⟨hrun, hruns⟩ := List.forall_mem_cons.mp h
      refine hrun.andThen fun entry _ => Accounts.andThen ?_ fun output' _ => ih hruns output'
      rw [write]
      split
      · exact accounts_fail (List.forall_mem_nil r.GoesOnAfter)
      · exact accounts_done _

/-- The reduction of a record accounts for its questions. -/
theorem accounts_reduceInstance (s : Selection) (d : Descriptor) (x : Instance) (level : Nat) :
    r.Accounts (r.reduceInstance d x level s) := by
  induction s using Selection.parts_induction generalizing d x level with
  | step s ih =>
      rw [reduceInstance, bind_eq_andThen, reduceFields_eq_writeEach]
      refine Accounts.andThen (accounts_writeEach ?_ d []) fun _ _ => accounts_done _
      intro run hrun
      obtain ⟨⟨field, pick⟩, hmem, rfl⟩ := List.mem_map.mp hrun
      refine accounts_entry (shapingAccounts_of_pick fun sub hsub => ?_) d x field
      exact ih field sub (hsub ▸ hmem)

/-- The reduction of content accounts for its questions. -/
theorem accounts_reduce (d : Descriptor) (content : Content) (s : Selection) :
    r.Accounts (r.reduce d content s) :=
  accounts_reduceAt (accounts_reduceInstance s) d 1 content

end Reducer
end SparseFields
