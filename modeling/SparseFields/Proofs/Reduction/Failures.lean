import SparseFields.Proofs.Reduction.Fields
import SparseFields.Proofs.Selection.Comparing

/-!
# Failing runs

Where the error of a run comes from, step by step: the counterpart for errors of what
`Reduction/Runs` and `Reduction/Fields` say of values.  A run that is put together fails with the
error of the first part that fails, so each statement names a part and says that the parts before
it have succeeded.
-/

namespace SparseFields

/-- The values of a list are all there, or there is a first one that is missing. -/
theorem exists_forall₂_or_first_error {α β ε : Type} (f : α → Except ε β) (xs : List α) :
    (∃ values, List.Forall₂ (fun x value => f x = .ok value) xs values) ∨
      ∃ before x after e, xs = before ++ x :: after ∧ (∀ y ∈ before, ∃ value, f y = .ok value) ∧
        f x = .error e := by
  induction xs with
  | nil => exact .inl ⟨[], .nil⟩
  | cons x xs ih =>
      cases hx : f x with
      | error e => exact .inr ⟨[], x, xs, e, rfl, List.forall_mem_nil _, hx⟩
      | ok value =>
          rcases ih with ⟨values, hvalues⟩ | ⟨before, y, after, e, rfl, hbefore, hy⟩
          · exact .inl ⟨value :: values, .cons hx hvalues⟩
          · exact .inr ⟨x :: before, y, after, e, rfl,
              List.forall_mem_cons.mpr ⟨⟨value, hx⟩, hbefore⟩, hy⟩

namespace Run

variable {α β : Type}

/-- One run after another fails when the first one does, or else the second one. -/
theorem andThen_outcome_eq_error_iff {r : Run α} {f : α → Run β} {e : ReduceError} :
    (r.andThen f).outcome = .error e ↔
      r.outcome = .error e ∨ ∃ a, r.outcome = .ok a ∧ (f a).outcome = .error e := by
  cases h : r.outcome with
  | error e => simp [andThen, h]
  | ok a => simp [andThen, h]

theorem andThen_outcome_of_error {r : Run α} {e : ReduceError} (h : r.outcome = .error e)
    (f : α → Run β) : (r.andThen f).outcome = .error e := by
  simp [andThen, h]

theorem andThen_calls_of_error {r : Run α} {e : ReduceError} (h : r.outcome = .error e)
    (f : α → Run β) : (r.andThen f).calls = r.calls := by
  simp [andThen, h]

theorem mapError_outcome_eq_error_iff {f : ReduceError → ReduceError} {r : Run α}
    {e : ReduceError} :
    (r.mapError f).outcome = .error e ↔ ∃ e', r.outcome = .error e' ∧ e = f e' := by
  cases h : r.outcome with
  | error e' => simp [mapError, h, eq_comm]
  | ok a => simp [mapError, h]

/-- What is done with a value cannot fail. -/
theorem andThen_done_outcome_eq_error_iff {r : Run α} {f : α → β} {e : ReduceError} :
    (r.andThen fun a => done (f a)).outcome = .error e ↔ r.outcome = .error e := by
  rw [andThen_outcome_eq_error_iff]
  simp

theorem describe_andThen_outcome_eq_error_iff {source : Source} {entity : String}
    {f : Descriptor → Run α} {e : ReduceError} :
    ((describe source entity).andThen f).outcome = .error e ↔
      (∃ cause, source.describe entity = .error cause ∧ e = .fetchFailed cause) ∨
      ∃ d, source.describe entity = .ok d ∧ (f d).outcome = .error e := by
  cases h : source.describe entity with
  | error cause => simp [describe_andThen_of_error h, eq_comm]
  | ok d => simp [describe_andThen_of_ok h]

end Run

namespace Reducer

open Run

variable (r : Reducer)

theorem checkLevel_andThen_outcome_eq_error_iff {α : Type} {d : Descriptor} {level : Nat}
    {f : Unit → Run α} {e : ReduceError} :
    ((r.checkLevel d level).andThen f).outcome = .error e ↔
      (r.options.maxDepth < level ∧
        e = .shapeConflict (.tooDeep d.name r.options.maxDepth)) ∨
      (level ≤ r.options.maxDepth ∧ (f ()).outcome = .error e) := by
  by_cases h : level ≤ r.options.maxDepth
  · simp [r.checkLevel_of_le h, h, Nat.not_lt.mpr h]
  · simp [r.checkLevel_of_lt (Nat.not_le.mp h), h, Nat.not_le.mp h, eq_comm]

/-- Records are not shaped when one is not; the error is that of the first such record, with its
position. -/
theorem shapeEach_outcome_eq_error_iff {shape : Instance → Run Json} {index : Nat}
    {xs : List Instance} {e : ReduceError} :
    (shapeEach shape index xs).outcome = .error e ↔
      ∃ before x after source, xs = before ++ x :: after ∧
        (∀ y ∈ before, ∃ value, (shape y).outcome = .ok value) ∧
        (shape x).outcome = .error source ∧ e = .atIndex (index + before.length) source := by
  induction xs generalizing index with
  | nil => simp [shapeEach]
  | cons x xs ih =>
      rw [shapeEach]
      simp only [bind_eq_andThen, pure_eq_done, andThen_outcome_eq_error_iff,
        mapError_outcome_eq_error_iff, mapError_outcome_eq_ok_iff, ih, done_outcome, reduceCtorEq,
        and_false, exists_false, or_false]
      constructor
      · rintro (⟨source, hx, rfl⟩ | ⟨value, hx, before, y, after, source, rfl, hbefore, hy, rfl⟩)
        · exact ⟨[], x, xs, source, rfl, List.forall_mem_nil _, hx, rfl⟩
        · refine ⟨x :: before, y, after, source, rfl, ?_, hy, ?_⟩
          · exact List.forall_mem_cons.mpr ⟨⟨value, hx⟩, hbefore⟩
          · rw [List.length_cons, Nat.add_assoc, Nat.add_comm 1]
      · rintro ⟨before, y, after, source, hsplit, hbefore, hy, rfl⟩
        cases before with
        | nil =>
            cases hsplit
            exact .inl ⟨source, hy, rfl⟩
        | cons z before =>
            cases hsplit
            obtain ⟨⟨value, hz⟩, hbefore⟩ := List.forall_mem_cons.mp hbefore
            refine .inr ⟨value, hz, before, y, after, source, rfl, hbefore, hy, ?_⟩
            rw [List.length_cons, Nat.add_assoc, Nat.add_comm 1]

/-! ## Content -/

theorem reduceAt_one_outcome_eq_error_iff {d : Descriptor} {level : Nat} {x : Instance}
    {s : Selection} {e : ReduceError} :
    (r.reduceAt d level (.one x) s).outcome = .error e ↔
      (r.options.maxDepth < level ∧
        e = .shapeConflict (.tooDeep d.name r.options.maxDepth)) ∨
      (level ≤ r.options.maxDepth ∧ (r.reduceInstance d x level s).outcome = .error e) :=
  r.checkLevel_andThen_outcome_eq_error_iff

theorem reduceAt_many_outcome_eq_error_iff {d : Descriptor} {level : Nat} {xs : List Instance}
    {s : Selection} {e : ReduceError} :
    (r.reduceAt d level (.many xs) s).outcome = .error e ↔
      (r.options.maxDepth < level ∧
        e = .shapeConflict (.tooDeep d.name r.options.maxDepth)) ∨
      (level ≤ r.options.maxDepth ∧ ∃ before x after source, xs = before ++ x :: after ∧
        (∀ y ∈ before, ∃ value, (r.reduceInstance d y level s).outcome = .ok value) ∧
        (r.reduceInstance d x level s).outcome = .error source ∧
        e = .atIndex before.length source) := by
  rw [reduceAt_many, checkLevel_andThen_outcome_eq_error_iff]
  simp only [andThen_done_outcome_eq_error_iff, shapeEach_outcome_eq_error_iff, Nat.zero_add]

/-- A picked part reduces the records of its target as content of their own, one level deeper. -/
theorem pickShaping_part_many (level : Nat) (sub : Selection) (target : String)
    (rows : List Instance) :
    (r.pickShaping level (.part sub)).many target rows =
      (describe r.source target).andThen fun d => r.reduceAt d (level + 1) (.many rows) sub :=
  rfl

theorem pickShaping_part_one (level : Nat) (sub : Selection) (d : Descriptor) (row : Instance) :
    (r.pickShaping level (.part sub)).one d row = r.reduceAt d (level + 1) (.one row) sub :=
  rfl

/-! ## Associations -/

section Many

variable {d : Descriptor} {x : Instance} {link : HasMany}

theorem manyValue_outcome_eq_error_iff {shaping : Shaping} {e : ReduceError} :
    (r.manyValue d x link shaping).outcome = .error e ↔
      (∃ rows, r.source.findMany link.target (manyFilter d x link) = .ok rows ∧
        (shaping.many link.target rows).outcome = .error e) ∨
      (∃ cause, r.source.findMany link.target (manyFilter d x link) = .error cause ∧
        r.options.emptyOnFetchFailure = false ∧ e = .fetchFailed cause) := by
  cases h : r.source.findMany link.target (manyFilter d x link) with
  | ok rows => simp [r.manyValue_of_ok h]
  | error cause =>
      rw [r.manyValue_of_error h, afterCall_outcome]
      cases hforgiven : r.options.emptyOnFetchFailure with
      | false => simp [eq_comm]
      | true => simp

end Many

section One

variable {x : Instance} {link : BelongsTo}

theorem oneValue_outcome_eq_error_iff {shaping : Shaping} {e : ReduceError} :
    (r.oneValue x link shaping).outcome = .error e ↔
      (x.get? link.foreignKey).getD .null ≠ .null ∧
        ((∃ cause, r.source.describe link.target = .error cause ∧ e = .fetchFailed cause) ∨
        ∃ target, r.source.describe link.target = .ok target ∧
          ((∃ cause, r.source.findOne link.target
              (.single target.idField ((x.get? link.foreignKey).getD .null)) = .error cause ∧
            e = .fetchFailed cause) ∨
          ∃ row, r.source.findOne link.target
              (.single target.idField ((x.get? link.foreignKey).getD .null)) = .ok (some row) ∧
            ((row.entity ≠ target.name ∧
              e = .shapeConflict (.wrongEntity row.entity target.name)) ∨
            (row.entity = target.name ∧ (shaping.one target row).outcome = .error e)))) := by
  by_cases hkey : (x.get? link.foreignKey).getD .null = .null
  · simp [r.oneValue_of_null hkey, hkey]
  · rw [r.oneValue_of_ne_null hkey]
    cases hdescribe : r.source.describe link.target with
    | error cause => simp [describe_andThen_of_error hdescribe, hkey, eq_comm]
    | ok target =>
        rw [describe_andThen_of_ok hdescribe, afterCall_outcome]
        cases hfound : r.source.findOne link.target
            (.single target.idField ((x.get? link.foreignKey).getD .null)) with
        | error cause => simp [findOne_andThen_of_error hfound, hkey, hfound, eq_comm]
        | ok found =>
            rw [findOne_andThen_of_ok hfound, afterCall_outcome]
            cases found with
            | none => simp [hkey, hfound]
            | some row =>
                by_cases hname : row.entity = target.name
                · simp [hkey, hfound, hname]
                · simp [hkey, hfound, hname, eq_comm (b := e)]

end One

/-! ## Fields -/

variable (d : Descriptor) (x : Instance) (level : Nat)

theorem entry_outcome_eq_error_iff {field : String} {shaping : Shaping} {e : ReduceError} :
    (r.entry d x field shaping).outcome = .error e ↔
      match d.resolve r.naming field with
      | .owned => False
      | .many link => (r.manyValue d x link shaping).outcome = .error e
      | .one link => (r.oneValue x link shaping).outcome = .error e
      | .unknown => e = .unknownField d.name field := by
  rw [Reducer.entry]
  cases d.resolve r.naming field with
  | owned => simp
  | many link => exact andThen_done_outcome_eq_error_iff
  | one link => exact andThen_done_outcome_eq_error_iff
  | unknown => simp [eq_comm]

theorem write_outcome_eq_error_iff {output : SortedMap Json} {entry : String × Json}
    {e : ReduceError} :
    (write d output entry).outcome = .error e ↔
      output.contains entry.1 = true ∧ e = .shapeConflict (.outputTaken d.name entry.1) := by
  cases h : output.contains entry.1 with
  | true =>
      rw [write, if_pos h]
      simp [eq_comm]
  | false =>
      rw [write_of_new d h]
      simp

/-- Entries cannot be written when one of them is not there, or has a key that is taken by the time
it is written. -/
theorem writeEach_outcome_eq_error {output : SortedMap Json} {runs : List (Run (String × Json))}
    {e : ReduceError} (h : (writeEach d output runs).outcome = .error e) :
    ∃ before run after output', runs = before ++ run :: after ∧
      (writeEach d output before).outcome = .ok output' ∧
      (run.outcome = .error e ∨ ∃ entry, run.outcome = .ok entry ∧
        output'.contains entry.1 = true ∧ e = .shapeConflict (.outputTaken d.name entry.1)) := by
  induction runs generalizing output with
  | nil => cases h
  | cons run runs ih =>
      rw [writeEach, andThen_outcome_eq_error_iff] at h
      rcases h with hrun | ⟨entry, hrun, h⟩
      · exact ⟨[], run, runs, output, rfl, rfl, .inl hrun⟩
      · rcases andThen_outcome_eq_error_iff.mp h with hwrite | ⟨output', hwrite, h⟩
        · have htaken := (write_outcome_eq_error_iff d).mp hwrite
          exact ⟨[], run, runs, output, rfl, rfl, .inr ⟨entry, hrun, htaken⟩⟩
        · obtain ⟨before, run', after, output'', rfl, hbefore, herror⟩ := ih h
          refine ⟨run :: before, run', after, output'', rfl, ?_, herror⟩
          rw [writeEach, andThen_outcome_of_ok hrun, andThen_outcome_of_ok hwrite, hbefore]

/-- A record's reduction comes to a choice when all choices before it have been written. -/
def ComesTo (s : Selection) (choice : String × Selection.Pick) : Prop :=
  ∃ before after output, s.toList = before ++ choice :: after ∧
    (writeEach d [] (before.map (r.fieldEntry d x level))).outcome = .ok output

variable {r d x level} in
theorem ComesTo.mem {s : Selection} {choice : String × Selection.Pick}
    (h : r.ComesTo d x level s choice) : choice ∈ s.toList := by
  obtain ⟨before, after, -, hsplit, -⟩ := h
  rw [hsplit]
  exact List.mem_append_right before List.mem_cons_self

/-- A record is not reduced when it comes to a field that has no entry, or that has the same key as
a field before it. -/
theorem reduceInstance_outcome_eq_error {s : Selection} (hs : s.fields.Nodup) {e : ReduceError}
    (h : (r.reduceInstance d x level s).outcome = .error e) :
    ∃ choice, r.ComesTo d x level s choice ∧
      ((r.fieldEntry d x level choice).outcome = .error e ∨
        ∃ field ∈ s.fields, choice.1 ≠ field ∧
          r.outputKey d choice.1 = r.outputKey d field ∧
          e = .shapeConflict (.outputTaken d.name (r.outputKey d choice.1))) := by
  rw [reduceInstance, bind_eq_andThen] at h
  have hfields : (r.reduceFields d x level [] s).outcome = .error e :=
    andThen_done_outcome_eq_error_iff.mp h
  rw [reduceFields_eq_writeEach] at hfields
  obtain ⟨before, run, after, output, hsplit, hbefore, herror⟩ :=
    writeEach_outcome_eq_error d hfields
  obtain ⟨choices, rest, hchoices, rfl, hrest⟩ := List.map_eq_append_iff.mp hsplit
  obtain ⟨choice, rest', rfl, rfl, rfl⟩ := List.map_eq_cons_iff.mp hrest
  refine ⟨choice, ⟨choices, rest', output, hchoices, hbefore⟩, herror.imp_right ?_⟩
  rintro ⟨entry, hrun, htaken, rfl⟩
  -- The output was empty at first, so the key was taken by the entry of a choice before this one.
  obtain ⟨entries, hentries, -, hnodup, rfl⟩ := (writeEach_outcome_eq_ok_iff d).mp hbefore
  have hkeys : (SortedMap.ofList entries).map (·.1) |>.Perm (entries.map (·.1)) :=
    (SortedMap.ofList_perm hnodup).map _
  obtain ⟨entry', hentry', hsame⟩ :=
    List.mem_map.mp (hkeys.mem_iff.mp (SortedMap.contains_iff.mp htaken))
  obtain ⟨choice', hchoice', hrun'⟩ :=
    exists_of_forall₂_mem (List.forall₂_map_left_iff.mp hentries).flip hentry'
  have hkey := ((r.entry_outcome_eq_ok_iff d x).mp hrun).1
  have hkey' := ((r.entry_outcome_eq_ok_iff d x).mp hrun').1
  have hmem' : choice' ∈ s.toList := by
    rw [hchoices]
    exact List.mem_append_left _ hchoice'
  have hdifferent : choice.1 ≠ choice'.1 := by
    rw [Selection.fields, hchoices, List.map_append, List.nodup_append] at hs
    exact (hs.2.2 _ (List.mem_map_of_mem hchoice') _ List.mem_cons_self).symm
  refine ⟨choice'.1, Selection.mem_fields_of_mem hmem', hdifferent, ?_, ?_⟩
  · rw [← hkey, ← hkey', hsame]
  · rw [hkey]

end Reducer
end SparseFields
