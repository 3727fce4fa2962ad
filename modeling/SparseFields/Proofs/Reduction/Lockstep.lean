import SparseFields.Proofs.Reduction.Elements

/-!
# Reducers in lockstep

Two reducers that differ in their settings only take the same steps: they reduce the same selection
over the same source, and only the check of the level and the answer to a refused question for
records may differ.  A relation between runs that the composition of runs keeps, and that holds
where the settings are looked at, therefore holds of whole reductions.  The main statement is this
one induction; what follows from a change of a setting is then a matter of choosing the relation.

One such relation is shared by several changes of settings: the first run is the second one, or it
is cut short at some point, where it fails, and has asked a beginning of the same questions.
-/

namespace SparseFields

/-- A run ends in the conflict of a selection that is too deep. -/
def Run.EndsTooDeep {α : Type} (run : Run α) : Prop :=
  ∃ e entity limit, run.outcome = .error e ∧
    e.rootCause = .shapeConflict (.tooDeep entity limit)

namespace Reducer

open Run

/-- The same reducer, told whether to forgive refused questions for records. -/
def forgiving (r : Reducer) (forgives : Bool) : Reducer :=
  { r with options := { r.options with emptyOnFetchFailure := forgives } }

/-- The same reducer with another limit. -/
def limitedTo (r : Reducer) (limit : Nat) : Reducer :=
  { r with options := { r.options with maxDepth := limit } }

/-- A relation between runs of the same kind that is kept when runs are composed. -/
structure RunRelation (R : ∀ α : Type, Run α → Run α → Prop) : Prop where
  done : ∀ {α : Type} (a : α), R α (done a) (done a)
  fail : ∀ {α : Type} (e : ReduceError), ¬(fail e : Run α).EndsTooDeep → R α (fail e) (fail e)
  andThen : ∀ {α β : Type} {run other : Run α} {f g : α → Run β}, R α run other →
    (∀ a, R β (f a) (g a)) → R β (run.andThen f) (other.andThen g)
  atIndex : ∀ {α : Type} {run other : Run α} (index : Nat), R α run other →
    R α (run.mapError (.atIndex index)) (other.mapError (.atIndex index))

/-- Reducers over the same source and naming rules keep a relation in every step: the first one is
`shift` levels deeper than the second one, and where their settings are looked at, their runs are
related. -/
structure Lockstep (R : ∀ α : Type, Run α → Run α → Prop) (shift : Nat) (r r' : Reducer) :
    Prop where
  relation : RunRelation R
  source_eq : r'.source = r.source
  naming_eq : r'.naming = r.naming
  describe : ∀ entity, R _ (describe r.source entity) (describe r.source entity)
  findOne : ∀ entity filter, R _ (findOne r.source entity filter) (findOne r.source entity filter)
  found : ∀ {entity filter rows} {run other : Run Json},
    r.source.findMany entity filter = .ok rows → R _ run other →
      R _ (run.afterCall (.findMany entity filter)) (other.afterCall (.findMany entity filter))
  refused : ∀ {entity filter e}, r.source.findMany entity filter = .error e →
    R Json
      ((if r.options.emptyOnFetchFailure then Run.done (.array [])
        else Run.fail (.fetchFailed e)).afterCall (.findMany entity filter))
      ((if r'.options.emptyOnFetchFailure then Run.done (.array [])
        else Run.fail (.fetchFailed e)).afterCall (.findMany entity filter))
  checkLevel : ∀ d level, R _ (r.checkLevel d (level + shift)) (r'.checkLevel d level)

namespace Lockstep

variable {R : ∀ α : Type, Run α → Run α → Prop} {shift : Nat} {r r' : Reducer}

/-! ## Content -/

theorem shapeEach (h : Lockstep R shift r r') {shape shape' : Instance → Run Json}
    (hshape : ∀ x, R _ (shape x) (shape' x)) (index : Nat) (xs : List Instance) :
    R _ (shapeEach shape index xs) (shapeEach shape' index xs) := by
  induction xs generalizing index with
  | nil => exact h.relation.done []
  | cons x xs ih =>
      refine h.relation.andThen (h.relation.atIndex index (hshape x)) fun value => ?_
      exact h.relation.andThen (ih (index + 1)) fun values => h.relation.done _

theorem reduceAt (h : Lockstep R shift r r') {d : Descriptor} {level : Nat} {s : Selection}
    (hone : ∀ x, R _ (r.reduceInstance d x (level + shift) s) (r'.reduceInstance d x level s)) :
    ∀ content, R _ (r.reduceAt d (level + shift) content s) (r'.reduceAt d level content s)
  | .one x => h.relation.andThen (h.checkLevel d level) fun _ => hone x
  | .many xs =>
      h.relation.andThen (h.checkLevel d level) fun _ =>
        h.relation.andThen (h.shapeEach hone 0 xs) fun _ => h.relation.done _

/-! ## Associations -/

/-- What becomes of related records in the two reductions. -/
structure Shapings (R : ∀ α : Type, Run α → Run α → Prop) (shaping shaping' : Shaping) : Prop where
  many : ∀ target rows, R _ (shaping.many target rows) (shaping'.many target rows)
  one : ∀ d row, R _ (shaping.one d row) (shaping'.one d row)

theorem pickShaping (h : Lockstep R shift r r') {level : Nat} {pick : Selection.Pick}
    (hpart : ∀ sub, pick = .part sub → ∀ d content,
      R _ (r.reduceAt d (level + 1 + shift) content sub) (r'.reduceAt d (level + 1) content sub)) :
    Shapings R (r.pickShaping (level + shift) pick) (r'.pickShaping level pick) := by
  cases pick with
  | whole => exact ⟨fun _ _ => h.relation.done _, fun _ _ => h.relation.done _⟩
  | part sub =>
      have hlevel : level + shift + 1 = level + 1 + shift := Nat.add_right_comm level shift 1
      refine ⟨fun target rows => ?_, fun d row => ?_⟩
      · rw [pickShaping_part_many, pickShaping_part_many, hlevel, h.source_eq]
        exact h.relation.andThen (h.describe target) fun d => hpart sub rfl d _
      · rw [pickShaping_part_one, pickShaping_part_one, hlevel]
        exact hpart sub rfl d _

theorem manyValue (h : Lockstep R shift r r') {shaping shaping' : Shaping}
    (hshaping : Shapings R shaping shaping') (d : Descriptor) (x : Instance) (link : HasMany) :
    R _ (r.manyValue d x link shaping) (r'.manyValue d x link shaping') := by
  cases hrows : r.source.findMany link.target (manyFilter d x link) with
  | ok rows =>
      rw [r.manyValue_of_ok hrows, r'.manyValue_of_ok (h.source_eq ▸ hrows)]
      exact h.found hrows (hshaping.many link.target rows)
  | error e =>
      rw [r.manyValue_of_error hrows, r'.manyValue_of_error (h.source_eq ▸ hrows)]
      exact h.refused hrows

theorem oneValue (h : Lockstep R shift r r') {shaping shaping' : Shaping}
    (hshaping : Shapings R shaping shaping') (x : Instance) (link : BelongsTo) :
    R _ (r.oneValue x link shaping) (r'.oneValue x link shaping') := by
  by_cases hkey : (x.get? link.foreignKey).getD .null = .null
  · rw [r.oneValue_of_null hkey, r'.oneValue_of_null hkey]
    exact h.relation.done _
  · rw [r.oneValue_of_ne_null hkey, r'.oneValue_of_ne_null hkey, h.source_eq]
    refine h.relation.andThen (h.describe link.target) fun target => ?_
    refine h.relation.andThen (h.findOne link.target _) fun found => ?_
    cases found with
    | none => exact h.relation.done _
    | some row =>
        show R _ (if _ then _ else _) (if _ then _ else _)
        split
        · exact hshaping.one target row
        · exact h.relation.fail _ (by simp [EndsTooDeep, ReduceError.rootCause])

/-! ## Fields -/

theorem entry (h : Lockstep R shift r r') {shaping shaping' : Shaping}
    (hshaping : Shapings R shaping shaping') (d : Descriptor) (x : Instance) (field : String) :
    R _ (r.entry d x field shaping) (r'.entry d x field shaping') := by
  rw [Reducer.entry, Reducer.entry, h.naming_eq]
  cases d.resolve r.naming field with
  | owned => exact h.relation.done _
  | many link =>
      exact h.relation.andThen (h.manyValue hshaping d x link) fun _ => h.relation.done _
  | one link => exact h.relation.andThen (h.oneValue hshaping x link) fun _ => h.relation.done _
  | unknown => exact h.relation.fail _ (by simp [EndsTooDeep, ReduceError.rootCause])

theorem write (h : Lockstep R shift r r') (d : Descriptor) (output : SortedMap Json)
    (entry : String × Json) : R _ (write d output entry) (write d output entry) := by
  rw [Reducer.write]
  split
  · exact h.relation.fail _ (by simp [EndsTooDeep, ReduceError.rootCause])
  · exact h.relation.done _

theorem writeEach (h : Lockstep R shift r r') {runs others : List (Run (String × Json))}
    (hruns : List.Forall₂ (R _) runs others) (d : Descriptor) (output : SortedMap Json) :
    R _ (writeEach d output runs) (writeEach d output others) := by
  induction hruns generalizing output with
  | nil => exact h.relation.done output
  | cons hrun _ ih =>
      refine h.relation.andThen hrun fun entry => ?_
      exact h.relation.andThen (h.write d output entry) fun output => ih output

/-- The reductions of a record are related. -/
theorem reduceInstance (h : Lockstep R shift r r') (s : Selection) (d : Descriptor)
    (x : Instance) (level : Nat) :
    R _ (r.reduceInstance d x (level + shift) s) (r'.reduceInstance d x level s) := by
  induction s using Selection.parts_induction generalizing d x level with
  | step s ih =>
      rw [Reducer.reduceInstance, Reducer.reduceInstance, bind_eq_andThen, bind_eq_andThen,
        reduceFields_eq_writeEach, reduceFields_eq_writeEach]
      refine h.relation.andThen (h.writeEach ?_ d []) fun _ => h.relation.done _
      refine List.forall₂_map_left_iff.mpr (List.forall₂_map_right_iff.mpr ?_)
      refine List.forall₂_same.mpr ?_
      rintro ⟨field, pick⟩ hmem
      -- A picked part is content of its own, one level deeper in both reductions.
      refine h.entry (h.pickShaping fun sub hsub d content => ?_) d x field
      exact h.reduceAt (fun x => ih field sub (hsub ▸ hmem) d x (level + 1)) content

/-- The reductions of content are related, at every level. -/
theorem reductions (h : Lockstep R shift r r') (d : Descriptor) (level : Nat) (content : Content)
    (s : Selection) :
    R _ (r.reduceAt d (level + shift) content s) (r'.reduceAt d level content s) :=
  h.reduceAt (fun x => h.reduceInstance s d x level) content

end Lockstep

end Reducer

/-! ## Runs that are cut short -/

namespace Run

variable {α β : Type} {Clean : Call → Prop} {Cut : List Call → ReduceError → Prop}

/-- The first run is the second one and all its questions are clean, or it is cut short: it fails
as a cut does, and its questions are a beginning of those of the second run. -/
inductive CutShort (Clean : Call → Prop) (Cut : List Call → ReduceError → Prop) {α : Type}
    (run other : Run α) : Prop
  | same (eq : run = other) (clean : ∀ call ∈ run.calls, Clean call)
  | cut {e} (failed : run.outcome = .error e) (cut : Cut run.calls e.rootCause)
      (begins : run.calls <+: other.calls)

/-- A run that asks nothing is not cut short. -/
theorem cutShort_of_silent {run : Run α} (h : run.calls = []) : CutShort Clean Cut run run :=
  .same rfl (by simp [h])

/-- Questions that are clean may come before a cut. -/
def Prepends (Clean : Call → Prop) (Cut : List Call → ReduceError → Prop) : Prop :=
  ∀ {before calls cause}, (∀ call ∈ before, Clean call) → Cut calls cause →
    Cut (before ++ calls) cause

theorem prefix_andThen_calls (run : Run α) (f : α → Run β) :
    run.calls <+: (run.andThen f).calls := by
  cases h : run.outcome with
  | error e => simp [andThen, h]
  | ok a => simp [andThen, h]

theorem CutShort.andThen (hCut : Prepends Clean Cut) {run other : Run α} {f g : α → Run β}
    (h : CutShort Clean Cut run other) (hf : ∀ a, CutShort Clean Cut (f a) (g a)) :
    CutShort Clean Cut (run.andThen f) (other.andThen g) := by
  cases h with
  | cut hfailed hcut hbegins =>
      refine .cut (andThen_outcome_of_error hfailed f) ?_ ?_
      · rw [andThen_calls_of_error hfailed]
        exact hcut
      · rw [andThen_calls_of_error hfailed]
        exact hbegins.trans (prefix_andThen_calls other g)
  | same heq hclean =>
      subst heq
      cases hrun : run.outcome with
      | error e =>
          refine .same ?_ ?_
          · simp [Run.andThen, hrun]
          · rw [andThen_calls_of_error hrun]
            exact hclean
      | ok a =>
          -- The questions of the first part are clean, so a cut of the second part cuts both.
          cases hf a with
          | same heq hclean' =>
              refine .same ?_ ?_
              · simp [Run.andThen, hrun, heq]
              · rw [andThen_calls_of_ok hrun]
                exact List.forall_mem_append.mpr ⟨hclean, hclean'⟩
          | @cut e hfailed hcut hbegins =>
              refine .cut (e := e) ?_ ?_ ?_
              · rw [andThen_outcome_of_ok hrun, hfailed]
              · rw [andThen_calls_of_ok hrun]
                exact hCut hclean hcut
              · rw [andThen_calls_of_ok hrun, andThen_calls_of_ok hrun]
                exact (List.prefix_append_right_inj run.calls).mpr hbegins

theorem CutShort.mapError {run other : Run α} (h : CutShort Clean Cut run other)
    {f : ReduceError → ReduceError} (hf : ∀ e, (f e).rootCause = e.rootCause) :
    CutShort Clean Cut (run.mapError f) (other.mapError f) := by
  cases h with
  | same heq hclean =>
      subst heq
      exact .same rfl hclean
  | @cut e hfailed hcut hbegins =>
      refine .cut (mapError_outcome_eq_error_iff.mpr ⟨e, hfailed, rfl⟩) ?_ hbegins
      rw [hf]
      exact hcut

theorem CutShort.afterCall (hCut : Prepends Clean Cut) {run other : Run α} {call : Call}
    (hcall : Clean call) (h : CutShort Clean Cut run other) :
    CutShort Clean Cut (run.afterCall call) (other.afterCall call) := by
  cases h with
  | same heq hclean =>
      subst heq
      exact .same rfl (List.forall_mem_cons.mpr ⟨hcall, hclean⟩)
  | @cut e hfailed hcut hbegins =>
      have hprepended : Cut ([call] ++ run.calls) e.rootCause :=
        hCut (List.forall_mem_singleton.mpr hcall) hcut
      exact .cut hfailed hprepended ((List.prefix_cons_inj call).mpr hbegins)

/-- Being cut short is kept by the composition of runs. -/
theorem runRelation_cutShort (hCut : Prepends Clean Cut) :
    Reducer.RunRelation fun _ => CutShort Clean Cut where
  done _ := cutShort_of_silent rfl
  fail _ _ := cutShort_of_silent rfl
  andThen h hf := h.andThen hCut hf
  atIndex _ h := h.mapError fun _ => rfl

end Run
end SparseFields
