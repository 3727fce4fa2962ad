import SparseFields.Proofs.Reduction.Lockstep
import SparseFields.Proofs.Reduction.Nodes
import Mathlib.Data.List.Nodup

/-!
# Sub-resources

What is picked of an association is the sub-resource reduced on its own.  A reduction does not know
at which level it is but by the check of the level: one level deeper with a limit larger by one, it
is the same, up to the limit that an error names.  So where a record has a result, the value of a
picked part is the result of a reduction of the related records from the top, with one level less
to go.
-/

namespace SparseFields

/-- The same error under a limit larger by one. -/
def ReduceError.raiseLimit : ReduceError → ReduceError
  | .shapeConflict (.tooDeep entity limit) => .shapeConflict (.tooDeep entity (limit + 1))
  | .atIndex index source => .atIndex index source.raiseLimit
  | e => e

/-- Only the conflict of a selection that is too deep names the limit. -/
theorem ReduceError.raiseLimit_eq_self {e : ReduceError}
    (h : ∀ entity limit, e.rootCause ≠ .shapeConflict (.tooDeep entity limit)) :
    e.raiseLimit = e := by
  induction e with
  | unknownField _ _ => rfl
  | fetchFailed _ => rfl
  | shapeConflict conflict =>
      cases conflict with
      | tooDeep entity limit => exact absurd rfl (h entity limit)
      | outputTaken _ _ => rfl
      | wrongEntity _ _ => rfl
      | reported _ => rfl
  | atIndex index source ih => rw [raiseLimit, ih h]

namespace Reducer

open Run

variable (r : Reducer)

/-! ## One level deeper -/

/-- A run is another one under a limit larger by one. -/
def Raises (α : Type) (run other : Run α) : Prop :=
  run = other.mapError .raiseLimit

theorem runRelation_raises : RunRelation Raises where
  done _ := rfl
  fail e hnot := by
    have hsame : e.raiseLimit = e :=
      ReduceError.raiseLimit_eq_self fun entity limit hroot => hnot ⟨e, entity, limit, rfl, hroot⟩
    show fail e = fail e.raiseLimit
    rw [hsame]
  andThen {_ _ _ other f g} hrun hf := by
    have hfg : f = fun a => (g a).mapError .raiseLimit := funext hf
    rw [Raises, mapError_andThen, hrun, hfg]
  atIndex index hrun := by
    rw [Raises, hrun, mapError_mapError, mapError_mapError]
    rfl

/-- A reducer is in lockstep with itself one level deeper under a limit larger by one. -/
theorem lockstep_raises (limit : Nat) :
    Lockstep Raises 1 (r.limitedTo (limit + 1)) (r.limitedTo limit) where
  relation := runRelation_raises
  source_eq := rfl
  naming_eq := rfl
  describe entity := by
    rw [Raises, describe, ask_andThen]
    cases (r.limitedTo (limit + 1)).source.describe entity <;> rfl
  findOne entity filter := by
    rw [Raises, findOne, ask_andThen]
    cases (r.limitedTo (limit + 1)).source.findOne entity filter <;> rfl
  found _ h := congrArg (afterCall _) h
  refused _ := by
    rw [Raises]
    show (if r.options.emptyOnFetchFailure then _ else _ : Run Json).afterCall _ =
      ((if r.options.emptyOnFetchFailure then _ else _ : Run Json).afterCall _).mapError _
    split <;> rfl
  checkLevel d level := by
    rw [Raises]
    by_cases hlevel : level ≤ limit
    · rw [(r.limitedTo limit).checkLevel_of_le hlevel,
        (r.limitedTo (limit + 1)).checkLevel_of_le (Nat.succ_le_succ hlevel)]
      rfl
    · have hdeep : limit < level := Nat.not_le.mp hlevel
      rw [(r.limitedTo limit).checkLevel_of_lt hdeep,
        (r.limitedTo (limit + 1)).checkLevel_of_lt (Nat.succ_lt_succ hdeep)]
      rfl

theorem reduceAt_succ (limit : Nat) (d : Descriptor) (level : Nat) (content : Content)
    (s : Selection) :
    (r.limitedTo (limit + 1)).reduceAt d (level + 1) content s =
      ((r.limitedTo limit).reduceAt d level content s).mapError .raiseLimit :=
  (r.lockstep_raises limit).reductions d level content s

/-- A value at the second level is that of a reduction from the top with one level less to go. -/
theorem reduce_eq_ok_of_reduceAt_two (hlimit : 1 ≤ r.options.maxDepth) {d : Descriptor}
    {content : Content} {s : Selection} {value : Json}
    (h : (r.reduceAt d 2 content s).outcome = .ok value) :
    ((r.limitedTo (r.options.maxDepth - 1)).reduce d content s).outcome = .ok value := by
  -- The reducer's own limit is one more than the limit with one level less to go.
  have hself : r.limitedTo (r.options.maxDepth - 1 + 1) = r := by
    rw [Nat.sub_add_cancel hlimit]
    rfl
  have hsucc := r.reduceAt_succ (r.options.maxDepth - 1) d 1 content s
  rw [hself] at hsucc
  rw [hsucc] at h
  exact mapError_outcome_eq_ok_iff.mp h

/-! ## Parts of a record -/

section Record

variable {d : Descriptor} {x : Instance} {s : Selection} {value : Json} {field : String}

/-- The value of a field that a selection maps to a pick is a member of the result. -/
theorem exists_member_of_get? (h : (r.reduce d (.one x) s).outcome = .ok value)
    {pick : Selection.Pick} (hpick : s.get? field = some pick) :
    1 ≤ r.options.maxDepth ∧ ∃ entry, (r.fieldEntry d x 1 (field, pick)).outcome = .ok entry ∧
      value.member? entry.1 = some entry.2 := by
  obtain ⟨hlimit, hvalue⟩ := r.reduceAt_one_outcome_eq_ok_iff.mp h
  have hfields : s.fields.Nodup :=
    List.Nodup.of_map _ (r.outputKeys_nodup_of_ok d x 1 hvalue)
  have hmem := (Selection.get?_eq_some_iff hfields).mp hpick
  exact ⟨hlimit, r.exists_member_of_mem d x 1 hvalue hmem⟩

section Many

variable {link : HasMany} {rows : List Instance} (hfield : d.resolve r.naming field = .many link)
  (hfound : r.source.findMany link.target (manyFilter d x link) = .ok rows)
include hfield hfound

theorem member_many_part (h : (r.reduce d (.one x) s).outcome = .ok value) {sub : Selection}
    (hpick : s.get? field = some (.part sub)) :
    ∃ target part, r.source.describe link.target = .ok target ∧
      value.member? (r.naming.singular field) = some part ∧
      ((r.limitedTo (r.options.maxDepth - 1)).reduce target (.many rows) sub).outcome =
        .ok part := by
  obtain ⟨hlimit, entry, hentry, hmember⟩ := r.exists_member_of_get? h hpick
  cases hdescribe : r.source.describe link.target with
  | error e =>
      rw [fieldEntry, entry_of_many hfield, r.manyValue_of_ok hfound, pickShaping_part_many,
        describe_andThen_of_error hdescribe] at hentry
      cases hentry
  | ok target =>
      rw [r.fieldEntry_part_many hfield hfound hdescribe, afterCall_outcome, afterCall_outcome,
        keyed_outcome_eq_ok_iff] at hentry
      obtain ⟨hkey, hrows⟩ := hentry
      refine ⟨target, entry.2, rfl, ?_, r.reduce_eq_ok_of_reduceAt_two hlimit hrows⟩
      rw [← hkey]
      exact hmember

theorem fieldEntry_many_whole (level : Nat) :
    (r.fieldEntry d x level (field, .whole)).outcome =
      .ok (r.naming.singular field, .array (rows.map fun row => .object row.values)) := by
  rw [fieldEntry, entry_of_many hfield, r.manyValue_of_ok hfound]
  rfl

theorem member_many_whole (h : (r.reduce d (.one x) s).outcome = .ok value)
    (hpick : s.get? field = some .whole) :
    value.member? (r.naming.singular field) =
      some (.array (rows.map fun row => .object row.values)) := by
  obtain ⟨-, entry, hentry, hmember⟩ := r.exists_member_of_get? h hpick
  rw [r.fieldEntry_many_whole hfield hfound] at hentry
  cases hentry
  exact hmember

theorem reduce_many_whole (hlimit : 1 ≤ r.options.maxDepth) :
    (r.reduce d (.one x) (.whole field .nil)).outcome =
      .ok (.object [(r.naming.singular field,
        .array (rows.map fun row => .object row.values))]) := by
  refine r.reduceAt_one_outcome_eq_ok_iff.mpr ⟨hlimit, ?_⟩
  refine (r.reduceInstance_outcome_eq_ok_iff d x 1).mpr ⟨[(_, _)], .cons ?_ .nil, ?_, rfl⟩
  · exact r.fieldEntry_many_whole hfield hfound 1
  · exact List.nodup_singleton _

end Many

theorem member_one_part {link : BelongsTo} {target : Descriptor} {row : Instance}
    (hfield : d.resolve r.naming field = .one link)
    (hkey : (x.get? link.foreignKey).getD .null ≠ .null)
    (hdescribe : r.source.describe link.target = .ok target)
    (hfound : r.source.findOne link.target
      (.single target.idField ((x.get? link.foreignKey).getD .null)) = .ok (some row))
    (h : (r.reduce d (.one x) s).outcome = .ok value) {sub : Selection}
    (hpick : s.get? field = some (.part sub)) :
    ∃ part, value.member? field = some part ∧
      ((r.limitedTo (r.options.maxDepth - 1)).reduce target (.one row) sub).outcome =
        .ok part := by
  obtain ⟨hlimit, entry, hentry, hmember⟩ := r.exists_member_of_get? h hpick
  obtain ⟨hname, hvalue⟩ := (r.entry_outcome_eq_ok_iff d x).mp hentry
  rw [r.outputKey_of_one d hfield] at hname
  rw [hfield] at hvalue
  simp only [r.oneValue_of_ne_null hkey, describe_andThen_of_ok hdescribe,
    findOne_andThen_of_ok hfound, afterCall_outcome] at hvalue
  refine ⟨entry.2, hname ▸ hmember, ?_⟩
  split at hvalue
  · exact r.reduce_eq_ok_of_reduceAt_two hlimit hvalue
  · cases hvalue

end Record

/-! ## Parts and sub-resources -/

/-- What is picked of an association is the sub-resource reduced on its own, with one level less to
go: the records of a has-many association as a collection, and the record of a belongs-to
association alone.  Records that are taken whole are the same ones.  More generally, a reduction one
level deeper under a limit larger by one asks the same questions and has the same outcome, up to the
limit that its error names. -/
theorem reduce_parts_areSubResources (r : Reducer) :
    (∀ d x s value field sub, (r.reduce d (.one x) s).outcome = .ok value →
      s.get? field = some (.part sub) →
        (∀ link rows, d.resolve r.naming field = .many link →
          r.source.findMany link.target (manyFilter d x link) = .ok rows →
            (∃ target part, r.source.describe link.target = .ok target ∧
              value.member? (r.naming.singular field) = some part ∧
              ((r.limitedTo (r.options.maxDepth - 1)).reduce target (.many rows) sub).outcome =
                .ok part) ∧
            (r.reduce d (.one x) (.whole field .nil)).outcome =
              .ok (.object [(r.naming.singular field,
                .array (rows.map fun row => .object row.values))]) ∧
            ∀ t value', (r.reduce d (.one x) t).outcome = .ok value' →
              t.get? field = some .whole →
                value'.member? (r.naming.singular field) =
                  some (.array (rows.map fun row => .object row.values))) ∧
        ∀ link target row, d.resolve r.naming field = .one link →
          (x.get? link.foreignKey).getD .null ≠ .null →
          r.source.describe link.target = .ok target →
          r.source.findOne link.target
            (.single target.idField ((x.get? link.foreignKey).getD .null)) = .ok (some row) →
            ∃ part, value.member? field = some part ∧
              ((r.limitedTo (r.options.maxDepth - 1)).reduce target (.one row) sub).outcome =
                .ok part) ∧
    ∀ limit d level content s,
      (r.limitedTo (limit + 1)).reduceAt d (level + 1) content s =
        ((r.limitedTo limit).reduceAt d level content s).mapError .raiseLimit := by
  refine ⟨?_, r.reduceAt_succ⟩
  intro d x s value field sub hvalue hpick
  constructor
  · intro link rows hfield hfound
    refine ⟨r.member_many_part hfield hfound hvalue hpick, ?_, ?_⟩
    · have hlimit := (r.exists_member_of_get? hvalue hpick).1
      exact r.reduce_many_whole hfield hfound hlimit
    · intro t value' hvalue' hwhole
      exact r.member_many_whole hfield hfound hvalue' hwhole
  · intro link target row hfield hkey hdescribe hfound
    exact r.member_one_part hfield hkey hdescribe hfound hvalue hpick

/-- An order of the sample user. -/
def sampleOrder : Instance := ⟨"Order", [("id", .int 10), ("userId", .int 1)]⟩

/-- The orders of the sample user, and the user of an order, are reduced as if they had been asked
for, and the orders are the same when they are taken whole. -/
theorem sample_areSubResources :
    (Sample.reducer.reduce Sample.user (.one Sample.ann) Sample.selection).outcome =
        .ok Sample.result ∧
      (∃ rows part target,
        Sample.reducer.source.findMany "Order"
          (manyFilter Sample.user Sample.ann ⟨"orders", "Order", "userId"⟩) = .ok rows ∧
        rows.length = 1 ∧
        Sample.result.member? "order" = some part ∧
        ((Sample.reducer.limitedTo 15).reduce target (.many rows)
          (.whole "status" (.part "user" (.whole "name" .nil) .nil))).outcome = .ok part) ∧
      (Sample.reducer.reduce Sample.user (.one Sample.ann) (.whole "orders" .nil)).outcome =
        .ok (.object [("order", .array
          [.object [("id", .int 10), ("status", .string "open"), ("userId", .int 1)]])]) ∧
      (Sample.reducer.reduce Sample.order (.one sampleOrder)
        (.part "user" (.whole "name" .nil) .nil)).outcome =
          .ok (.object [("user", .object [("name", .string "Ann")])]) ∧
      ((Sample.reducer.limitedTo 15).reduce Sample.user (.one Sample.ann)
        (.whole "name" .nil)).outcome = .ok (.object [("name", .string "Ann")]) := by
  have hvalue : (Sample.reducer.reduce Sample.user (.one Sample.ann) Sample.selection).outcome =
      .ok Sample.result := rfl
  have hvalue' : (Sample.reducer.reduce Sample.order (.one sampleOrder)
      (.part "user" (.whole "name" .nil) .nil)).outcome =
        .ok (.object [("user", .object [("name", .string "Ann")])]) := rfl
  have hmany : Sample.user.resolve Sample.reducer.naming "orders" =
      .many ⟨"orders", "Order", "userId"⟩ := rfl
  have hone : Sample.order.resolve Sample.reducer.naming "user" = .one ⟨"User", "userId"⟩ := rfl
  obtain ⟨hparts, -⟩ := Sample.reducer.reduce_parts_areSubResources
  obtain ⟨⟨target, part, -, hmember, hpart⟩, hwhole, -⟩ :=
    (hparts Sample.user Sample.ann Sample.selection Sample.result "orders" _ hvalue rfl).1 _ _
      hmany rfl
  obtain ⟨part', hmember', hpart'⟩ :=
    (hparts Sample.order sampleOrder _ _ "user" _ hvalue' rfl).2 _ Sample.user Sample.ann
      hone nofun rfl rfl
  obtain rfl := Option.some.inj hmember'
  exact ⟨hvalue, ⟨_, part, target, rfl, rfl, hmember, hpart⟩, hwhole, hvalue', hpart'⟩

end Reducer
end SparseFields
