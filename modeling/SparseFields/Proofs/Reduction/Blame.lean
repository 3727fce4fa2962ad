import SparseFields.Proofs.Reduction.Nodes
import SparseFields.Proofs.Reduction.Questions

/-!
# Where a reduction fails

An error names a place and a cause, and both are what happened.  Its positions lead through the
collections that were being reduced to a site, and at that site the root cause holds: a field that
is unknown there, two fields with one key, a level beyond the limit, or a question about the target
of a field that was refused or answered with a record of another entity.  The main statement adds
what the questions of the run say about the same cause.

The induction is along the parts that a selection picks.  A part is reduced as content of its own,
so that the site of an error inside it is reached by one more step.
-/

namespace SparseFields

/-- The positions in collections around an error, the outermost first. -/
def ReduceError.places : ReduceError → List Nat
  | .atIndex index source => index :: source.places
  | _ => []

namespace Reducer

variable (r : Reducer)

/-- What holds at a site for a cause to come up there. -/
inductive FailsAt : Site → ReduceError → Prop
  /-- The site is beyond the deepest level. -/
  | tooDeep {site : Site} (deep : r.options.maxDepth < site.level) :
      FailsAt site (.shapeConflict (.tooDeep site.descriptor.name r.options.maxDepth))
  /-- A field is not owned and matches no association. -/
  | unknownField {d x level s field} (chosen : field ∈ s.fields)
      (notOwned : d.owns field = false)
      (notMany : ∀ link ∈ d.hasMany, r.naming.namesMany field link.name = false)
      (notOne : ∀ link ∈ d.belongsTo, r.naming.namesOne field link.foreignKey = false) :
      FailsAt ⟨d, .one x, level, s⟩ (.unknownField d.name field)
  /-- Two fields have the same key. -/
  | outputTaken {d x level s field field'} (chosen : field ∈ s.fields) (chosen' : field' ∈ s.fields)
      (different : field ≠ field') (same : r.outputKey d field = r.outputKey d field') :
      FailsAt ⟨d, .one x, level, s⟩ (.shapeConflict (.outputTaken d.name (r.outputKey d field)))
  /-- A question about the target of a field is refused. -/
  | refused {d x level s field call e} (chosen : field ∈ s.fields)
      (refused : r.source.Refuses e call)
      (linked : d.targetOf r.naming field = some call.entity) :
      FailsAt ⟨d, .one x, level, s⟩ (.fetchFailed e)
  /-- A record of the target of a field is of another entity than its descriptor. -/
  | wrongEntity {d x level s field entity filter target row} (chosen : field ∈ s.fields)
      (linked : d.targetOf r.naming field = some entity)
      (described : r.source.describe entity = .ok target)
      (found : r.source.findOne entity filter = .ok (some row))
      (differs : row.entity ≠ target.name) :
      FailsAt ⟨d, .one x, level, s⟩ (.shapeConflict (.wrongEntity row.entity target.name))

/-- An error is blamed on a site to which its positions lead. -/
def Blames (site : Site) (e : ReduceError) : Prop :=
  ∃ site', r.Visits site e.places site' ∧ r.FailsAt site' e.rootCause

variable {r}

/-- A cause at the site itself, without positions. -/
theorem FailsAt.blames {site : Site} {e : ReduceError} (h : r.FailsAt site e.rootCause)
    (hplaces : e.places = []) : r.Blames site e :=
  ⟨site, hplaces ▸ .here site, h⟩

/-- Content that is not reduced is blamed on a site, if single records are. -/
theorem blames_of_reduceAt_error {s : Selection} {d : Descriptor} {level : Nat}
    (hone : level ≤ r.options.maxDepth → ∀ x e,
      (r.reduceInstance d x level s).outcome = .error e → r.Blames ⟨d, .one x, level, s⟩ e)
    {content : Content} {e : ReduceError} (h : (r.reduceAt d level content s).outcome = .error e) :
    r.Blames ⟨d, content, level, s⟩ e := by
  cases content with
  | one x =>
      rcases r.reduceAt_one_outcome_eq_error_iff.mp h with ⟨hdeep, rfl⟩ | ⟨hlevel, herror⟩
      · exact FailsAt.blames (.tooDeep hdeep) rfl
      · exact hone hlevel x e herror
  | many xs =>
      rcases r.reduceAt_many_outcome_eq_error_iff.mp h with
        ⟨hdeep, rfl⟩ | ⟨hlevel, before, x, after, source, rfl, hbefore, herror, rfl⟩
      · exact FailsAt.blames (.tooDeep hdeep) rfl
      · obtain ⟨site, hvisits, hfails⟩ := hone hlevel x source herror
        exact ⟨site, .element hlevel hbefore hvisits, hfails⟩

/-- Under a pick, content that is not reduced to the picked part is blamed on a site. -/
def BlamesParts (r : Reducer) (pick : Selection.Pick) : Prop :=
  ∀ sub, pick = .part sub → ∀ d level content e,
    (r.reduceAt d level content sub).outcome = .error e → r.Blames ⟨d, content, level, sub⟩ e

section Fields

variable {d : Descriptor} {x : Instance} {level : Nat} {s : Selection} {field : String}
  {pick : Selection.Pick} {e : ReduceError}

theorem blames_of_manyValue_error {link : HasMany} (hlevel : level ≤ r.options.maxDepth)
    (hcomes : r.ComesTo d x level s (field, pick))
    (hfield : d.resolve r.naming field = .many link) (hpart : r.BlamesParts pick)
    (h : (r.manyValue d x link (r.pickShaping level pick)).outcome = .error e) :
    r.Blames ⟨d, .one x, level, s⟩ e := by
  have hchosen : field ∈ s.fields := Selection.mem_fields_of_mem hcomes.mem
  have hlinked := Descriptor.targetOf_of_many hfield
  rcases r.manyValue_outcome_eq_error_iff.mp h with
    ⟨rows, hfound, herror⟩ | ⟨cause, hrefused, -, rfl⟩
  · cases pick with
    | whole => cases herror
    | part sub =>
        rw [pickShaping_part_many] at herror
        rcases Run.describe_andThen_outcome_eq_error_iff.mp herror with
          ⟨cause, hrefused, rfl⟩ | ⟨target, hdescribe, herror⟩
        · have hrefuses : r.source.Refuses cause (.describe link.target) := hrefused
          exact FailsAt.blames (.refused hchosen hrefuses hlinked) rfl
        · obtain ⟨site, hvisits, hfails⟩ := hpart sub rfl _ _ _ _ herror
          exact ⟨site, .records hlevel hcomes hfield hfound hdescribe hvisits, hfails⟩
  · have hrefuses : r.source.Refuses cause (.findMany link.target (manyFilter d x link)) :=
      hrefused
    exact FailsAt.blames (.refused hchosen hrefuses hlinked) rfl

theorem blames_of_oneValue_error {link : BelongsTo} (hlevel : level ≤ r.options.maxDepth)
    (hcomes : r.ComesTo d x level s (field, pick))
    (hfield : d.resolve r.naming field = .one link) (hpart : r.BlamesParts pick)
    (h : (r.oneValue x link (r.pickShaping level pick)).outcome = .error e) :
    r.Blames ⟨d, .one x, level, s⟩ e := by
  have hchosen : field ∈ s.fields := Selection.mem_fields_of_mem hcomes.mem
  have hlinked := Descriptor.targetOf_of_one hfield
  obtain ⟨hkey, h⟩ := r.oneValue_outcome_eq_error_iff.mp h
  rcases h with ⟨cause, hrefused, rfl⟩ | ⟨target, hdescribe, h⟩
  · have hrefuses : r.source.Refuses cause (.describe link.target) := hrefused
    exact FailsAt.blames (.refused hchosen hrefuses hlinked) rfl
  · rcases h with ⟨cause, hrefused, rfl⟩ | ⟨row, hfound, ⟨hname, rfl⟩ | ⟨hname, herror⟩⟩
    · have hrefuses : r.source.Refuses cause (.findOne link.target
          (.single target.idField ((x.get? link.foreignKey).getD .null))) := hrefused
      exact FailsAt.blames (.refused hchosen hrefuses hlinked) rfl
    · exact FailsAt.blames (.wrongEntity hchosen hlinked hdescribe hfound hname) rfl
    · cases pick with
      | whole => cases herror
      | part sub =>
          rw [pickShaping_part_one] at herror
          obtain ⟨site, hvisits, hfails⟩ := hpart sub rfl _ _ _ _ herror
          exact ⟨site, .record hlevel hcomes hfield hkey hdescribe hfound hname hvisits, hfails⟩

/-- An entry of a field that is not there is blamed on the record, or on a site inside the picked
part. -/
theorem blames_of_fieldEntry_error (hlevel : level ≤ r.options.maxDepth)
    (hcomes : r.ComesTo d x level s (field, pick)) (hpart : r.BlamesParts pick)
    (h : (r.fieldEntry d x level (field, pick)).outcome = .error e) :
    r.Blames ⟨d, .one x, level, s⟩ e := by
  have herror := (r.entry_outcome_eq_error_iff d x).mp h
  cases hfield : d.resolve r.naming field with
  | owned =>
      rw [hfield] at herror
      exact herror.elim
  | many link =>
      rw [hfield] at herror
      exact blames_of_manyValue_error hlevel hcomes hfield hpart herror
  | one link =>
      rw [hfield] at herror
      exact blames_of_oneValue_error hlevel hcomes hfield hpart herror
  | unknown =>
      rw [hfield] at herror
      subst herror
      obtain ⟨hnotOwned, hnotMany, hnotOne⟩ := Descriptor.resolve_eq_unknown_iff.mp hfield
      have hchosen : field ∈ s.fields := Selection.mem_fields_of_mem hcomes.mem
      exact FailsAt.blames (.unknownField hchosen hnotOwned hnotMany hnotOne) rfl

end Fields

/-- A record that is not reduced is blamed on a site. -/
theorem blames_of_reduceInstance_error {s : Selection} (hs : s.Distinct) {d : Descriptor}
    {x : Instance} {level : Nat} (hlevel : level ≤ r.options.maxDepth) {e : ReduceError}
    (h : (r.reduceInstance d x level s).outcome = .error e) :
    r.Blames ⟨d, .one x, level, s⟩ e := by
  induction s using Selection.parts_induction generalizing d x level e with
  | step s ih =>
      obtain ⟨⟨field, pick⟩, hcomes, herror | ⟨field', hfield', hne, hsame, rfl⟩⟩ :=
        r.reduceInstance_outcome_eq_error d x level hs.fields_nodup h
      · -- Inside a part, the error is that of content of its own, one level deeper.
        refine blames_of_fieldEntry_error hlevel hcomes ?_ herror
        rintro sub rfl d level content e herror
        have hpart : sub.Distinct := hs.part hcomes.mem
        exact blames_of_reduceAt_error
          (fun hlevel x e => ih field sub hcomes.mem hpart hlevel) herror
      · have hchosen : field ∈ s.fields := Selection.mem_fields_of_mem hcomes.mem
        exact FailsAt.blames (.outputTaken hchosen hfield' hne hsame) rfl

/-- An error of a reduction is blamed on a site. -/
theorem blames_of_reduce_error {s : Selection} (hs : s.Distinct) {d : Descriptor}
    {content : Content} {e : ReduceError} (h : (r.reduce d content s).outcome = .error e) :
    r.Blames ⟨d, content, 1, s⟩ e :=
  blames_of_reduceAt_error (fun hlevel _ _ => blames_of_reduceInstance_error hs hlevel) h

/-! ## Errors of requests -/

variable (r)

/-- When a request with a parsed selection fails, the positions of the error lead to a site where
its root cause holds, and the questions of the run fit this cause: an error of the source is the
answer to the last question, and no question before the last one stopped the run.  A limit that is
exceeded is one that the selection is too deep for. -/
theorem reduce_error_isTruthful (d : Descriptor) (content : Content) (raw : String)
    (s : Selection) (hparse : Selection.parse raw = .ok s) (e : ReduceError)
    (h : (r.reduce d content s).outcome = .error e) :
    r.Blames ⟨d, content, 1, s⟩ e ∧
      r.CauseOfQuestions (r.reduce d content s).calls e.rootCause ∧
      (∀ call ∈ (r.reduce d content s).calls.dropLast, r.GoesOnAfter call) ∧
      ∀ entity limit, e.rootCause = .shapeConflict (.tooDeep entity limit) →
        limit = r.options.maxDepth ∧ limit < s.depth := by
  have hcause := (accounts_reduce d content s).error e h
  have hblames := blames_of_reduce_error (Selection.legible_of_parse hparse).distinct h
  refine ⟨hblames, hcause, hcause.goesOn_dropLast, ?_⟩
  intro entity limit hroot
  obtain ⟨site, hvisits, hfails⟩ := hblames
  rw [hroot] at hfails
  cases hfails with
  | tooDeep hdeep =>
      have hparts : s ≠ .nil ∧ s.NoEmptyPart :=
        ⟨Selection.ne_nil_of_parse hparse, (Selection.legible_of_parse hparse).noEmptyPart⟩
      have hlevel := hvisits.level_le_depth hparts
      exact ⟨rfl, Nat.lt_of_lt_of_le hdeep hlevel⟩

/-- Of a user's orders, a field that orders do not have. -/
def sampleUnknown : Selection := .part "orders" (.whole "total" (.whole "colour" .nil)) .nil

theorem sample_isTruthful :
    Selection.parse "orders(total,colour)" = .ok sampleUnknown ∧
      (Sample.reducer.reduce Sample.user (.many [Sample.ann]) sampleUnknown).outcome =
        .error (.atIndex 0 (.atIndex 0 (.unknownField "Order" "colour"))) ∧
      Sample.reducer.Blames ⟨Sample.user, .many [Sample.ann], 1, sampleUnknown⟩
        (.atIndex 0 (.atIndex 0 (.unknownField "Order" "colour"))) ∧
      ∀ call ∈ (Sample.reducer.reduce Sample.user (.many [Sample.ann]) sampleUnknown).calls,
        Sample.reducer.GoesOnAfter call := by
  have hparse : Selection.parse "orders(total,colour)" = .ok sampleUnknown := by decide +kernel
  have herror : (Sample.reducer.reduce Sample.user (.many [Sample.ann]) sampleUnknown).outcome =
      .error (.atIndex 0 (.atIndex 0 (.unknownField "Order" "colour"))) := rfl
  have h := Sample.reducer.reduce_error_isTruthful Sample.user (.many [Sample.ann])
    "orders(total,colour)" sampleUnknown hparse _ herror
  exact ⟨hparse, herror, h.1, h.2.1⟩

end Reducer
end SparseFields
