import SparseFields.Proofs.Reduction.Blame
import SparseFields.Proofs.Reduction.Lockstep

/-!
# Limits of nesting

The limit of a reducer only cuts.  A reduction that stays within the limit is the same under every
larger one, and a reduction that goes beyond it has asked what it also asks at first under a larger
one.  What is selected below the limit is not looked at.  For selections that are read from a text,
the limit that is needed is the number of levels: with fewer, some source leads beyond the limit.
-/

namespace SparseFields

/-! ## Selections that are cut -/

namespace Selection

/-- The first levels of a selection; a part that is picked below them chooses nothing. -/
def cutTo : Nat → Selection → Selection
  | 0, _ => .nil
  | _ + 1, .nil => .nil
  | levels + 1, .whole field rest => .whole field (cutTo (levels + 1) rest)
  | levels + 1, .part field sub rest => .part field (cutTo levels sub) (cutTo (levels + 1) rest)

/-- What is left of a pick. -/
def Pick.cutTo (levels : Nat) : Pick → Pick
  | .whole => .whole
  | .part sub => .part (sub.cutTo levels)

theorem toList_cutTo_succ (levels : Nat) (s : Selection) :
    (s.cutTo (levels + 1)).toList =
      s.toList.map fun choice => (choice.1, choice.2.cutTo levels) := by
  induction s with
  | nil => rfl
  | whole field rest ih =>
      rw [cutTo, toList, toList, ih]
      rfl
  | part field sub rest _ ih =>
      rw [cutTo, toList, toList, ih]
      rfl

theorem depth_cutTo_le (levels : Nat) (s : Selection) : (s.cutTo levels).depth ≤ levels := by
  induction levels generalizing s with
  | zero => rw [cutTo, depth]
  | succ levels ih =>
      rw [depth_le_succ_iff, toList_cutTo_succ]
      rintro choice hmem sub hsub
      obtain ⟨⟨field, pick⟩, -, rfl⟩ := List.mem_map.mp hmem
      cases pick with
      | whole => cases hsub
      | part sub =>
          cases hsub
          exact ih sub

end Selection

namespace Reducer

open Run

/-! ## Larger limits -/

/-- The cause of a run that goes beyond the limit. -/
def CutAtLimit (_ : List Call) (cause : ReduceError) : Prop :=
  ∃ entity limit, cause = .shapeConflict (.tooDeep entity limit)

variable (r : Reducer)

/-- A reducer is in lockstep with itself under a larger limit until it goes beyond its own. -/
theorem lockstep_limitedTo {limit limit' : Nat} (hle : limit ≤ limit') :
    Lockstep (fun _ => CutShort (fun _ => True) CutAtLimit) 0 (r.limitedTo limit)
      (r.limitedTo limit') where
  relation := runRelation_cutShort fun _ hcut => hcut
  source_eq := rfl
  naming_eq := rfl
  describe _ := .same rfl fun _ _ => trivial
  findOne _ _ := .same rfl fun _ _ => trivial
  found _ h := h.afterCall (fun _ hcut => hcut) trivial
  refused _ := .same rfl fun _ _ => trivial
  checkLevel d level := by
    by_cases hlevel : level ≤ limit
    · have hlevel' : level ≤ limit' := Nat.le_trans hlevel hle
      rw [Nat.add_zero, (r.limitedTo limit).checkLevel_of_le hlevel,
        (r.limitedTo limit').checkLevel_of_le hlevel']
      exact cutShort_of_silent rfl
    · rw [Nat.add_zero, (r.limitedTo limit).checkLevel_of_lt (Nat.not_le.mp hlevel)]
      exact .cut rfl ⟨d.name, limit, rfl⟩ List.nil_prefix

/-! ## Below the limit -/

theorem pickShaping_congr (level : Nat) {sub sub' : Selection}
    (h : ∀ d content,
      r.reduceAt d (level + 1) content sub = r.reduceAt d (level + 1) content sub') :
    r.pickShaping level (.part sub) = r.pickShaping level (.part sub') := by
  have hmany :
      (r.pickShaping level (.part sub)).many = (r.pickShaping level (.part sub')).many := by
    funext target rows
    simp only [pickShaping_part_many, h]
  have hone : (r.pickShaping level (.part sub)).one = (r.pickShaping level (.part sub')).one := by
    funext d row
    simp only [pickShaping_part_one, h]
  show Shaping.mk _ _ = Shaping.mk _ _
  rw [Shaping.mk.injEq]
  exact ⟨hmany, hone⟩

theorem reduceAt_of_lt {level : Nat} (h : r.options.maxDepth < level) (d : Descriptor)
    (content : Content) (s : Selection) :
    r.reduceAt d level content s =
      fail (.shapeConflict (.tooDeep d.name r.options.maxDepth)) := by
  cases content with
  | one x => rw [reduceAt, r.checkLevel_of_lt h, bind_eq_andThen, fail_andThen]
  | many xs => rw [reduceAt_many, r.checkLevel_of_lt h, fail_andThen]

/-- What is selected below the limit is not looked at. -/
theorem reduceAt_cutTo {levels level : Nat} (hlevels : r.options.maxDepth < level + levels)
    (d : Descriptor) (content : Content) (s : Selection) :
    r.reduceAt d level content (s.cutTo levels) = r.reduceAt d level content s := by
  induction levels generalizing level d content s with
  | zero =>
      rw [Nat.add_zero] at hlevels
      rw [r.reduceAt_of_lt hlevels, r.reduceAt_of_lt hlevels]
  | succ levels ih =>
      -- The fields of this level are kept, and the parts of them have one level less to go.
      have hpicks : ∀ d x (choice : String × Selection.Pick),
          r.fieldEntry d x level (choice.1, choice.2.cutTo levels) =
            r.fieldEntry d x level choice := by
        rintro d x ⟨field, pick⟩
        cases pick with
        | whole => rfl
        | part sub =>
            have hshaping := r.pickShaping_congr level fun d content =>
              ih (by omega) d content sub
            rw [fieldEntry, fieldEntry, Selection.Pick.cutTo, hshaping]
      have hone : ∀ x, r.reduceInstance d x level (s.cutTo (levels + 1)) =
          r.reduceInstance d x level s := by
        intro x
        rw [reduceInstance, reduceInstance, reduceFields_eq_writeEach, reduceFields_eq_writeEach,
          Selection.toList_cutTo_succ, List.map_map]
        simp only [Function.comp_def, hpicks]
      simp only [reduceAt, hone]

variable {r} in
/-- A reduction goes beyond the limit by one level at most. -/
theorem Visits.level_le {site site' : Site} {places : List Nat} (h : r.Visits site places site') :
    site'.level ≤ max site.level (r.options.maxDepth + 1) := by
  induction h with
  | here _ => exact Nat.le_max_left _ _
  | element _ _ _ ih => exact ih
  | records shallow _ _ _ _ _ ih | record shallow _ _ _ _ _ _ _ ih =>
      simp only at ih ⊢
      omega

/-! ## Enough levels -/

variable {r} in
theorem not_endsTooDeep_of_depth_le {raw : String} {s : Selection}
    (hparse : Selection.parse raw = .ok s) (hdepth : s.depth ≤ r.options.maxDepth)
    (d : Descriptor) (content : Content) : ¬(r.reduce d content s).EndsTooDeep := by
  rintro ⟨e, entity, limit, herror, hroot⟩
  have hlegible := Selection.legible_of_parse hparse
  obtain ⟨site, hvisits, hfails⟩ := blames_of_reduce_error hlegible.distinct herror
  rw [hroot] at hfails
  cases hfails with
  | tooDeep hdeep =>
      have hlevel := hvisits.level_le_depth ⟨Selection.ne_nil_of_parse hparse, hlegible.noEmptyPart⟩
      omega

/-! ## Too few levels -/

/-- The descriptor of an entity that any field but the empty one links to itself. -/
def endlessDescriptor : Descriptor :=
  { name := "Node", table := none, idField := "", attributes := [],
    hasMany := [⟨"nodes", "Node", "parent"⟩], belongsTo := [] }

/-- A record of it. -/
def endlessNode : Instance := ⟨"Node", []⟩

/-- A reducer over a source in which every record has one more record below it. -/
def endless (limit : Nat) : Reducer where
  source :=
    { describe _ := .ok endlessDescriptor
      findMany _ _ := .ok [endlessNode]
      findOne _ _ := .ok none }
  naming :=
    { singular field := field
      namesMany _ _ := true
      namesOne _ _ := false }
  options := { emptyOnFetchFailure := false, maxDepth := limit }

theorem endless_resolve {field : String} (h : field ≠ "") (limit : Nat) :
    endlessDescriptor.resolve (endless limit).naming field =
      .many ⟨"nodes", "Node", "parent"⟩ := by
  refine Descriptor.resolve_eq_many_iff.mpr ⟨?_, rfl⟩
  simp [Descriptor.owns, endlessDescriptor, h]

theorem endless_visits_descriptor {limit : Nat} {site site' : Site} {places : List Nat}
    (h : (endless limit).Visits site places site')
    (hsite : site.descriptor = endlessDescriptor) : site'.descriptor = endlessDescriptor := by
  induction h with
  | here _ => exact hsite
  | element _ _ _ ih => exact ih hsite
  | records _ _ _ _ described _ ih => exact ih (Except.ok.inj described).symm
  | record _ _ _ _ described _ _ _ ih => exact ih (Except.ok.inj described).symm

theorem endless_outputKey (limit : Nat) (field : String) :
    (endless limit).outputKey endlessDescriptor field = field := by
  rw [outputKey]
  split
  · rfl
  · split <;> rfl

/-- Nothing but its limit stops a reduction over the endless source. -/
theorem endless_endsTooDeep_of_error {limit : Nat} {s : Selection} (hs : s.Distinct)
    {e : ReduceError}
    (h : ((endless limit).reduce endlessDescriptor (.one endlessNode) s).outcome = .error e) :
    ((endless limit).reduce endlessDescriptor (.one endlessNode) s).EndsTooDeep := by
  obtain ⟨site, hvisits, hfails⟩ := blames_of_reduce_error hs h
  have hdescriptor := endless_visits_descriptor hvisits rfl
  generalize hcause : e.rootCause = cause at hfails
  cases hfails with
  | tooDeep _ => exact ⟨e, _, _, h, hcause⟩
  | unknownField _ _ hmany _ =>
      obtain rfl := hdescriptor
      cases hmany _ (List.mem_singleton.mpr rfl)
  | outputTaken _ _ hne hsame =>
      simp only at hdescriptor
      rw [hdescriptor, endless_outputKey, endless_outputKey] at hsame
      exact absurd hsame hne
  | @refused _ _ _ _ _ call _ _ hrefuses _ => cases call <;> cases hrefuses
  | wrongEntity _ _ _ hfound _ => cases hfound

/-- A reduction over the endless source needs a level for each level of the selection. -/
theorem endless_level_add_depth_le {limit level : Nat} {s : Selection} (hs : s.Named)
    (hlevel : level ≤ limit) {x : Instance} {value : Json}
    (h : ((endless limit).reduceInstance endlessDescriptor x level s).outcome = .ok value) :
    level + s.depth ≤ limit + 1 := by
  induction s using Selection.parts_induction generalizing level x value with
  | step s ih =>
      have hparts : s.depth ≤ (limit - level) + 1 := by
        rw [Selection.depth_le_succ_iff]
        rintro ⟨field, pick⟩ hmem sub rfl
        obtain ⟨hname, hsub⟩ := Selection.named_iff.mp hs _ hmem
        have hne : field ≠ "" := by
          rintro rfl
          exact hname.ne_nil rfl
        have hfield := endless_resolve hne limit
        obtain ⟨entry, hentry, -⟩ :=
          (endless limit).exists_member_of_mem endlessDescriptor x level h hmem
        rw [(endless limit).fieldEntry_part_many hfield rfl rfl, afterCall_outcome,
          afterCall_outcome, andThen_outcome_eq_ok_iff] at hentry
        obtain ⟨_, hrows, -⟩ := hentry
        obtain ⟨hdeeper, values, hvalues, -⟩ :=
          (endless limit).reduceAt_many_outcome_eq_ok_iff.mp hrows
        cases hvalues with
        | cons hvalue _ =>
            have hbelow := ih field sub hmem (hsub sub rfl) hdeeper hvalue
            omega
      omega

/-- With fewer levels than the selection has, a reduction over the endless source goes beyond the
limit. -/
theorem endless_endsTooDeep {limit : Nat} {s : Selection} (hs : s.Legible)
    (hdepth : limit < s.depth) :
    ((endless limit).reduce endlessDescriptor (.one endlessNode) s).EndsTooDeep := by
  cases houtcome : ((endless limit).reduce endlessDescriptor (.one endlessNode) s).outcome with
  | error e => exact endless_endsTooDeep_of_error hs.distinct houtcome
  | ok value =>
      obtain ⟨hlevel, hvalue⟩ := (endless limit).reduceAt_one_outcome_eq_ok_iff.mp houtcome
      have hfits : 1 + s.depth ≤ limit + 1 := endless_level_add_depth_le hs.named hlevel hvalue
      omega

/-! ## Limits only cut -/

/-- The limit of a reducer only cuts its reductions.  One that stays within the limit is the same
under a larger one, and one that goes beyond it begins with the same questions.  The result does not
change when everything below the limit is taken out of the selection, and a site beyond the limit is
one level below it and is not reduced.  The limits under which no reduction to a parsed selection
goes beyond the limit are those that are not smaller than the number of its levels. -/
theorem reduce_limit_onlyCuts (d : Descriptor) (content : Content) (s : Selection) :
    (∀ limit limit', limit ≤ limit' →
      (¬((r.limitedTo limit).reduce d content s).EndsTooDeep →
        (r.limitedTo limit').reduce d content s = (r.limitedTo limit).reduce d content s) ∧
      (((r.limitedTo limit).reduce d content s).EndsTooDeep →
        ((r.limitedTo limit).reduce d content s).calls <+:
          ((r.limitedTo limit').reduce d content s).calls)) ∧
    (∀ limit, (s.cutTo limit).depth ≤ limit ∧
      (r.limitedTo limit).reduce d content (s.cutTo limit) =
        (r.limitedTo limit).reduce d content s ∧
      ∀ places site, (r.limitedTo limit).Visits ⟨d, content, 1, s⟩ places site →
        site.level ≤ limit ∨
          site.level = limit + 1 ∧
            (r.limitedTo limit).reduceAt site.descriptor site.level site.content site.selection =
              .fail (.shapeConflict (.tooDeep site.descriptor.name limit))) ∧
    ∀ raw, Selection.parse raw = .ok s → ∀ limit, s.depth ≤ limit ↔
      ∀ (r : Reducer) d content, ¬((r.limitedTo limit).reduce d content s).EndsTooDeep := by
  refine ⟨?_, ?_, ?_⟩
  · intro limit limit' hle
    have hruns : CutShort (fun _ => True) CutAtLimit ((r.limitedTo limit).reduce d content s)
        ((r.limitedTo limit').reduce d content s) :=
      (r.lockstep_limitedTo hle).reductions d 1 content s
    cases hruns with
    | same heq =>
        rw [heq]
        exact ⟨fun _ => rfl, fun _ => List.prefix_refl _⟩
    | @cut e hfailed hcut hbegins =>
        obtain ⟨entity, limit, hroot⟩ := hcut
        exact ⟨fun hnot => absurd ⟨e, entity, limit, hfailed, hroot⟩ hnot, fun _ => hbegins⟩
  · intro limit
    refine ⟨Selection.depth_cutTo_le limit s, ?_, ?_⟩
    · have hlevels : limit < 1 + limit := Nat.lt_add_of_pos_left Nat.one_pos
      exact (r.limitedTo limit).reduceAt_cutTo hlevels d content s
    · intro places site hvisits
      have hlevel : site.level ≤ max 1 (limit + 1) := hvisits.level_le
      rcases Nat.lt_or_ge limit site.level with hdeep | hshallow
      · exact .inr ⟨by omega, (r.limitedTo limit).reduceAt_of_lt hdeep _ _ _⟩
      · exact .inl hshallow
  · intro raw hparse limit
    constructor
    · intro hdepth r d content
      exact not_endsTooDeep_of_depth_le (r := r.limitedTo limit) hparse hdepth d content
    · -- With too few levels, the endless source leads beyond the limit.
      intro hnever
      by_contra hdepth
      exact hnever (endless limit) endlessDescriptor (.one endlessNode)
        (endless_endsTooDeep (Selection.legible_of_parse hparse) (Nat.not_le.mp hdepth))

/-- The sample selection has three levels: two are not enough, and more than three change
nothing. -/
theorem sample_limit_onlyCuts :
    ((Sample.reducer.limitedTo 2).reduce Sample.user (.one Sample.ann) Sample.selection).outcome =
        .error (.atIndex 0 (.shapeConflict (.tooDeep "User" 2))) ∧
      ((Sample.reducer.limitedTo 2).reduce Sample.user (.one Sample.ann) Sample.selection).calls <+:
        ((Sample.reducer.limitedTo 3).reduce Sample.user (.one Sample.ann)
          Sample.selection).calls ∧
      ((Sample.reducer.limitedTo 3).reduce Sample.user (.one Sample.ann) Sample.selection).outcome =
        .ok Sample.result ∧
      (Sample.reducer.limitedTo 16).reduce Sample.user (.one Sample.ann) Sample.selection =
        (Sample.reducer.limitedTo 3).reduce Sample.user (.one Sample.ann) Sample.selection := by
  have htooFew : ((Sample.reducer.limitedTo 2).reduce Sample.user (.one Sample.ann)
      Sample.selection).outcome = .error (.atIndex 0 (.shapeConflict (.tooDeep "User" 2))) := rfl
  have henough : ((Sample.reducer.limitedTo 3).reduce Sample.user (.one Sample.ann)
      Sample.selection).outcome = .ok Sample.result := rfl
  have hwithin : ¬((Sample.reducer.limitedTo 3).reduce Sample.user (.one Sample.ann)
      Sample.selection).EndsTooDeep := by
    rintro ⟨e, -, -, herror, -⟩
    cases henough.symm.trans herror
  obtain ⟨hcuts, -, -⟩ :=
    Sample.reducer.reduce_limit_onlyCuts Sample.user (.one Sample.ann) Sample.selection
  refine ⟨htooFew, ?_, henough, ?_⟩
  · exact (hcuts 2 3 (by decide)).2 ⟨_, _, _, htooFew, rfl⟩
  · exact (hcuts 3 16 (by decide)).1 hwithin

end Reducer
end SparseFields
