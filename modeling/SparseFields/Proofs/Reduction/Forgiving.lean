import SparseFields.Proofs.Reduction.Lockstep
import SparseFields.Proofs.Reduction.Questions

/-!
# Forgiving refused questions for records

A reducer can be told to forgive refused questions for the records of has-many associations.  This
changes nothing about a reduction that meets no such refusal.  Where one is met, the strict
reduction ends with it, and the forgiving one has asked the same up to this point and goes on with
no records in their place.  Nothing else is forgiven: what ends the forgiving reduction with an
error of the source is the refusal of a question of another kind.
-/

namespace SparseFields

/-- A question for the records of a has-many association is refused. -/
def Source.RefusesMany (source : Source) (call : Call) : Prop :=
  call.IsFindMany ∧ ∃ e, source.Refuses e call

theorem Source.refusesMany_iff {source : Source} {entity : String} {filter : Filter} :
    source.RefusesMany (.findMany entity filter) ↔
      ∃ e, source.findMany entity filter = .error e :=
  and_iff_right trivial

/-- The questions end with the first one for records that is refused, and the cause is its
refusal. -/
def Source.EndsRefused (source : Source) (calls : List Call) (cause : ReduceError) : Prop :=
  ∃ before last e, calls = before ++ [last] ∧ (∀ call ∈ before, ¬source.RefusesMany call) ∧
    last.IsFindMany ∧ source.Refuses e last ∧ cause = .fetchFailed e

/-- Where the questions end with the first refused one, no other one is refused. -/
theorem Source.EndsRefused.of_mem {source : Source} {calls : List Call} {cause : ReduceError}
    (h : source.EndsRefused calls cause) {call : Call} (hmem : call ∈ calls)
    (hcall : source.RefusesMany call) :
    ∃ before e, calls = before ++ [call] ∧ (∀ other ∈ before, ¬source.RefusesMany other) ∧
      source.Refuses e call ∧ cause = .fetchFailed e := by
  obtain ⟨before, last, e, rfl, hclean, -, hrefuses, rfl⟩ := h
  rcases List.mem_append.mp hmem with hmem | hmem
  · exact absurd hcall (hclean call hmem)
  · rw [List.mem_singleton.mp hmem]
    exact ⟨before, e, rfl, hclean, hrefuses, rfl⟩

namespace Reducer

open Run

variable (r : Reducer)

/-- A strict run and its forgiving counterpart. -/
abbrev Forgives {α : Type} (strict forgiving : Run α) : Prop :=
  CutShort (fun call => ¬r.source.RefusesMany call) r.source.EndsRefused strict forgiving

theorem prepends_endsRefused (source : Source) :
    Prepends (fun call => ¬source.RefusesMany call) source.EndsRefused := by
  rintro before _ _ hbefore ⟨before', last, e, rfl, hbefore', hlast⟩
  refine ⟨before ++ before', last, e, (List.append_assoc _ _ _).symm, ?_, hlast⟩
  exact List.forall_mem_append.mpr ⟨hbefore, hbefore'⟩

/-- The strict and the forgiving reducer are in lockstep until a question for records is refused. -/
theorem lockstep_forgiving :
    Lockstep (fun _ => r.Forgives) 0 (r.forgiving false) (r.forgiving true) where
  relation := runRelation_cutShort (prepends_endsRefused r.source)
  source_eq := rfl
  naming_eq := rfl
  describe entity := by
    refine .same rfl ?_
    rw [describe_calls, List.forall_mem_singleton]
    exact And.left
  findOne entity filter := by
    refine .same rfl ?_
    rw [findOne_calls, List.forall_mem_singleton]
    exact And.left
  found hrows h := by
    refine h.afterCall (prepends_endsRefused r.source) ?_
    rw [Source.refusesMany_iff]
    rintro ⟨e, hrefused⟩
    cases hrows.symm.trans hrefused
  refused hrefused := by
    refine .cut rfl ?_ (List.prefix_refl _)
    exact ⟨[], _, _, rfl, List.forall_mem_nil _, trivial, hrefused, rfl⟩
  checkLevel d level := cutShort_of_silent ((r.forgiving false).checkLevel_calls d level)

/-- What it changes about a strict run when refused questions for records are forgiven. -/
structure Conservative (source : Source) (strict forgiving : Run Json) : Prop where
  /-- Without such a refusal, nothing is changed. -/
  unrefused : (∀ call ∈ strict.calls, ¬source.RefusesMany call) → forgiving = strict
  /-- The first such refusal ends the strict run and is its root cause, and the forgiving run
  begins with the same questions. -/
  refused : ∀ call ∈ strict.calls, source.RefusesMany call →
    (∃ before, strict.calls = before ++ [call] ∧
      ∀ other ∈ before, ¬source.RefusesMany other) ∧
    (∃ e cause, strict.outcome = .error e ∧ e.rootCause = .fetchFailed cause ∧
      source.Refuses cause call) ∧
    strict.calls <+: forgiving.calls
  /-- An error of the source ends the forgiving run when another question is refused. -/
  unforgiven : ∀ e cause, forgiving.outcome = .error e → e.rootCause = .fetchFailed cause →
    ∃ before last, forgiving.calls = before ++ [last] ∧ source.Refuses cause last ∧
      ¬last.IsFindMany

theorem conservative_reduce (d : Descriptor) (content : Content) (s : Selection) :
    Conservative r.source ((r.forgiving false).reduce d content s)
      ((r.forgiving true).reduce d content s) := by
  have hruns : r.Forgives ((r.forgiving false).reduce d content s)
      ((r.forgiving true).reduce d content s) := r.lockstep_forgiving.reductions d 1 content s
  constructor
  · intro hclean
    cases hruns with
    | same heq => exact heq.symm
    | cut _ hcut =>
        obtain ⟨before, last, e, hcalls, -, hmany, hrefuses, -⟩ := hcut
        have hmem : last ∈ ((r.forgiving false).reduce d content s).calls := by
          rw [hcalls]
          exact List.mem_concat_self
        exact absurd ⟨hmany, e, hrefuses⟩ (hclean last hmem)
  · intro call hmem hcall
    cases hruns with
    | same _ hclean => exact absurd hcall (hclean call hmem)
    | @cut e hfailed hcut hbegins =>
        obtain ⟨before, cause, hcalls, hclean, hrefuses, hroot⟩ := hcut.of_mem hmem hcall
        exact ⟨⟨before, hcalls, hclean⟩, ⟨e, cause, hfailed, hroot, hrefuses⟩, hbegins⟩
  · intro e cause herror hroot
    have hquestions := (accounts_reduce (r := r.forgiving true) d content s).error e herror
    rw [hroot] at hquestions
    obtain ⟨before, last, hcalls, -, hrefuses, hstops⟩ := hquestions
    exact ⟨before, last, hcalls, hrefuses, fun hmany => hstops (.inr ⟨rfl, hmany⟩)⟩

/-! ## Refused records -/

/-- A field whose records are refused has no records, and nothing else is asked for it. -/
theorem fieldEntry_of_refused {d : Descriptor} {x : Instance} {field : String} {link : HasMany}
    (hforgiving : r.options.emptyOnFetchFailure = true)
    (hfield : d.resolve r.naming field = .many link) {e : StoreError}
    (hrefused : r.source.findMany link.target (manyFilter d x link) = .error e) (level : Nat)
    (pick : Selection.Pick) :
    r.fieldEntry d x level (field, pick) =
      (done (r.naming.singular field, .array [])).afterCall
        (.findMany link.target (manyFilter d x link)) := by
  rw [fieldEntry, entry_of_many hfield, r.manyValue_of_error hrefused, if_pos hforgiving,
    afterCall_andThen, done_andThen]

/-- Forgiving refused questions for records is conservative, and a field whose records are refused
has the empty array for its value.  Nothing but these records is asked for the field, at whatever
level it is and whatever is picked of it. -/
theorem reduce_forgiving_isConservative (d : Descriptor) (content : Content) (s : Selection) :
    Conservative r.source ((r.forgiving false).reduce d content s)
      ((r.forgiving true).reduce d content s) ∧
    ∀ d x level field pick link, d.resolve r.naming field = .many link →
      r.source.RefusesMany (.findMany link.target (manyFilter d x link)) →
        (r.forgiving true).fieldEntry d x level (field, pick) =
          ⟨[.findMany link.target (manyFilter d x link)],
            .ok (r.naming.singular field, .array [])⟩ ∧
        ∀ t value, (field, pick) ∈ t.toList →
          ((r.forgiving true).reduceInstance d x level t).outcome = .ok value →
            value.member? (r.naming.singular field) = some (.array []) := by
  refine ⟨r.conservative_reduce d content s, ?_⟩
  intro d x level field pick link hfield hrefused
  obtain ⟨e, hrefused⟩ := Source.refusesMany_iff.mp hrefused
  have hentry := (r.forgiving true).fieldEntry_of_refused rfl hfield hrefused level pick
  refine ⟨hentry, ?_⟩
  intro t value hmem hvalue
  obtain ⟨entry, hrun, hmember⟩ := (r.forgiving true).exists_member_of_mem d x level hvalue hmem
  rw [hentry] at hrun
  cases hrun
  exact hmember

/-- The reducer over the sample shop when the orders of its user cannot be fetched. -/
def sampleRefusing : Reducer :=
  ⟨(Sample.shop.failOn "Order" (.single "userId" (.int 1))).source, .conventional, .default⟩

/-- The strict reduction ends with the refused orders, and the forgiving one has none in their
place. -/
theorem sample_isConservative :
    ((sampleRefusing.forgiving false).reduce Sample.user (.one Sample.ann)
        Sample.selection).outcome =
      .error (.fetchFailed (.query "Order" Store.failureReason)) ∧
    ((sampleRefusing.forgiving true).reduce Sample.user (.one Sample.ann)
        Sample.selection).outcome =
      .ok (.object [("name", .string "Ann"), ("order", .array [])]) ∧
    ((sampleRefusing.forgiving false).reduce Sample.user (.one Sample.ann)
        Sample.selection).calls <+:
      ((sampleRefusing.forgiving true).reduce Sample.user (.one Sample.ann)
        Sample.selection).calls := by
  have hrefused : sampleRefusing.source.RefusesMany
      (.findMany "Order" (.single "userId" (.int 1))) := ⟨trivial, _, rfl⟩
  obtain ⟨hconservative, -⟩ :=
    sampleRefusing.reduce_forgiving_isConservative Sample.user (.one Sample.ann) Sample.selection
  exact ⟨rfl, rfl, (hconservative.refused _ (.head _) hrefused).2.2⟩

end Reducer
end SparseFields
