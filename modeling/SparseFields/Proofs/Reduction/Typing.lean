import SparseFields.Proofs.Reduction.Blame
import SparseFields.Proofs.Store.History

/-!
# Selections that fit the schema

A selection fits the schema when, at every node, each field is known, the target of each association
is registered, and no two fields have the same key.  This is seen from the descriptors alone.  Over
a store that was never told to fail, such a selection of an allowed depth is answered for every
content: values may be missing or null, keys may point nowhere, and records may refer to each other
in circles.

If it were not, the error would be blamed on a site.  The site is at a node, and at a node that fits
the schema none of the causes can come up.
-/

namespace SparseFields

/-- A store that was never told to fail refuses no question about a registered entity. -/
theorem Store.Consistent.not_refuses_of_describe {store : Store} (hstore : store.Consistent)
    (hfailures : store.failures = []) {call : Call} {target : Descriptor}
    (hdescribed : store.describe call.entity = .ok target) (e : StoreError) :
    ¬store.source.Refuses e call := by
  intro hrefuses
  cases call with
  | describe entity =>
      have hrefused : store.describe entity = .error e := hrefuses
      cases hdescribed.symm.trans hrefused
  | findMany entity filter =>
      have hrefused : store.findMany entity filter = .error e := hrefuses
      cases (hstore.findMany_of_describe hfailures hdescribed).symm.trans hrefused
  | findOne entity filter =>
      have hrefused : store.findOne entity filter = .error e := hrefuses
      have hrows : store.findMany entity filter =
          .ok ((store.rowsOf entity).filter filter.accepts) :=
        hstore.findMany_of_describe hfailures hdescribed
      rw [findOne, hrows] at hrefused
      cases hrefused

namespace Reducer

variable (r : Reducer)

/-- The fields of a selection fit a descriptor. -/
structure NodeTyped (d : Descriptor) (s : Selection) : Prop where
  known : ∀ field ∈ s.fields, d.resolve r.naming field ≠ .unknown
  registered : ∀ field ∈ s.fields, ∀ entity ∈ d.targetOf r.naming field,
    ∃ target, r.source.describe entity = .ok target
  separate : ∀ field ∈ s.fields, ∀ field' ∈ s.fields,
    r.outputKey d field = r.outputKey d field' → field = field'

instance (source : Source) (entity : String) :
    Decidable (∃ target, source.describe entity = .ok target) :=
  match source.describe entity with
  | .ok target => .isTrue ⟨target, rfl⟩
  | .error _ => .isFalse nofun

/-- A selection of the fields of a descriptor fits the schema at every node. -/
def WellTyped (d : Descriptor) (s : Selection) : Prop :=
  ∀ node, Node.Reaches r.naming r.source (.root d s) node →
    r.NodeTyped node.descriptor node.selection

variable {r}

/-- Over a store that was never told to fail, no cause comes up at a site of an allowed level whose
node fits the schema. -/
theorem not_failsAt_of_nodeTyped {store : Store} (hsource : r.source = store.source)
    (hstore : store.Consistent) (hfailures : store.failures = []) {site : Site}
    (htyped : r.NodeTyped site.descriptor site.selection)
    (hlevel : site.level ≤ r.options.maxDepth) (cause : ReduceError) :
    ¬r.FailsAt site cause := by
  intro hfails
  cases hfails with
  | tooDeep hdeep => exact absurd hlevel (Nat.not_le.mpr hdeep)
  | unknownField hchosen hnotOwned hnotMany hnotOne =>
      apply htyped.known _ hchosen
      exact Descriptor.resolve_eq_unknown_iff.mpr ⟨hnotOwned, hnotMany, hnotOne⟩
  | outputTaken hchosen hchosen' hdifferent hsame =>
      exact hdifferent (htyped.separate _ hchosen _ hchosen' hsame)
  | refused hchosen hrefused hlinked =>
      obtain ⟨target, hdescribe⟩ := htyped.registered _ hchosen _ hlinked
      rw [hsource] at hdescribe hrefused
      exact hstore.not_refuses_of_describe hfailures hdescribe _ hrefused
  | wrongEntity hchosen hlinked hdescribed hfound hdiffers =>
      rw [hsource] at hdescribed hfound
      exact hdiffers (hstore.entity_eq_name hdescribed hfound)

/-- Over a store, no record is of another entity than its descriptor. -/
theorem rootCause_ne_wrongEntity {store : Store} (hsource : r.source = store.source)
    (hstore : store.Consistent) {d : Descriptor} {content : Content} {s : Selection}
    {e : ReduceError} (h : (r.reduce d content s).outcome = .error e) (found expected : String) :
    e.rootCause ≠ .shapeConflict (.wrongEntity found expected) := by
  intro hroot
  have hcause := (accounts_reduce d content s).error e h
  rw [hroot] at hcause
  obtain ⟨-, -, entity, filter, target, row, -, hdescribed, rfl, hfound, rfl, hdiffers⟩ := hcause
  rw [hsource] at hdescribed hfound
  exact hdiffers (hstore.entity_eq_name hdescribed hfound)

/-- A well-typed selection that has no more levels than are allowed is answered for every content,
over every store that was never told to fail. -/
theorem exists_value_of_wellTyped {store : Store} (hsource : r.source = store.source)
    (hstore : store.Consistent) (hfailures : store.failures = []) {raw : String} {s : Selection}
    (hparse : Selection.parse raw = .ok s) {d : Descriptor} (htyped : r.WellTyped d s)
    (hdepth : s.depth ≤ r.options.maxDepth) (content : Content) :
    ∃ value, (r.reduce d content s).outcome = .ok value := by
  have hlegible := Selection.legible_of_parse hparse
  cases houtcome : (r.reduce d content s).outcome with
  | ok value => exact ⟨value, rfl⟩
  | error e =>
      obtain ⟨site, hvisits, hfails⟩ := blames_of_reduce_error hlegible.distinct houtcome
      obtain ⟨via, hreaches⟩ := hvisits.reaches none
      have hlevel : site.level ≤ s.depth :=
        hvisits.level_le_depth ⟨Selection.ne_nil_of_parse hparse, hlegible.noEmptyPart⟩
      have hnode := htyped _ hreaches
      exact absurd hfails (not_failsAt_of_nodeTyped hsource hstore hfailures hnode
        (Nat.le_trans hlevel hdepth) e.rootCause)

variable (r)

/-- Over a store with any history, no run ends with a record of another entity than its
descriptor.  If the store was never told to fail, every well-typed selection that is read from a
text and has no more levels than are allowed is answered, whatever the content. -/
theorem reduce_of_wellTyped (changes : List Store.Change)
    (hsource : r.source = (Store.after changes).source) (d : Descriptor) (content : Content)
    (s : Selection) :
    (∀ e found expected, (r.reduce d content s).outcome = .error e →
        e.rootCause ≠ .shapeConflict (.wrongEntity found expected)) ∧
      ((∀ change ∈ changes, change.isFailOn = false) →
        (∃ raw, Selection.parse raw = .ok s) →
        r.WellTyped d s →
        s.depth ≤ r.options.maxDepth →
        ∃ value, (r.reduce d content s).outcome = .ok value) := by
  have hstore := Store.consistent_after changes
  constructor
  · intro e found expected herror
    exact rootCause_ne_wrongEntity hsource hstore herror found expected
  · rintro hchanges ⟨raw, hparse⟩ htyped hdepth
    have hfailures := Store.failures_after hchanges
    exact exists_value_of_wellTyped hsource hstore hfailures hparse htyped hdepth content

/-- What is done to fill the sample shop. -/
def sampleChanges : List Store.Change :=
  Demo.descriptors.map .register ++
    [.insert "User" (.object Sample.ann.values),
      .insert "Order" (.object [("id", .int 10), ("status", .string "open"), ("userId", .int 1)])]

/-- A user of whom nothing is known. -/
def sampleBlank : Instance := ⟨"User", []⟩

theorem sample_isAnswered :
    Sample.reducer.source = (Store.after sampleChanges).source ∧
      (∀ change ∈ sampleChanges, change.isFailOn = false) ∧
      Selection.parse "name,orders(status,user(name))" = .ok Sample.selection ∧
      Sample.reducer.WellTyped Sample.user Sample.selection ∧
      ∃ value, (Sample.reducer.reduce Sample.user (.many [Sample.ann, sampleBlank])
        Sample.selection).outcome = .ok value := by
  have hsource : Sample.reducer.source = (Store.after sampleChanges).source := rfl
  have hchanges : ∀ change ∈ sampleChanges, change.isFailOn = false := by decide
  have hparse : Selection.parse "name,orders(status,user(name))" = .ok Sample.selection := by
    decide +kernel
  have htyped : Sample.reducer.WellTyped Sample.user Sample.selection :=
    Sample.forall_nodes ⟨by decide, by decide, by decide⟩ ⟨by decide, by decide, by decide⟩
      ⟨by decide, by decide, by decide⟩
  have h := Sample.reducer.reduce_of_wellTyped sampleChanges hsource Sample.user
    (.many [Sample.ann, sampleBlank]) Sample.selection
  exact ⟨hsource, hchanges, hparse, htyped, h.2 hchanges ⟨_, hparse⟩ htyped (by decide)⟩

end Reducer
end SparseFields
