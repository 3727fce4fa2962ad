import SparseFields.Proofs.Reduction.Nodes
import SparseFields.Proofs.Store.History
import Mathlib.Data.List.Pairwise

/-!
# Associations as joins

Over a store that was never told to fail, both kinds of association join records by their keys.  A
has-many association has all records of its target whose foreign key is the id of the record, and a
belongs-to association has the first record of its target whose id is the foreign key of the record.
A key that is missing or null joins nothing, and keys of different types join when they have the
same text.

The two kinds ask different questions, but when they use the same foreign key and no two records
have the same id, they relate the same pairs of records.
-/

namespace SparseFields

/-- Two stored values are keys with the same text. -/
def SameKey (a b : Option Json) : Prop :=
  ∃ v w, a = some v ∧ b = some w ∧ v ≠ .null ∧ w ≠ .null ∧ textForm v = textForm w

theorem textForm_eq_none_iff {v : Json} : textForm v = none ↔ v = .null := by
  cases v <;> simp [textForm]

theorem sameKey_iff_textForm {a b : Option Json} :
    SameKey a b ↔ ∃ text, a.bind textForm = some text ∧ b.bind textForm = some text := by
  constructor
  · rintro ⟨v, w, rfl, rfl, hv, -, hsame⟩
    obtain ⟨text, htext⟩ := Option.ne_none_iff_exists'.mp (mt textForm_eq_none_iff.mp hv)
    exact ⟨text, htext, hsame.symm.trans htext⟩
  · rintro ⟨text, ha, hb⟩
    obtain ⟨v, rfl, hv⟩ := Option.bind_eq_some_iff.mp ha
    obtain ⟨w, rfl, hw⟩ := Option.bind_eq_some_iff.mp hb
    have hne {u : Json} (hu : textForm u = some text) : u ≠ .null := by
      rintro rfl
      cases hu
    exact ⟨v, w, rfl, rfl, hne hv, hne hw, hv.trans hw.symm⟩

theorem SameKey.symm {a b : Option Json} (h : SameKey a b) : SameKey b a := by
  obtain ⟨text, ha, hb⟩ := sameKey_iff_textForm.mp h
  exact sameKey_iff_textForm.mpr ⟨text, hb, ha⟩

theorem SameKey.trans {a b c : Option Json} (h : SameKey a b) (h' : SameKey b c) :
    SameKey a c := by
  obtain ⟨text, ha, hb⟩ := sameKey_iff_textForm.mp h
  obtain ⟨text', hb', hc⟩ := sameKey_iff_textForm.mp h'
  have htext : text = text' := Option.some.inj (hb.symm.trans hb')
  exact sameKey_iff_textForm.mpr ⟨text, ha, htext ▸ hc⟩

/-- A condition is met by the values that are the same key. -/
theorem meets_iff_sameKey {a b : Option Json} :
    Filter.meets a (b.getD .null) = true ↔ SameKey a b := by
  have hb : textForm (b.getD .null) = b.bind textForm := by
    cases b <;> rfl
  rw [Filter.meets, hb, sameKey_iff_textForm]
  cases a.bind textForm with
  | none => simp
  | some text =>
      cases b.bind textForm with
      | none => simp
      | some text' =>
          show (text == text') = true ↔ _
          rw [beq_iff_eq]
          constructor
          · rintro rfl
            exact ⟨text, rfl, rfl⟩
          · rintro ⟨_, htext, htext'⟩
            exact (Option.some.inj htext).trans (Option.some.inj htext').symm

instance (a b : Option Json) : Decidable (SameKey a b) :=
  decidable_of_iff _ meets_iff_sameKey

/-- A filter with one condition accepts the records that hold the key in its column. -/
theorem accepts_single (column : String) (key : Option Json) (row : Instance) :
    (Filter.single column (key.getD .null)).accepts row =
      decide (SameKey (row.get? column) key) := by
  rw [Bool.eq_iff_iff, decide_eq_true_iff, ← meets_iff_sameKey]
  show (Filter.meets (row.get? column) (key.getD .null) && true) = true ↔ _
  rw [Bool.and_true]

theorem not_sameKey_of_null {b : Option Json} (hb : b.getD .null = .null) (a : Option Json) :
    ¬SameKey a b := by
  rintro ⟨v, w, -, rfl, -, hw, -⟩
  exact hw hb

theorem Run.andThen_done_calls {α β : Type} (run : Run α) (f : α → β) :
    (run.andThen fun a => Run.done (f a)).calls = run.calls := by
  cases h : run.outcome with
  | ok a => rw [andThen_calls_of_ok h, done_calls, List.append_nil]
  | error e => simp [andThen, h]

/-! ## Records that hold a key -/

namespace Store

/-- The records of an entity that hold a key in a column, in order of insertion. -/
def holding (store : Store) (entity column : String) (key : Option Json) : List Instance :=
  (store.rowsOf entity).filter fun row => SameKey (row.get? column) key

variable {store : Store} {entity column : String} {key : Option Json}

theorem mem_holding_iff {row : Instance} :
    row ∈ store.holding entity column key ↔
      row ∈ store.rowsOf entity ∧ SameKey (row.get? column) key := by
  rw [holding, List.mem_filter, decide_eq_true_iff]

theorem holding_of_null (hkey : key.getD .null = .null) :
    store.holding entity column key = [] := by
  rw [List.eq_nil_iff_forall_not_mem]
  intro row hrow
  exact not_sameKey_of_null hkey _ (mem_holding_iff.mp hrow).2

theorem Consistent.findMany_single (hstore : store.Consistent) {d : Descriptor}
    (hfailures : store.failures = []) (hdescribe : store.describe entity = .ok d) :
    store.findMany entity (.single column (key.getD .null)) =
      .ok (store.holding entity column key) := by
  rw [hstore.findMany_of_describe hfailures hdescribe, holding]
  congr 2
  funext row
  exact accepts_single column key row

theorem Consistent.findOne_single (hstore : store.Consistent) {d : Descriptor}
    (hfailures : store.failures = []) (hdescribe : store.describe entity = .ok d) :
    store.findOne entity (.single column (key.getD .null)) =
      .ok (store.holding entity column key).head? := by
  rw [findOne, hstore.findMany_single hfailures hdescribe]
  rfl

/-- When no two records have the same key in a column, a record is the first one that holds a key as
soon as it holds it. -/
theorem head?_holding_eq_some_iff
    (hdistinct : (store.rowsOf entity).Pairwise fun x y =>
      ¬SameKey (x.get? column) (y.get? column))
    {row : Instance} (hrow : row ∈ store.rowsOf entity) :
    (store.holding entity column key).head? = some row ↔ SameKey (row.get? column) key := by
  constructor
  · intro hhead
    exact (mem_holding_iff.mp (List.mem_of_head? hhead)).2
  · intro hsame
    have hholds : row ∈ store.holding entity column key := mem_holding_iff.mpr ⟨hrow, hsame⟩
    obtain ⟨first, hfirst⟩ : ∃ first, (store.holding entity column key).head? = some first := by
      rw [← Option.ne_none_iff_exists', ne_eq, List.head?_eq_none_iff]
      exact List.ne_nil_of_mem hholds
    obtain ⟨hmem, hfirstSame⟩ := mem_holding_iff.mp (List.mem_of_head? hfirst)
    have heq : first = row := by
      by_contra hne
      have hsymm : Std.Symm fun x y : Instance => ¬SameKey (x.get? column) (y.get? column) :=
        ⟨fun _ _ h h' => h h'.symm⟩
      exact hdistinct.forall hmem hrow hne (hfirstSame.trans hsame.symm)
    rw [hfirst, heq]

end Store

namespace Reducer

open Run

variable {r : Reducer} {store : Store} {d : Descriptor} {x : Instance} {field : String}

/-! ## Has-many associations -/

/-- The questions for a has-many association begin with one whose answer has a given record. -/
def Gathers (r : Reducer) (d : Descriptor) (x : Instance) (field : String) (shaping : Shaping)
    (row : Instance) : Prop :=
  ∃ entity filter rest rows,
    (r.entry d x field shaping).calls = .findMany entity filter :: rest ∧
      r.source.findMany entity filter = .ok rows ∧ row ∈ rows

section Many

variable {link : HasMany} {target : Descriptor} (hsource : r.source = store.source)
  (hstore : store.Consistent) (hfailures : store.failures = [])
  (htarget : store.describe link.target = .ok target)
  (hfield : d.resolve r.naming field = .many link)

include hsource hstore hfailures htarget

theorem findMany_manyFilter (d : Descriptor) (x : Instance) :
    r.source.findMany link.target (manyFilter d x link) =
      .ok (store.holding link.target link.foreignKey (x.get? d.idField)) := by
  rw [hsource]
  exact hstore.findMany_single hfailures htarget

include hfield

theorem entry_many_whole (x : Instance) :
    (r.entry d x field whole).outcome =
      .ok (r.naming.singular field,
        .array ((store.holding link.target link.foreignKey (x.get? d.idField)).map
          fun row => .object row.values)) := by
  have hrows := findMany_manyFilter hsource hstore hfailures htarget d x
  rw [entry_of_many hfield, r.manyValue_of_ok hrows]
  rfl

theorem gathers_iff {shaping : Shaping} {row : Instance} :
    r.Gathers d x field shaping row ↔
      row ∈ store.holding link.target link.foreignKey (x.get? d.idField) := by
  have hrows := findMany_manyFilter hsource hstore hfailures htarget d x
  obtain ⟨rest, hcalls⟩ : ∃ rest, (r.entry d x field shaping).calls =
      .findMany link.target (manyFilter d x link) :: rest := by
    rw [entry_of_many hfield, andThen_done_calls, r.manyValue_of_ok hrows]
    exact ⟨_, rfl⟩
  constructor
  · rintro ⟨entity, filter, rest', rows, hasked, hanswer, hrow⟩
    cases hcalls.symm.trans hasked
    cases hrows.symm.trans hanswer
    exact hrow
  · intro hrow
    exact ⟨_, _, rest, _, hcalls, hrows, hrow⟩

end Many

/-! ## Belongs-to associations -/

/-- The questions for a belongs-to association begin with a description and one whose answer is a
given record. -/
def Selects (r : Reducer) (d : Descriptor) (x : Instance) (field : String) (shaping : Shaping)
    (row : Instance) : Prop :=
  ∃ entity filter rest,
    (r.entry d x field shaping).calls = .describe entity :: .findOne entity filter :: rest ∧
      r.source.findOne entity filter = .ok (some row)

section One

variable {link : BelongsTo} {target : Descriptor} (hsource : r.source = store.source)
  (hstore : store.Consistent) (hfailures : store.failures = [])
  (htarget : store.describe link.target = .ok target)
  (hfield : d.resolve r.naming field = .one link)

include hfield in
theorem entry_of_one (x : Instance) (shaping : Shaping) :
    r.entry d x field shaping =
      (r.oneValue x link shaping).andThen fun value => done (field, value) := by
  rw [entry, hfield]
  rfl

include hsource hstore hfailures htarget

theorem findOne_foreignKey (x : Instance) :
    r.source.findOne link.target
        (.single target.idField ((x.get? link.foreignKey).getD .null)) =
      .ok (store.holding link.target target.idField (x.get? link.foreignKey)).head? := by
  rw [hsource]
  exact hstore.findOne_single hfailures htarget

/-- With a key, what is found is shaped: every record bears the name of its descriptor. -/
theorem oneValue_of_found (hkey : (x.get? link.foreignKey).getD .null ≠ .null)
    (shaping : Shaping) :
    r.oneValue x link shaping =
      ((match (store.holding link.target target.idField (x.get? link.foreignKey)).head? with
        | none => done Json.null
        | some row => shaping.one target row).afterCall
          (.findOne link.target
            (.single target.idField ((x.get? link.foreignKey).getD .null)))).afterCall
              (.describe link.target) := by
  have hdescribe : r.source.describe link.target = .ok target := by
    rw [hsource]
    exact htarget
  have hfound := findOne_foreignKey hsource hstore hfailures htarget x
  rw [r.oneValue_of_ne_null hkey, describe_andThen_of_ok hdescribe, findOne_andThen_of_ok hfound]
  cases hrow : (store.holding link.target target.idField (x.get? link.foreignKey)).head? with
  | none => rfl
  | some row =>
      have hmem := (Store.mem_holding_iff.mp (List.mem_of_head? hrow)).1
      have hentity : row.entity = target.name := by
        rw [hstore.named link.target target htarget]
        exact hstore.labelled link.target row hmem
      simp only [if_pos hentity]

theorem oneValue_whole (x : Instance) :
    (r.oneValue x link whole).outcome =
      .ok (((store.holding link.target target.idField (x.get? link.foreignKey)).head?.map
        fun row => .object row.values).getD .null) := by
  by_cases hkey : (x.get? link.foreignKey).getD .null = .null
  · rw [r.oneValue_of_null hkey, Store.holding_of_null hkey]
    rfl
  · rw [oneValue_of_found hsource hstore hfailures htarget hkey]
    cases (store.holding link.target target.idField (x.get? link.foreignKey)).head? with
    | none => rfl
    | some row => rfl

include hfield in
theorem selects_iff {shaping : Shaping} {row : Instance} :
    r.Selects d x field shaping row ↔
      (store.holding link.target target.idField (x.get? link.foreignKey)).head? = some row := by
  have hcalls : (r.entry d x field shaping).calls = (r.oneValue x link shaping).calls := by
    rw [entry_of_one hfield, andThen_done_calls]
  by_cases hkey : (x.get? link.foreignKey).getD .null = .null
  · rw [r.oneValue_of_null hkey] at hcalls
    rw [Store.holding_of_null hkey]
    refine iff_of_false ?_ nofun
    rintro ⟨entity, filter, rest, hasked, -⟩
    cases hcalls.symm.trans hasked
  · have hfound := findOne_foreignKey hsource hstore hfailures htarget x
    rw [oneValue_of_found hsource hstore hfailures htarget hkey] at hcalls
    constructor
    · rintro ⟨entity, filter, rest, hasked, hanswer⟩
      cases hcalls.symm.trans hasked
      exact Except.ok.inj (hfound.symm.trans hanswer)
    · intro hrow
      exact ⟨_, _, _, hcalls, hfound.trans (congrArg Except.ok hrow)⟩

end One

/-! ## Both kinds together -/

variable (r)

/-- Over a store that was never told to fail, a has-many association whose target is registered has
the records of the target that hold the id of the record as their foreign key, in order of
insertion.  A belongs-to association has the first record that holds the foreign key as its id, or
nothing.  So if an entity has many records of another one, which belong to it by the same foreign
key, and no two of its records have the same id, then one of its records is selected for a record of
the other exactly when this is among the records gathered for it. -/
theorem associations_areJoins (changes : List Store.Change)
    (hsource : r.source = (Store.after changes).source)
    (hchanges : ∀ change ∈ changes, change.isFailOn = false) :
    (∀ d x field link target, d.resolve r.naming field = .many link →
      (Store.after changes).describe link.target = .ok target →
      (r.entry d x field whole).outcome =
        .ok (r.naming.singular field, .array (((Store.after changes).holding link.target
          link.foreignKey (x.get? d.idField)).map fun row => .object row.values))) ∧
    (∀ d x field link target, d.resolve r.naming field = .one link →
      (Store.after changes).describe link.target = .ok target →
      (r.entry d x field whole).outcome =
        .ok (field, (((Store.after changes).holding link.target
          target.idField (x.get? link.foreignKey)).head?.map
            fun row => .object row.values).getD .null)) ∧
    ∀ a b owner owned field field' many one,
      (Store.after changes).describe a = .ok owner →
      (Store.after changes).describe b = .ok owned →
      owner.resolve r.naming field = .many many → many.target = b →
      owned.resolve r.naming field' = .one one → one.target = a →
      many.foreignKey = one.foreignKey →
      ((Store.after changes).rowsOf a).Pairwise
        (fun u v => ¬SameKey (u.get? owner.idField) (v.get? owner.idField)) →
      ∀ u ∈ (Store.after changes).rowsOf a, ∀ o ∈ (Store.after changes).rowsOf b,
        ∀ shaping shaping',
          r.Selects owned o field' shaping u ↔ r.Gathers owner u field shaping' o := by
  have hstore := Store.consistent_after changes
  have hfailures := Store.failures_after hchanges
  refine ⟨?_, ?_, ?_⟩
  · intro d x field link target hfield htarget
    exact entry_many_whole hsource hstore hfailures htarget hfield x
  · intro d x field link target hfield htarget
    rw [entry_of_one hfield, keyed_outcome_eq_ok_iff]
    exact ⟨rfl, oneValue_whole hsource hstore hfailures htarget x⟩
  · rintro _ _ owner owned field field' many one howner howned hmany rfl hone rfl hkey hdistinct
      u hu o ho shaping shaping'
    rw [selects_iff hsource hstore hfailures howner hone,
      gathers_iff hsource hstore hfailures howned hmany,
      Store.head?_holding_eq_some_iff hdistinct hu, Store.mem_holding_iff, hkey]
    constructor
    · intro hsame
      exact ⟨ho, hsame.symm⟩
    · rintro ⟨-, hsame⟩
      exact hsame.symm

/-- A user whose id is a text. -/
def sampleOwner : Instance := ⟨"User", [("id", .string "2")]⟩

/-- An order of this user that has the id as a number. -/
def sampleOwned : Instance := ⟨"Order", [("id", .int 11), ("userId", .int 2)]⟩

/-- Three users, of whom one has no id, and orders of two and of nobody. -/
def sampleJoin : List Store.Change :=
  Demo.descriptors.map .register ++
    [ .insert "User" (.object [("id", .int 1)]),
      .insert "User" (.object sampleOwner.values),
      .insert "User" (.object []),
      .insert "Order" (.object [("id", .int 10), ("userId", .string "1")]),
      .insert "Order" (.object sampleOwned.values),
      .insert "Order" (.object [("id", .int 12), ("userId", .null)]) ]

/-- The reducer over this shop. -/
def sampleJoinReducer : Reducer := ⟨(Store.after sampleJoin).source, .conventional, .default⟩

theorem sampleJoin_areJoins :
    (∀ change ∈ sampleJoin, change.isFailOn = false) ∧
      ((Store.after sampleJoin).rowsOf "User").Pairwise
        (fun u v => ¬SameKey (u.get? "id") (v.get? "id")) ∧
      (sampleJoinReducer.entry Sample.user sampleOwner "orders" whole).outcome =
        .ok ("order", .array [.object [("id", .int 11), ("userId", .int 2)]]) ∧
      (sampleJoinReducer.entry Sample.order sampleOwned "user" whole).outcome =
        .ok ("user", .object [("id", .string "2")]) ∧
      (sampleJoinReducer.Selects Sample.order sampleOwned "user" whole sampleOwner ↔
        sampleJoinReducer.Gathers Sample.user sampleOwner "orders" whole sampleOwned) := by
  have hchanges : ∀ change ∈ sampleJoin, change.isFailOn = false := by decide
  have hdistinct : ((Store.after sampleJoin).rowsOf "User").Pairwise
      (fun u v => ¬SameKey (u.get? "id") (v.get? "id")) := by decide
  have howner : (Store.after sampleJoin).describe "User" = .ok Sample.user := rfl
  have howned : (Store.after sampleJoin).describe "Order" = .ok Sample.order := rfl
  have hmany : Sample.user.resolve NamingRules.conventional "orders" =
      .many ⟨"orders", "Order", "userId"⟩ := by decide
  have hone : Sample.order.resolve NamingRules.conventional "user" =
      .one ⟨"User", "userId"⟩ := by decide
  obtain ⟨hgathered, hselected, hboth⟩ :=
    sampleJoinReducer.associations_areJoins sampleJoin rfl hchanges
  refine ⟨hchanges, hdistinct, ?_, ?_, ?_⟩
  · exact hgathered Sample.user sampleOwner "orders" _ Sample.order hmany howned
  · exact hselected Sample.order sampleOwned "user" _ Sample.user hone howner
  · exact hboth "User" "Order" Sample.user Sample.order "orders" "user" _ _ howner howned hmany rfl
      hone rfl rfl hdistinct sampleOwner (.tail _ (.head _)) sampleOwned (.tail _ (.head _)) whole
      whole

end Reducer
end SparseFields
