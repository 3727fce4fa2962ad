import SparseFields.Proofs.Reduction.Runs
import SparseFields.Proofs.Selection.Entries
import SparseFields.Proofs.SortedMap
import SparseFields.Store.Demo
import Mathlib.Data.List.Forall2

/-!
# The fields of a record, one by one

The fields of a selection are reduced in order, each after what the ones before it have written.
The main statement takes this apart: an object is the result exactly when each field alone has an
entry and no two entries share a key, and then the questions asked are those of the fields one
after another.  The order of the fields is seen in the questions only.
-/

namespace SparseFields

/-! ## What a field is -/

namespace Descriptor

variable {d : Descriptor} {naming : NamingRules} {field : String}

/-- The has-many association that a field names: the first one that the rules relate to it. -/
def manyNamed (d : Descriptor) (naming : NamingRules) (field : String) : Option HasMany :=
  d.hasMany.find? fun link => naming.namesMany field link.name

/-- The belongs-to association that a field names: the first one that the rules relate to it. -/
def oneNamed (d : Descriptor) (naming : NamingRules) (field : String) : Option BelongsTo :=
  d.belongsTo.find? fun link => naming.namesOne field link.foreignKey

/-- An owned field is nothing else, and a field that names a has-many association names no
belongs-to association. -/
theorem resolve_eq_iff {resolution : Resolution} :
    d.resolve naming field = resolution ↔
      match resolution with
      | .owned => d.owns field = true
      | .many link => d.owns field = false ∧ d.manyNamed naming field = some link
      | .one link =>
          d.owns field = false ∧ d.manyNamed naming field = none ∧
            d.oneNamed naming field = some link
      | .unknown =>
          d.owns field = false ∧ d.manyNamed naming field = none ∧
            d.oneNamed naming field = none := by
  unfold resolve manyNamed oneNamed
  cases d.owns field with
  | true => cases resolution <;> simp
  | false =>
      cases d.hasMany.find? fun link => naming.namesMany field link.name with
      | some _ => cases resolution <;> simp
      | none =>
          cases d.belongsTo.find? fun link => naming.namesOne field link.foreignKey with
          | some _ => cases resolution <;> simp
          | none => cases resolution <;> simp

theorem resolve_eq_owned_iff : d.resolve naming field = .owned ↔ d.owns field = true :=
  resolve_eq_iff

theorem resolve_eq_many_iff {link : HasMany} :
    d.resolve naming field = .many link ↔
      d.owns field = false ∧ d.manyNamed naming field = some link :=
  resolve_eq_iff

theorem resolve_eq_one_iff {link : BelongsTo} :
    d.resolve naming field = .one link ↔
      d.owns field = false ∧ d.manyNamed naming field = none ∧
        d.oneNamed naming field = some link :=
  resolve_eq_iff

/-- An unknown field is not owned and matches no association. -/
theorem resolve_eq_unknown_iff :
    d.resolve naming field = .unknown ↔
      d.owns field = false ∧
        (∀ link ∈ d.hasMany, naming.namesMany field link.name = false) ∧
        ∀ link ∈ d.belongsTo, naming.namesOne field link.foreignKey = false := by
  rw [resolve_eq_iff]
  simp [manyNamed, oneNamed]

end Descriptor

namespace Reducer

open Run

variable (r : Reducer) (d : Descriptor) (x : Instance) (level : Nat)

/-- What becomes of related records under a pick: they are taken whole, or reduced one level
deeper. -/
def pickShaping : Selection.Pick → Shaping
  | .whole => whole
  | .part sub => r.reduced (level + 1) fun d x => r.reduceInstance d x (level + 1) sub

/-- The entry of one selected field. -/
def fieldEntry (choice : String × Selection.Pick) : Run (String × Json) :=
  r.entry d x choice.1 (r.pickShaping level choice.2)

/-- Entries are written one after another, each before the next one is asked for. -/
def writeEach (output : SortedMap Json) : List (Run (String × Json)) → Run (SortedMap Json)
  | [] => done output
  | run :: runs =>
      run.andThen fun entry =>
        (write d output entry).andThen fun output => writeEach output runs

theorem reduceFields_eq_writeEach (output : SortedMap Json) (s : Selection) :
    r.reduceFields d x level output s =
      writeEach d output (s.toList.map (r.fieldEntry d x level)) := by
  induction s generalizing output with
  | nil => rfl
  | whole field rest ih =>
      rw [reduceFields, Selection.toList, List.map_cons, writeEach]
      simp only [bind_eq_andThen, ih]
      rfl
  | part field sub rest _ ih =>
      rw [reduceFields, Selection.toList, List.map_cons, writeEach]
      simp only [bind_eq_andThen, ih]
      rfl

/-! ## Writing -/

theorem write_of_new {output : SortedMap Json} {entry : String × Json}
    (h : output.contains entry.1 = false) :
    write d output entry = done (output.insert entry.1 entry.2) := by
  rw [write, h]
  rfl

theorem write_outcome_eq_ok_iff {output output' : SortedMap Json} {entry : String × Json} :
    (write d output entry).outcome = .ok output' ↔
      output.contains entry.1 = false ∧ output' = output.insert entry.1 entry.2 := by
  cases h : output.contains entry.1 with
  | true =>
      rw [write, if_pos h]
      exact iff_of_false nofun nofun
  | false =>
      rw [write_of_new d h, done_outcome, Except.ok.injEq, eq_comm]
      exact (and_iff_right rfl).symm

/-- All entries can be written when each of their runs has one, under a key that is new to the
output and to the other entries. -/
theorem writeEach_outcome_eq_ok_iff {output output' : SortedMap Json}
    {runs : List (Run (String × Json))} :
    (writeEach d output runs).outcome = .ok output' ↔
      ∃ entries, List.Forall₂ (fun run entry => run.outcome = .ok entry) runs entries ∧
        (∀ entry ∈ entries, output.contains entry.1 = false) ∧
        (entries.map (·.1)).Nodup ∧ output' = output.insertAll entries := by
  induction runs generalizing output with
  | nil =>
      rw [writeEach, done_outcome, Except.ok.injEq, eq_comm]
      simp [SortedMap.insertAll]
  | cons run runs ih =>
      rw [writeEach]
      simp only [andThen_outcome_eq_ok_iff, write_outcome_eq_ok_iff, ih]
      constructor
      · rintro ⟨entry, hrun, _, ⟨hnew, rfl⟩, entries, hruns, hnews, hnodup, rfl⟩
        have hkeys : ∀ e ∈ entries, e.1 ≠ entry.1 ∧ output.contains e.1 = false :=
          fun e he => SortedMap.contains_insert_eq_false_iff.mp (hnews e he)
        refine ⟨entry :: entries, .cons hrun hruns, ?_, ?_, rfl⟩
        · intro e he
          rcases List.mem_cons.mp he with rfl | he
          · exact hnew
          · exact (hkeys e he).2
        · refine List.nodup_cons.mpr ⟨fun hmem => ?_, hnodup⟩
          obtain ⟨e, he, heq⟩ := List.mem_map.mp hmem
          exact (hkeys e he).1 heq
      · rintro ⟨_, hruns, hnews, hnodup, rfl⟩
        cases hruns with
        | @cons _ entry _ entries hrun hruns =>
            obtain ⟨hnot, hnodup⟩ := List.nodup_cons.mp hnodup
            have hnew := hnews entry List.mem_cons_self
            refine ⟨entry, hrun, _, ⟨hnew, rfl⟩, entries, hruns, fun e he => ?_, hnodup, rfl⟩
            exact SortedMap.contains_insert_eq_false_iff.mpr
              ⟨fun heq => hnot (List.mem_map.mpr ⟨e, he, heq⟩),
                hnews e (List.mem_cons_of_mem _ he)⟩

/-- Where all entries are written, every one of them was asked for. -/
theorem writeEach_calls_of_ok {output output' : SortedMap Json}
    {runs : List (Run (String × Json))} (h : (writeEach d output runs).outcome = .ok output') :
    (writeEach d output runs).calls = runs.flatMap (·.calls) := by
  induction runs generalizing output with
  | nil => rfl
  | cons run runs ih =>
      rw [writeEach] at h ⊢
      obtain ⟨entry, hrun, hrest⟩ := andThen_outcome_eq_ok_iff.mp h
      obtain ⟨output'', hwrite, hrest⟩ := andThen_outcome_eq_ok_iff.mp hrest
      have hnew := ((write_outcome_eq_ok_iff d).mp hwrite).1
      rw [andThen_calls_of_ok hrun, andThen_calls_of_ok hwrite, write_of_new d hnew,
        ih hrest, List.flatMap_cons]
      rfl

/-! ## The object of a record -/

/-- An object is the result for a record when each selected field has an entry and the keys of the
entries are distinct; it consists of these entries. -/
theorem reduceInstance_outcome_eq_ok_iff {s : Selection} {value : Json} :
    (r.reduceInstance d x level s).outcome = .ok value ↔
      ∃ entries,
        List.Forall₂ (fun choice entry => (r.fieldEntry d x level choice).outcome = .ok entry)
          s.toList entries ∧
        (entries.map (·.1)).Nodup ∧ value = .object (SortedMap.ofList entries) := by
  rw [reduceInstance, bind_eq_andThen, andThen_outcome_eq_ok_iff, reduceFields_eq_writeEach]
  simp only [writeEach_outcome_eq_ok_iff, List.forall₂_map_left_iff]
  constructor
  · rintro ⟨_, ⟨entries, hentries, -, hnodup, rfl⟩, hvalue⟩
    exact ⟨entries, hentries, hnodup, (Except.ok.inj hvalue).symm⟩
  · rintro ⟨entries, hentries, hnodup, rfl⟩
    exact ⟨_, ⟨entries, hentries, fun _ _ => rfl, hnodup, rfl⟩, rfl⟩

/-- The value of a selected field is the member of the object under the key of its entry. -/
theorem exists_member_of_mem {s : Selection} {value : Json}
    (h : (r.reduceInstance d x level s).outcome = .ok value)
    {choice : String × Selection.Pick} (hmem : choice ∈ s.toList) :
    ∃ entry, (r.fieldEntry d x level choice).outcome = .ok entry ∧
      value.member? entry.1 = some entry.2 := by
  obtain ⟨entries, hentries, hnodup, rfl⟩ := (r.reduceInstance_outcome_eq_ok_iff d x level).mp h
  obtain ⟨entry, hentry, hrun⟩ := exists_of_forall₂_mem hentries hmem
  have hkeys := (SortedMap.sorted_ofList entries).keys_nodup
  refine ⟨entry, hrun, (SortedMap.find?_eq_some_iff hkeys).mpr ?_⟩
  exact (SortedMap.ofList_perm hnodup).mem_iff.mpr hentry

/-- With an object as its result, a record is reduced by the questions of its fields in order. -/
theorem reduceInstance_calls_of_ok {s : Selection} {value : Json}
    (h : (r.reduceInstance d x level s).outcome = .ok value) :
    (r.reduceInstance d x level s).calls =
      s.toList.flatMap fun choice => (r.fieldEntry d x level choice).calls := by
  rw [reduceInstance, bind_eq_andThen] at h ⊢
  obtain ⟨output, houtput, -⟩ := andThen_outcome_eq_ok_iff.mp h
  rw [andThen_calls_of_ok houtput]
  rw [reduceFields_eq_writeEach] at houtput ⊢
  rw [writeEach_calls_of_ok d houtput, List.flatMap_map]
  exact List.append_nil _

/-! ## The key of a field -/

/-- The key under which a field of a record is written: the singular of the field when it is not
owned and names a has-many association, and the field itself otherwise. -/
def outputKey (field : String) : String :=
  if d.owns field then field
  else if d.hasMany.any fun link => r.naming.namesMany field link.name then
    r.naming.singular field
  else field

theorem outputKey_of_many {field : String} {link : HasMany}
    (h : d.resolve r.naming field = .many link) :
    r.outputKey d field = r.naming.singular field := by
  obtain ⟨howns, hfind⟩ := Descriptor.resolve_eq_many_iff.mp h
  have hnames := List.find?_some hfind
  have hany : (d.hasMany.any fun link => r.naming.namesMany field link.name) = true :=
    List.any_eq_true.mpr ⟨link, List.mem_of_find?_eq_some hfind, hnames⟩
  simp [outputKey, howns, hany]

theorem outputKey_of_one {field : String} {link : BelongsTo}
    (h : d.resolve r.naming field = .one link) : r.outputKey d field = field := by
  obtain ⟨howns, hmany, -⟩ := Descriptor.resolve_eq_one_iff.mp h
  have hany : (d.hasMany.any fun link => r.naming.namesMany field link.name) = false := by
    simpa [Descriptor.manyNamed] using hmany
  simp [outputKey, howns, hany]

theorem outputKey_of_owned {field : String} (h : d.resolve r.naming field = .owned) :
    r.outputKey d field = field := by
  rw [outputKey, if_pos (Descriptor.resolve_eq_owned_iff.mp h)]

theorem keyed_outcome_eq_ok_iff {run : Run Json} {key : String} {entry : String × Json} :
    (run.andThen fun value => done (key, value)).outcome = .ok entry ↔
      entry.1 = key ∧ run.outcome = .ok entry.2 := by
  rw [andThen_outcome_eq_ok_iff]
  constructor
  · rintro ⟨value, hvalue, hentry⟩
    cases hentry
    exact ⟨rfl, hvalue⟩
  · rintro ⟨rfl, hvalue⟩
    exact ⟨entry.2, hvalue, rfl⟩

/-- The entry of a field has the field's key and, as what the field is, a value of the record, of
a has-many association or of a belongs-to association. -/
theorem entry_outcome_eq_ok_iff {field : String} {shaping : Shaping} {entry : String × Json} :
    (r.entry d x field shaping).outcome = .ok entry ↔
      entry.1 = r.outputKey d field ∧
        match d.resolve r.naming field with
        | .owned => entry.2 = (x.get? field).getD .null
        | .many link => (r.manyValue d x link shaping).outcome = .ok entry.2
        | .one link => (r.oneValue x link shaping).outcome = .ok entry.2
        | .unknown => False := by
  rw [Reducer.entry]
  cases hfield : d.resolve r.naming field with
  | owned => simp [r.outputKey_of_owned d hfield, Prod.ext_iff, eq_comm]
  | many link =>
      rw [r.outputKey_of_many d hfield]
      exact keyed_outcome_eq_ok_iff
  | one link =>
      rw [r.outputKey_of_one d hfield]
      exact keyed_outcome_eq_ok_iff
  | unknown => simp

variable {r d} in
theorem entry_of_many {field : String} {link : HasMany}
    (hfield : d.resolve r.naming field = .many link) (x : Instance) (shaping : Shaping) :
    r.entry d x field shaping =
      (r.manyValue d x link shaping).andThen fun value =>
        done (r.naming.singular field, value) := by
  rw [entry, hfield]
  rfl

/-- The entries of the fields of a selection have the keys of these fields. -/
theorem keys_of_fieldEntries {s : Selection} {entries : List (String × Json)}
    (h : List.Forall₂ (fun choice entry => (r.fieldEntry d x level choice).outcome = .ok entry)
      s.toList entries) : entries.map (·.1) = s.fields.map (r.outputKey d) := by
  rw [Selection.fields, List.map_map]
  generalize s.toList = choices at h
  induction h with
  | nil => rfl
  | cons hentry _ ih =>
      rw [List.map_cons, List.map_cons, ih, ((r.entry_outcome_eq_ok_iff d x).mp hentry).1]
      rfl

theorem outputKeys_nodup_of_ok {s : Selection} {value : Json}
    (h : (r.reduceInstance d x level s).outcome = .ok value) :
    (s.fields.map (r.outputKey d)).Nodup := by
  obtain ⟨entries, hentries, hnodup, -⟩ := (r.reduceInstance_outcome_eq_ok_iff d x level).mp h
  rw [← r.keys_of_fieldEntries d x level hentries]
  exact hnodup

end Reducer

/-! ## A small shop -/

namespace Sample

/-- A user of the demo shop. -/
def ann : Instance := ⟨"User", [("id", .int 1), ("name", .string "Ann")]⟩

/-- The entities of the demo shop, with one user and one order of hers. -/
def shop : Store :=
  ((Demo.descriptors.foldl Store.register .empty).push "User" ann).push "Order"
    ⟨"Order", [("id", .int 10), ("status", .string "open"), ("userId", .int 1)]⟩

/-- The reducer over this shop. -/
def reducer : Reducer := ⟨shop.source, .conventional, .default⟩

/-- The descriptor of users. -/
def user : Descriptor := Demo.descriptors.head (List.cons_ne_nil _ _)

/-- A user's name, and of her orders the status and the name of their user. -/
def selection : Selection :=
  .whole "name" (.part "orders"
    (.whole "status" (.part "user" (.whole "name" .nil) .nil)) .nil)

/-- What this selection leaves of the user. -/
def result : Json :=
  .object [("name", .string "Ann"),
    ("order", .array [.object [("status", .string "open"),
      ("user", .object [("name", .string "Ann")])]])]

end Sample
end SparseFields
