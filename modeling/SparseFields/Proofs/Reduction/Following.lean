import SparseFields.Proofs.Reduction.Fields
import SparseFields.Proofs.Selection.Comparing
import Mathlib.Data.List.Nodup

/-!
# One run following another

A run follows another one through a change of values when it succeeds wherever the other one does,
with the changed value, and its questions stand in a given relation to the other's.  The steps of
a reduction keep this: if the reductions of related records follow each other, so do the entries
that are made of them, and if the entries of the fields follow each other, so do the objects, in
whatever order the fields are taken.

Success is all that is compared.  Where the first run fails nothing is said about the second, since
another selection may meet another error first or none at all.
-/

namespace SparseFields

/-- A change of each item of an array. -/
def Json.mapItems (f : Json → Json) : Json → Json
  | .array items => .array (items.map f)
  | other => other

theorem Json.mapItems_self {f : Json → Json} (hf : ∀ value, f value = value) (value : Json) :
    value.mapItems f = value := by
  have hid : f = id := funext hf
  cases value <;> simp [mapItems, hid]

/-- A change of the members of an object: some get a new value and the others are taken away. -/
def Json.filterMembers (f : String → Json → Option Json) : Json → Json
  | .object members =>
      .object (members.filterMap fun member =>
        (f member.1 member.2).map fun value => (member.1, value))
  | other => other

theorem Json.filterMembers_some (value : Json) :
    value.filterMembers (fun _ member => some member) = value := by
  cases value <;> simp [filterMembers]

/-- A relation between lists of questions that holds of equal ones and is kept when runs are put
after one another. -/
structure CallRelation (C : List Call → List Call → Prop) : Prop where
  refl : ∀ calls, C calls calls
  append : ∀ {cs cs' ds ds'}, C cs cs' → C ds ds' → C (cs ++ ds) (cs' ++ ds')

/-- Questions asked one part after another, some parts being changed and some left out. -/
theorem CallRelation.flatMap_filterMap {C : List Call → List Call → Prop} (hC : CallRelation C)
    {α : Type} {f : α → Option α} {calls : α → List Call} {xs : List α}
    (h : ∀ x ∈ xs, C (calls x) ((f x).elim [] calls)) :
    C (xs.flatMap calls) ((xs.filterMap f).flatMap calls) := by
  induction xs with
  | nil => exact hC.refl []
  | cons x xs ih =>
      have hx := h x List.mem_cons_self
      have hxs := ih fun y hy => h y (List.mem_cons_of_mem x hy)
      rw [List.filterMap_cons, List.flatMap_cons]
      cases hf : f x with
      | none =>
          rw [hf] at hx
          exact hC.append hx hxs
      | some y =>
          rw [hf] at hx
          rw [List.flatMap_cons]
          exact hC.append hx hxs

/-- A change of the result for each record of the content. -/
def Content.change (f : Json → Json) : Content → Json → Json
  | .one _ => f
  | .many _ => Json.mapItems f

namespace Run

variable {α β γ δ : Type} {C : List Call → List Call → Prop}

/-- The second run succeeds where the first one does, with the value changed by `f`, and with
questions in the relation `C` to those of the first one. -/
def Follows (C : List Call → List Call → Prop) (f : α → β) (run : Run α) (other : Run β) :
    Prop :=
  ∀ a, run.outcome = .ok a → other.outcome = .ok (f a) ∧ C run.calls other.calls

theorem Follows.refl (hC : CallRelation C) {f : α → α} (hf : ∀ a, f a = a) (run : Run α) :
    Follows C f run run := by
  intro a ha
  rw [hf]
  exact ⟨ha, hC.refl run.calls⟩

theorem follows_done (hC : CallRelation C) {f : α → β} {a : α} {b : β} (h : f a = b) :
    Follows C f (done a) (done b) := by
  intro a' ha'
  cases ha'
  rw [h]
  exact ⟨rfl, hC.refl []⟩

theorem follows_fail (f : α → β) (e : ReduceError) (other : Run β) :
    Follows C f (fail e) other := by
  intro a ha
  cases ha

theorem Follows.andThen (hC : CallRelation C) {f : α → β} {h : γ → δ} {run : Run α}
    {other : Run β} {g : α → Run γ} {g' : β → Run δ} (hrun : Follows C f run other)
    (hg : ∀ a, Follows C h (g a) (g' (f a))) :
    Follows C h (run.andThen g) (other.andThen g') := by
  intro c hc
  obtain ⟨a, ha, hga⟩ := andThen_outcome_eq_ok_iff.mp hc
  obtain ⟨hother, hcalls⟩ := hrun a ha
  obtain ⟨hg', hcalls'⟩ := hg a c hga
  rw [andThen_outcome_of_ok hother, andThen_calls_of_ok ha, andThen_calls_of_ok hother]
  exact ⟨hg', hC.append hcalls hcalls'⟩

theorem Follows.mapError {f : α → β} {run : Run α} {other : Run β}
    (h : Follows C f run other) (change change' : ReduceError → ReduceError) :
    Follows C f (run.mapError change) (other.mapError change') := by
  intro a ha
  obtain ⟨hother, hcalls⟩ := h a (mapError_outcome_eq_ok_iff.mp ha)
  exact ⟨mapError_outcome_eq_ok_iff.mpr hother, hcalls⟩

theorem Follows.afterCall (hC : CallRelation C) {f : α → β} {run : Run α} {other : Run β}
    (h : Follows C f run other) (call : Call) :
    Follows C f (run.afterCall call) (other.afterCall call) := by
  intro a ha
  obtain ⟨hother, hcalls⟩ := h a ha
  exact ⟨hother, hC.append (hC.refl [call]) hcalls⟩

end Run

namespace Reducer

open Run

variable {C : List Call → List Call → Prop} (r : Reducer)

theorem follows_checkLevel (hC : CallRelation C) {α β : Type} {f : α → β} {d : Descriptor}
    {level : Nat} {g : Unit → Run α} {g' : Unit → Run β} (h : Follows C f (g ()) (g' ())) :
    Follows C f ((r.checkLevel d level).andThen g) ((r.checkLevel d level).andThen g') :=
  (Follows.refl hC (fun _ => rfl) (r.checkLevel d level)).andThen hC fun _ => h

theorem follows_shapeEach (hC : CallRelation C) {f : Json → Json}
    {shape shape' : Instance → Run Json} (h : ∀ x, Follows C f (shape x) (shape' x))
    (index : Nat) (xs : List Instance) :
    Follows C (List.map f) (shapeEach shape index xs) (shapeEach shape' index xs) := by
  induction xs generalizing index with
  | nil => exact follows_done hC rfl
  | cons x xs ih =>
      refine ((h x).mapError _ _).andThen hC fun value => ?_
      exact (ih (index + 1)).andThen hC fun values => follows_done hC rfl

theorem follows_array (hC : CallRelation C) {f : Json → Json} {run other : Run (List Json)}
    (h : Follows C (List.map f) run other) :
    Follows C (Json.mapItems f) (run.andThen fun values => done (.array values))
      (other.andThen fun values => done (.array values)) :=
  h.andThen hC fun _ => follows_done hC rfl

/-! ## Related records -/

/-- A change of a value that belongs to a target, as its descriptor says. -/
def changeAt (target : String) (f : Descriptor → Json → Json) (value : Json) : Json :=
  match r.source.describe target with
  | .ok d => f d value
  | .error _ => value

theorem changeAt_of_ok {target : String} {d : Descriptor}
    (h : r.source.describe target = .ok d) (f : Descriptor → Json → Json) (value : Json) :
    r.changeAt target f value = f d value := by
  rw [changeAt, h]

theorem changeAt_eq_self {f : Descriptor → Json → Json} {value : Json}
    (h : ∀ d, f d value = value) (target : String) : r.changeAt target f value = value := by
  rw [changeAt]
  split
  · exact h _
  · rfl

/-- A change of what a field shows of related records: of each record of a has-many association
and of the record of a belongs-to association. -/
def changeRelated (d : Descriptor) (field : String) (f : Descriptor → Json → Json)
    (value : Json) : Json :=
  match d.resolve r.naming field with
  | .many link => r.changeAt link.target (fun target => Json.mapItems (f target)) value
  | .one link => r.changeAt link.target f value
  | _ => value

theorem changeRelated_self {f : Descriptor → Json → Json} (hf : ∀ d value, f d value = value)
    (d : Descriptor) (field : String) (value : Json) :
    r.changeRelated d field f value = value := by
  rw [changeRelated]
  split
  · exact r.changeAt_eq_self (fun target => Json.mapItems_self (hf target) value) _
  · exact r.changeAt_eq_self (fun target => hf target value) _
  · rfl

/-- Related records that are shaped in two ways follow each other through a change of each. -/
structure ShapingFollows (C : List Call → List Call → Prop) (f : Descriptor → Json → Json)
    (shaping other : Shaping) : Prop where
  many : ∀ target rows,
    Follows C (r.changeAt target fun d => Json.mapItems (f d)) (shaping.many target rows)
      (other.many target rows)
  one : ∀ d row, Follows C (f d) (shaping.one d row) (other.one d row)

variable {r}

theorem ShapingFollows.refl (hC : CallRelation C) {f : Descriptor → Json → Json}
    (hf : ∀ d value, f d value = value) (shaping : Shaping) :
    r.ShapingFollows C f shaping shaping where
  many target _ :=
    .refl hC (fun value => r.changeAt_eq_self (fun d => Json.mapItems_self (hf d) value) target) _
  one d _ := .refl hC (hf d) _

/-- Related records that are reduced follow each other when single records do. -/
theorem shapingFollows_reduced (hC : CallRelation C) {f : Descriptor → Json → Json}
    {level : Nat} {shape shape' : Descriptor → Instance → Run Json}
    (h : ∀ d x, Follows C (f d) (shape d x) (shape' d x)) :
    r.ShapingFollows C f (r.reduced level shape) (r.reduced level shape') where
  many target rows := by
    rw [reduced_many, reduced_many]
    cases hdescribe : r.source.describe target with
    | error e =>
        rw [describe_andThen_of_error hdescribe, describe_andThen_of_error hdescribe]
        exact (follows_fail _ _ _).afterCall hC _
    | ok d =>
        have hchange : (r.changeAt target fun d => Json.mapItems (f d)) =
            Json.mapItems (f d) := funext fun value => r.changeAt_of_ok hdescribe _ value
        rw [describe_andThen_of_ok hdescribe, describe_andThen_of_ok hdescribe, hchange]
        refine Follows.afterCall hC (r.follows_checkLevel hC ?_) _
        exact follows_array hC (follows_shapeEach hC (h d) 0 rows)
  one d row := r.follows_checkLevel hC (h d row)

/-! ## Values of associations -/

theorem follows_manyValue (hC : CallRelation C) {f : Descriptor → Json → Json}
    {shaping other : Shaping} (h : r.ShapingFollows C f shaping other) (d : Descriptor)
    (x : Instance) (link : HasMany) :
    Follows C (r.changeAt link.target fun target => Json.mapItems (f target))
      (r.manyValue d x link shaping) (r.manyValue d x link other) := by
  cases hrows : r.source.findMany link.target (manyFilter d x link) with
  | ok rows =>
      rw [r.manyValue_of_ok hrows, r.manyValue_of_ok hrows]
      exact (h.many link.target rows).afterCall hC _
  | error e =>
      rw [r.manyValue_of_error hrows, r.manyValue_of_error hrows]
      refine Follows.afterCall hC ?_ _
      split
      · exact follows_done hC (r.changeAt_eq_self (fun _ => rfl) link.target)
      · exact follows_fail _ _ _

theorem follows_oneValue (hC : CallRelation C) {f : Descriptor → Json → Json}
    {shaping other : Shaping} (hnull : ∀ target, f target .null = .null)
    (h : r.ShapingFollows C f shaping other) (x : Instance) (link : BelongsTo) :
    Follows C (r.changeAt link.target f) (r.oneValue x link shaping)
      (r.oneValue x link other) := by
  by_cases hkey : (x.get? link.foreignKey).getD .null = .null
  · rw [r.oneValue_of_null hkey, r.oneValue_of_null hkey]
    exact follows_done hC (r.changeAt_eq_self hnull link.target)
  · rw [r.oneValue_of_ne_null hkey, r.oneValue_of_ne_null hkey]
    cases hdescribe : r.source.describe link.target with
    | error e =>
        rw [describe_andThen_of_error hdescribe, describe_andThen_of_error hdescribe]
        exact (follows_fail _ _ _).afterCall hC _
    | ok target =>
        have hchange : r.changeAt link.target f = f target :=
          funext fun value => r.changeAt_of_ok hdescribe f value
        rw [describe_andThen_of_ok hdescribe, describe_andThen_of_ok hdescribe, hchange]
        refine Follows.afterCall hC ?_ _
        refine (Follows.refl hC (fun _ => rfl) _).andThen hC fun found => ?_
        cases found with
        | none => exact follows_done hC (hnull target)
        | some row =>
            show Follows C (f target) (if _ then _ else _) (if _ then _ else _)
            split
            · exact h.one target row
            · exact follows_fail _ _ _

/-- Entries of a field follow each other through a change of related records. -/
theorem follows_entry (hC : CallRelation C) {f : Descriptor → Json → Json}
    {shaping other : Shaping} (hnull : ∀ target, f target .null = .null)
    (h : r.ShapingFollows C f shaping other) (d : Descriptor) (x : Instance)
    (field : String) :
    Follows C (fun entry => (entry.1, r.changeRelated d field f entry.2))
      (r.entry d x field shaping) (r.entry d x field other) := by
  unfold Reducer.entry changeRelated
  cases d.resolve r.naming field with
  | owned => exact follows_done hC rfl
  | many link =>
      exact (follows_manyValue hC h d x link).andThen hC fun _ => follows_done hC rfl
  | one link =>
      exact (follows_oneValue hC hnull h x link).andThen hC fun _ => follows_done hC rfl
  | unknown => exact follows_fail _ _ _

/-! ## Objects -/

/-- What becomes of a choice with an entry: the entry is taken away, or another choice has an entry
under the same key, with the new value. -/
def ChoiceFollows (r : Reducer) (C : List Call → List Call → Prop)
    (g : String → Json → Option Json) (d : Descriptor) (x : Instance) (level : Nat)
    (choice : String × Selection.Pick) (other : Option (String × Selection.Pick)) : Prop :=
  ∀ entry, (r.fieldEntry d x level choice).outcome = .ok entry →
    C (r.fieldEntry d x level choice).calls
        (other.elim [] fun choice => (r.fieldEntry d x level choice).calls) ∧
      Option.Rel
        (fun choice value => (r.fieldEntry d x level choice).outcome = .ok (entry.1, value))
        other (g entry.1 entry.2)

/-- The entries that are left follow the choices that are left. -/
theorem forall₂_filterMap_of_follows {g : String → Json → Option Json} {d : Descriptor}
    {x : Instance} {level : Nat} {choices : List (String × Selection.Pick)}
    {f : String × Selection.Pick → Option (String × Selection.Pick)}
    {entries : List (String × Json)}
    (hentries : List.Forall₂
      (fun choice entry => (r.fieldEntry d x level choice).outcome = .ok entry) choices entries)
    (hchoice : ∀ choice ∈ choices, r.ChoiceFollows C g d x level choice (f choice)) :
    List.Forall₂ (fun choice entry => (r.fieldEntry d x level choice).outcome = .ok entry)
      (choices.filterMap f)
      (entries.filterMap fun entry => (g entry.1 entry.2).map fun value => (entry.1, value)) := by
  refine List.rel_filterMap ?_ ((List.forall₂_and_left _ _).mpr ⟨fun _ h => h, hentries⟩)
  intro choice entry h
  have hrel := (hchoice choice h.1 entry h.2).2
  show Option.Rel _ (f choice) ((g entry.1 entry.2).map fun value => (entry.1, value))
  generalize f choice = other at hrel ⊢
  generalize g entry.1 entry.2 = value at hrel ⊢
  cases hrel with
  | some hother => exact .some hother
  | none => exact .none

/-- A reduction to one selection follows that to another one when the fields of the other one are
among those of the first, and what becomes of each choice follows it. -/
theorem follows_reduceInstance (hC : CallRelation C) {s t : Selection} {d : Descriptor}
    {x : Instance} {level : Nat} {g : String → Json → Option Json}
    (hfields : s.fields.Nodup → t.toList.Perm (s.toList.filterMap t.choiceLike))
    (hcalls : ∀ {cs} (calls : String × Selection.Pick → List Call), s.fields.Nodup →
      C cs ((s.toList.filterMap t.choiceLike).flatMap calls) → C cs (t.toList.flatMap calls))
    (hchoice : (s.fields.map (r.outputKey d)).Nodup → ∀ choice ∈ s.toList,
      r.ChoiceFollows C g d x level choice (t.choiceLike choice)) :
    Follows C (Json.filterMembers g) (r.reduceInstance d x level s)
      (r.reduceInstance d x level t) := by
  intro value hvalue
  have hkeys := r.outputKeys_nodup_of_ok d x level hvalue
  have hs : s.fields.Nodup := List.Nodup.of_map _ hkeys
  have hcallsOf := r.reduceInstance_calls_of_ok d x level hvalue
  obtain ⟨entries, hentries, hnodup, rfl⟩ :=
    (r.reduceInstance_outcome_eq_ok_iff d x level).mp hvalue
  have hleft := forall₂_filterMap_of_follows hentries (hchoice hkeys)
  have hkey : ∀ e e' : String × Json,
      ((g e.1 e.2).map fun value => (e.1, value)) = some e' → e'.1 = e.1 := by
    intro e e' he
    obtain ⟨value, -, rfl⟩ := Option.map_eq_some_iff.mp he
    rfl
  -- The entries of the other selection are those that are left, in its own order.
  obtain ⟨entries', hentries', hperm⟩ := List.perm_comp_forall₂ (hfields hs) hleft
  have hnodup' : (entries'.map (·.1)).Nodup :=
    (hperm.map _).nodup_iff.mpr (SortedMap.keys_nodup_filterMap hnodup hkey)
  have hother : (r.reduceInstance d x level t).outcome =
      .ok (Json.filterMembers g (.object (SortedMap.ofList entries))) := by
    refine (r.reduceInstance_outcome_eq_ok_iff d x level).mpr ⟨entries', hentries', hnodup', ?_⟩
    rw [SortedMap.ofList_eq_of_perm hnodup' hperm, SortedMap.ofList_filterMap hnodup hkey]
    rfl
  refine ⟨hother, ?_⟩
  rw [hcallsOf, r.reduceInstance_calls_of_ok d x level hother]
  refine hcalls _ hs (hC.flatMap_filterMap fun choice hmem => ?_)
  obtain ⟨entry, -, hentry⟩ := exists_of_forall₂_mem hentries hmem
  exact (hchoice hkeys choice hmem entry hentry).1

/-! ## Content -/

theorem follows_reduceAt (hC : CallRelation C) {s t : Selection} {d : Descriptor} {level : Nat}
    {f : Json → Json}
    (h : ∀ x, Follows C f (r.reduceInstance d x level s) (r.reduceInstance d x level t)) :
    ∀ content : Content, Follows C (content.change f) (r.reduceAt d level content s)
      (r.reduceAt d level content t)
  | .one x => r.follows_checkLevel hC (h x)
  | .many xs => r.follows_checkLevel hC (follows_array hC (follows_shapeEach hC h 0 xs))

end Reducer
end SparseFields
