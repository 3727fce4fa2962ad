import SparseFields.Proofs.Reduction.Following

/-!
# Fields in another order

The order of the fields of a selection, at any level, does not change a successful result.  Fields
are reduced one after another and the first failure ends the run, but whether all of them succeed
and write distinct keys does not depend on the order, and the result is a map in key order anyway.
Only the order of the questions changes, and among failures which one is met.
-/

namespace SparseFields
namespace Reducer

open Run Selection

theorem callRelation_perm : CallRelation List.Perm where
  refl := List.Perm.refl
  append h h' := h.append h'

variable (r : Reducer)

/-- Related records follow when they are taken whole, or when single records follow under the
picked parts. -/
theorem shapingFollows_of_equivalent {pick pick' : Pick} {level : Nat}
    (h : pick.Equivalent pick')
    (hpart : ∀ sub sub', pick = .part sub → sub.equivalent sub' = true → ∀ d x,
      Follows List.Perm id (r.reduceInstance d x (level + 1) sub)
        (r.reduceInstance d x (level + 1) sub')) :
    r.ShapingFollows List.Perm (fun _ => id) (r.pickShaping level pick)
      (r.pickShaping level pick') := by
  cases h with
  | whole => exact .refl callRelation_perm (fun _ _ => rfl) _
  | part h => exact shapingFollows_reduced callRelation_perm (hpart _ _ rfl h)

/-- The object of the same fields in another order is the same. -/
theorem follows_reduceInstance_of_equivalent {s t : Selection} (h : s.equivalent t = true)
    (d : Descriptor) (x : Instance) (level : Nat) :
    Follows List.Perm id (r.reduceInstance d x level s) (r.reduceInstance d x level t) := by
  induction s using parts_induction generalizing t d x level with
  | step s ih =>
      have hid : Json.filterMembers (fun _ value => some value) = id :=
        funext Json.filterMembers_some
      rw [← hid]
      have hlist : s.fields.Nodup → t.toList.Perm (s.toList.filterMap t.choiceLike) :=
        fun hs => toList_perm_of_perm hs (fields_perm_of_equivalent hs h)
      refine follows_reduceInstance callRelation_perm hlist ?_ ?_
      · intro cs calls hs hsame
        exact hsame.trans ((hlist hs).symm.flatMap_right calls)
      · rintro - ⟨field, pick⟩ hmem entry hentry
        obtain ⟨pick', hget, hpick⟩ := (equivalent_iff.mp h).2 field pick hmem
        have hshaping : r.ShapingFollows List.Perm (fun _ => id) (r.pickShaping level pick)
            (r.pickShaping level pick') :=
          r.shapingFollows_of_equivalent hpick fun sub sub' hsub hequivalent d x =>
            ih field sub (hsub ▸ hmem) hequivalent d x (level + 1)
        obtain ⟨hother, hcalls⟩ :=
          follows_entry callRelation_perm (fun _ => rfl) hshaping d x field entry hentry
        have hself : r.changeRelated d field (fun _ => id) entry.2 = entry.2 :=
          r.changeRelated_self (fun _ _ => rfl) d field entry.2
        simp only [hself] at hother
        rw [choiceLike, hget]
        exact ⟨hcalls, .some hother⟩

/-- Content reduced to the same fields in another order. -/
theorem reduce_ok_of_equivalent {s t : Selection} (h : s.equivalent t = true) (d : Descriptor)
    (content : Content) {value : Json} (hvalue : (r.reduce d content s).outcome = .ok value) :
    (r.reduce d content t).outcome = .ok value ∧
      (r.reduce d content s).calls.Perm (r.reduce d content t).calls := by
  obtain ⟨hother, hcalls⟩ := follows_reduceAt callRelation_perm
    (fun x => r.follows_reduceInstance_of_equivalent h d x 1) content value hvalue
  have hsame : content.change id value = value := by
    cases content with
    | one x => rfl
    | many xs => exact Json.mapItems_self (fun _ => rfl) value
  rw [hsame] at hother
  exact ⟨hother, hcalls⟩

/-- Selections of the same fields in any order give content the same result, if any, by the same
questions in some order, and where one of them has a failure the other one has one too.  That no
level chooses a field twice is what makes a list of choices a map by field. -/
theorem reduce_of_equivalent (s t : Selection) (hs : s.Distinct) (h : s.equivalent t = true)
    (d : Descriptor) (content : Content) :
    (∀ value, (r.reduce d content s).outcome = .ok value ↔
        (r.reduce d content t).outcome = .ok value) ∧
      (∀ value, (r.reduce d content s).outcome = .ok value →
        (r.reduce d content s).calls.Perm (r.reduce d content t).calls) ∧
      ((∃ e, (r.reduce d content s).outcome = .error e) ↔
        ∃ e, (r.reduce d content t).outcome = .error e) := by
  have hsame : ∀ value, (r.reduce d content s).outcome = .ok value ↔
      (r.reduce d content t).outcome = .ok value := by
    intro value
    constructor
    · intro hvalue
      exact (r.reduce_ok_of_equivalent h d content hvalue).1
    · intro hvalue
      exact (r.reduce_ok_of_equivalent (equivalent_symm hs h) d content hvalue).1
  refine ⟨hsame, fun value hvalue => (r.reduce_ok_of_equivalent h d content hvalue).2, ?_⟩
  have hfails : ∀ run : Run Json,
      (∃ e, run.outcome = .error e) ↔ ∀ value, run.outcome ≠ .ok value := by
    intro run
    cases run.outcome <;> simp
  rw [hfails, hfails]
  exact forall_congr' fun value => not_congr (hsame value)

/-- The sample selection with the fields at both levels in the other order. -/
def sampleReordered : Selection :=
  .part "orders" (.part "user" (.whole "name" .nil) (.whole "status" .nil))
    (.whole "name" .nil)

theorem sample_reordered :
    Sample.selection.Distinct ∧
      Sample.selection.equivalent sampleReordered = true ∧
      (Sample.reducer.reduce Sample.user (.one Sample.ann) sampleReordered).outcome =
        .ok Sample.result ∧
      (Sample.reducer.reduce Sample.user (.one Sample.ann) Sample.selection).calls.Perm
        (Sample.reducer.reduce Sample.user (.one Sample.ann) sampleReordered).calls := by
  have hdistinct : Sample.selection.Distinct :=
    ⟨by decide, by decide, ⟨by decide, by decide, ⟨by decide, trivial⟩, trivial⟩, trivial⟩
  have hequivalent : Sample.selection.equivalent sampleReordered = true := by decide
  obtain ⟨hsame, hcalls, -⟩ := Sample.reducer.reduce_of_equivalent Sample.selection
    sampleReordered hdistinct hequivalent Sample.user (.one Sample.ann)
  exact ⟨hdistinct, hequivalent, (hsame Sample.result).mp rfl, hcalls Sample.result rfl⟩

end Reducer
end SparseFields
