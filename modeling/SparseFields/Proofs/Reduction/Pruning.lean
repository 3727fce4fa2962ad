import SparseFields.Proofs.Reduction.Following

/-!
# Fewer fields

Fields that are deleted from a selection, at any level, are deleted from the result and nothing
else changes.  The main statement compares the two reductions: where the longer selection has a
result, the shorter one has the same without the members of the deleted fields, and its questions
are some of those of the longer one, in the same order.
-/

namespace SparseFields
namespace Reducer

open Run Selection

/-- What is left of a member that `s` selects when only the fields of `t` are kept: nothing when
its field is deleted, its value when the field is kept whole, and its value without what is deleted
from related records when the field is kept in part. -/
def keptMember (r : Reducer) :
    (s t : Selection) → Descriptor → (key : String) → Json → Option Json
  | .nil, _, _, _, value => some value
  | .whole field rest, t, d, key, value =>
      if r.outputKey d field = key then (t.get? field).map fun _ => value
      else r.keptMember rest t d key value
  | .part field sub rest, t, d, key, value =>
      if r.outputKey d field = key then
        (t.get? field).map fun
          | .whole => value
          | .part sub' => r.changeRelated d field
              (fun target => Json.filterMembers (r.keptMember sub sub' target)) value
      else r.keptMember rest t d key value

/-- A result for `s` without the members of the fields that `t` does not have. -/
def prune (r : Reducer) (s t : Selection) (d : Descriptor) : Json → Json :=
  Json.filterMembers (r.keptMember s t d)

/-- What is left of a related record when one pick is kept of another one. -/
def prunePick (r : Reducer) : Pick → Pick → Descriptor → Json → Json
  | .part sub, .part sub' => r.prune sub sub'
  | _, _ => fun _ value => value

variable (r : Reducer)

theorem prunePick_null (pick kept : Pick) (d : Descriptor) :
    r.prunePick pick kept d .null = .null := by
  cases pick <;> cases kept <;> rfl

theorem outputKey_ne_of_mem {rest : Selection} {d : Descriptor} {first field : String}
    {pick : Pick} (hnot : r.outputKey d first ∉ rest.fields.map (r.outputKey d))
    (hmem : (field, pick) ∈ rest.toList) : r.outputKey d first ≠ r.outputKey d field := by
  intro heq
  rw [heq] at hnot
  exact hnot (List.mem_map_of_mem (mem_fields_of_mem hmem))

/-- The member of a selected field is found by the key of the field. -/
theorem keptMember_of_mem {s t : Selection} {d : Descriptor} {field : String} {pick : Pick}
    (hkeys : (s.fields.map (r.outputKey d)).Nodup) (hmem : (field, pick) ∈ s.toList)
    (value : Json) :
    r.keptMember s t d (r.outputKey d field) value =
      (t.get? field).map fun kept => r.changeRelated d field (r.prunePick pick kept) value := by
  induction s with
  | nil => cases hmem
  | whole first rest ih =>
      obtain ⟨hnot, hrest⟩ := List.nodup_cons.mp hkeys
      rw [keptMember]
      rcases List.mem_cons.mp hmem with heq | hmem
      · cases heq
        rw [if_pos rfl]
        congr 1
        funext kept
        exact (r.changeRelated_self (fun _ _ => rfl) d field value).symm
      · rw [if_neg (r.outputKey_ne_of_mem hnot hmem)]
        exact ih hrest hmem
  | part first sub rest _ ih =>
      obtain ⟨hnot, hrest⟩ := List.nodup_cons.mp hkeys
      rw [keptMember]
      rcases List.mem_cons.mp hmem with heq | hmem
      · cases heq
        rw [if_pos rfl]
        congr 1
        funext kept
        cases kept with
        | whole => exact (r.changeRelated_self (fun _ _ => rfl) d field value).symm
        | part sub' => rfl
      · rw [if_neg (r.outputKey_ne_of_mem hnot hmem)]
        exact ih hrest hmem

/-- Some of the questions, in the same order. -/
def FewerCalls (calls fewer : List Call) : Prop := fewer.Sublist calls

theorem callRelation_fewer : CallRelation FewerCalls where
  refl := List.Sublist.refl
  append h h' := List.Sublist.append h h'

/-- Related records follow when they are taken whole, or when single records follow under the
picked parts. -/
theorem shapingFollows_of_prunes {pick kept : Pick} {level : Nat} (h : kept.Prunes pick)
    (hpart : ∀ sub sub', pick = .part sub → Prunes sub' sub → ∀ d x,
      Follows FewerCalls (r.prune sub sub' d) (r.reduceInstance d x (level + 1) sub)
        (r.reduceInstance d x (level + 1) sub')) :
    r.ShapingFollows FewerCalls (r.prunePick pick kept) (r.pickShaping level pick)
      (r.pickShaping level kept) := by
  cases h with
  | whole => exact .refl callRelation_fewer (fun _ _ => rfl) _
  | part h => exact shapingFollows_reduced callRelation_fewer (hpart _ _ rfl h)

/-- The object of fewer fields follows that of more fields. -/
theorem follows_reduceInstance_of_prunes {s t : Selection} (h : Prunes t s) (d : Descriptor)
    (x : Instance) (level : Nat) :
    Follows FewerCalls (r.prune s t d) (r.reduceInstance d x level s)
      (r.reduceInstance d x level t) := by
  induction s using parts_induction generalizing t d x level with
  | step s ih =>
      refine follows_reduceInstance callRelation_fewer ?_ ?_ ?_
      · intro hs
        exact .of_eq (toList_eq_of_sublist hs h.fields_sublist)
      · intro cs calls hs hfewer
        rw [toList_eq_of_sublist hs h.fields_sublist]
        exact hfewer
      · rintro hkeys ⟨field, pick⟩ hmem entry hentry
        have hkey := ((r.entry_outcome_eq_ok_iff d x).mp hentry).1
        have hkept := r.keptMember_of_mem (t := t) hkeys hmem entry.2
        rw [← hkey] at hkept
        rw [hkept, choiceLike]
        cases hget : t.get? field with
        | none => exact ⟨List.nil_sublist _, .none⟩
        | some kept =>
            have hs : s.fields.Nodup := List.Nodup.of_map _ hkeys
            have hshaping : r.ShapingFollows FewerCalls (r.prunePick pick kept)
                (r.pickShaping level pick) (r.pickShaping level kept) :=
              r.shapingFollows_of_prunes (h.pick hs hget hmem) fun sub sub' hsub hprunes d x =>
                ih field sub (hsub ▸ hmem) hprunes d x (level + 1)
            obtain ⟨hother, hcalls⟩ := follows_entry callRelation_fewer
              (r.prunePick_null pick kept) hshaping d x field entry hentry
            exact ⟨hcalls, .some hother⟩

/-- When fields are deleted from a selection that content is reduced to, the members of these
fields are deleted from the result, and some of the questions are not asked. -/
theorem reduce_of_prunes (s t : Selection) (h : Prunes t s) (d : Descriptor) (content : Content)
    (value : Json) (hvalue : (r.reduce d content s).outcome = .ok value) :
    (r.reduce d content t).outcome = .ok (content.change (r.prune s t d) value) ∧
      (r.reduce d content t).calls.Sublist (r.reduce d content s).calls :=
  follows_reduceAt callRelation_fewer
    (fun x => r.follows_reduceInstance_of_prunes h d x 1) content value hvalue

/-- The sample selection without the user's name and the status of her orders. -/
def sampleFewer : Selection :=
  .part "orders" (.part "user" (.whole "name" .nil) .nil) .nil

theorem sample_prunes :
    (Sample.reducer.reduce Sample.user (.one Sample.ann) Sample.selection).outcome =
        .ok Sample.result ∧
      Prunes sampleFewer Sample.selection ∧
      (Sample.reducer.reduce Sample.user (.one Sample.ann) sampleFewer).outcome =
        .ok (.object [("order",
          .array [.object [("user", .object [("name", .string "Ann")])]])]) ∧
      (Sample.reducer.reduce Sample.user (.one Sample.ann) sampleFewer).calls.Sublist
        (Sample.reducer.reduce Sample.user (.one Sample.ann) Sample.selection).calls := by
  have hprunes : Prunes sampleFewer Sample.selection :=
    .deleteWhole (.keepPart (.deleteWhole (.keepPart (.keepWhole .nil) .nil)) .nil)
  have h := Sample.reducer.reduce_of_prunes Sample.selection sampleFewer hprunes Sample.user
    (.one Sample.ann) Sample.result rfl
  exact ⟨rfl, hprunes, h.1, h.2⟩

end Reducer
end SparseFields
