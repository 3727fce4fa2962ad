import SparseFields.Proofs.Selection.Entries
import Mathlib.Data.List.Perm.Subperm

/-!
# Comparing selections

Two ways in which selections are related: one is left of the other when some fields are deleted,
and they choose the same fields in different orders.  Both reach into the picked parts.  For either
one, the fields of the one selection are found among those of the other, and where both choose a
field, the picks are whole on both sides or parts that are related again.
-/

namespace SparseFields
namespace Selection

theorem Distinct.fields_nodup {s : Selection} (h : s.Distinct) : s.fields.Nodup := by
  induction s with
  | nil => exact List.nodup_nil
  | whole field rest ih => exact List.nodup_cons.mpr ⟨h.1, ih h.2⟩
  | part field sub rest _ ih => exact List.nodup_cons.mpr ⟨h.1, ih h.2.2⟩

theorem Distinct.part {s sub : Selection} {field : String} (h : s.Distinct)
    (hmem : (field, Pick.part sub) ∈ s.toList) : sub.Distinct := by
  induction s with
  | nil => cases hmem
  | whole first rest ih =>
      rcases List.mem_cons.mp hmem with heq | hmem
      · cases heq
      · exact ih h.2 hmem
  | part first other rest _ ih =>
      rcases List.mem_cons.mp hmem with heq | hmem
      · cases heq
        exact h.2.1
      · exact ih h.2.2 hmem

theorem distinct_iff {s : Selection} :
    s.Distinct ↔ s.fields.Nodup ∧
      ∀ field sub, (field, Pick.part sub) ∈ s.toList → sub.Distinct := by
  constructor
  · intro h
    exact ⟨h.fields_nodup, fun _ _ hmem => h.part hmem⟩
  · induction s with
    | nil => exact fun _ => trivial
    | whole f rest ih =>
        rintro ⟨hnodup, hparts⟩
        obtain ⟨hnot, hrest⟩ := List.nodup_cons.mp hnodup
        exact ⟨hnot, ih ⟨hrest, fun field sub hmem =>
          hparts field sub (List.mem_cons_of_mem _ hmem)⟩⟩
    | part f sub rest _ ih =>
        rintro ⟨hnodup, hparts⟩
        obtain ⟨hnot, hrest⟩ := List.nodup_cons.mp hnodup
        exact ⟨hnot, hparts f sub List.mem_cons_self, ih ⟨hrest, fun field sub hmem =>
          hparts field sub (List.mem_cons_of_mem _ hmem)⟩⟩

/-- Choosing a field, whole or in a part without repeated fields, repeats no field. -/
theorem Distinct.insert {s : Selection} (h : s.Distinct) (field : String) {pick : Pick}
    (hpick : ∀ sub, pick = .part sub → sub.Distinct) : (s.insert field pick).Distinct := by
  have hcons : ∀ f rest, f ∉ fields rest → rest.Distinct → (cons f pick rest).Distinct := by
    intro f rest hnot hrest
    cases pick with
    | whole => exact ⟨hnot, hrest⟩
    | part sub => exact ⟨hnot, hpick sub rfl, hrest⟩
  have hother : ∀ f rest, f ≠ field → f ∉ fields rest →
      f ∉ (Selection.insert field pick rest).fields := by
    intro f rest hne hnot
    rw [fields_insert]
    split
    · exact hnot
    · simp [hnot, hne]
  induction s with
  | nil => exact hcons field .nil (by simp) trivial
  | whole f rest ih =>
      by_cases hf : f = field
      · rw [Selection.insert, if_pos hf]
        exact hcons f rest h.1 h.2
      · rw [Selection.insert, if_neg hf]
        exact ⟨hother f rest hf h.1, ih h.2⟩
  | part f sub rest _ ih =>
      by_cases hf : f = field
      · rw [Selection.insert, if_pos hf]
        exact hcons f rest h.1 h.2.2
      · rw [Selection.insert, if_neg hf]
        exact ⟨hother f rest hf h.1, h.2.1, ih h.2.2⟩

theorem mem_fields_of_mem {s : Selection} {choice : String × Pick} (h : choice ∈ s.toList) :
    choice.1 ∈ s.fields :=
  List.mem_map_of_mem h

/-! ## Choices of the same fields -/

/-- The choice that a selection makes of a field that is chosen elsewhere. -/
def choiceLike (t : Selection) (choice : String × Pick) : Option (String × Pick) :=
  (t.get? choice.1).map fun pick => (choice.1, pick)

theorem filterMap_choiceLike (s t : Selection) :
    s.toList.filterMap t.choiceLike =
      s.fields.filterMap fun field => (t.get? field).map fun pick => (field, pick) := by
  rw [fields, List.filterMap_map]
  rfl

theorem filterMap_choiceLike_self {t : Selection} (ht : t.fields.Nodup) :
    t.toList.filterMap t.choiceLike = t.toList := by
  have hself : ∀ choice ∈ t.toList, t.choiceLike choice = some choice := by
    intro choice hmem
    rw [choiceLike, (get?_eq_some_iff ht).mpr hmem]
    rfl
  rw [List.filterMap_congr hself, List.filterMap_some]

/-- Elements that are skipped anyway need not be listed. -/
theorem filterMap_eq_of_sublist {α β : Type} {f : α → Option β} {xs ys : List α}
    (h : ys.Sublist xs) (hnodup : xs.Nodup) (hskip : ∀ x ∈ xs, x ∉ ys → f x = none) :
    xs.filterMap f = ys.filterMap f := by
  induction h with
  | slnil => rfl
  | @cons ys xs x hsub ih =>
      obtain ⟨hnot, hnodup⟩ := List.nodup_cons.mp hnodup
      have hx : f x = none := hskip x List.mem_cons_self fun hmem => hnot (hsub.subset hmem)
      rw [List.filterMap_cons, hx]
      exact ih hnodup fun y hy => hskip y (List.mem_cons_of_mem _ hy)
  | @cons_cons ys xs x _ ih =>
      obtain ⟨hnot, hnodup⟩ := List.nodup_cons.mp hnodup
      have hrest : xs.filterMap f = ys.filterMap f := by
        refine ih hnodup fun y hy hout => hskip y (List.mem_cons_of_mem _ hy) fun hmem => ?_
        rcases List.mem_cons.mp hmem with rfl | hmem
        · exact hnot hy
        · exact hout hmem
      rw [List.filterMap_cons, List.filterMap_cons, hrest]

/-- A selection whose fields stand in another one in the same order is found there. -/
theorem toList_eq_of_sublist {s t : Selection} (hs : s.fields.Nodup)
    (h : t.fields.Sublist s.fields) : t.toList = s.toList.filterMap t.choiceLike := by
  have hskip : ∀ field ∈ s.fields, field ∉ t.fields →
      ((t.get? field).map fun pick => (field, pick)) = none := by
    intro field _ hout
    rw [get?_eq_none_iff.mpr hout]
    rfl
  rw [filterMap_choiceLike, filterMap_eq_of_sublist h hs hskip, ← filterMap_choiceLike,
    filterMap_choiceLike_self (h.nodup hs)]

/-- A selection of the same fields in another order is found in the other order. -/
theorem toList_perm_of_perm {s t : Selection} (hs : s.fields.Nodup)
    (h : t.fields.Perm s.fields) : t.toList.Perm (s.toList.filterMap t.choiceLike) := by
  have hself := filterMap_choiceLike_self (h.nodup_iff.mpr hs)
  calc
    t.toList = t.toList.filterMap t.choiceLike := hself.symm
    _ = t.fields.filterMap fun field => (t.get? field).map fun pick => (field, pick) :=
      filterMap_choiceLike t t
    List.Perm _ (s.fields.filterMap fun field => (t.get? field).map fun pick => (field, pick)) :=
      h.filterMap _
    _ = s.toList.filterMap t.choiceLike := (filterMap_choiceLike s t).symm

/-! ## Deleted fields -/

/-- The first selection is what is left of the second one when some fields are deleted, at any
level.  A picked part stays a part even if nothing is left of it. -/
inductive Prunes : Selection → Selection → Prop
  | nil : Prunes .nil .nil
  | deleteWhole {t s field} (rest : Prunes t s) : Prunes t (.whole field s)
  | deletePart {t s field sub} (rest : Prunes t s) : Prunes t (.part field sub s)
  | keepWhole {t s field} (rest : Prunes t s) : Prunes (.whole field t) (.whole field s)
  | keepPart {t s field sub sub'} (inside : Prunes sub sub') (rest : Prunes t s) :
      Prunes (.part field sub t) (.part field sub' s)

/-- Picks of a field that is kept: whole on both sides, or parts of which fields may be deleted. -/
inductive Pick.Prunes : Pick → Pick → Prop
  | whole : Prunes .whole .whole
  | part {sub sub'} (h : Selection.Prunes sub sub') : Prunes (.part sub) (.part sub')

theorem Prunes.fields_sublist {t s : Selection} (h : Prunes t s) :
    t.fields.Sublist s.fields := by
  induction h with
  | nil => exact .slnil
  | deleteWhole _ ih => exact ih.cons _
  | deletePart _ ih => exact ih.cons _
  | keepWhole _ ih => exact ih.cons_cons _
  | keepPart _ _ _ ih => exact ih.cons_cons _

/-- A kept field has the pick of the same field, without what is deleted from a part. -/
theorem Prunes.exists_pick {t s : Selection} (h : Prunes t s) {field : String} {pick : Pick}
    (hmem : (field, pick) ∈ t.toList) : ∃ pick', (field, pick') ∈ s.toList ∧ pick.Prunes pick' := by
  induction h with
  | nil => cases hmem
  | deleteWhole _ ih | deletePart _ ih =>
      obtain ⟨pick', hin, hpick⟩ := ih hmem
      exact ⟨pick', List.mem_cons_of_mem _ hin, hpick⟩
  | keepWhole _ ih =>
      rcases List.mem_cons.mp hmem with heq | hmem
      · cases heq
        exact ⟨.whole, List.mem_cons_self, .whole⟩
      · obtain ⟨pick', hin, hpick⟩ := ih hmem
        exact ⟨pick', List.mem_cons_of_mem _ hin, hpick⟩
  | keepPart hinside _ _ ih =>
      rcases List.mem_cons.mp hmem with heq | hmem
      · cases heq
        exact ⟨_, List.mem_cons_self, .part hinside⟩
      · obtain ⟨pick', hin, hpick⟩ := ih hmem
        exact ⟨pick', List.mem_cons_of_mem _ hin, hpick⟩

theorem Prunes.pick {t s : Selection} (h : Prunes t s) (hs : s.fields.Nodup) {field : String}
    {pick pick' : Pick} (hkept : t.get? field = some pick) (hmem : (field, pick') ∈ s.toList) :
    pick.Prunes pick' := by
  have ht := h.fields_sublist.nodup hs
  obtain ⟨original, hin, hpick⟩ := h.exists_pick ((get?_eq_some_iff ht).mp hkept)
  have hsame : some original = some pick' :=
    ((get?_eq_some_iff hs).mpr hin).symm.trans ((get?_eq_some_iff hs).mpr hmem)
  cases hsame
  exact hpick

/-! ## Other orders -/

/-- Picks that differ in the order of fields only: whole on both sides, or equivalent parts. -/
inductive Pick.Equivalent : Pick → Pick → Prop
  | whole : Equivalent .whole .whole
  | part {sub sub'} (h : sub.equivalent sub' = true) : Equivalent (.part sub) (.part sub')

theorem picksWithin_iff {s t : Selection} :
    picksWithin s t = true ↔
      ∀ field pick, (field, pick) ∈ s.toList →
        ∃ pick', t.get? field = some pick' ∧ pick.Equivalent pick' := by
  induction s with
  | nil => simp [picksWithin, toList]
  | whole first rest ih =>
      rw [picksWithin, Bool.and_eq_true, beq_iff_eq, ih]
      constructor
      · rintro ⟨hfirst, hrest⟩ field pick hmem
        rcases List.mem_cons.mp hmem with heq | hmem
        · cases heq
          exact ⟨.whole, hfirst, .whole⟩
        · exact hrest field pick hmem
      · intro h
        obtain ⟨pick', hget, hpick⟩ := h first .whole List.mem_cons_self
        cases hpick
        exact ⟨hget, fun field pick hmem => h field pick (List.mem_cons_of_mem _ hmem)⟩
  | part first sub rest _ ih =>
      rw [picksWithin, Bool.and_eq_true, ih]
      constructor
      · rintro ⟨hfirst, hrest⟩ field pick hmem
        rcases List.mem_cons.mp hmem with heq | hmem
        · cases heq
          split at hfirst
          · next sub' hget => exact ⟨.part sub', hget, .part hfirst⟩
          · cases hfirst
        · exact hrest field pick hmem
      · intro h
        obtain ⟨pick', hget, hpick⟩ := h first (.part sub) List.mem_cons_self
        cases hpick with
        | part hsub =>
            rw [hget]
            exact ⟨hsub, fun field pick hmem => h field pick (List.mem_cons_of_mem _ hmem)⟩

theorem equivalent_iff {s t : Selection} :
    s.equivalent t = true ↔
      s.fields.length = t.fields.length ∧
        ∀ field pick, (field, pick) ∈ s.toList →
          ∃ pick', t.get? field = some pick' ∧ pick.Equivalent pick' := by
  rw [equivalent, Bool.and_eq_true, beq_iff_eq, picksWithin_iff, size, size, fields, fields,
    List.length_map, List.length_map]

/-- Equivalent selections choose the same fields. -/
theorem fields_perm_of_equivalent {s t : Selection} (hs : s.fields.Nodup)
    (h : s.equivalent t = true) : t.fields.Perm s.fields := by
  obtain ⟨hlength, hpicks⟩ := equivalent_iff.mp h
  have hsubset : s.fields ⊆ t.fields := by
    intro field hfield
    obtain ⟨⟨_, pick⟩, hmem, rfl⟩ := List.mem_map.mp hfield
    obtain ⟨pick', hget, -⟩ := hpicks _ pick hmem
    by_contra hout
    rw [get?_eq_none_iff.mpr hout] at hget
    cases hget
  exact ((List.subperm_of_subset hs hsubset).perm_of_length_le
    (Nat.le_of_eq hlength.symm)).symm

/-- Equivalence does not depend on which selection is compared with which. -/
theorem equivalent_symm {s t : Selection} (hs : s.Distinct) (h : s.equivalent t = true) :
    t.equivalent s = true := by
  induction s using parts_induction generalizing t with
  | step s ih =>
      have hperm := fields_perm_of_equivalent hs.fields_nodup h
      have ht : t.fields.Nodup := hperm.nodup_iff.mpr hs.fields_nodup
      obtain ⟨hlength, hpicks⟩ := equivalent_iff.mp h
      refine equivalent_iff.mpr ⟨hlength.symm, fun field pick hmem => ?_⟩
      obtain ⟨⟨_, original⟩, horiginal, rfl⟩ :=
        List.mem_map.mp (hperm.subset (mem_fields_of_mem hmem))
      refine ⟨original, (get?_eq_some_iff hs.fields_nodup).mpr horiginal, ?_⟩
      obtain ⟨pick', hget, hpick⟩ := hpicks _ original horiginal
      rw [(get?_eq_some_iff ht).mpr hmem] at hget
      cases hget
      cases hpick with
      | whole => exact .whole
      | part hsub => exact .part (ih _ _ horiginal (hs.part horiginal) hsub)

end Selection
end SparseFields
