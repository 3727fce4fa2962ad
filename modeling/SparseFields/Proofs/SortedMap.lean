import SparseFields.SortedMap
import Mathlib.Data.List.Induction
import Mathlib.Data.List.Nodup
import Mathlib.Data.List.Perm.Basic

/-!
# Maps in key order as sets of entries

A map in key order is determined by its entries in whatever order they are listed.  Entries under
distinct new keys may therefore be inserted in any order, and the members that are left after some
have been taken away are again a map in key order.
-/

namespace SparseFields
namespace SortedMap

variable {α β : Type}

theorem contains_iff {key : String} {entries : SortedMap α} :
    contains key entries = true ↔ key ∈ entries.map (·.1) := by
  induction entries with
  | nil => simp [contains, find?]
  | cons entry rest ih =>
      rw [contains, find?]
      by_cases h : entry.1 = key
      · simp [h]
      · rw [if_neg h, List.map_cons, List.mem_cons, or_iff_right (Ne.symm h)]
        exact ih

theorem contains_eq_false_iff {key : String} {entries : SortedMap α} :
    contains key entries = false ↔ key ∉ entries.map (·.1) := by
  rw [← contains_iff, Bool.not_eq_true]

/-- An insertion changes the value under its own key only. -/
theorem find?_insert (key other : String) (value : α) (entries : SortedMap α) :
    find? other (insert key value entries) =
      if key = other then some value else find? other entries := by
  induction entries with
  | nil => rfl
  | cons first rest ih =>
      rw [insert]
      split
      · rfl
      · split
        · next heq =>
          rw [find?, find?, ← heq]
          split <;> rfl
        · next hne =>
          rw [find?, find?, ih]
          by_cases hother : key = other
          · rw [if_pos hother, if_pos hother, if_neg fun h => hne (hother.trans h.symm)]
          · rw [if_neg hother, if_neg hother]

/-- An insertion adds its own key. -/
theorem contains_insert (key other : String) (value : α) (entries : SortedMap α) :
    contains other (insert key value entries) = (key == other || contains other entries) := by
  rw [contains, find?_insert]
  by_cases h : key = other
  · rw [if_pos h, beq_iff_eq.mpr h]
    rfl
  · rw [if_neg h, beq_eq_false_iff_ne.mpr h]
    rfl

theorem contains_insert_eq_false_iff {key other : String} {value : α}
    {entries : SortedMap α} :
    contains other (insert key value entries) = false ↔
      other ≠ key ∧ contains other entries = false := by
  rw [contains_insert, Bool.or_eq_false_iff, beq_eq_false_iff_ne, ne_comm]

theorem Sorted.keys_nodup {entries : SortedMap α} (h : Sorted entries) :
    (entries.map (·.1)).Nodup := by
  rw [List.Nodup, List.pairwise_map]
  refine h.imp ?_
  intro a b hlt heq
  rw [heq] at hlt
  exact String.lt_irrefl _ hlt

/-- The value under a key is the one listed with it. -/
theorem find?_eq_some_iff {entries : SortedMap α} (h : (entries.map (·.1)).Nodup)
    {key : String} {value : α} :
    find? key entries = some value ↔ (key, value) ∈ entries := by
  induction entries with
  | nil => simp [find?]
  | cons entry rest ih =>
      obtain ⟨k, v⟩ := entry
      obtain ⟨hnot, hrest⟩ := List.nodup_cons.mp h
      rw [find?]
      by_cases hk : k = key
      · subst hk
        have hmem : (k, value) ∉ rest := fun hmem =>
          hnot (List.mem_map.mpr ⟨_, hmem, rfl⟩)
        simp [hmem, eq_comm]
      · simp [hk, Ne.symm hk, ih hrest]

theorem ofList_concat (entries : List (String × α)) (entry : String × α) :
    ofList (entries ++ [entry]) = insert entry.1 entry.2 (ofList entries) := by
  rw [ofList, List.foldl_append]
  rfl

/-- A map collected from entries holds under each key the value that was given last. -/
theorem find?_ofList (key : String) (entries : List (String × α)) :
    find? key (ofList entries) = entries.reverse.lookup key := by
  induction entries using List.reverseRecOn with
  | nil => rfl
  | append_singleton entries entry ih =>
      rw [ofList_concat, find?_insert, List.reverse_concat, List.lookup_cons, ih]
      by_cases h : entry.1 = key
      · rw [if_pos h, beq_iff_eq.mpr h.symm]
      · rw [if_neg h, beq_eq_false_iff_ne.mpr (Ne.symm h)]

theorem find?_eq_lookup (key : String) (entries : SortedMap α) :
    find? key entries = entries.lookup key := by
  induction entries with
  | nil => rfl
  | cons entry rest ih =>
      rw [find?, List.lookup_cons, ih]
      by_cases h : entry.1 = key
      · rw [if_pos h, beq_iff_eq.mpr h.symm]
      · rw [if_neg h, beq_eq_false_iff_ne.mpr (Ne.symm h)]

/-- New values under the same keys are found where the old ones were. -/
theorem lookup_map_values (f : α → β) (key : String) (entries : List (String × α)) :
    (entries.map fun entry => (entry.1, f entry.2)).lookup key = (entries.lookup key).map f := by
  induction entries with
  | nil => rfl
  | cons entry rest ih =>
      rw [List.map_cons, List.lookup_cons, List.lookup_cons, ih]
      cases key == entry.1 <;> rfl

/-- Where a key is not repeated, it has the same value from the front and from the back. -/
theorem lookup_reverse {key : String} {entries : List (String × α)}
    (h : (entries.map (·.1)).count key ≤ 1) :
    entries.reverse.lookup key = entries.lookup key := by
  induction entries with
  | nil => rfl
  | cons entry rest ih =>
      rw [List.reverse_cons, List.lookup_append, List.lookup_cons, List.lookup_cons]
      rw [List.map_cons] at h
      by_cases hkey : entry.1 = key
      · subst hkey
        rw [List.count_cons_self] at h
        have hrest : rest.reverse.lookup entry.1 = none := by
          have hnot : entry.1 ∉ rest.map (·.1) := List.count_eq_zero.mp (by omega)
          refine List.lookup_eq_none_iff.mpr fun other hother => bne_iff_ne.mpr fun heq => ?_
          exact hnot (List.mem_map.mpr ⟨other, List.mem_reverse.mp hother, heq.symm⟩)
        rw [hrest, beq_self_eq_true, Option.none_or]
      · rw [List.count_cons_of_ne hkey] at h
        rw [ih h, beq_eq_false_iff_ne.mpr (Ne.symm hkey), List.lookup_nil, Option.or_none]

/-- Collecting entries keeps the value under a key that is not repeated. -/
theorem lookup_ofList {key : String} {entries : List (String × α)}
    (h : (entries.map (·.1)).count key ≤ 1) :
    (ofList entries).lookup key = entries.lookup key := by
  rw [← find?_eq_lookup, find?_ofList, lookup_reverse h]

theorem count_keys_ofList_le_one (key : String) (entries : List (String × α)) :
    ((ofList entries).map (·.1)).count key ≤ 1 :=
  List.nodup_iff_count_le_one.mp (sorted_ofList entries).keys_nodup key

theorem contains_ofList_iff {key : String} {entries : List (String × α)} :
    contains key (ofList entries) = true ↔ key ∈ entries.map (·.1) := by
  rw [contains, find?_ofList, List.lookup_isSome_iff, List.mem_map]
  simp only [List.mem_reverse, beq_iff_eq, eq_comm (a := key)]

/-- Maps in key order with the same entries are equal. -/
theorem Sorted.eq_of_perm {entries entries' : SortedMap α} (h : Sorted entries)
    (h' : Sorted entries') (hperm : entries.Perm entries') : entries = entries' :=
  hperm.eq_of_pairwise
    (fun _ _ _ _ hlt hlt' => absurd (String.lt_trans hlt hlt') (String.lt_irrefl _)) h h'

/-- Maps in key order are the same when every key has the same value in them. -/
theorem Sorted.ext {entries entries' : SortedMap α} (h : Sorted entries) (h' : Sorted entries')
    (hfind : ∀ key, find? key entries = find? key entries') : entries = entries' := by
  apply h.eq_of_perm h'
  rw [List.perm_ext_iff_of_nodup (List.Nodup.of_map _ h.keys_nodup)
    (List.Nodup.of_map _ h'.keys_nodup)]
  rintro ⟨key, value⟩
  rw [← find?_eq_some_iff h.keys_nodup, ← find?_eq_some_iff h'.keys_nodup, hfind]

/-- An insertion under a new key adds one entry. -/
theorem insert_perm {key : String} {entries : SortedMap α}
    (h : contains key entries = false) (value : α) :
    (insert key value entries).Perm ((key, value) :: entries) := by
  induction entries with
  | nil => exact .refl _
  | cons first rest ih =>
      have hne : key ≠ first.1 := by
        rintro rfl
        exact contains_eq_false_iff.mp h List.mem_cons_self
      have hrest : contains key rest = false :=
        contains_eq_false_iff.mpr fun hmem =>
          contains_eq_false_iff.mp h (List.mem_cons_of_mem _ hmem)
      rw [insert, if_neg hne]
      split
      · exact .refl _
      · exact ((ih hrest).cons first).trans (.swap _ _ _)

/-- Entries inserted one after another. -/
def insertAll (done : SortedMap α) (entries : List (String × α)) : SortedMap α :=
  entries.foldl (fun done entry => insert entry.1 entry.2 done) done

theorem ofList_eq_insertAll (entries : List (String × α)) :
    ofList entries = insertAll [] entries := rfl

/-- Entries under distinct new keys are added to a map. -/
theorem insertAll_perm {entries : List (String × α)} {done : SortedMap α}
    (hnew : ∀ entry ∈ entries, contains entry.1 done = false)
    (hnodup : (entries.map (·.1)).Nodup) :
    (insertAll done entries).Perm (done ++ entries) := by
  induction entries generalizing done with
  | nil => simp [insertAll]
  | cons entry rest ih =>
      obtain ⟨hnot, hrest⟩ := List.nodup_cons.mp hnodup
      have hentry := insert_perm (hnew entry List.mem_cons_self) entry.2
      have hnew' : ∀ e ∈ rest, contains e.1 (insert entry.1 entry.2 done) = false := fun e he =>
        contains_insert_eq_false_iff.mpr ⟨fun heq => hnot (List.mem_map.mpr ⟨e, he, heq⟩),
          hnew e (List.mem_cons_of_mem entry he)⟩
      exact (ih hnew' hrest).trans ((hentry.append_right rest).trans List.perm_middle.symm)

theorem ofList_perm {entries : List (String × α)} (h : (entries.map (·.1)).Nodup) :
    (ofList entries).Perm entries := by
  rw [ofList_eq_insertAll]
  exact insertAll_perm (fun _ _ => rfl) h

/-- The order of entries under distinct keys does not matter. -/
theorem ofList_eq_of_perm {entries entries' : List (String × α)}
    (h : (entries.map (·.1)).Nodup) (hperm : entries.Perm entries') :
    ofList entries = ofList entries' := by
  have h' : (entries'.map (·.1)).Nodup := ((hperm.map _).nodup_iff).mp h
  exact (sorted_ofList entries).eq_of_perm (sorted_ofList entries')
    ((ofList_perm h).trans (hperm.trans (ofList_perm h').symm))

/-- Members taken away or given new values leave the others in key order. -/
theorem Sorted.filterMap {entries : SortedMap α} (h : Sorted entries)
    {f : String × α → Option (String × β)} (hkey : ∀ e e', f e = some e' → e'.1 = e.1) :
    Sorted (entries.filterMap f) := by
  refine List.Pairwise.filterMap f (fun e e' hlt b hb b' hb' => ?_) h
  rw [hkey e b hb, hkey e' b' hb']
  exact hlt

theorem keys_nodup_filterMap {entries : List (String × α)} (h : (entries.map (·.1)).Nodup)
    {f : String × α → Option (String × β)} (hkey : ∀ e e', f e = some e' → e'.1 = e.1) :
    ((entries.filterMap f).map (·.1)).Nodup := by
  rw [List.Nodup, List.pairwise_map] at h ⊢
  refine List.Pairwise.filterMap f (fun e e' hne b hb b' hb' => ?_) h
  rw [hkey e b hb, hkey e' b' hb']
  exact hne

/-- Taking members away after they have been collected is the same as before. -/
theorem ofList_filterMap {entries : List (String × α)} (h : (entries.map (·.1)).Nodup)
    {f : String × α → Option (String × β)} (hkey : ∀ e e', f e = some e' → e'.1 = e.1) :
    ofList (entries.filterMap f) = (ofList entries).filterMap f :=
  (sorted_ofList _).eq_of_perm ((sorted_ofList entries).filterMap hkey)
    ((ofList_perm (keys_nodup_filterMap h hkey)).trans ((ofList_perm h).filterMap f).symm)

end SortedMap
end SparseFields
