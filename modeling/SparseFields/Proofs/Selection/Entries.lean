import SparseFields.Selection.Basic
import Mathlib.Data.List.Induction

/-!
# Selections as ordered maps

A selection built by choosing fields one after another is an ordered map: its fields stand in the
order in which they were first chosen, and each has the pick it was given last.  These two facts
say which selection a list of written fields denotes, without mentioning how it is built, and they
leave room for one selection only.
-/

namespace SparseFields
namespace Selection

@[simp]
theorem fields_cons (field : String) (pick : Pick) (rest : Selection) :
    (cons field pick rest).fields = field :: rest.fields := by
  simp [fields]

@[simp]
theorem fields_nil : fields .nil = [] := rfl

@[simp]
theorem fields_whole (field : String) (rest : Selection) :
    fields (.whole field rest) = field :: rest.fields := rfl

@[simp]
theorem fields_part (field : String) (sub rest : Selection) :
    fields (.part field sub rest) = field :: rest.fields := rfl

theorem lookup_cons_ite {α : Type} (field key : String) (value : α)
    (rest : List (String × α)) :
    ((field, value) :: rest).lookup key =
      if field = key then some value else rest.lookup key := by
  by_cases h : field = key
  · simp [h]
  · rw [if_neg h, List.lookup_cons, beq_false_of_ne (Ne.symm h)]

theorem get?_eq_lookup (s : Selection) (field : String) :
    s.get? field = s.toList.lookup field := by
  induction s with
  | nil => rfl
  | whole f rest ih => rw [toList, lookup_cons_ite, get?, ih]
  | part f sub rest _ ih => rw [toList, lookup_cons_ite, get?, ih]

theorem toList_injective {s t : Selection} (h : s.toList = t.toList) : s = t := by
  induction s generalizing t with
  | nil => cases t <;> simp_all [toList]
  | whole f rest ih =>
      cases t with
      | nil => simp [toList] at h
      | whole f' rest' =>
          simp only [toList, List.cons.injEq, Prod.mk.injEq, and_true] at h
          rw [h.1, ih h.2]
      | part f' sub' rest' => simp [toList] at h
  | part f sub rest _ ih =>
      cases t with
      | nil => simp [toList] at h
      | whole f' rest' => simp [toList] at h
      | part f' sub' rest' =>
          simp only [toList, List.cons.injEq, Prod.mk.injEq, Pick.part.injEq] at h
          rw [h.1.1, h.1.2, ih h.2]

theorem get?_eq_none_iff {s : Selection} {field : String} :
    s.get? field = none ↔ field ∉ s.fields := by
  rw [get?_eq_lookup, List.lookup_eq_none_iff]
  constructor
  · rintro h hmem
    obtain ⟨entry, hentry, rfl⟩ := List.mem_map.mp hmem
    simpa using h entry hentry
  · intro h entry hentry
    have hne : field ≠ entry.1 := by
      rintro rfl
      exact h (List.mem_map_of_mem hentry)
    simpa using hne

/-- In a list without repeated keys the value of a key is the one listed with it. -/
theorem lookup_eq_some_iff_mem {α : Type} {entries : List (String × α)}
    (h : (entries.map (·.1)).Nodup) {key : String} {value : α} :
    entries.lookup key = some value ↔ (key, value) ∈ entries := by
  induction entries with
  | nil => simp
  | cons entry rest ih =>
      obtain ⟨k, v⟩ := entry
      obtain ⟨hnot, hrest⟩ := List.nodup_cons.mp h
      rw [lookup_cons_ite]
      by_cases hk : k = key
      · subst hk
        have hmem : (k, value) ∉ rest := fun hmem =>
          hnot (List.mem_map.mpr ⟨_, hmem, rfl⟩)
        simp [hmem, eq_comm]
      · simp [hk, Ne.symm hk, ih hrest]

/-- In a selection without repeated fields a field's pick is the one listed with it. -/
theorem get?_eq_some_iff {s : Selection} (hs : s.fields.Nodup)
    {field : String} {pick : Pick} :
    s.get? field = some pick ↔ (field, pick) ∈ s.toList := by
  rw [get?_eq_lookup]
  exact lookup_eq_some_iff_mem hs

/-- Fields in order and the pick of each determine a selection without repeated fields. -/
theorem ext_of_fields_nodup {s t : Selection} (hs : s.fields.Nodup)
    (hfields : s.fields = t.fields) (hget : ∀ field, s.get? field = t.get? field) :
    s = t := by
  apply toList_injective
  have hlen : s.toList.length = t.toList.length := by
    simpa [fields] using congrArg List.length hfields
  apply List.ext_getElem hlen
  intro i hi hi'
  have hfst : s.toList[i].1 = t.toList[i].1 := by
    have h := List.getElem_of_eq hfields (i := i) (by simpa [fields] using hi)
    simpa [fields] using h
  have hpick : s.get? s.toList[i].1 = some s.toList[i].2 :=
    (get?_eq_some_iff hs).mpr (List.getElem_mem hi)
  have hpick' : t.get? t.toList[i].1 = some t.toList[i].2 :=
    (get?_eq_some_iff (hfields ▸ hs)).mpr (List.getElem_mem hi')
  rw [hget, hfst, hpick'] at hpick
  exact Prod.ext hfst (Option.some.inj hpick).symm

/-! ## Parts -/

/-- The part that is picked of a field is smaller than the selection. -/
theorem sizeOf_part_lt {s sub : Selection} {field : String}
    (h : (field, Pick.part sub) ∈ s.toList) : sizeOf sub < sizeOf s := by
  induction s with
  | nil => simp [toList] at h
  | whole f rest ih =>
      have hrest : (field, Pick.part sub) ∈ rest.toList := by simpa [toList] using h
      have hlt := ih hrest
      simp only [whole.sizeOf_spec]
      omega
  | part f sub' rest _ ih =>
      simp only [part.sizeOf_spec]
      rcases List.mem_cons.mp h with heq | hrest
      · cases heq
        omega
      · have hlt := ih hrest
        omega

/-- Induction along the parts that a selection picks at its top level. -/
@[elab_as_elim]
theorem parts_induction {P : Selection → Prop}
    (step : ∀ s, (∀ field sub, (field, Pick.part sub) ∈ s.toList → P sub) → P s)
    (s : Selection) : P s :=
  step s fun _ sub _ => parts_induction step sub
termination_by sizeOf s
decreasing_by exact sizeOf_part_lt ‹_›

/-! ## Choosing a field -/

theorem get?_insert (s : Selection) (field key : String) (pick : Pick) :
    (s.insert field pick).get? key = if key = field then some pick else s.get? key := by
  by_cases h : key = field
  · rw [if_pos h, h, get?_insert_self]
  · rw [if_neg h, get?_insert_of_ne pick s (Ne.symm h)]

/-- A field chosen again keeps its place, and a new one comes last. -/
theorem fields_insert (s : Selection) (field : String) (pick : Pick) :
    (s.insert field pick).fields =
      if field ∈ s.fields then s.fields else s.fields ++ [field] := by
  induction s with
  | nil => simp [insert, fields, toList]
  | whole f rest ih =>
      by_cases h : f = field
      · simp [insert, h]
      · simp only [insert, if_neg h, fields_whole, ih, List.mem_cons, Ne.symm h, false_or]
        split <;> rfl
  | part f sub rest _ ih =>
      by_cases h : f = field
      · simp [insert, h]
      · simp only [insert, if_neg h, fields_part, ih, List.mem_cons, Ne.symm h, false_or]
        split <;> rfl

/-! ## The selection that written fields denote -/

/-- What fields denote that are written one after another, each with its pick: a selection of the
distinct ones in the order of their first occurrence, each with the pick of its last one. -/
structure Denotes (entries : List (String × Pick)) (s : Selection) : Prop where
  fields_eq : s.fields = (entries.map (·.1)).eraseDups
  get?_eq : ∀ field, s.get? field = entries.reverse.lookup field

theorem denotes_nil : Denotes [] .nil where
  fields_eq := rfl
  get?_eq _ := rfl

/-- One more written field is one more field chosen. -/
theorem Denotes.insert {entries : List (String × Pick)} {s : Selection}
    (h : Denotes entries s) (field : String) (pick : Pick) :
    Denotes (entries ++ [(field, pick)]) (s.insert field pick) where
  fields_eq := by
    have hmem : field ∈ s.fields ↔ field ∈ entries.map (·.1) := by
      rw [h.fields_eq, List.mem_eraseDups]
    rw [fields_insert, List.map_append, List.eraseDups_append, ← h.fields_eq]
    by_cases hfield : field ∈ entries.map (·.1)
    · simp [hmem.mpr hfield, List.removeAll, hfield]
    · simp [hfield, List.removeAll, mt hmem.mp hfield, List.eraseDups_cons]
  get?_eq key := by
    rw [get?_insert, h.get?_eq, List.reverse_append, List.reverse_singleton,
      List.singleton_append, lookup_cons_ite]
    simp only [eq_comm]

theorem ofList_concat (entries : List (String × Pick)) (entry : String × Pick) :
    ofList (entries ++ [entry]) = (ofList entries).insert entry.1 entry.2 := by
  simp [ofList]

theorem denotes_ofList (entries : List (String × Pick)) : Denotes entries (ofList entries) := by
  induction entries using List.reverseRecOn with
  | nil => exact denotes_nil
  | append_singleton entries entry ih =>
      rw [ofList_concat]
      exact ih.insert entry.1 entry.2

theorem nodup_eraseDups (names : List String) : names.eraseDups.Nodup := by
  induction names using List.reverseRecOn with
  | nil => simp
  | append_singleton names name ih =>
      rw [List.eraseDups_append]
      by_cases h : name ∈ names
      · simpa [List.removeAll, h] using ih
      · have hne : ∀ other ∈ names, ¬other = name := fun other hother heq => h (heq ▸ hother)
        simpa [List.removeAll, h, List.eraseDups_cons, List.nodup_append, ih] using hne

theorem eraseDups_of_nodup {names : List String} (h : names.Nodup) :
    names.eraseDups = names := by
  induction names using List.reverseRecOn with
  | nil => rfl
  | append_singleton names name ih =>
      obtain ⟨hnames, -, hnew⟩ := List.nodup_append.mp h
      have hnot : name ∉ names := fun hmem => hnew name hmem name (List.mem_singleton_self _) rfl
      rw [List.eraseDups_append, ih hnames]
      simp [List.removeAll, hnot, List.eraseDups_cons]

theorem Denotes.fields_nodup {entries : List (String × Pick)} {s : Selection}
    (h : Denotes entries s) : s.fields.Nodup :=
  h.fields_eq ▸ nodup_eraseDups _

/-- Written fields denote one selection only. -/
theorem Denotes.unique {entries : List (String × Pick)} {s t : Selection}
    (hs : Denotes entries s) (ht : Denotes entries t) : s = t :=
  ext_of_fields_nodup hs.fields_nodup (hs.fields_eq.trans ht.fields_eq.symm)
    fun field => (hs.get?_eq field).trans (ht.get?_eq field).symm

/-- A selection without repeated fields is what its own choices denote. -/
theorem denotes_toList {s : Selection} (h : s.fields.Nodup) : Denotes s.toList s where
  fields_eq := (eraseDups_of_nodup h).symm
  get?_eq field := by
    have hreverse : (s.toList.reverse.map (·.1)).Nodup :=
      ((List.reverse_perm s.toList).map _).nodup_iff.mpr h
    apply Option.ext
    intro pick
    rw [get?_eq_some_iff h, lookup_eq_some_iff_mem hreverse, List.mem_reverse]

/-- A choice of the denoted selection is one of the written ones. -/
theorem Denotes.mem_of_mem {entries : List (String × Pick)} {s : Selection}
    (h : Denotes entries s) {choice : String × Pick} (hmem : choice ∈ s.toList) :
    choice ∈ entries := by
  have hget := (get?_eq_some_iff h.fields_nodup).mpr hmem
  rw [h.get?_eq, List.lookup_eq_some_iff] at hget
  obtain ⟨before, after, heq, -⟩ := hget
  have hin : choice ∈ entries.reverse := by
    rw [heq]
    simp
  exact List.mem_reverse.mp hin

theorem Denotes.ne_nil {entries : List (String × Pick)} {s : Selection} (h : Denotes entries s)
    (hne : entries ≠ []) : s ≠ .nil := by
  rintro rfl
  obtain ⟨entry, rest, rfl⟩ := List.exists_cons_of_ne_nil hne
  have hfields := h.fields_eq
  simp [List.eraseDups_cons] at hfields

/-! ## Levels -/

theorem depth_pos {s : Selection} (h : s ≠ .nil) : 0 < s.depth := by
  cases s with
  | nil => exact absurd rfl h
  | whole field rest => exact Nat.lt_of_lt_of_le Nat.one_pos (Nat.le_max_left _ _)
  | part field sub rest =>
      exact Nat.lt_of_lt_of_le (Nat.add_pos_left Nat.one_pos _) (Nat.le_max_left _ _)

theorem exists_depth_eq_succ {s : Selection} (h : s ≠ .nil) : ∃ n, s.depth = n + 1 :=
  Nat.exists_eq_succ_of_ne_zero (Nat.ne_of_gt (depth_pos h))

theorem depth_le_succ_iff {s : Selection} {n : Nat} :
    s.depth ≤ n + 1 ↔ ∀ choice ∈ s.toList, ∀ sub, choice.2 = .part sub → sub.depth ≤ n := by
  induction s with
  | nil => simp [depth, toList]
  | whole f rest ih =>
      rw [depth, Nat.max_le, ih, toList, List.forall_mem_cons]
      simp
  | part f sub rest _ ih =>
      rw [depth, Nat.max_le, ih, toList, List.forall_mem_cons]
      simp [Nat.add_comm 1]

/-- A part has fewer levels than the selection that picks it. -/
theorem depth_lt_of_part {s sub : Selection} {field : String}
    (h : (field, Pick.part sub) ∈ s.toList) : sub.depth < s.depth := by
  have hne : s ≠ .nil := by
    rintro rfl
    cases h
  obtain ⟨n, hn⟩ := exists_depth_eq_succ hne
  have hle := depth_le_succ_iff.mp (Nat.le_of_eq hn) _ h sub rfl
  omega

end Selection
end SparseFields
