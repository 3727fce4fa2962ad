import SparseFields.Proofs.Json.Writing
import SparseFields.Proofs.Selection.Comparing
import SparseFields.Selection.Printer

/-!
# Selections up to the order of fields

A selection is a finite map from fields to picks, and its fields have an order as well.
Equivalence sees the map only: two selections are equivalent when every path of fields leads to the
same in both.  So equivalence is an equivalence relation, choosing a field respects it, and choices
of different fields may be made in any order, also within the parts.  The JSON form shows the order
too, and it tells any two selections apart.

A list of choices that repeats a field is no map, and equivalence says little about it.  The
statements are about the selections that come about by choosing fields one after another, which are
exactly those that repeat no field at any level.
-/

namespace SparseFields
namespace Selection

/-! ## Chosen selections -/

/-- A selection as it comes about: without a field at first, and then field after field is chosen,
whole or in a part that has come about in the same way. -/
inductive Chosen : Selection → Prop
  | nil : Chosen .nil
  | whole {s} (h : Chosen s) (field : String) : Chosen (s.insert field .whole)
  | part {s sub} (h : Chosen s) (field : String) (hsub : Chosen sub) :
      Chosen (s.insert field (.part sub))

theorem Chosen.distinct {s : Selection} (h : Chosen s) : s.Distinct := by
  induction h with
  | nil => trivial
  | whole _ field ih => exact ih.insert field nofun
  | part _ field _ ih ihsub =>
      refine ih.insert field ?_
      rintro _ ⟨⟩
      exact ihsub

theorem chosen_ofList {entries : List (String × Pick)}
    (h : ∀ field sub, (field, Pick.part sub) ∈ entries → Chosen sub) :
    Chosen (ofList entries) := by
  refine List.foldlRecOn entries _ (motive := Chosen) .nil fun s hs entry hentry => ?_
  obtain ⟨field, pick⟩ := entry
  cases pick with
  | whole => exact hs.whole field
  | part sub => exact hs.part field (h field sub hentry)

theorem Denotes.eq_ofList {entries : List (String × Pick)} {s : Selection}
    (h : Denotes entries s) : s = ofList entries :=
  h.unique (denotes_ofList entries)

/-- Choosing gives exactly the selections that repeat no field at any level. -/
theorem chosen_iff_distinct {s : Selection} : Chosen s ↔ s.Distinct := by
  refine ⟨Chosen.distinct, fun h => ?_⟩
  induction s using parts_induction with
  | step s ih =>
      rw [(denotes_toList h.fields_nodup).eq_ofList]
      exact chosen_ofList fun field sub hmem => ih field sub hmem (h.part hmem)

/-! ## The ordered map that choices make -/

theorem get?_ofList (entries : List (String × Pick)) (field : String) :
    (ofList entries).get? field = entries.reverse.lookup field :=
  (denotes_ofList entries).get?_eq field

theorem nodup_fields_ofList (entries : List (String × Pick)) : (ofList entries).fields.Nodup :=
  (denotes_ofList entries).fields_nodup

/-- The fields stand in the order in which they were first chosen, each with the pick it was given
last. -/
theorem toList_ofList (entries : List (String × Pick)) :
    (ofList entries).toList =
      (entries.map (·.1)).eraseDups.filterMap fun field =>
        (entries.reverse.lookup field).map fun pick => (field, pick) := by
  have h := denotes_ofList entries
  calc
    (ofList entries).toList = (ofList entries).toList.filterMap (ofList entries).choiceLike :=
      (filterMap_choiceLike_self h.fields_nodup).symm
    _ = (ofList entries).fields.filterMap fun field =>
        ((ofList entries).get? field).map fun pick => (field, pick) :=
      filterMap_choiceLike _ _
    _ = _ := by rw [h.fields_eq]; simp only [h.get?_eq]

/-- One more choice replaces the last one of the same field, if there is one. -/
theorem getThenInsert?_ofList (entries : List (String × Pick)) (field : String) (pick : Pick) :
    (ofList entries).getThenInsert? field pick =
      (entries.reverse.lookup field, ofList (entries ++ [(field, pick)])) := by
  rw [getThenInsert?_eq, get?_ofList, ofList_concat]

/-- A repeated field keeps its place and gets the pick it is given last. -/
example :
    (ofList [("orders", .part (.whole "id" .nil)), ("name", .whole), ("orders", .whole)]).toList =
      [("orders", .whole), ("name", .whole)] := by
  decide

/-! ## Equivalence field by field -/

theorem rel_cases {R : Pick → Pick → Prop} {x y : Option Pick} (h : Option.Rel R x y) :
    (x = none ∧ y = none) ∨ ∃ pick pick', x = some pick ∧ y = some pick' ∧ R pick pick' := by
  cases h with
  | none => exact .inl ⟨rfl, rfl⟩
  | some hrel => exact .inr ⟨_, _, rfl, rfl, hrel⟩

/-- Selections are equivalent when they have equivalent picks under the same fields. -/
theorem equivalent_iff_get? {s t : Selection} (hs : s.fields.Nodup) (ht : t.fields.Nodup) :
    s.equivalent t = true ↔
      ∀ field, Option.Rel Pick.Equivalent (s.get? field) (t.get? field) := by
  constructor
  · intro h field
    by_cases hfield : field ∈ s.fields
    · obtain ⟨⟨_, pick⟩, hmem, rfl⟩ := List.mem_map.mp hfield
      obtain ⟨pick', hget, hpick⟩ := (equivalent_iff.mp h).2 _ pick hmem
      rw [(get?_eq_some_iff hs).mpr hmem, hget]
      exact .some hpick
    · have hother : field ∉ t.fields := mt (fields_perm_of_equivalent hs h).mem_iff.mp hfield
      rw [get?_eq_none_iff.mpr hfield, get?_eq_none_iff.mpr hother]
      exact .none
  · intro h
    -- the comparison itself only counts the fields, so first they are shown to be the same
    have hmem : ∀ field, field ∈ s.fields ↔ field ∈ t.fields := by
      intro field
      rw [← not_iff_not, ← get?_eq_none_iff, ← get?_eq_none_iff]
      obtain ⟨hnone, hnone'⟩ | ⟨pick, pick', hget, hget', -⟩ := rel_cases (h field)
      · simp only [hnone, hnone']
      · simp only [hget, hget', reduceCtorEq]
    have hlength := ((List.perm_ext_iff_of_nodup hs ht).mpr hmem).length_eq
    refine equivalent_iff.mpr ⟨hlength, fun field pick hin => ?_⟩
    have hget := (get?_eq_some_iff hs).mpr hin
    obtain ⟨hnone, -⟩ | ⟨pick, pick', hget', hother, hpick⟩ := rel_cases (h field)
    · rw [hget] at hnone
      cases hnone
    · rw [hget] at hget'
      cases hget'
      exact ⟨pick', hother, hpick⟩

theorem Distinct.of_get? {s sub : Selection} (h : s.Distinct) {field : String}
    (hget : s.get? field = some (.part sub)) : sub.Distinct :=
  h.part ((get?_eq_some_iff h.fields_nodup).mp hget)

/-! ## Equivalence by paths -/

/-- What a path of fields can lead to. -/
inductive Destination
  | absent
  | whole
  | part
deriving DecidableEq, Repr

/-- What a path of fields leads to, going from part to part.  The empty path stays where it is, and
no path leads on from a field that is taken whole. -/
def destination : Selection → List String → Destination
  | _, [] => .part
  | s, field :: path =>
      match s.get? field with
      | none => .absent
      | some .whole => if path.isEmpty then .whole else .absent
      | some (.part sub) => sub.destination path

theorem destination_cons_of_part {s sub : Selection} {field : String}
    (h : s.get? field = some (.part sub)) (path : List String) :
    s.destination (field :: path) = sub.destination path := by
  rw [destination, h]

theorem destination_singleton_eq_absent_iff {s : Selection} {field : String} :
    s.destination [field] = .absent ↔ s.get? field = none := by
  rw [destination]
  split <;> simp_all [destination]

theorem destination_singleton_eq_whole_iff {s : Selection} {field : String} :
    s.destination [field] = .whole ↔ s.get? field = some .whole := by
  rw [destination]
  split <;> simp_all [destination]

theorem destination_singleton_eq_part_iff {s : Selection} {field : String} :
    s.destination [field] = .part ↔ ∃ sub, s.get? field = some (.part sub) := by
  rw [destination]
  split <;> simp_all [destination]

theorem destination_eq_of_equivalent {s t : Selection} (hs : s.Distinct) (ht : t.Distinct)
    (h : s.equivalent t = true) (path : List String) : s.destination path = t.destination path := by
  induction path generalizing s t with
  | nil => rfl
  | cons field path ih =>
      have hrel := (equivalent_iff_get? hs.fields_nodup ht.fields_nodup).mp h field
      obtain ⟨hnone, hnone'⟩ | ⟨pick, pick', hget, hget', hpick⟩ := rel_cases hrel
      · rw [destination, destination, hnone, hnone']
      · cases hpick with
        | whole => rw [destination, destination, hget, hget']
        | part hsub =>
            rw [destination_cons_of_part hget, destination_cons_of_part hget']
            exact ih (hs.of_get? hget) (ht.of_get? hget') hsub

/-- Paths of one field tell which fields are chosen and whether whole, and the longer ones tell the
parts apart. -/
theorem equivalent_of_destination_eq {s t : Selection} (hs : s.Distinct) (ht : t.Distinct)
    (h : ∀ path, s.destination path = t.destination path) : s.equivalent t = true := by
  induction s using parts_induction generalizing t with
  | step s ih =>
      refine (equivalent_iff_get? hs.fields_nodup ht.fields_nodup).mpr fun field => ?_
      have hfield := h [field]
      match hget : s.get? field with
      | none =>
          rw [destination_singleton_eq_absent_iff.mpr hget] at hfield
          rw [destination_singleton_eq_absent_iff.mp hfield.symm]
          exact .none
      | some .whole =>
          rw [destination_singleton_eq_whole_iff.mpr hget] at hfield
          rw [destination_singleton_eq_whole_iff.mp hfield.symm]
          exact .some .whole
      | some (.part sub) =>
          rw [destination_singleton_eq_part_iff.mpr ⟨sub, hget⟩] at hfield
          obtain ⟨sub', hget'⟩ := destination_singleton_eq_part_iff.mp hfield.symm
          have hpaths : ∀ path, sub.destination path = sub'.destination path := by
            intro path
            rw [← destination_cons_of_part hget, ← destination_cons_of_part hget']
            exact h (field :: path)
          have hmem := (get?_eq_some_iff hs.fields_nodup).mp hget
          rw [hget']
          exact .some (.part (ih field sub hmem (hs.part hmem) (ht.of_get? hget') hpaths))

theorem equivalent_iff_destination {s t : Selection} (hs : s.Distinct) (ht : t.Distinct) :
    s.equivalent t = true ↔ ∀ path, s.destination path = t.destination path :=
  ⟨destination_eq_of_equivalent hs ht, equivalent_of_destination_eq hs ht⟩

/-- On chosen selections, equivalence is an equivalence relation. -/
theorem equivalence_equivalent :
    Equivalence fun s t : {s : Selection // Chosen s} => s.1.equivalent t.1 = true := by
  have hpaths : ∀ s t : {s : Selection // Chosen s}, s.1.equivalent t.1 = true ↔
      ∀ path, s.1.destination path = t.1.destination path := fun s t =>
    equivalent_iff_destination s.2.distinct t.2.distinct
  simp only [hpaths]
  exact ⟨fun _ _ => rfl, fun h path => (h path).symm, fun h h' path => (h path).trans (h' path)⟩

/-! ## What equivalent selections share -/

theorem size_eq_of_equivalent {s t : Selection} (h : s.equivalent t = true) :
    s.size = t.size := by
  rw [equivalent, Bool.and_eq_true, beq_iff_eq] at h
  exact h.1

theorem eq_nil_of_size_eq_zero {s : Selection} (h : s.size = 0) : s = .nil :=
  toList_injective (List.eq_nil_of_length_eq_zero h)

theorem depth_le_of_equivalent {s t : Selection} (hs : s.Distinct) (h : s.equivalent t = true) :
    s.depth ≤ t.depth := by
  induction s using parts_induction generalizing t with
  | step s ih =>
      -- a part of `s` is no deeper than its counterpart, which has fewer levels than `t`
      by_cases hempty : t = .nil
      · have hsize := size_eq_of_equivalent h
        rw [hempty] at hsize
        rw [eq_nil_of_size_eq_zero hsize]
        exact Nat.zero_le _
      · obtain ⟨n, hn⟩ := exists_depth_eq_succ hempty
        have ht : t.fields.Nodup :=
          (fields_perm_of_equivalent hs.fields_nodup h).nodup_iff.mpr hs.fields_nodup
        rw [hn, depth_le_succ_iff]
        rintro ⟨field, _⟩ hmem sub rfl
        obtain ⟨pick', hget, hpick⟩ := (equivalent_iff.mp h).2 field _ hmem
        cases hpick with
        | part hsub =>
            have hle := ih field sub hmem (hs.part hmem) hsub
            have hlt := depth_lt_of_part ((get?_eq_some_iff ht).mp hget)
            omega

theorem depth_eq_of_equivalent {s t : Selection} (hs : s.Distinct) (ht : t.Distinct)
    (h : s.equivalent t = true) : s.depth = t.depth :=
  Nat.le_antisymm (depth_le_of_equivalent hs h) (depth_le_of_equivalent ht (equivalent_symm hs h))

/-! ## Choosing in another order -/

theorem nodup_fields_insert {s : Selection} (h : s.fields.Nodup) (field : String) (pick : Pick) :
    (s.insert field pick).fields.Nodup := by
  rw [fields_insert]
  split
  · exact h
  · next hnew => exact List.nodup_append_comm.mp (List.nodup_cons.mpr ⟨hnew, h⟩)

/-- Equivalent selections stay equivalent when a field is chosen in both with equivalent picks. -/
theorem equivalent_insert {s t : Selection} (hs : s.fields.Nodup) (ht : t.fields.Nodup)
    (h : s.equivalent t = true) (field : String) {pick pick' : Pick}
    (hpick : pick.Equivalent pick') :
    (s.insert field pick).equivalent (t.insert field pick') = true := by
  refine (equivalent_iff_get? (nodup_fields_insert hs field pick)
    (nodup_fields_insert ht field pick')).mpr fun key => ?_
  rw [get?_insert, get?_insert]
  by_cases hkey : key = field
  · rw [if_pos hkey, if_pos hkey]
    exact .some hpick
  · rw [if_neg hkey, if_neg hkey]
    exact (equivalent_iff_get? hs ht).mp h key

/-- The second choices are the first ones in another order.  Parts may be chosen in another order
themselves, and then any two choices of different fields that follow each other may change places.
Choices of one field never pass each other, for the last one counts. -/
inductive Reordered : List (String × Pick) → List (String × Pick) → Prop
  | nil : Reordered [] []
  | whole {entries entries'} (h : Reordered entries entries') (field : String) :
      Reordered (entries ++ [(field, .whole)]) (entries' ++ [(field, .whole)])
  | part {entries entries' inner inner'} (h : Reordered entries entries') (field : String)
      (hinner : Reordered inner inner') :
      Reordered (entries ++ [(field, .part (ofList inner))])
        (entries' ++ [(field, .part (ofList inner'))])
  | swap {entries a b} (before after : List (String × Pick))
      (h : Reordered entries (before ++ a :: b :: after)) (hne : a.1 ≠ b.1) :
      Reordered entries (before ++ b :: a :: after)

/-- Two choices of different fields may be made in either order. -/
theorem get?_swap {a b : String × Pick} (hne : a.1 ≠ b.1) (before after : List (String × Pick))
    (field : String) :
    (ofList (before ++ b :: a :: after)).get? field =
      (ofList (before ++ a :: b :: after)).get? field := by
  have hpair : [a, b].lookup field = [b, a].lookup field := by
    obtain ⟨first, pick⟩ := a
    obtain ⟨second, pick'⟩ := b
    rw [lookup_cons_ite, lookup_cons_ite, lookup_cons_ite, lookup_cons_ite]
    by_cases hfirst : first = field
    · have hsecond : second ≠ field := fun heq => hne (hfirst.trans heq.symm)
      rw [if_pos hfirst, if_neg hsecond, if_pos hfirst]
    · rw [if_neg hfirst, if_neg hfirst]
  have hlookup : ∀ x y : String × Pick, (before ++ x :: y :: after).reverse.lookup field =
      ((after.reverse.lookup field).or ([y, x].lookup field)).or
        (before.reverse.lookup field) := by
    intro x y
    rw [← List.lookup_append, ← List.lookup_append]
    simp
  rw [get?_ofList, get?_ofList, hlookup, hlookup, hpair]

/-- Choices in another order make an equivalent selection. -/
theorem Reordered.equivalent {entries entries' : List (String × Pick)}
    (h : Reordered entries entries') :
    (ofList entries).equivalent (ofList entries') = true := by
  induction h with
  | nil => rfl
  | whole _ field ih =>
      rw [ofList_concat, ofList_concat]
      exact equivalent_insert (nodup_fields_ofList _) (nodup_fields_ofList _) ih field .whole
  | part _ field _ ih ihinner =>
      rw [ofList_concat, ofList_concat]
      exact equivalent_insert (nodup_fields_ofList _) (nodup_fields_ofList _) ih field
        (.part ihinner)
  | swap _ _ _ hne ih =>
      refine (equivalent_iff_get? (nodup_fields_ofList _) (nodup_fields_ofList _)).mpr
        fun field => ?_
      rw [get?_swap hne]
      exact (equivalent_iff_get? (nodup_fields_ofList _) (nodup_fields_ofList _)).mp ih field

/-! ## The JSON form -/

/-- The members stand in the order of the fields, `true` for a field that is taken whole. -/
theorem toJson_eq_object (s : Selection) :
    s.toJson = .object (s.toList.map fun choice => (choice.1, choice.2.toJson)) := by
  rw [toJson]
  congr 1
  induction s with
  | nil => rfl
  | whole field rest ih => rw [toMembers, toList, List.map_cons, ih, Pick.toJson]
  | part field sub rest _ ih => rw [toMembers, toList, List.map_cons, ih, Pick.toJson, toJson]

theorem toMembers_injective {s t : Selection} (h : s.toMembers = t.toMembers) : s = t := by
  induction s generalizing t with
  | nil => cases t <;> simp_all [toMembers]
  | whole field rest ih =>
      cases t with
      | whole field' rest' =>
          simp only [toMembers, List.cons.injEq, Prod.mk.injEq, and_true] at h
          rw [h.1, ih h.2]
      | _ => simp [toMembers] at h
  | part field sub rest ihsub ih =>
      cases t with
      | part field' sub' rest' =>
          simp only [toMembers, List.cons.injEq, Prod.mk.injEq, Json.object.injEq] at h
          rw [h.1.1, ihsub h.1.2, ih h.2]
      | _ => simp [toMembers] at h

theorem text_toJson_eq_iff {s t : Selection} : s.toJson.text = t.toJson.text ↔ s = t := by
  constructor
  · intro h
    exact toMembers_injective (Json.object.inj (Json.text_injective h))
  · rintro rfl
    rfl

/-! ## Main statement -/

/-- Selections are ordered finite maps with extensional equality.

Choosing gives exactly the selections that repeat no field at any level.  Their fields stand in the
order of the first choices, each with the pick of its last choice, and every choice gives back the
pick that it replaces.  Two of them are equivalent if and only if every path leads to the same in
both.  Equivalence is an equivalence relation, it is kept when a field is chosen with equivalent
picks, it does not see in which order different fields are chosen at any level, and it implies equal
numbers of fields and of levels.  The JSON form has the fields in order, and its text tells any two
selections apart that differ, be it in the order of fields only. -/
theorem selections_areOrderedMaps :
    (∀ s, Chosen s ↔ s.Distinct) ∧
    (∀ entries : List (String × Pick),
      (ofList entries).toList =
        (entries.map (·.1)).eraseDups.filterMap fun field =>
          (entries.reverse.lookup field).map fun pick => (field, pick)) ∧
    (∀ (entries : List (String × Pick)) (field : String) (pick : Pick),
      (ofList entries).getThenInsert? field pick =
        (entries.reverse.lookup field, ofList (entries ++ [(field, pick)]))) ∧
    (∀ s t, Chosen s → Chosen t →
      (s.equivalent t = true ↔ ∀ path, s.destination path = t.destination path)) ∧
    Equivalence (fun s t : {s : Selection // Chosen s} => s.1.equivalent t.1 = true) ∧
    (∀ s t, Chosen s → Chosen t → s.equivalent t = true →
      ∀ (field : String) (pick pick' : Pick), pick.Equivalent pick' →
        (s.insert field pick).equivalent (t.insert field pick') = true) ∧
    (∀ entries entries', Reordered entries entries' →
      (ofList entries).equivalent (ofList entries') = true) ∧
    (∀ s t, Chosen s → Chosen t → s.equivalent t = true →
      s.size = t.size ∧ s.depth = t.depth) ∧
    (∀ s : Selection,
      s.toJson = .object (s.toList.map fun choice => (choice.1, choice.2.toJson))) ∧
    ∀ s t : Selection, s.toJson.text = t.toJson.text ↔ s = t := by
  refine ⟨fun _ => chosen_iff_distinct, toList_ofList, getThenInsert?_ofList, ?_,
    equivalence_equivalent, ?_, fun _ _ => Reordered.equivalent, ?_, toJson_eq_object,
    fun _ _ => text_toJson_eq_iff⟩
  · intro s t hs ht
    exact equivalent_iff_destination hs.distinct ht.distinct
  · intro s t hs ht h field pick pick' hpick
    exact equivalent_insert hs.distinct.fields_nodup ht.distinct.fields_nodup h field hpick
  · intro s t hs ht h
    exact ⟨size_eq_of_equivalent h, depth_eq_of_equivalent hs.distinct ht.distinct h⟩

/-- A name, and then two fields of an address. -/
def nameFirst : List (String × Pick) :=
  [("name", .whole), ("address", .part (ofList [("city", .whole), ("zip", .whole)]))]

/-- The same choices in another order at both levels. -/
def addressFirst : List (String × Pick) :=
  [("address", .part (ofList [("zip", .whole), ("city", .whole)])), ("name", .whole)]

theorem reordered_nameFirst : Reordered nameFirst addressFirst := by
  have hinner : Reordered [("city", .whole), ("zip", .whole)] [("zip", .whole), ("city", .whole)] :=
    .swap [] [] ((Reordered.nil.whole "city").whole "zip") (by decide)
  exact .swap [] [] ((Reordered.nil.whole "name").part "address" hinner) (by decide)

theorem nameFirst_areOrderedMaps :
    Chosen (ofList nameFirst) ∧ Chosen (ofList addressFirst) ∧
      Reordered nameFirst addressFirst ∧
      (ofList nameFirst).equivalent (ofList addressFirst) = true ∧
      (∀ path, (ofList nameFirst).destination path = (ofList addressFirst).destination path) ∧
      ((ofList nameFirst).insert "address" .whole).equivalent
        ((ofList addressFirst).insert "address" .whole) = true ∧
      ((ofList nameFirst).size = (ofList addressFirst).size ∧
        (ofList nameFirst).depth = (ofList addressFirst).depth) ∧
      (ofList nameFirst).toJson.text ≠ (ofList addressFirst).toJson.text := by
  obtain ⟨-, -, -, hpaths, -, hinsert, hreordered, hshared, -, htext⟩ := selections_areOrderedMaps
  have hname : Chosen (ofList nameFirst) :=
    (Chosen.nil.whole "name").part "address" ((Chosen.nil.whole "city").whole "zip")
  have haddress : Chosen (ofList addressFirst) :=
    (Chosen.nil.part "address" ((Chosen.nil.whole "zip").whole "city")).whole "name"
  have hequivalent := hreordered nameFirst addressFirst reordered_nameFirst
  exact ⟨hname, haddress, reordered_nameFirst, hequivalent,
    (hpaths _ _ hname haddress).mp hequivalent,
    hinsert _ _ hname haddress hequivalent "address" .whole .whole .whole,
    hshared _ _ hname haddress hequivalent, fun h => absurd ((htext _ _).mp h) (by decide)⟩

end Selection
end SparseFields
