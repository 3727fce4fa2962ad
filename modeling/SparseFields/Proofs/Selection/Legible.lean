import SparseFields.Proofs.Selection.Comparing
import SparseFields.Proofs.Selection.Reading

/-!
# Selections as they are read

Which selections reading can give: no level repeats a field, all fields are identifiers, every part
chooses something, and no more levels are there than groups may be open.  These properties are
inherited from a derivation, choice by choice.  A text may repeat a field, and then the first group
is gone from the selection, so levels are bounded by open groups and not counted by them.
-/

namespace SparseFields
namespace Selection

/-- Every field, at every level, is an identifier. -/
def Named : Selection → Prop
  | .nil => True
  | .whole field rest => Identifier field.toList ∧ rest.Named
  | .part field sub rest => Identifier field.toList ∧ sub.Named ∧ rest.Named

/-- Every part, at every level, chooses some field. -/
def NoEmptyPart : Selection → Prop
  | .nil => True
  | .whole _ rest => rest.NoEmptyPart
  | .part _ sub rest => sub ≠ .nil ∧ sub.NoEmptyPart ∧ rest.NoEmptyPart

/-! ## Choice by choice -/

theorem named_iff {s : Selection} :
    s.Named ↔ ∀ choice ∈ s.toList, Identifier choice.1.toList ∧
      ∀ sub, choice.2 = .part sub → sub.Named := by
  induction s with
  | nil => simp [Named, toList]
  | whole f rest ih =>
      rw [Named, ih, toList, List.forall_mem_cons]
      simp
  | part f sub rest _ ih =>
      rw [Named, ih, toList, List.forall_mem_cons]
      simp [and_assoc]

theorem noEmptyPart_iff {s : Selection} :
    s.NoEmptyPart ↔ ∀ choice ∈ s.toList, ∀ sub, choice.2 = .part sub →
      sub ≠ .nil ∧ sub.NoEmptyPart := by
  induction s with
  | nil => simp [NoEmptyPart, toList]
  | whole f rest ih =>
      rw [NoEmptyPart, ih, toList, List.forall_mem_cons]
      simp
  | part f sub rest _ ih =>
      rw [NoEmptyPart, ih, toList, List.forall_mem_cons]
      simp [and_assoc]

/-! ## What is read -/

/-- A selection as it is read: no field is repeated, every field is an identifier, and every part
chooses something. -/
structure Legible (s : Selection) : Prop where
  distinct : s.Distinct
  named : s.Named
  noEmptyPart : s.NoEmptyPart

/-- A written choice: of an identifier, whole or in a legible part that chooses something. -/
structure LegibleChoice (choice : String × Pick) : Prop where
  name : Identifier choice.1.toList
  part : ∀ sub, choice.2 = .part sub → sub ≠ .nil ∧ Legible sub

theorem Denotes.legible {entries : List (String × Pick)} {s : Selection}
    (h : Denotes entries s) (hentries : ∀ entry ∈ entries, LegibleChoice entry) :
    Legible s := by
  have hchoice : ∀ choice ∈ s.toList, LegibleChoice choice :=
    fun choice hmem => hentries choice (h.mem_of_mem hmem)
  constructor
  · exact distinct_iff.mpr ⟨h.fields_nodup, fun field sub hmem =>
      ((hchoice _ hmem).part sub rfl).2.distinct⟩
  · exact named_iff.mpr fun choice hmem => ⟨(hchoice choice hmem).name, fun sub hsub =>
      ((hchoice choice hmem).part sub hsub).2.named⟩
  · exact noEmptyPart_iff.mpr fun choice hmem sub hsub =>
      ⟨((hchoice choice hmem).part sub hsub).1,
        ((hchoice choice hmem).part sub hsub).2.noEmptyPart⟩

theorem Writes.legible {phrase : Phrase} {cs : List Char} {entries : List (String × Pick)}
    (h : Writes phrase cs entries) : ∀ entry ∈ entries, LegibleChoice entry := by
  induction h with
  | single _ ih => exact ih
  | separated _ _ ih ih' =>
      intro entry hentry
      exact (List.mem_append.mp hentry).elim (ih entry) (ih' entry)
  | name hname =>
      intro entry hentry
      rw [List.mem_singleton.mp hentry]
      exact ⟨by simpa using hname, nofun⟩
  | group hname hinner hpart ih =>
      intro entry hentry
      rw [List.mem_singleton.mp hentry]
      refine ⟨by simpa using hname, fun sub hsub => ?_⟩
      cases hsub
      exact ⟨hpart.ne_nil hinner.ne_nil, hpart.legible ih⟩

/-! ## Levels -/

/-- Where no more groups are open than a limit says, no written part has more levels. -/
theorem Writes.depth_le {phrase : Phrase} {cs : List Char} {entries : List (String × Pick)}
    (h : Writes phrase cs entries) {n : Nat} (hnests : NestsWithin n cs) :
    ∀ entry ∈ entries, ∀ sub, entry.2 = .part sub → sub.depth ≤ n := by
  induction h generalizing n with
  | single _ ih => exact ih hnests
  | separated hbefore _ ih ih' =>
      have hcomma : openGroups [','] = 0 := rfl
      obtain ⟨hleft, hright⟩ :=
        (nestsWithin_append_iff hbefore.derives.balanced.closed).mp hnests
      have hfield := ((nestsWithin_append_iff hcomma).mp hright).2
      intro entry hentry
      exact (List.mem_append.mp hentry).elim (ih hleft entry) (ih' hfield entry)
  | name => simp
  | group hname hinner hpart ih =>
      intro entry hentry sub hsub
      rw [List.mem_singleton.mp hentry] at hsub
      cases hsub
      rw [List.append_assoc, nestsWithin_append_iff hname.balanced.closed] at hnests
      obtain ⟨m, rfl, hinside⟩ :=
        (nestsWithin_group_iff hinner.derives.balanced.closed).mp hnests.2
      exact depth_le_succ_iff.mpr fun choice hmem => ih hinside choice (hpart.mem_of_mem hmem)

theorem legible_of_parse {raw : String} {s : Selection} (h : parse raw = .ok s) : Legible s := by
  obtain ⟨-, entries, hwrites, hdenotes⟩ := parse_eq_ok_iff.mp h
  exact hdenotes.legible hwrites.legible

theorem ne_nil_of_parse {raw : String} {s : Selection} (h : parse raw = .ok s) : s ≠ .nil := by
  obtain ⟨-, entries, hwrites, hdenotes⟩ := parse_eq_ok_iff.mp h
  exact hdenotes.ne_nil hwrites.ne_nil

theorem depth_le_of_parse {raw : String} {s : Selection} (h : parse raw = .ok s) :
    s.depth ≤ maxNesting + 1 := by
  obtain ⟨hnests, entries, hwrites, hdenotes⟩ := parse_eq_ok_iff.mp h
  exact depth_le_succ_iff.mpr fun choice hmem =>
    hwrites.depth_le hnests choice (hdenotes.mem_of_mem hmem)

end Selection
end SparseFields
