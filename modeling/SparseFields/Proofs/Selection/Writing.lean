import SparseFields.Proofs.Selection.Legible
import SparseFields.Proofs.Text.Blank
import SparseFields.Selection.Printer

/-!
# Writing undoes reading

The main statement is that a selection is read back from its own text, in the same order, exactly
when it could have been read at all.  The printer is not compared with the scan: what is written is
derived from the grammar, with the choices of the selection as the fields that the derivation
writes.
-/

namespace SparseFields
namespace Selection

/-! ## What is written -/

/-- The text of a legible selection is derived with its choices as the written fields; after other
fields it begins with a separator. -/
theorem writes_writeFrom {s : Selection} (h : Legible s) :
    (s ≠ .nil → Writes .selection (writeFrom false s) s.toList) ∧
      ∀ cs entries, Writes .selection cs entries →
        Writes .selection (cs ++ writeFrom true s) (entries ++ s.toList) := by
  induction s with
  | nil =>
      refine ⟨fun hne => absurd rfl hne, fun cs entries hcs => ?_⟩
      simpa [writeFrom, toList] using hcs
  | whole field rest ih =>
      obtain ⟨hdistinct, hnamed, hparts⟩ := h
      have hfield : Writes .field field.toList [(field, .whole)] := by
        simpa using Writes.name hnamed.1
      have hrest := (ih ⟨hdistinct.2, hnamed.2, hparts⟩).2
      constructor
      · intro _
        simpa [writeFrom, toList] using hrest _ _ (.single hfield)
      · intro cs entries hcs
        simpa [writeFrom, toList] using hrest _ _ (hcs.separated hfield)
  | part field sub rest ihsub ih =>
      obtain ⟨hdistinct, hnamed, hparts⟩ := h
      have hinner := (ihsub ⟨hdistinct.2.1, hnamed.2.1, hparts.2.1⟩).1 hparts.1
      have hdenotes := denotes_toList hdistinct.2.1.fields_nodup
      have hfield : Writes .field (field.toList ++ '(' :: writeFrom false sub ++ [')'])
          [(field, .part sub)] := by
        simpa using Writes.group hnamed.1 hinner hdenotes
      have hrest := (ih ⟨hdistinct.2.2, hnamed.2.2, hparts.2.2⟩).2
      constructor
      · intro _
        simpa [writeFrom, toList] using hrest _ _ (.single hfield)
      · intro cs entries hcs
        simpa [writeFrom, toList] using hrest _ _ (hcs.separated hfield)

/-- A separator and a name have no parentheses. -/
theorem closesWithin_name {n : Nat} {field : String} (h : Identifier field.toList)
    (separated : Bool) :
    ClosesWithin n ((if separated then [','] else []) ++ field.toList) := by
  have hseparator : ClosesWithin n (if separated then [','] else []) := by
    refine closesWithin_of_no_parentheses fun c hc => ?_
    cases separated with
    | false => cases hc
    | true =>
        rw [List.mem_singleton.mp hc]
        decide
  exact hseparator.append (closesWithin_of_no_parentheses fun c hc =>
    (h.letters c hc).ne_parenthesis)

/-- The text of a legible selection has fewer groups open at a time than the selection has
levels. -/
theorem closesWithin_writeFrom {s : Selection} (h : Legible s) (separated : Bool) {n : Nat}
    (hdepth : s.depth ≤ n + 1) : ClosesWithin n (writeFrom separated s) := by
  induction s generalizing separated n with
  | nil => exact closesWithin_of_no_parentheses (by simp [writeFrom])
  | whole field rest ih =>
      obtain ⟨hdistinct, hnamed, hparts⟩ := h
      have hrest := ih ⟨hdistinct.2, hnamed.2, hparts⟩ true (Nat.max_le.mp hdepth).2
      exact (closesWithin_name hnamed.1 separated).append hrest
  | part field sub rest ihsub ih =>
      obtain ⟨hdistinct, hnamed, hparts⟩ := h
      obtain ⟨hsubDepth, hrestDepth⟩ := Nat.max_le.mp hdepth
      have hpos := depth_pos hparts.1
      obtain ⟨m, rfl⟩ : ∃ m, n = m + 1 := ⟨n - 1, by omega⟩
      have hsub := ihsub ⟨hdistinct.2.1, hnamed.2.1, hparts.2.1⟩ false (n := m) (by omega)
      have hrest := ih ⟨hdistinct.2.2, hnamed.2.2, hparts.2.2⟩ true hrestDepth
      have hall := ((closesWithin_name hnamed.1 separated).append hsub.group).append hrest
      simpa [writeFrom] using hall

/-! ## Writing and reading -/

/-- A legible selection within the limit is read back from its text. -/
theorem parse_write_of_legible {s : Selection} (h : Legible s) (hne : s ≠ .nil)
    (hdepth : s.depth ≤ maxNesting + 1) : parse s.write = .ok s := by
  have hwrites := (writes_writeFrom h).1 hne
  have htrim : Text.trim s.write.toList = writeFrom false s := by
    rw [write, String.toList_ofList]
    exact Text.trim_eq_self hwrites.derives.not_blank
  rw [parse_eq_ok_iff, htrim]
  exact ⟨(closesWithin_writeFrom h false hdepth).within, s.toList, hwrites,
    denotes_toList h.distinct.fields_nodup⟩

/-- A selection is read back from its text exactly when it chooses something, has no empty part,
has identifiers for fields at all levels, and has at most 65 levels.  Everything that is read is
such a selection, so that writing it loses nothing and selections that are read from any texts
differ in their own texts. -/
theorem parse_write_eq_ok_iff :
    (∀ s, s.Distinct → (parse s.write = .ok s ↔
      s ≠ .nil ∧ s.NoEmptyPart ∧ s.Named ∧ s.depth ≤ 65)) ∧
    (∀ raw s, parse raw = .ok s →
      (s ≠ .nil ∧ s.NoEmptyPart ∧ s.Named ∧ s.depth ≤ 65) ∧ parse s.write = .ok s) ∧
    ∀ raw raw' s t, parse raw = .ok s → parse raw' = .ok t → s.write = t.write → s = t := by
  have hread : ∀ raw s, parse raw = .ok s →
      s ≠ .nil ∧ s.NoEmptyPart ∧ s.Named ∧ s.depth ≤ 65 := by
    intro raw s h
    have hlegible := legible_of_parse h
    exact ⟨ne_nil_of_parse h, hlegible.noEmptyPart, hlegible.named, depth_le_of_parse h⟩
  have hback : ∀ raw s, parse raw = .ok s → parse s.write = .ok s := fun raw s h =>
    parse_write_of_legible (legible_of_parse h) (ne_nil_of_parse h) (depth_le_of_parse h)
  refine ⟨fun s hs => ⟨hread s.write s, ?_⟩, fun raw s h => ⟨hread raw s h, hback raw s h⟩, ?_⟩
  · rintro ⟨hne, hparts, hnamed, hdepth⟩
    exact parse_write_of_legible ⟨hs, hnamed, hparts⟩ hne hdepth
  · intro raw raw' s t hs ht heq
    have hsame := hback raw s hs
    rw [heq, hback raw' t ht] at hsame
    exact (Except.ok.inj hsame).symm

/-- A name, and the city of an address. -/
def nameAndCity : Selection :=
  .whole "name" (.part "address" (.whole "city" .nil) .nil)

theorem legible_nameAndCity : Legible nameAndCity := by
  have hname : ∀ field ∈ ["name", "address", "city"], Identifier field.toList := by
    have hletters : ∀ field ∈ ["name", "address", "city"],
        field.toList ≠ [] ∧ field.toList.all isNameChar = true := by decide
    intro field hfield
    obtain ⟨hne, hchars⟩ := hletters field hfield
    exact ⟨hne, fun c hc => isNameChar_iff.mp (List.all_eq_true.mp hchars c hc)⟩
  constructor
  · exact ⟨by decide, by decide, ⟨by decide, trivial⟩, trivial⟩
  · exact ⟨hname _ (by simp), hname _ (by simp), ⟨hname _ (by simp), trivial⟩, trivial⟩
  · exact ⟨nofun, trivial, trivial⟩

theorem parse_write_nameAndCity :
    nameAndCity.Distinct ∧ nameAndCity.write = "name,address(city)" ∧
      parse nameAndCity.write = .ok nameAndCity := by
  obtain ⟨hdistinct, hnamed, hparts⟩ := legible_nameAndCity
  exact ⟨hdistinct, rfl,
    (parse_write_eq_ok_iff.1 nameAndCity hdistinct).mpr ⟨nofun, hparts, hnamed, by decide⟩⟩

end Selection
end SparseFields
