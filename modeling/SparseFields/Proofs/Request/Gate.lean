import SparseFields.Proofs.Request.Query
import SparseFields.Proofs.Selection.Defects
import SparseFields.Proofs.Selection.Groups

/-!
# The request gate and the parser

A raw value passes the gate in one of three ways: a blank one counts as none whatever the method is,
another one is refused on all methods but one before it is read, and on that method it is what
reading makes of it.  The gate finds out by itself that a value is blank.  The main statement is
that reading tells the same from its error, a missing field at the first place, and that otherwise
the gate hands on what reading says, places included.
-/

namespace SparseFields

namespace Selection

/-- Only the end of a text can be a missing field at the first place, so the text is empty. -/
theorem DefectAt.eq_nil_of_missing_first {cs : List Char} {i : Nat}
    (h : DefectAt cs i ⟨.emptyField, 0⟩) : cs = [] := by
  generalize he : (⟨.emptyField, 0⟩ : SyntaxError) = e at h
  cases h with
  | char _ hdefect =>
      cases hdefect with
      | emptyField hseparated =>
          cases he
          cases hseparated
      | _ => cases he
  | finish hhere =>
      cases he
      exact List.length_eq_zero_iff.mp hhere.symm

/-- Reading misses a field at the first place exactly in a blank text. -/
theorem parse_eq_missing_first_iff {raw : String} :
    parse raw = .error ⟨.emptyField, 0⟩ ↔ Text.trim raw.toList = [] := by
  constructor
  · intro h
    cases hcheck : checkGroups 0 [] none (Text.trim raw.toList) with
    | error e =>
        -- Reading ends at the groups, and their faults are of other kinds.
        have hfault := checkGroups_eq_error_iff.mp hcheck
        rw [parse, parseChars, hcheck] at h
        cases h
        cases hfault
    | ok =>
        obtain ⟨hbalanced, hwithin⟩ := (checkGroups_start_eq_ok_iff _).mp hcheck
        have hreports := reports_parse hbalanced hwithin
        rw [h] at hreports
        obtain ⟨i, hfirst⟩ := hreports
        exact hfirst.defect.eq_nil_of_missing_first
  · intro h
    rw [parse, h]
    rfl

end Selection

/-! ## The gate -/

theorem mayCarryFields_iff {method : String} :
    mayCarryFields method = true ↔
      Text.asciiLower method.toList = Text.asciiLower "GET".toList := by
  rw [mayCarryFields, beq_iff_eq]
  rfl

/-- A blank value is the same as none. -/
theorem requestedFields_of_blank {raw : String} (h : Text.trim raw.toList = [])
    (method : String) : requestedFields method (some raw) = .ok none := by
  simp only [requestedFields, Option.map_some, h]

theorem requestedFields_eq_ok_none_iff {method raw : String} :
    requestedFields method (some raw) = .ok none ↔ Text.trim raw.toList = [] := by
  refine ⟨fun h => ?_, fun h => requestedFields_of_blank h method⟩
  by_contra hne
  rw [requestedFields_of_not_blank hne] at h
  split at h
  · cases hparse : Selection.parse raw with
    | ok s =>
        rw [hparse] at h
        cases h
    | error e =>
        rw [hparse] at h
        cases h
  · cases h

/-- On every method a value counts as none exactly when it is blank, which is when reading it misses
a field at the first place.  Any other value is refused on exactly the methods that are not `GET`
in some case, whether it can be read or not, and on `GET` the gate gives the selection or the error
that reading gives. -/
theorem requestedFields_agrees_with_parse (method raw : String) :
    (requestedFields method (some raw) = .ok none ↔
      Selection.parse raw = .error ⟨.emptyField, 0⟩) ∧
    (Selection.parse raw = .error ⟨.emptyField, 0⟩ ↔
      ∀ c ∈ raw.toList, Text.isBlank c = true) ∧
    (Selection.parse raw ≠ .error ⟨.emptyField, 0⟩ →
      (requestedFields method (some raw) = .error (.methodNotAllowed method) ↔
        Text.asciiLower method.toList ≠ Text.asciiLower "GET".toList) ∧
      (Text.asciiLower method.toList = Text.asciiLower "GET".toList →
        (∀ s, requestedFields method (some raw) = .ok (some s) ↔ Selection.parse raw = .ok s) ∧
        ∀ e, requestedFields method (some raw) = .error (.syntaxError e) ↔
          Selection.parse raw = .error e)) := by
  refine ⟨requestedFields_eq_ok_none_iff.trans Selection.parse_eq_missing_first_iff.symm,
    Selection.parse_eq_missing_first_iff.trans Text.trim_eq_nil_iff, fun hne => ?_⟩
  have hnotBlank := mt Selection.parse_eq_missing_first_iff.mpr hne
  rw [requestedFields_of_not_blank hnotBlank]
  by_cases hget : Text.asciiLower method.toList = Text.asciiLower "GET".toList
  · rw [if_pos (mayCarryFields_iff.mpr hget)]
    cases Selection.parse raw with
    | ok s =>
        refine ⟨iff_of_false nofun fun h => h hget, fun _ => ⟨fun t => ?_, fun e => ?_⟩⟩
        · simp [Except.map, Except.mapError]
        · exact iff_of_false nofun nofun
    | error e =>
        refine ⟨iff_of_false nofun fun h => h hget, fun _ => ⟨fun t => ?_, fun e' => ?_⟩⟩
        · exact iff_of_false nofun nofun
        · simp [Except.map, Except.mapError]
  · rw [if_neg (mt mayCarryFields_iff.mp hget)]
    exact ⟨iff_of_true rfl hget, fun h => absurd h hget⟩

/-- A value that cannot be read is refused unread on `POST`, and on `get` it is refused at the place
that counts from its first character that is not blank. -/
theorem requestedFields_unreadable :
    Selection.parse "  a,$ " ≠ .error ⟨.emptyField, 0⟩ ∧
      requestedFields "POST" (some "  a,$ ") = .error (.methodNotAllowed "POST") ∧
      requestedFields "get" (some "  a,$ ") =
        .error (.syntaxError ⟨.invalidCharacter '$', 2⟩) := by
  have hparse : Selection.parse "  a,$ " = .error ⟨.invalidCharacter '$', 2⟩ := by decide +kernel
  have hne : Selection.parse "  a,$ " ≠ .error ⟨.emptyField, 0⟩ := by
    rw [hparse]
    decide
  obtain ⟨hpost, -⟩ := (requestedFields_agrees_with_parse "POST" "  a,$ ").2.2 hne
  obtain ⟨-, hget⟩ := (requestedFields_agrees_with_parse "get" "  a,$ ").2.2 hne
  exact ⟨hne, hpost.mpr (by decide), ((hget (by decide)).2 _).mpr hparse⟩

end SparseFields
