import SparseFields.Proofs.Selection.Entries
import SparseFields.Proofs.Selection.Nesting

/-!
# The grammar of written selections

The grammar is

    selection  := field (',' field)*
    field      := identifier ['(' selection ')']
    identifier := [A-Za-z_]+

It is stated twice: as the texts that it derives, and as the fields that a derivation writes, where
a group is given by the selection that its fields denote.  Both derive the same texts, and each
such text is balanced.
-/

namespace SparseFields
namespace Selection

/-- A letter of an identifier: `A` to `Z`, `a` to `z` or `_`. -/
def IsNameLetter (c : Char) : Prop :=
  ('A' ≤ c ∧ c ≤ 'Z') ∨ ('a' ≤ c ∧ c ≤ 'z') ∨ c = '_'

/-- An identifier is one or more letters. -/
structure Identifier (cs : List Char) : Prop where
  ne_nil : cs ≠ []
  letters : ∀ c ∈ cs, IsNameLetter c

/-- The phrases of the grammar that are made of others. -/
inductive Phrase
  | selection
  | field

/-- The texts that the grammar derives as a phrase. -/
inductive Derives : Phrase → List Char → Prop
  | single {cs} (field : Derives .field cs) : Derives .selection cs
  | separated {cs ds} (before : Derives .selection cs) (field : Derives .field ds) :
      Derives .selection (cs ++ ',' :: ds)
  | name {cs} (name : Identifier cs) : Derives .field cs
  | group {cs ds} (name : Identifier cs) (inner : Derives .selection ds) :
      Derives .field (cs ++ '(' :: ds ++ [')'])

/-- The texts that the grammar derives as a phrase, with the fields they write, in order and
repeated ones included.  A field without a group is taken whole; one with a group is taken in the
part that the fields of the group denote. -/
inductive Writes : Phrase → List Char → List (String × Pick) → Prop
  | single {cs entries} (field : Writes .field cs entries) : Writes .selection cs entries
  | separated {cs ds entries entries'} (before : Writes .selection cs entries)
      (field : Writes .field ds entries') :
      Writes .selection (cs ++ ',' :: ds) (entries ++ entries')
  | name {cs} (name : Identifier cs) : Writes .field cs [(String.ofList cs, .whole)]
  | group {cs ds entries sub} (name : Identifier cs) (inner : Writes .selection ds entries)
      (part : Denotes entries sub) :
      Writes .field (cs ++ '(' :: ds ++ [')']) [(String.ofList cs, .part sub)]

theorem Writes.derives {phrase : Phrase} {cs : List Char} {entries : List (String × Pick)}
    (h : Writes phrase cs entries) : Derives phrase cs := by
  induction h with
  | single _ ih => exact .single ih
  | separated _ _ ihbefore ihfield => exact .separated ihbefore ihfield
  | name hname => exact .name hname
  | group hname _ _ ih => exact .group hname ih

/-- Every derived text writes some fields. -/
theorem Derives.exists_writes {phrase : Phrase} {cs : List Char} (h : Derives phrase cs) :
    ∃ entries, Writes phrase cs entries := by
  induction h with
  | single _ ih =>
      obtain ⟨entries, hentries⟩ := ih
      exact ⟨entries, .single hentries⟩
  | separated _ _ ihbefore ihfield =>
      obtain ⟨entries, hentries⟩ := ihbefore
      obtain ⟨entries', hentries'⟩ := ihfield
      exact ⟨entries ++ entries', .separated hentries hentries'⟩
  | name hname => exact ⟨_, .name hname⟩
  | group hname _ ih =>
      obtain ⟨entries, hentries⟩ := ih
      exact ⟨_, .group hname hentries (denotes_ofList entries)⟩

theorem Writes.ne_nil {phrase : Phrase} {cs : List Char} {entries : List (String × Pick)}
    (h : Writes phrase cs entries) : entries ≠ [] := by
  induction h with
  | single _ ih => exact ih
  | separated _ _ ih _ => exact fun hnil => ih (List.append_eq_nil_iff.mp hnil).1
  | name => exact List.cons_ne_nil _ _
  | group => exact List.cons_ne_nil _ _

/-! ## Letters -/

theorem isNameChar_iff {c : Char} : isNameChar c = true ↔ IsNameLetter c := by
  have halpha : c.isAlpha =
      (decide ('A' ≤ c ∧ c ≤ 'Z') || (decide ('a' ≤ c) && decide (c ≤ 'z'))) := rfl
  simp only [isNameChar, halpha, IsNameLetter, Bool.or_eq_true, Bool.and_eq_true,
    decide_eq_true_eq, beq_iff_eq, or_assoc]

theorem IsNameLetter.ne_parenthesis {c : Char} (h : IsNameLetter c) : c ≠ '(' ∧ c ≠ ')' := by
  constructor
  · rintro rfl
    simp [IsNameLetter] at h
  · rintro rfl
    simp [IsNameLetter] at h

theorem IsNameLetter.ne_comma {c : Char} (h : IsNameLetter c) : c ≠ ',' := by
  rintro rfl
  simp [IsNameLetter] at h

theorem IsNameLetter.not_blank {c : Char} (h : IsNameLetter c) : Text.isBlank c = false := by
  have hval : c.toNat = c.val.toNat := rfl
  simp only [IsNameLetter, Char.le_def, UInt32.le_iff_toNat_le] at h
  simp only [Text.isBlank, Text.blankRanges]
  rcases h with h | h | rfl
  · simp at h ⊢
    omega
  · simp at h ⊢
    omega
  · decide

/-! ## Derived texts -/

theorem Identifier.balanced {cs : List Char} (h : Identifier cs) : Balanced cs :=
  balanced_of_no_parentheses fun c hc => (h.letters c hc).ne_parenthesis

theorem Derives.balanced {phrase : Phrase} {cs : List Char} (h : Derives phrase cs) :
    Balanced cs := by
  induction h with
  | single _ ih => exact ih
  | @separated cs ds _ _ ihbefore ihfield =>
      have hcomma : Balanced [','] := balanced_of_no_parentheses (by simp)
      exact ihbefore.append (hcomma.append ihfield)
  | name hname => exact hname.balanced
  | group hname _ ih =>
      rw [List.append_assoc]
      exact hname.balanced.append ih.group

/-- A derived text begins with a letter. -/
theorem Derives.head_letter {phrase : Phrase} {cs : List Char} (h : Derives phrase cs) :
    ∃ c rest, cs = c :: rest ∧ IsNameLetter c := by
  induction h with
  | single _ ih => exact ih
  | separated _ _ ihbefore _ =>
      obtain ⟨c, rest, rfl, hc⟩ := ihbefore
      exact ⟨c, _, rfl, hc⟩
  | @name cs hname =>
      obtain ⟨c, rest, rfl⟩ := List.exists_cons_of_ne_nil hname.ne_nil
      exact ⟨c, rest, rfl, hname.letters c (List.mem_cons_self)⟩
  | @group cs ds hname _ _ =>
      obtain ⟨c, rest, rfl⟩ := List.exists_cons_of_ne_nil hname.ne_nil
      exact ⟨c, _, rfl, hname.letters c (List.mem_cons_self)⟩

theorem Derives.not_blank {phrase : Phrase} {cs : List Char} (h : Derives phrase cs) :
    ∀ c ∈ cs, Text.isBlank c = false := by
  have hmark : ∀ c ∈ [',', '(', ')'], Text.isBlank c = false := by
    rw [List.forall_mem_cons, List.forall_mem_cons, List.forall_mem_singleton]
    decide
  induction h with
  | single _ ih => exact ih
  | separated _ _ ihbefore ihfield =>
      simp only [List.forall_mem_append, List.forall_mem_cons]
      exact ⟨ihbefore, hmark ',' (by simp), ihfield⟩
  | name hname => exact fun c hc => (hname.letters c hc).not_blank
  | group hname _ ih =>
      simp only [List.forall_mem_append, List.forall_mem_cons]
      exact ⟨⟨fun c hc => (hname.letters c hc).not_blank, hmark '(' (by simp), ih⟩,
        hmark ')' (by simp), by simp⟩

end Selection
end SparseFields
