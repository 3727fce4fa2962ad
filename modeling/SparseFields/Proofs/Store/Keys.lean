import SparseFields.Proofs.Json.Writing
import SparseFields.Proofs.SortedMap
import SparseFields.Store.Filter

/-!
# Keys

Stored values are compared by their texts.  Since different values have different compact texts, two
values that are not `null` share a text only when they are the same value, or when one of them is
a string that spells the other.  So a filter finds what it asks for, and what is spelled like it.
-/

namespace SparseFields

/-- A string spells a value of another kind when it is the compact text of that value. -/
def Json.Spells (s v : Json) : Prop :=
  s = .string v.text ∧ v.kind ≠ .string

/-- A stored value is found under a key: it is the same value, or one of them spells the other. -/
def Json.FoundUnder (v key : Json) : Prop :=
  v ≠ .null ∧ key ≠ .null ∧ (v = key ∨ v.Spells key ∨ key.Spells v)

theorem exists_textForm {v : Json} (h : v ≠ .null) : ∃ text, textForm v = some text := by
  cases v with
  | null => exact absurd rfl h
  | _ => exact ⟨_, rfl⟩

theorem textForm_eq_some_text {v : Json} (hnull : v ≠ .null) (hstring : v.kind ≠ .string) :
    textForm v = some v.text := by
  cases v with
  | null => exact absurd rfl hnull
  | string s => exact absurd rfl hstring
  | _ => rfl

/-- Two values share a text when they are the same value or one of them spells the other. -/
theorem textForm_eq_iff {a b : Json} (ha : a ≠ .null) (hb : b ≠ .null) :
    textForm a = textForm b ↔ a = b ∨ a.Spells b ∨ b.Spells a := by
  -- A string is compared by its content, every other value by its compact text.
  have hcase : ∀ v : Json, (∃ s, v = .string s) ∨ v.kind ≠ .string := by
    intro v
    cases v with
    | string s => exact .inl ⟨s, rfl⟩
    | _ => exact .inr nofun
  constructor
  · intro h
    rcases hcase a with ⟨s, rfl⟩ | hka
    · rcases hcase b with ⟨t, rfl⟩ | hkb
      · exact .inl (congrArg Json.string (Option.some.inj h))
      · rw [textForm_eq_some_text hb hkb] at h
        exact .inr (.inl ⟨congrArg Json.string (Option.some.inj h), hkb⟩)
    · rw [textForm_eq_some_text ha hka] at h
      rcases hcase b with ⟨t, rfl⟩ | hkb
      · exact .inr (.inr ⟨congrArg Json.string (Option.some.inj h).symm, hka⟩)
      · rw [textForm_eq_some_text hb hkb] at h
        exact .inl (Json.text_injective (Option.some.inj h))
  · rintro (rfl | ⟨rfl, hkb⟩ | ⟨rfl, hka⟩)
    · rfl
    · exact (textForm_eq_some_text hb hkb).symm
    · exact textForm_eq_some_text ha hka

namespace Filter

/-- A condition is met by the values that are found under it. -/
theorem meets_iff_foundUnder {actual : Option Json} {expected : Json} :
    meets actual expected = true ↔ ∃ v, actual = some v ∧ v.FoundUnder expected := by
  cases actual with
  | none => simp [meets]
  | some v =>
      by_cases hv : v = .null
      · simp [meets, hv, textForm, Json.FoundUnder]
      · by_cases hkey : expected = .null
        · simp [meets, hkey, textForm, Json.FoundUnder]
        · obtain ⟨text, htext⟩ := exists_textForm hv
          obtain ⟨text', htext'⟩ := exists_textForm hkey
          have hmeets : meets (some v) expected = true ↔ textForm v = textForm expected := by
            rw [meets, Option.bind_some, htext, htext', Option.some.injEq]
            exact beq_iff_eq
          rw [hmeets, textForm_eq_iff hv hkey]
          constructor
          · exact fun h => ⟨v, rfl, hv, hkey, h⟩
          · rintro ⟨_, ⟨⟩, -, -, h⟩
            exact h

theorem accepts_iff_foundUnder {f : Filter} {x : Instance} :
    f.accepts x = true ↔
      ∀ condition ∈ f.conditions, ∃ v, x.get? condition.1 = some v ∧ v.FoundUnder condition.2 := by
  rw [accepts, List.all_eq_true]
  exact forall₂_congr fun _ _ => meets_iff_foundUnder

end Filter

/-- Keys have no accidental collisions.  Two values that are not `null` have the same text exactly
when they are the same value, objects being maps in key order, or when one of them is a string that
is the compact text of the other.  So a filter accepts exactly the records that hold, in every
column it asks for, the value itself or one of these spellings. -/
theorem textForm_hasNoCollisions :
    (∀ a b : Json, a ≠ .null → b ≠ .null →
      (textForm a = textForm b ↔ a = b ∨ a.Spells b ∨ b.Spells a)) ∧
    (∀ members members' : SortedMap Json, members.Sorted → members'.Sorted →
      (Json.object members = .object members' ↔
        ∀ key, members.find? key = members'.find? key)) ∧
    ∀ (f : Filter) (x : Instance), f.accepts x = true ↔
      ∀ condition ∈ f.conditions, ∃ v, x.get? condition.1 = some v ∧ v.FoundUnder condition.2 := by
  refine ⟨fun a b => textForm_eq_iff, ?_, fun f x => Filter.accepts_iff_foundUnder⟩
  intro members members' hmembers hmembers'
  constructor
  · rintro ⟨⟩ key
    rfl
  · exact fun hfind => congrArg Json.object (hmembers.ext hmembers' hfind)

theorem sample_keys :
    (Json.string "[1,null]" ≠ .null ∧ Json.array [.int 1, .null] ≠ .null) ∧
      textForm (.string "[1,null]") = textForm (.array [.int 1, .null]) ∧
      (SortedMap.Sorted [("a", Json.int 1), ("b", .null)] ∧
        SortedMap.Sorted [("a", Json.int 1)]) ∧
      ¬(∀ key, SortedMap.find? key [("a", Json.int 1), ("b", .null)] =
        SortedMap.find? key [("a", Json.int 1)]) ∧
      (Filter.single "userId" (.string "1")).accepts ⟨"Order", [("userId", .int 1)]⟩ = true := by
  obtain ⟨hvalues, hobjects, haccepts⟩ := textForm_hasNoCollisions
  have hlist : Json.array [.int 1, .null] ≠ .null := nofun
  have hstring : Json.string "[1,null]" ≠ .null := nofun
  have hsorted : SortedMap.Sorted [("a", Json.int 1), ("b", .null)] :=
    List.pairwise_pair.mpr (by decide)
  have hsorted' : SortedMap.Sorted [("a", Json.int 1)] := List.pairwise_singleton _ _
  refine ⟨⟨hstring, hlist⟩, ?_, ⟨hsorted, hsorted'⟩, ?_, ?_⟩
  · exact (hvalues _ _ hstring hlist).mpr (.inr (.inl ⟨rfl, nofun⟩))
  · rw [← hobjects _ _ hsorted hsorted']
    nofun
  · rw [haccepts]
    refine List.forall_mem_singleton.mpr ⟨.int 1, rfl, nofun, nofun, ?_⟩
    exact .inr (.inr ⟨rfl, nofun⟩)

end SparseFields
