import SparseFields.Proofs.Json.Equality
import SparseFields.Proofs.Store.Keys
import SparseFields.Store.Memory

/-!
# Equal filters

Filters are equal by the values they ask for, but records are found by the texts of these values,
and the two zeros among the doubles are equal while their texts are not.  So equal filters accept
the same records when their zeros have the same signs, and also when they ask for a `null`, which no
record holds.  In every other case a record tells them apart.  Whether a query is made to fail does
not depend on the signs.
-/

namespace SparseFields

theorem Json.unsignZeros_eq_null_iff {v : Json} : v.unsignZeros = .null ↔ v = .null := by
  cases v <;> simp [unsignZeros]

/-- A value is found under an equal one only if it is the same. -/
theorem Json.FoundUnder.eq_of_unsignZeros {v key : Json} (h : v.FoundUnder key)
    (hunsign : v.unsignZeros = key.unsignZeros) : v = key := by
  have hunsigned : ∀ v : Json, v.unsignZeros.kind = v.kind := by
    intro v
    cases v <;> rfl
  have hkind : v.kind = key.kind := by
    rw [← hunsigned v, hunsign, hunsigned key]
  obtain ⟨-, -, heq | ⟨rfl, hother⟩ | ⟨rfl, hother⟩⟩ := h
  · exact heq
  · exact absurd hkind.symm hother
  · exact absurd hkind hother

namespace Filter

/-- The signs of the zeros among the doubles that a filter asks for, in the order of its columns. -/
def zeroSigns (f : Filter) : List Bool :=
  Json.zeroSignsMembers f.conditions

/-- A filter asks for a `null` in some column. -/
def AsksForNull (f : Filter) : Prop :=
  ∃ condition ∈ f.conditions, condition.2 = .null

variable {f g : Filter}

theorem same_iff :
    f.same g = true ↔ Json.unsignMembers f.conditions = Json.unsignMembers g.conditions :=
  Json.sameMembers_iff

theorem same_symm (h : f.same g = true) : g.same f = true :=
  same_iff.mpr (same_iff.mp h).symm

theorem eq_of_zeroSigns (hsame : f.same g = true) (h : f.zeroSigns = g.zeroSigns) : f = g := by
  have hsigns : f.zeroSigns ++ [] = g.zeroSigns ++ [] := congrArg (· ++ []) h
  exact congrArg Filter.mk (Json.zeroSignsMembers_append_inj (same_iff.mp hsame) hsigns).1

/-! ## Conditions -/

theorem columns_eq_of_same (hsame : f.same g = true) : f.columns = g.columns := by
  have heq := congrArg (List.map (·.1)) (same_iff.mp hsame)
  rw [Json.unsignMembers_eq_map, Json.unsignMembers_eq_map, List.map_map, List.map_map] at heq
  exact heq

/-- An equal filter asks for an equal value in the same column. -/
theorem exists_condition (hsame : f.same g = true) {condition : String × Json}
    (h : condition ∈ g.conditions) :
    ∃ value, (condition.1, value) ∈ f.conditions ∧
      value.unsignZeros = condition.2.unsignZeros := by
  have heq := same_iff.mp hsame
  rw [Json.unsignMembers_eq_map, Json.unsignMembers_eq_map] at heq
  have hmem := List.mem_map_of_mem (f := fun member => (member.1, member.2.unsignZeros)) h
  rw [← heq] at hmem
  obtain ⟨⟨column, value⟩, hvalue, hpair⟩ := List.mem_map.mp hmem
  obtain ⟨rfl, hunsign⟩ := Prod.mk.inj hpair
  exact ⟨value, hvalue, hunsign⟩

theorem AsksForNull.of_same (h : f.AsksForNull) (hsame : f.same g = true) : g.AsksForNull := by
  obtain ⟨condition, hmem, hnull⟩ := h
  obtain ⟨value, hvalue, hunsign⟩ := exists_condition (same_symm hsame) hmem
  refine ⟨_, hvalue, ?_⟩
  rw [hnull] at hunsign
  exact Json.unsignZeros_eq_null_iff.mp hunsign

theorem sorted_of_same (hsame : f.same g = true) (h : f.conditions.Sorted) :
    g.conditions.Sorted := by
  have hcolumns : f.conditions.map Prod.fst = g.conditions.map Prod.fst :=
    columns_eq_of_same hsame
  rw [SortedMap.Sorted, ← List.pairwise_map (f := Prod.fst) (R := (· < ·))] at h ⊢
  rwa [← hcolumns]

/-! ## Accepted records -/

theorem AsksForNull.accepts_eq_false (h : f.AsksForNull) (x : Instance) : f.accepts x = false := by
  rw [Bool.eq_false_iff]
  intro haccepts
  obtain ⟨condition, hmem, hnull⟩ := h
  obtain ⟨-, -, -, hkey, -⟩ := accepts_iff_foundUnder.mp haccepts condition hmem
  exact hkey hnull

/-- The record that holds just what a filter asks for is accepted by it. -/
theorem accepts_conditions (hsorted : f.conditions.Sorted) (hnull : ¬f.AsksForNull)
    (entity : String) : f.accepts ⟨entity, f.conditions⟩ = true := by
  rw [accepts_iff_foundUnder]
  intro condition hmem
  have hfind := (SortedMap.find?_eq_some_iff hsorted.keys_nodup).mpr hmem
  have hvalue : condition.2 ≠ .null := fun h => hnull ⟨condition, hmem, h⟩
  exact ⟨condition.2, hfind, hvalue, hvalue, .inl rfl⟩

/-- An equal filter that accepts this record is the same filter. -/
theorem eq_of_accepts_conditions (hsorted : f.conditions.Sorted) (hsame : f.same g = true)
    {entity : String} (h : g.accepts ⟨entity, f.conditions⟩ = true) : f = g := by
  have hsubset : g.conditions ⊆ f.conditions := by
    intro condition hmem
    obtain ⟨v, hget, hfound⟩ := accepts_iff_foundUnder.mp h condition hmem
    obtain ⟨value, hvalue, hunsign⟩ := exists_condition hsame hmem
    have hfind := (SortedMap.find?_eq_some_iff hsorted.keys_nodup).mpr hvalue
    obtain rfl : v = value := Option.some.inj (hget.symm.trans hfind)
    rw [hfound.eq_of_unsignZeros hunsign] at hvalue
    exact hvalue
  have hsorted' := sorted_of_same hsame hsorted
  have hlength : f.conditions.length ≤ g.conditions.length := by
    have hcount := congrArg List.length (columns_eq_of_same hsame)
    rw [columns, columns, List.length_map, List.length_map] at hcount
    exact hcount.le
  have hnodup : g.conditions.Nodup := .of_map _ hsorted'.keys_nodup
  have hperm := (List.subperm_of_subset hnodup hsubset).perm_of_length_le hlength
  exact congrArg Filter.mk (hsorted'.eq_of_perm hsorted hperm).symm

theorem accepts_eq_iff_of_same (hsorted : f.conditions.Sorted) (hsame : f.same g = true) :
    (∀ x, f.accepts x = g.accepts x) ↔ f.zeroSigns = g.zeroSigns ∨ f.AsksForNull := by
  constructor
  · intro h
    by_cases hnull : f.AsksForNull
    · exact .inr hnull
    · have hown := accepts_conditions hsorted hnull ""
      rw [h] at hown
      exact .inl (congrArg zeroSigns (eq_of_accepts_conditions hsorted hsame hown))
  · rintro (hsigns | hnull) x
    · rw [eq_of_zeroSigns hsame hsigns]
    · rw [hnull.accepts_eq_false, (hnull.of_same hsame).accepts_eq_false]

end Filter

namespace Store

variable {f g : Filter}

/-- A query is made to fail for all equal filters or for none. -/
theorem fails_eq_of_same (hsame : f.same g = true) (store : Store) (entity : String) :
    store.fails entity f = store.fails entity g := by
  have hfailure : ∀ failing : Filter, failing.same f = failing.same g := by
    intro failing
    rw [Bool.eq_iff_iff, Filter.same_iff, Filter.same_iff, Filter.same_iff.mp hsame]
  rw [fails, fails]
  simp only [hfailure]

/-- Equal filters find the same records in every store when they accept the same ones. -/
theorem findMany_eq_iff_of_same (hsame : f.same g = true) :
    (∀ store entity, findMany store entity f = findMany store entity g) ↔
      ∀ x, f.accepts x = g.accepts x := by
  constructor
  · intro h x
    -- A store that holds the record and nothing else.
    have hone : ∀ f : Filter,
        findMany ⟨[(x.entity, .plain x.entity [])], [(x.entity, [x])], []⟩ x.entity f =
          .ok ([x].filter f.accepts) := by
      intro f
      simp [findMany, fails, SortedMap.find?]
    have hfilter : [x].filter f.accepts = [x].filter g.accepts := by
      have heq := h ⟨[(x.entity, .plain x.entity [])], [(x.entity, [x])], []⟩ x.entity
      rw [hone, hone] at heq
      exact Except.ok.inj heq
    have hmem : ∀ f : Filter, f.accepts x = true ↔ x ∈ [x].filter f.accepts := by
      intro f
      simp [List.mem_filter]
    rw [Bool.eq_iff_iff, hmem f, hmem g, hfilter]
  · intro h store entity
    have haccepts : f.accepts = g.accepts := funext h
    rw [findMany, findMany, fails_eq_of_same hsame, haccepts]

end Store

namespace Filter

/-- Equal filters are made to fail together, and they find the same records in every store exactly
when the zeros they ask for, at every depth, have the same signs or when they ask for a `null`. -/
theorem same_selectsAlike {f g : Filter} (hsorted : f.conditions.Sorted)
    (hsame : f.same g = true) :
    (∀ store entity, Store.fails store entity f = Store.fails store entity g) ∧
    ((∀ x, f.accepts x = g.accepts x) ↔ f.zeroSigns = g.zeroSigns ∨ f.AsksForNull) ∧
    ((∀ store entity, Store.findMany store entity f = Store.findMany store entity g ∧
        Store.findOne store entity f = Store.findOne store entity g) ↔
      f.zeroSigns = g.zeroSigns ∨ f.AsksForNull) := by
  have haccepts := accepts_eq_iff_of_same hsorted hsame
  refine ⟨Store.fails_eq_of_same hsame, haccepts, ?_⟩
  rw [← haccepts, ← Store.findMany_eq_iff_of_same hsame]
  constructor
  · exact fun h store entity => (h store entity).1
  · intro h store entity
    have heq := h store entity
    refine ⟨heq, ?_⟩
    rw [Store.findOne, Store.findOne, heq]

/-- The number zero with a sign, as a double. -/
def zeroKey (negative : Bool) : Json :=
  .number (.double (.zero negative))

theorem sample_zeros :
    SortedMap.Sorted [("deletedAt", .null), ("id", zeroKey false)] ∧
      Filter.same ⟨[("deletedAt", .null), ("id", zeroKey false)]⟩
        ⟨[("deletedAt", .null), ("id", zeroKey true)]⟩ = true ∧
      ∀ x, Filter.accepts ⟨[("deletedAt", .null), ("id", zeroKey false)]⟩ x =
        Filter.accepts ⟨[("deletedAt", .null), ("id", zeroKey true)]⟩ x := by
  have hsorted : SortedMap.Sorted [("deletedAt", .null), ("id", zeroKey false)] :=
    List.pairwise_pair.mpr (by decide)
  have hsame : Filter.same ⟨[("deletedAt", .null), ("id", zeroKey false)]⟩
      ⟨[("deletedAt", .null), ("id", zeroKey true)]⟩ = true := by decide
  obtain ⟨-, haccepts, -⟩ := same_selectsAlike hsorted hsame
  exact ⟨hsorted, hsame, haccepts.mpr (.inr ⟨_, .head _, rfl⟩)⟩

/-- Two equal filters, a record that one of them accepts, and a store that holds it. -/
theorem zeros_selectDifferently :
    (single "id" (zeroKey false)).same (single "id" (zeroKey true)) = true ∧
      (single "id" (zeroKey false)).accepts ⟨"A", [("id", zeroKey false)]⟩ = true ∧
      (single "id" (zeroKey true)).accepts ⟨"A", [("id", zeroKey false)]⟩ = false ∧
      Store.findMany
        ⟨[("A", .plain "A" [])], [("A", [⟨"A", [("id", zeroKey false)]⟩])], []⟩ "A"
        (single "id" (zeroKey false)) = .ok [⟨"A", [("id", zeroKey false)]⟩] ∧
      Store.findMany
        ⟨[("A", .plain "A" [])], [("A", [⟨"A", [("id", zeroKey false)]⟩])], []⟩ "A"
        (single "id" (zeroKey true)) = .ok [] := by
  refine ⟨by decide, by decide, by decide, ?_, ?_⟩
  · rfl
  · rfl

end Filter
end SparseFields
