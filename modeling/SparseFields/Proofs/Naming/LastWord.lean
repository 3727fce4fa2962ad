import SparseFields.Naming.Singular

/-!
# The last word of a key

A key falls into its last word and what stands before it: the word begins at the front,
after a `_` or with a capital, and neither of these marks stands further on.  The singular of a key
keeps what stands before, so it can be found for the last word alone, and text put in front of a key
does not matter unless it runs into that word.
-/

namespace SparseFields
namespace Naming

/-- The first character of a word is an ASCII capital. -/
def StartsCapital (word : List Char) : Prop :=
  word.head?.map Char.isUpper = some true

/-- A word and what stands before it in a key of which it is the last word. -/
structure LastWord (before word : List Char) : Prop where
  begins : before = [] ∨ before.getLast? = some '_' ∨ StartsCapital word
  noSeparator : '_' ∉ word
  noCapital : ∀ c ∈ word.tail, c.isUpper = false

variable {before word : List Char}

theorem hasBoundary_eq_false_iff {cs : List Char} :
    hasBoundary cs = false ↔ '_' ∉ cs ∧ ∀ c ∈ cs, c.isUpper = false := by
  simp only [hasBoundary, List.any_eq_false, Bool.or_eq_true, beq_iff_eq, not_or,
    Bool.not_eq_true]
  constructor
  · intro h
    exact ⟨fun hmem => (h '_' hmem).2 rfl, fun c hc => (h c hc).1⟩
  · rintro ⟨hseparator, hcapital⟩ c hc
    exact ⟨hcapital c hc, fun heq => hseparator (heq ▸ hc)⟩

namespace LastWord

/-- A key without its first character has the same last word, unless that began there. -/
theorem of_cons {c : Char} (h : LastWord (c :: before) word) : LastWord before word := by
  refine ⟨?_, h.noSeparator, h.noCapital⟩
  cases before with
  | nil => exact .inl rfl
  | cons d before =>
      rcases h.begins with hnil | hlast | hcapital
      · cases hnil
      · rw [List.getLast?_cons_cons] at hlast
        exact .inr (.inl hlast)
      · exact .inr (.inr hcapital)

/-- Text in front of a key leaves its last word if it ends in a `_`, the word has a capital, or
something stands between. -/
theorem append_left {front : List Char} (h : LastWord before word)
    (hfront : before = [] → front.getLast? = some '_' ∨ StartsCapital word) :
    LastWord (front ++ before) word := by
  refine ⟨?_, h.noSeparator, h.noCapital⟩
  rcases h.begins with rfl | hlast | hcapital
  · rw [List.append_nil]
    exact .inr (hfront rfl)
  · rw [List.getLast?_append, hlast]
    exact .inr (.inl rfl)
  · exact .inr (.inr hcapital)

theorem no_boundary_in_tail {c : Char} {rest : List Char} (h : LastWord before (c :: rest)) :
    c ≠ '_' ∧ hasBoundary rest = false := by
  obtain ⟨hc, hrest⟩ := List.forall_mem_cons.mp fun d (hd : d ∈ c :: rest) (heq : d = '_') =>
    h.noSeparator (heq ▸ hd)
  exact ⟨hc, hasBoundary_eq_false_iff.mpr ⟨fun hmem => hrest '_' hmem rfl, h.noCapital⟩⟩

/-- The only mark in a last word is a capital at its front. -/
theorem hasBoundary_iff (h : LastWord before word) :
    hasBoundary word = true ↔ StartsCapital word := by
  cases word with
  | nil => exact iff_of_false Bool.false_ne_true nofun
  | cons c rest =>
      obtain ⟨hseparator, hrest⟩ := h.no_boundary_in_tail
      rw [hasBoundary, List.any_cons, ← hasBoundary, hrest, Bool.or_false, Bool.or_eq_true,
        beq_iff_eq, or_iff_left hseparator, StartsCapital, List.head?_cons, Option.map_some,
        Option.some.injEq]

/-- A last word is found. -/
theorem splitLastWord_append (h : LastWord before word) :
    splitLastWord (before ++ word) = (before, word) := by
  induction before with
  | nil =>
      cases word with
      | nil => rfl
      | cons c rest =>
          obtain ⟨hseparator, hrest⟩ := h.no_boundary_in_tail
          rw [List.nil_append, splitLastWord, hrest, if_neg Bool.false_ne_true, if_neg hseparator]
  | cons c before ih =>
      rw [List.cons_append, splitLastWord, ih h.of_cons]
      cases hboundary : hasBoundary (before ++ word) with
      | true => rfl
      | false =>
          -- No mark stands further on, so the word begins after `c`.
          rcases h.begins with hnil | hlast | hstarts
          · cases hnil
          · cases before with
            | nil =>
                obtain rfl : c = '_' := Option.some.inj hlast
                rfl
            | cons d before =>
                have hmem : '_' ∈ d :: before := List.mem_of_getLast? hlast
                exact absurd (List.mem_append_left word hmem)
                  (hasBoundary_eq_false_iff.mp hboundary).1
          · rw [← h.hasBoundary_iff] at hstarts
            rw [hasBoundary, List.any_append, ← hasBoundary, ← hasBoundary, hstarts,
              Bool.or_true] at hboundary
            cases hboundary

/-- The singular of a key is that of its last word, after what stands before. -/
theorem singularChars_append (h : LastWord before word) :
    singularChars (before ++ word) = before ++ singularWord word := by
  rw [singularChars, h.splitLastWord_append]

end LastWord

/-- Every key has a last word. -/
theorem exists_lastWord (key : List Char) :
    ∃ before word, key = before ++ word ∧ LastWord before word := by
  induction key with
  | nil => exact ⟨[], [], rfl, .inl rfl, List.not_mem_nil, nofun⟩
  | cons c rest ih =>
      cases hboundary : hasBoundary rest with
      | false =>
          obtain ⟨hseparator, hcapital⟩ := hasBoundary_eq_false_iff.mp hboundary
          by_cases hc : c = '_'
          · subst hc
            exact ⟨['_'], rest, rfl, .inr (.inl rfl), hseparator,
              fun d hd => hcapital d (List.mem_of_mem_tail hd)⟩
          · refine ⟨[], c :: rest, rfl, .inl rfl, ?_, hcapital⟩
            rw [List.mem_cons, not_or]
            exact ⟨Ne.symm hc, hseparator⟩
      | true =>
          obtain ⟨before, word, rfl, hlast⟩ := ih
          refine ⟨[c] ++ before, word, rfl, hlast.append_left ?_⟩
          -- The mark in the rest of the key is at the front of the word.
          rintro rfl
          exact .inr (hlast.hasBoundary_iff.mp hboundary)

end Naming
end SparseFields
