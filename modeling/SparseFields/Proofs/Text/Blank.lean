import SparseFields.Text.Blank
import Mathlib.Data.List.Basic
import Mathlib.Data.List.TakeWhile

/-!
# Trimming

A trimmed text neither begins nor ends with a blank, so trimming finds the text between its blanks
and finds it again.
-/

namespace SparseFields
namespace Text

theorem dropWhile_isBlank_append {front rest : List Char}
    (hfront : ∀ c ∈ front, isBlank c = true) (hrest : ∀ c ∈ rest.head?, isBlank c = false) :
    (front ++ rest).dropWhile isBlank = rest := by
  rw [List.dropWhile_append_of_pos hfront]
  cases rest with
  | nil => rfl
  | cons c rest => rw [List.dropWhile_cons, hrest c rfl, if_neg Bool.false_ne_true]

/-- Trimming takes away the blanks around a text that has none at its ends. -/
theorem trim_append_append {front text back : List Char}
    (hfront : ∀ c ∈ front, isBlank c = true) (hback : ∀ c ∈ back, isBlank c = true)
    (hne : text ≠ []) (hhead : ∀ c ∈ text.head?, isBlank c = false)
    (hlast : ∀ c ∈ text.reverse.head?, isBlank c = false) :
    trim (front ++ text ++ back) = text := by
  have hstart : ∀ c ∈ (text ++ back).head?, isBlank c = false := by
    rw [List.head?_append_of_ne_nil _ hne]
    exact hhead
  have hreverse : ∀ c ∈ back.reverse, isBlank c = true := fun c hc =>
    hback c (List.mem_reverse.mp hc)
  rw [trim, List.append_assoc, dropWhile_isBlank_append hfront hstart, List.reverse_append,
    dropWhile_isBlank_append hreverse hlast, List.reverse_reverse]

theorem ends_not_blank {text : List Char} (h : ∀ c ∈ text, isBlank c = false) :
    (∀ c ∈ text.head?, isBlank c = false) ∧ ∀ c ∈ text.reverse.head?, isBlank c = false := by
  constructor
  · exact fun c hc => h c (List.mem_of_mem_head? hc)
  · exact fun c hc => h c (List.mem_reverse.mp (List.mem_of_mem_head? hc))

/-- There is nothing to trim from a text without blanks. -/
theorem trim_eq_self {cs : List Char} (h : ∀ c ∈ cs, isBlank c = false) : trim cs = cs := by
  by_cases hne : cs = []
  · rw [hne]
    rfl
  · obtain ⟨hhead, hlast⟩ := ends_not_blank h
    simpa using @trim_append_append [] cs [] (by simp) (by simp) hne hhead hlast

theorem isBlank_head?_dropWhile (cs : List Char) :
    ∀ c ∈ (cs.dropWhile isBlank).head?, isBlank c = false := by
  intro c hc
  have hhead := List.head?_dropWhile_not isBlank cs
  rw [hc] at hhead
  exact hhead

theorem trim_trim (cs : List Char) : trim (trim cs) = trim cs := by
  by_cases hne : trim cs = []
  · rw [hne]
    rfl
  · have hlast : ∀ c ∈ (trim cs).reverse.head?, isBlank c = false := by
      rw [trim, List.reverse_reverse]
      exact isBlank_head?_dropWhile _
    have hprefix : trim cs <+: cs.dropWhile isBlank := by
      rw [trim, ← List.reverse_suffix, List.reverse_reverse]
      exact List.dropWhile_suffix _
    have hhead : ∀ c ∈ (trim cs).head?, isBlank c = false := by
      obtain ⟨rest, hrest⟩ := hprefix
      intro c hc
      apply isBlank_head?_dropWhile cs
      rw [← hrest, List.head?_append_of_ne_nil _ hne]
      exact hc
    simpa using @trim_append_append [] _ [] (by simp) (by simp) hne hhead hlast

/-- Nothing is left of a text by trimming exactly when all of it is blank. -/
theorem trim_eq_nil_iff {cs : List Char} : trim cs = [] ↔ ∀ c ∈ cs, isBlank c = true := by
  rw [trim, List.reverse_eq_nil_iff, List.dropWhile_eq_nil_iff]
  simp only [List.mem_reverse]
  constructor
  · intro h
    rw [← List.dropWhile_eq_nil_iff]
    by_contra hne
    obtain ⟨c, rest, hcons⟩ := List.exists_cons_of_ne_nil hne
    have hblank : isBlank c = true := h c (hcons ▸ List.mem_cons_self)
    rw [isBlank_head?_dropWhile cs c (by rw [hcons]; rfl)] at hblank
    cases hblank
  · intro h c hc
    exact h c ((List.dropWhile_suffix _).subset hc)

end Text
end SparseFields
