import SparseFields.Sql.Query

/-!
# What stands between the double quotes of a query

A text is read from the left: a double quote opens a part of it, and the next one closes this part.
The parts of a query that are quoted in this sense are the name of the table, the columns of the
filter and the name of the id, in this order.  None of these names holds a double quote, and the
pieces between them are fixed but for the numbers of the parameters, so a reader finds exactly the
names that were put in.
-/

namespace SparseFields
namespace Sql

/-- The parts of a text between double quotes.  Outside of them nothing is `opened`, inside it is
what has been read since the quote.  A text that ends inside of one has no such parts. -/
def quotedParts (opened : Option (List Char)) : List Char → Option (List String)
  | [] => if opened.isSome then none else some []
  | c :: rest =>
      match opened with
      | none => quotedParts (if c = '"' then some [] else none) rest
      | some part =>
          if c = '"' then (quotedParts none rest).map (String.ofList part :: ·)
          else quotedParts (some (part ++ [c])) rest

variable {name : String} {plain rest : List Char}

theorem quotedParts_append (h : '"' ∉ plain) :
    quotedParts none (plain ++ rest) = quotedParts none rest := by
  induction plain with
  | nil => rfl
  | cons c plain ih =>
      have hc : c ≠ '"' := (List.ne_of_not_mem_cons h).symm
      rw [List.cons_append, quotedParts, if_neg hc]
      exact ih (List.not_mem_of_not_mem_cons h)

theorem quotedParts_close {part : List Char} (h : '"' ∉ plain) :
    quotedParts (some part) (plain ++ '"' :: rest) =
      (quotedParts none rest).map (String.ofList (part ++ plain) :: ·) := by
  induction plain generalizing part with
  | nil => simp [quotedParts]
  | cons c plain ih =>
      have hc : c ≠ '"' := (List.ne_of_not_mem_cons h).symm
      rw [List.cons_append, quotedParts, if_neg hc, ih (List.not_mem_of_not_mem_cons h),
        List.append_assoc]
      rfl

theorem quotedParts_quoted (h : '"' ∉ name.toList) :
    quotedParts none ((quoted name).toList ++ rest) = (quotedParts none rest).map (name :: ·) := by
  have hquoted : (quoted name).toList ++ rest = '"' :: (name.toList ++ '"' :: rest) := by
    simp [quoted]
  rw [hquoted, quotedParts, if_pos rfl, quotedParts_close h, List.nil_append, String.ofList_toList]

/-- Every double quote of a text that is read opens or closes one of the parts. -/
theorem count_of_quotedParts {opened : Option (List Char)} {cs : List Char} {parts : List String}
    (h : quotedParts opened cs = some parts) :
    cs.count '"' + (if opened.isSome then 1 else 0) = 2 * parts.length := by
  induction cs generalizing opened parts with
  | nil =>
      rw [quotedParts] at h
      split at h
      · cases h
      · next hclosed =>
        cases h
        rw [if_neg hclosed]
        rfl
  | cons c cs ih =>
      rw [List.count_cons]
      cases opened with
      | none =>
          rw [quotedParts] at h
          have hcount := ih h
          by_cases hc : c = '"'
          · simp [hc] at hcount ⊢
            omega
          · simpa [hc] using hcount
      | some part =>
          rw [quotedParts] at h
          by_cases hc : c = '"'
          · rw [if_pos hc] at h
            obtain ⟨later, hlater, rfl⟩ := Option.map_eq_some_iff.mp h
            have hcount := ih hlater
            simp [hc] at hcount ⊢
            omega
          · rw [if_neg hc] at h
            have hcount := ih h
            simp [hc] at hcount ⊢
            omega

/-! ## The pieces of a query -/

theorem quote_notMem_of_isIdentifier (h : isIdentifier name = true) : '"' ∉ name.toList := by
  rw [isIdentifier] at h
  intro hmem
  split at h
  · next hnil =>
    simp [hnil] at hmem
  · next first rest hcons =>
    rw [hcons] at hmem
    obtain ⟨hfirst, hrest⟩ := Bool.and_eq_true_iff.mp h
    rcases List.mem_cons.mp hmem with rfl | hmem
    · exact absurd hfirst (by decide)
    · exact absurd (List.all_eq_true.mp hrest _ hmem) (by decide)

theorem quote_notMem_toString (n : Nat) : '"' ∉ (toString n).toList := by
  intro hmem
  have hdigit : ('"').isDigit = true := by
    apply Nat.isDigit_of_mem_toDigits (b := 10) (n := n) (by decide) (by decide)
    simpa using hmem
  exact absurd hdigit (by decide)

/-- The condition that a column has the text bound to the parameter of a number. -/
def comparison (place : String × Nat) : String :=
  "t." ++ quoted place.1 ++ "::text = $" ++ toString place.2

theorem conditions_eq_map (index : Nat) (columns : List String) :
    conditions index columns = (columns.zipIdx index).map comparison := by
  induction columns generalizing index with
  | nil => rfl
  | cons column columns ih =>
      rw [conditions, ih]
      rfl

theorem quotedParts_comparison {place : String × Nat} (h : '"' ∉ place.1.toList) :
    quotedParts none ((comparison place).toList ++ rest) =
      (quotedParts none rest).map (place.1 :: ·) := by
  have hnumber := quote_notMem_toString place.2
  rw [comparison, String.toList_append, String.toList_append, String.toList_append,
    List.append_assoc, List.append_assoc, List.append_assoc, quotedParts_append (by decide),
    quotedParts_quoted h, quotedParts_append (by decide), quotedParts_append hnumber]

theorem quotedParts_comparisons {places : List (String × Nat)}
    (h : ∀ place ∈ places, '"' ∉ place.1.toList) :
    quotedParts none ((" AND ".intercalate (places.map comparison)).toList ++ rest) =
      (quotedParts none rest).map (places.map (·.1) ++ ·) := by
  induction places with
  | nil => simp
  | cons place places ih =>
      have hplace := h place List.mem_cons_self
      have ih := ih fun other hother => h other (List.mem_cons_of_mem _ hother)
      by_cases hlast : places = []
      · rw [hlast, List.map_cons, List.map_nil, String.intercalate_singleton,
          quotedParts_comparison hplace]
        rfl
      · have hne : places.map comparison ≠ [] := fun heq => hlast (List.map_eq_nil_iff.mp heq)
        rw [List.map_cons, String.intercalate_cons_of_ne_nil hne, String.toList_append,
          String.toList_append, List.append_assoc, List.append_assoc,
          quotedParts_comparison hplace, quotedParts_append (by decide), ih, Option.map_map]
        rfl

theorem quotedParts_whereClause {columns : List String}
    (h : ∀ column ∈ columns, '"' ∉ column.toList) :
    quotedParts none ((whereClause columns).toList ++ rest) =
      (quotedParts none rest).map (columns ++ ·) := by
  rw [whereClause]
  split
  · next hempty =>
    rw [List.isEmpty_iff.mp hempty]
    simp
  · have hplaces : ∀ place ∈ columns.zipIdx 1, '"' ∉ place.1.toList := fun place hplace =>
      h place.1 (List.fst_mem_of_mem_zipIdx hplace)
    rw [conditions_eq_map, String.toList_append, List.append_assoc, quotedParts_append (by decide),
      quotedParts_comparisons hplaces, List.zipIdx_map_fst]

end Sql
end SparseFields
