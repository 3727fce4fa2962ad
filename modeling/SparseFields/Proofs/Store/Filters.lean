import SparseFields.Proofs.SortedMap
import SparseFields.Store.Filter
import Mathlib.Data.List.Sort

/-!
# Filters as sequences of requests

A filter is made by asking for one value after another.  Its columns are the ones that were asked
for, in order and without repetition, and it holds for each the value that was asked for last.
-/

namespace SparseFields
namespace Filter

/-- The filter that is made by asking for values in columns, in this order. -/
def ofCalls (calls : List (String × Json)) : Filter :=
  calls.foldl (fun f call => f.insert call.1 call.2) empty

variable {calls calls' : List (String × Json)}

theorem conditions_ofCalls (calls : List (String × Json)) :
    (ofCalls calls).conditions = SortedMap.ofList calls := by
  induction calls using List.reverseRecOn with
  | nil => rfl
  | append_singleton calls call ih =>
      rw [SortedMap.ofList_concat, ← ih, ofCalls, List.foldl_append]
      rfl

/-- The columns of a filter increase strictly. -/
theorem columns_pairwise_lt (calls : List (String × Json)) :
    (ofCalls calls).columns.Pairwise (· < ·) := by
  rw [columns, conditions_ofCalls, List.pairwise_map]
  exact SortedMap.sorted_ofList calls

theorem mem_columns_iff {column : String} :
    column ∈ (ofCalls calls).columns ↔ column ∈ calls.map (·.1) := by
  rw [columns, conditions_ofCalls, ← SortedMap.contains_iff, SortedMap.contains_ofList_iff]

/-- Filters with the same columns list them in the same order. -/
theorem columns_eq_iff :
    (ofCalls calls).columns = (ofCalls calls').columns ↔
      ∀ column, column ∈ (ofCalls calls).columns ↔ column ∈ (ofCalls calls').columns := by
  constructor
  · intro h column
    rw [h]
  · intro h
    exact (columns_pairwise_lt calls).eq_of_mem_iff (columns_pairwise_lt calls') h

theorem lookup_of_mem_conditions {condition : String × Json}
    (h : condition ∈ (ofCalls calls).conditions) :
    calls.reverse.lookup condition.1 = some condition.2 := by
  have hnodup := (SortedMap.sorted_ofList calls).keys_nodup
  rw [conditions_ofCalls] at h
  rw [← SortedMap.find?_ofList]
  exact (SortedMap.find?_eq_some_iff hnodup).mpr h

end Filter
end SparseFields
