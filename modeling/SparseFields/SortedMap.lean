/-!
# Maps kept in key order

A map from texts is the list of its entries in strictly increasing order of keys, compared
character by character by code point.  That is also the order of the keys' UTF-8 bytes.  The main
statement is that insertion keeps the order.
-/

namespace SparseFields

/-- The entries of a map from texts, meant to be in increasing order of keys. -/
abbrev SortedMap (α : Type) := List (String × α)

namespace SortedMap

variable {α : Type}

/-- The keys increase strictly, so that none occurs twice. -/
def Sorted (entries : SortedMap α) : Prop :=
  entries.Pairwise fun a b => a.1 < b.1

/-- Puts a value under a key; what stood there before is replaced. -/
def insert (key : String) (value : α) : SortedMap α → SortedMap α
  | [] => [(key, value)]
  | entry :: rest =>
      if key < entry.1 then (key, value) :: entry :: rest
      else if key = entry.1 then (key, value) :: rest
      else entry :: insert key value rest

/-- The value under a key. -/
def find? (key : String) : SortedMap α → Option α
  | [] => none
  | entry :: rest => if entry.1 = key then some entry.2 else find? key rest

/-- Whether a key has a value. -/
def contains (key : String) (entries : SortedMap α) : Bool :=
  (find? key entries).isSome

/-- Inserts entries one after another, so that the last one wins under a repeated key. -/
def ofList (entries : List (String × α)) : SortedMap α :=
  entries.foldl (fun done entry => insert entry.1 entry.2 done) []

/-- Every entry after an insertion is the new one or was there before. -/
theorem mem_insert {key : String} {value : α} {entries : SortedMap α} {entry : String × α}
    (h : entry ∈ insert key value entries) : entry = (key, value) ∨ entry ∈ entries := by
  induction entries with
  | nil => simpa [insert] using h
  | cons first rest ih =>
      rw [insert] at h
      split at h
      · simpa using h
      · split at h
        · rcases List.mem_cons.1 h with h | h
          · exact Or.inl h
          · exact Or.inr (List.mem_cons_of_mem _ h)
        · rcases List.mem_cons.1 h with h | h
          · exact Or.inr (by simp [h])
          · rcases ih h with h | h
            · exact Or.inl h
            · exact Or.inr (List.mem_cons_of_mem _ h)

/-- Insertion keeps the order of keys. -/
theorem sorted_insert (key : String) (value : α) {entries : SortedMap α} (h : Sorted entries) :
    Sorted (insert key value entries) := by
  induction entries with
  | nil => simp [insert, Sorted]
  | cons first rest ih =>
      obtain ⟨hfirst, hrest⟩ := List.pairwise_cons.1 h
      rw [insert]
      split
      · next hlt =>
        refine List.pairwise_cons.2 ⟨fun entry hentry => ?_, h⟩
        rcases List.mem_cons.1 hentry with rfl | hentry
        · exact hlt
        · exact String.lt_trans hlt (hfirst entry hentry)
      · split
        · next heq =>
          refine List.pairwise_cons.2 ⟨fun entry hentry => ?_, hrest⟩
          rw [heq]
          exact hfirst entry hentry
        · next hlt hne =>
          refine List.pairwise_cons.2 ⟨fun entry hentry => ?_, ih hrest⟩
          rcases mem_insert hentry with rfl | hentry
          · exact Std.lt_of_le_of_ne (String.not_lt.1 hlt) (Ne.symm hne)
          · exact hfirst entry hentry

/-- A map built by insertions is in key order. -/
theorem sorted_ofList (entries : List (String × α)) : Sorted (ofList entries) := by
  suffices h : ∀ done : SortedMap α, Sorted done →
      Sorted (entries.foldl (fun done entry => insert entry.1 entry.2 done) done) from
    h [] List.Pairwise.nil
  induction entries with
  | nil => exact fun _ h => h
  | cons entry rest ih => exact fun done h => ih _ (sorted_insert entry.1 entry.2 h)

end SortedMap
end SparseFields
