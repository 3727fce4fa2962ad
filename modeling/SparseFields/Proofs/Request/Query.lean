import SparseFields.Proofs.Text.Blank
import SparseFields.Request.Query

/-!
# Queries

Splitting at a separator undoes joining with it, as long as no piece has the separator in it.  So a
query gives one value for the selection for each of its pieces that has the name.  Of these values
there must not be two, and a single one is read as a selection unless it is blank.
-/

namespace SparseFields
namespace Query

/-! ## Splitting -/

theorem splitAt_of_not_mem {separator : Char} {piece : List Char} (h : separator ∉ piece) :
    splitAt separator piece = [piece] := by
  induction piece with
  | nil => rfl
  | cons c piece ih =>
      obtain ⟨hc, hpiece⟩ := not_or.mp (mt List.mem_cons.mpr h)
      rw [splitAt, if_neg (Ne.symm hc), ih hpiece]

theorem splitAt_append_cons {separator : Char} {piece : List Char} (h : separator ∉ piece)
    (rest : List Char) :
    splitAt separator (piece ++ separator :: rest) = piece :: splitAt separator rest := by
  induction piece with
  | nil => rw [List.nil_append, splitAt, if_pos rfl]
  | cons c piece ih =>
      obtain ⟨hc, hpiece⟩ := not_or.mp (mt List.mem_cons.mpr h)
      rw [List.cons_append, splitAt, if_neg (Ne.symm hc), ih hpiece]

theorem splitAt_intercalate {separator : Char} {pieces : List (List Char)} (hne : pieces ≠ [])
    (h : ∀ piece ∈ pieces, separator ∉ piece) :
    splitAt separator (List.intercalate [separator] pieces) = pieces := by
  induction pieces with
  | nil => exact absurd rfl hne
  | cons piece pieces ih =>
      obtain ⟨hpiece, hpieces⟩ := List.forall_mem_cons.mp h
      cases pieces with
      | nil => simpa using splitAt_of_not_mem hpiece
      | cons next others =>
          rw [List.intercalate_cons_cons, List.append_assoc, List.singleton_append,
            splitAt_append_cons hpiece, ih (List.cons_ne_nil _ _) hpieces]

end Query

/-! ## What a value asks for -/

/-- A query gives a value for the selection that is not blank. -/
def GivesFields (query : List Char) (raw : String) : Prop :=
  raw ∈ fieldsValues query ∧ Text.trim raw.toList ≠ []

theorem queriedFields_of_repeated {query : List Char} (h : 2 ≤ (fieldsValues query).length)
    (method : String) : queriedFields method query = .error .repeated := by
  unfold queriedFields
  match hvalues : fieldsValues query with
  | [] => rw [hvalues] at h; contradiction
  | [_] => rw [hvalues] at h; contradiction
  | _ :: _ :: _ => rfl

/-- A value that is not blank is read on the one method that may carry it. -/
theorem requestedFields_of_not_blank {raw : String} (h : Text.trim raw.toList ≠ [])
    (method : String) :
    requestedFields method (some raw) =
      if mayCarryFields method then (Selection.parse raw).map some |>.mapError .syntaxError
      else .error (.methodNotAllowed method) := by
  obtain ⟨c, rest, hcons⟩ := List.exists_cons_of_ne_nil h
  have hparse : Selection.parse (String.ofList (c :: rest)) = Selection.parse raw := by
    rw [Selection.parse, Selection.parse, ← hcons, String.toList_ofList, Text.trim_trim]
  simp only [requestedFields, Option.map_some, hcons, hparse]
  cases Selection.parse raw with
  | ok s => rfl
  | error e => rfl

theorem fieldsValues_of_givesFields {query : List Char} {raw : String}
    (hone : ¬ 2 ≤ (fieldsValues query).length) (h : GivesFields query raw) :
    fieldsValues query = [raw] := by
  obtain ⟨hmem, -⟩ := h
  match hvalues : fieldsValues query with
  | [] => rw [hvalues] at hmem; cases hmem
  | [_] => rw [hvalues] at hmem; rw [List.mem_singleton.mp hmem]
  | _ :: _ :: _ => exact absurd (by simp [hvalues]) hone

theorem queriedFields_of_givesFields {query : List Char} {raw : String}
    (hone : ¬ 2 ≤ (fieldsValues query).length) (h : GivesFields query raw) (method : String) :
    queriedFields method query =
      if mayCarryFields method then
        (Selection.parse raw).map some |>.mapError fun e => .refused (.syntaxError e)
      else .error (.refused (.methodNotAllowed method)) := by
  rw [queriedFields, fieldsValues_of_givesFields hone h]
  simp only [List.head?_cons, requestedFields_of_not_blank h.2]
  by_cases hmethod : mayCarryFields method = true
  · simp only [if_pos hmethod]
    cases Selection.parse raw with
    | ok s => rfl
    | error e => rfl
  · simp only [if_neg hmethod]

/-- Without a value, or with a blank one, all is shown on any method. -/
theorem queriedFields_of_not_givesFields {query : List Char}
    (hone : ¬ 2 ≤ (fieldsValues query).length) (h : ∀ raw, ¬ GivesFields query raw)
    (method : String) : queriedFields method query = .ok none := by
  unfold queriedFields
  match hvalues : fieldsValues query with
  | [] => rfl
  | [raw] =>
      have hblank : Text.trim raw.toList = [] := by
        by_contra hne
        exact h raw ⟨hvalues ▸ List.mem_singleton_self raw, hne⟩
      simp only [List.head?_cons, requestedFields, Option.map_some, hblank]
  | _ :: _ :: _ => exact absurd (by simp [hvalues]) hone

namespace Query

/-! ## Queries of pieces -/

theorem pair_append_cons {name : List Char} (h : '=' ∉ name) (value : List Char) :
    pair (name ++ '=' :: value) = (String.ofList (decode name), String.ofList (decode value)) := by
  have hname : ∀ c ∈ name, (c != '=') = true := by
    intro c hc
    exact bne_iff_ne.mpr fun heq => h (heq ▸ hc)
  rw [pair, List.takeWhile_append_of_pos hname, List.dropWhile_append_of_pos hname]
  simp

/-- The query of pieces. -/
def join (pieces : List (List Char)) : List Char :=
  List.intercalate ['&'] pieces

/-- Whether a piece gives a value for the selection. -/
def isForFields (piece : List Char) : Bool :=
  (pair piece).1 == fieldsKey

theorem fieldsValues_join {pieces : List (List Char)} (h : ∀ piece ∈ pieces, '&' ∉ piece) :
    fieldsValues (join pieces) = (pieces.filter isForFields).map fun piece => (pair piece).2 := by
  have hsplit : (splitAt '&' (join pieces)).filter isForFields = pieces.filter isForFields := by
    cases pieces with
    | nil => decide
    | cons piece pieces => rw [join, splitAt_intercalate (List.cons_ne_nil _ _) h]
  -- An empty piece has an empty name.
  have hempty : ∀ piece : List Char, (isForFields piece && !piece.isEmpty) = isForFields piece := by
    intro piece
    cases piece with
    | nil => decide
    | cons c piece => exact Bool.and_true _
  have hfilter : ((splitAt '&' (join pieces)).filter fun piece => !piece.isEmpty).filter
      isForFields = pieces.filter isForFields := by
    rw [List.filter_filter, ← hsplit]
    exact List.filter_congr fun piece _ => hempty piece
  rw [fieldsValues, pairs, List.filter_map, List.map_map, ← hfilter]
  rfl

/-- Where one piece gives a value, this is the value. -/
theorem fieldsValues_join_of_others {before after : List (List Char)} {piece : List Char}
    (hmarks : ∀ p ∈ before ++ piece :: after, '&' ∉ p)
    (hothers : ∀ p ∈ before ++ after, isForFields p = false) (hpiece : isForFields piece = true) :
    fieldsValues (join (before ++ piece :: after)) = [(pair piece).2] := by
  have hnone : ∀ pieces : List (List Char), (∀ p ∈ pieces, isForFields p = false) →
      pieces.filter isForFields = [] := fun pieces hpieces =>
    List.filter_eq_nil_iff.mpr fun p hp => Bool.not_eq_true _ ▸ hpieces p hp
  obtain ⟨hbefore, hafter⟩ := List.forall_mem_append.mp hothers
  rw [fieldsValues_join hmarks, List.filter_append, List.filter_cons_of_pos hpiece,
    hnone before hbefore, hnone after hafter]
  rfl

/-- Two pieces that give a value make the request ill-formed, wherever they stand. -/
theorem queriedFields_join_of_two {front back : List (List Char)} {piece extra : List Char}
    (hmarks : ∀ p ∈ front ++ extra :: back, '&' ∉ p) (hmem : piece ∈ front ++ back)
    (hpiece : isForFields piece = true) (hextra : isForFields extra = true) (method : String) :
    queriedFields method (join (front ++ extra :: back)) = .error .repeated := by
  apply queriedFields_of_repeated
  have hone : 0 < ((front ++ back).filter isForFields).length :=
    List.length_pos_of_mem (List.mem_filter.mpr ⟨hmem, hpiece⟩)
  rw [fieldsValues_join hmarks, List.length_map, List.filter_append, List.filter_cons_of_pos hextra]
  rw [List.filter_append] at hone
  simp only [List.length_append, List.length_cons] at hone ⊢
  omega

end Query
end SparseFields
