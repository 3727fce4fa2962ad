import SparseFields.Proofs.Sql.Quoting
import SparseFields.Proofs.Store.Filters
import SparseFields.Proofs.Text.ByteOrder
import SparseFields.Sql.Catalog

/-!
# Queries and what is bound to their parameters

A query is made of the names in a descriptor and the columns of a filter, all of them plain
identifiers, and of nothing else that varies.  It can be read back: two queries are the same text
only if they are about the same table, id and columns.  The values of the filter are bound to the
parameters in the order in which the columns are numbered.
-/

namespace SparseFields
namespace Sql

variable {d d' : Descriptor} {f f' : Filter} {firstOnly firstOnly' : Bool} {text text' : String}

/-! ## Columns that are refused -/

/-- A column that is no plain identifier, and comes before all others of which this is true in the
order of their bytes. -/
structure IsFirstInvalid (columns : List String) (column : String) : Prop where
  mem : column ∈ columns
  invalid : isIdentifier column = false
  first : ∀ other ∈ columns, isIdentifier other = false → other ≠ column →
    Text.encodeUtf8 column.toList < Text.encodeUtf8 other.toList

theorem isFirstInvalid_of_find? {columns : List String} {column : String}
    (hlt : columns.Pairwise (· < ·))
    (h : (columns.find? fun column => !isIdentifier column) = some column) :
    IsFirstInvalid columns column := by
  obtain ⟨hinvalid, before, after, rfl, hbefore⟩ := List.find?_eq_some_iff_append.mp h
  have hafter := (List.pairwise_cons.mp (List.pairwise_append.mp hlt).2.1).1
  constructor
  · exact List.mem_append_right before List.mem_cons_self
  · simpa using hinvalid
  · intro other hmem hother hne
    rw [Text.encodeUtf8_lt_iff]
    rcases List.mem_append.mp hmem with hmem | hmem
    · have hgood := hbefore other hmem
      simp [hother] at hgood
    · rcases List.mem_cons.mp hmem with heq | hmem
      · exact absurd heq hne
      · exact hafter other hmem

theorem validate_eq_ok_iff :
    validate d = .ok () ↔ ∀ name ∈ namesOf d, isIdentifier name = true := by
  rw [validate]
  constructor
  · intro h
    split at h
    · cases h
    · next hnone =>
      simpa using hnone
  · intro h
    have hnone : ((namesOf d).find? fun name => !isIdentifier name) = none := by
      simpa using h
    rw [hnone]

/-! ## The text of a query -/

/-- The text of the query about some columns. -/
def queryText (d : Descriptor) (columns : List String) (firstOnly : Bool) : String :=
  "SELECT row_to_json(t)::text AS row_json FROM " ++ quoted d.tableName ++ " t" ++
    whereClause columns ++ " ORDER BY t." ++ quoted d.idField ++
    if firstOnly then " LIMIT 1" else ""

theorem select_eq_ok_iff :
    select d f firstOnly = .ok text ↔
      (∀ column ∈ f.columns, isIdentifier column = true) ∧
        text = queryText d f.columns firstOnly := by
  rw [select]
  split
  · next column hfind =>
    have hinvalid := List.find?_some hfind
    constructor
    · intro h
      cases h
    · intro h
      rw [h.1 column (List.mem_of_find?_eq_some hfind)] at hinvalid
      cases hinvalid
  · next hnone =>
    have hvalid : ∀ column ∈ f.columns, isIdentifier column = true := by
      simpa using hnone
    rw [Except.ok.injEq, eq_comm]
    exact (and_iff_right hvalid).symm

theorem exists_select_eq_ok_iff :
    (∃ text, select d f firstOnly = .ok text) ↔
      ∀ column ∈ f.columns, isIdentifier column = true := by
  simp only [select_eq_ok_iff, exists_and_left, exists_eq, and_true]

theorem exists_isFirstInvalid (d : Descriptor) (firstOnly : Bool)
    (hlt : f.columns.Pairwise (· < ·))
    (h : ¬ ∀ column ∈ f.columns, isIdentifier column = true) :
    ∃ column, IsFirstInvalid f.columns column ∧
      select d f firstOnly =
        .error (.query d.name ("invalid column name '" ++ column ++ "'")) := by
  have hsome : (f.columns.find? fun column => !isIdentifier column).isSome := by
    rw [List.find?_isSome]
    simpa using h
  obtain ⟨column, hcolumn⟩ := Option.isSome_iff_exists.mp hsome
  refine ⟨column, isFirstInvalid_of_find? hlt hcolumn, ?_⟩
  rw [select, hcolumn]

theorem toList_queryText (d : Descriptor) (columns : List String) (firstOnly : Bool) :
    (queryText d columns firstOnly).toList =
      "SELECT row_to_json(t)::text AS row_json FROM ".toList ++ ((quoted d.tableName).toList ++
        (" t".toList ++ ((whereClause columns).toList ++ (" ORDER BY t.".toList ++
          ((quoted d.idField).toList ++ (if firstOnly then " LIMIT 1" else "").toList))))) := by
  unfold queryText
  simp only [String.toList_append, List.append_assoc]

theorem quotedParts_queryText {columns : List String}
    (h : ∀ name ∈ d.tableName :: columns ++ [d.idField], '"' ∉ name.toList) :
    quotedParts none (queryText d columns firstOnly).toList =
      some (d.tableName :: columns ++ [d.idField]) := by
  have htable := h d.tableName (by simp)
  have hid := h d.idField (by simp)
  have hcolumns : ∀ column ∈ columns, '"' ∉ column.toList := by
    intro column hcolumn
    exact h column (by simp [hcolumn])
  have hlimit : quotedParts none (if firstOnly then " LIMIT 1" else "").toList = some [] := by
    cases firstOnly <;> rfl
  rw [toList_queryText, quotedParts_append (by decide), quotedParts_quoted htable,
    quotedParts_append (by decide), quotedParts_whereClause hcolumns,
    quotedParts_append (by decide), quotedParts_quoted hid, hlimit]
  rfl

/-- The names in a query and its limit can be read off its text. -/
theorem queryText_eq_iff {columns columns' : List String}
    (h : ∀ name ∈ d.tableName :: columns ++ [d.idField], '"' ∉ name.toList)
    (h' : ∀ name ∈ d'.tableName :: columns' ++ [d'.idField], '"' ∉ name.toList) :
    queryText d columns firstOnly = queryText d' columns' firstOnly' ↔
      d.tableName = d'.tableName ∧ d.idField = d'.idField ∧ columns = columns' ∧
        firstOnly = firstOnly' := by
  constructor
  · intro heq
    -- The quoted parts are the names; once these are equal, the limits are all that is left.
    have hparts : some (d.tableName :: columns ++ [d.idField]) =
        some (d'.tableName :: columns' ++ [d'.idField]) := by
      rw [← quotedParts_queryText h, heq, quotedParts_queryText h']
    obtain ⟨htable, hrest⟩ := List.cons.inj (Option.some.inj hparts)
    obtain ⟨hcolumns, hlast⟩ := List.append_inj' hrest rfl
    have hid := (List.cons.inj hlast).1
    refine ⟨htable, hid, hcolumns, ?_⟩
    unfold queryText at heq
    rw [htable, hcolumns, hid, String.append_right_inj] at heq
    cases firstOnly <;> cases firstOnly' <;> simp at heq ⊢
  · rintro ⟨htable, hid, rfl, rfl⟩
    unfold queryText
    rw [htable, hid]

/-! ## Values -/

theorem query_of_select {catalog : Catalog} {entity : String}
    (hdescribe : catalog.describe entity = .ok d) (h : select d f firstOnly = .ok text) :
    catalog.query entity f firstOnly = .ok (text, parameters f) := by
  rw [Catalog.query, hdescribe]
  simp only [bind, Except.bind, h]
  rfl

theorem forall₂_parameters (calls : List (String × Json)) :
    List.Forall₂ (fun column bound =>
        ∃ value, calls.reverse.lookup column = some value ∧ bound = textForm value)
      (Filter.ofCalls calls).columns (parameters (.ofCalls calls)) := by
  rw [Filter.columns, parameters, List.forall₂_map_left_iff, List.forall₂_map_right_iff,
    List.forall₂_same]
  intro condition hmem
  exact ⟨condition.2, Filter.lookup_of_mem_conditions hmem, rfl⟩

/-! ## Queries -/

/-- What holds of the text of a query for the values that are asked for by `calls`.  The parts in
quotes are the names of the table, the columns and the id.  The values do not matter for the text,
the names and the limit can be told from it.  The columns stand in the order of their bytes, and the
parameter that the `i`-th of them is compared with is bound to the value it was last asked to
have. -/
structure IsQueryFor (d : Descriptor) (calls : List (String × Json)) (firstOnly : Bool)
    (text : String) : Prop where
  quotes : quotedParts none text.toList =
    some (d.tableName :: (Filter.ofCalls calls).columns ++ [d.idField])
  noOtherQuote : text.toList.count '"' = 2 * ((Filter.ofCalls calls).columns.length + 2)
  identifiers : ∀ name ∈ d.tableName :: (Filter.ofCalls calls).columns ++ [d.idField],
    isIdentifier name = true
  ignoresValues : ∀ calls', (∀ column,
      column ∈ (Filter.ofCalls calls).columns ↔ column ∈ (Filter.ofCalls calls').columns) →
    select d (.ofCalls calls') firstOnly = .ok text
  distinguishes : ∀ d' calls' firstOnly' text', validate d' = .ok () →
    select d' (.ofCalls calls') firstOnly' = .ok text' →
    (text = text' ↔ d.tableName = d'.tableName ∧ d.idField = d'.idField ∧
      (∀ column,
        column ∈ (Filter.ofCalls calls).columns ↔ column ∈ (Filter.ofCalls calls').columns) ∧
      firstOnly = firstOnly')
  asked : ∀ column, column ∈ (Filter.ofCalls calls).columns ↔ column ∈ calls.map (·.1)
  ordered : (Filter.ofCalls calls).columns.Pairwise fun column column' =>
    Text.encodeUtf8 column.toList < Text.encodeUtf8 column'.toList
  wording : text =
    "SELECT row_to_json(t)::text AS row_json FROM " ++ quoted d.tableName ++ " t" ++
      (if (Filter.ofCalls calls).columns = [] then ""
        else " WHERE " ++
          " AND ".intercalate (((Filter.ofCalls calls).columns.zipIdx 1).map comparison)) ++
      " ORDER BY t." ++ quoted d.idField ++ if firstOnly then " LIMIT 1" else ""
  bound : List.Forall₂
    (fun column text => ∃ value, calls.reverse.lookup column = some value ∧ text = textForm value)
    (Filter.ofCalls calls).columns (parameters (.ofCalls calls))
  sent : ∀ (catalog : Catalog) (entity : String), catalog.describe entity = .ok d →
    catalog.query entity (.ofCalls calls) firstOnly = .ok (text, parameters (.ofCalls calls))

theorem isIdentifier_of_validate {columns : List String} (hvalid : validate d = .ok ())
    (hcolumns : ∀ column ∈ columns, isIdentifier column = true) :
    ∀ name ∈ d.tableName :: columns ++ [d.idField], isIdentifier name = true := by
  have hnames := validate_eq_ok_iff.mp hvalid
  intro name hname
  simp only [List.cons_append, List.mem_cons, List.mem_append, List.not_mem_nil, or_false] at hname
  rcases hname with rfl | hcolumn | rfl
  · exact hnames _ (by simp [namesOf])
  · exact hcolumns name hcolumn
  · exact hnames _ (by simp [namesOf])

theorem quote_notMem_of_validate {columns : List String} (hvalid : validate d = .ok ())
    (hcolumns : ∀ column ∈ columns, isIdentifier column = true) :
    ∀ name ∈ d.tableName :: columns ++ [d.idField], '"' ∉ name.toList := by
  intro name hname
  exact quote_notMem_of_isIdentifier (isIdentifier_of_validate hvalid hcolumns name hname)

theorem whereClause_eq (columns : List String) :
    whereClause columns =
      if columns = [] then ""
      else " WHERE " ++ " AND ".intercalate ((columns.zipIdx 1).map comparison) := by
  rw [whereClause, conditions_eq_map]
  simp only [List.isEmpty_iff]

theorem isQueryFor_of_select {calls : List (String × Json)} (hvalid : validate d = .ok ())
    (h : select d (.ofCalls calls) firstOnly = .ok text) :
    IsQueryFor d calls firstOnly text := by
  obtain ⟨hcolumns, rfl⟩ := select_eq_ok_iff.mp h
  have hplain := quote_notMem_of_validate hvalid hcolumns
  have hquotes : quotedParts none (queryText d (Filter.ofCalls calls).columns firstOnly).toList =
      some (d.tableName :: (Filter.ofCalls calls).columns ++ [d.idField]) :=
    quotedParts_queryText hplain
  constructor
  case quotes => exact hquotes
  case noOtherQuote =>
    have hcount := count_of_quotedParts hquotes
    simpa using hcount
  case identifiers => exact isIdentifier_of_validate hvalid hcolumns
  case ignoresValues =>
    intro calls' hsame
    rw [Filter.columns_eq_iff.mpr hsame] at hcolumns ⊢
    exact select_eq_ok_iff.mpr ⟨hcolumns, rfl⟩
  case distinguishes =>
    intro d' calls' firstOnly' text' hvalid' h'
    obtain ⟨hcolumns', rfl⟩ := select_eq_ok_iff.mp h'
    rw [queryText_eq_iff hplain (quote_notMem_of_validate hvalid' hcolumns'),
      Filter.columns_eq_iff]
  case asked =>
    intro column
    exact Filter.mem_columns_iff
  case ordered =>
    simp only [Text.encodeUtf8_lt_iff]
    exact Filter.columns_pairwise_lt calls
  case wording =>
    unfold queryText
    rw [whereClause_eq]
  case bound => exact forall₂_parameters calls
  case sent =>
    intro catalog entity hdescribe
    exact query_of_select hdescribe h

/-- A query is made unless the filter asks for a column that is no plain identifier, and then it is
safe: only plain identifiers stand between its quotes, its text depends on the table, the id, the
set of columns and the limit and tells them apart, and each value is bound to the parameter that its
own column is compared with. -/
theorem select_isQueryFor (d : Descriptor) (hvalid : validate d = .ok ())
    (calls : List (String × Json)) (firstOnly : Bool) :
    ((∃ text, select d (.ofCalls calls) firstOnly = .ok text) ↔
        ∀ column ∈ (Filter.ofCalls calls).columns, isIdentifier column = true) ∧
      ((¬ ∀ column ∈ (Filter.ofCalls calls).columns, isIdentifier column = true) →
        ∃ column, IsFirstInvalid (Filter.ofCalls calls).columns column ∧
          select d (.ofCalls calls) firstOnly =
            .error (.query d.name ("invalid column name '" ++ column ++ "'"))) ∧
      ∀ text, select d (.ofCalls calls) firstOnly = .ok text →
        IsQueryFor d calls firstOnly text := by
  refine ⟨exists_select_eq_ok_iff, ?_, ?_⟩
  · intro h
    exact exists_isFirstInvalid d firstOnly (Filter.columns_pairwise_lt calls) h
  · intro text h
    exact isQueryFor_of_select hvalid h

/-- Orders, with what is asked of them in no particular order. -/
def sampleOrders : Descriptor :=
  { Descriptor.plain "Order" ["total", "userId"] with table := some "orders" }

def sampleCalls : List (String × Json) :=
  [("userId", .string "1"), ("status", .string "open")]

theorem sampleOrders_isQueryFor :
    validate sampleOrders = .ok () ∧
      parameters (.ofCalls sampleCalls) = [some "open", some "1"] ∧
      IsQueryFor sampleOrders sampleCalls false
        ("SELECT row_to_json(t)::text AS row_json FROM \"orders\" t " ++
          "WHERE t.\"status\"::text = $1 AND t.\"userId\"::text = $2 ORDER BY t.\"id\"") := by
  have hvalid : validate sampleOrders = .ok () := by decide
  refine ⟨hvalid, rfl, (select_isQueryFor sampleOrders hvalid sampleCalls false).2.2 _ ?_⟩
  rfl

end Sql
end SparseFields
