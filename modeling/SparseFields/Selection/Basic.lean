/-!
# Selections

A selection is an ordered list of fields.  A field is taken whole, or only the part of it that a
further selection picks.  Fields keep the order in which they were first chosen, and choosing a
field again replaces its pick in place.
-/

namespace SparseFields

/-- The chosen fields, in order: each whole, or reduced to the part that a selection picks. -/
inductive Selection
  | nil
  | whole (field : String) (rest : Selection)
  | part (field : String) (sub rest : Selection)
deriving DecidableEq, Repr, Inhabited

namespace Selection

/-- What is taken of one field. -/
inductive Pick
  | whole
  | part (sub : Selection)
deriving DecidableEq, Repr

/-- A pick that takes the field as it is. -/
def Pick.isWhole : Pick → Bool
  | .whole => true
  | .part _ => false

/-- Puts a field in front. -/
def cons (field : String) (pick : Pick) (rest : Selection) : Selection :=
  match pick with
  | .whole => .whole field rest
  | .part sub => .part field sub rest

/-- The fields with their picks, in order. -/
def toList : Selection → List (String × Pick)
  | .nil => []
  | .whole field rest => (field, .whole) :: rest.toList
  | .part field sub rest => (field, .part sub) :: rest.toList

/-- The fields, in order. -/
def fields (s : Selection) : List String :=
  s.toList.map (·.1)

/-- The number of fields at the top level. -/
def size (s : Selection) : Nat :=
  s.toList.length

/-- A selection without a field. -/
def isEmpty (s : Selection) : Bool :=
  s.toList.isEmpty

/-- The pick of a field. -/
def get? (field : String) : Selection → Option Pick
  | .nil => none
  | .whole f rest => if f = field then some .whole else get? field rest
  | .part f sub rest => if f = field then some (.part sub) else get? field rest

/-- Whether a field is chosen at the top level. -/
def contains (field : String) (s : Selection) : Bool :=
  (s.get? field).isSome

/-- Chooses a field: a new one comes last, a chosen one gets the new pick where it stands. -/
def insert (field : String) (pick : Pick) : Selection → Selection
  | .nil => cons field pick .nil
  | .whole f rest => if f = field then cons f pick rest else .whole f (insert field pick rest)
  | .part f sub rest => if f = field then cons f pick rest else .part f sub (insert field pick rest)

/-- Chooses a field, and gives the pick that is replaced by this. -/
def getThenInsert? (field : String) (pick : Pick) : Selection → Option Pick × Selection
  | .nil => (none, cons field pick .nil)
  | .whole f rest =>
      if f = field then (some .whole, cons f pick rest)
      else (getThenInsert? field pick rest).map id (.whole f)
  | .part f sub rest =>
      if f = field then (some (.part sub), cons f pick rest)
      else (getThenInsert? field pick rest).map id (.part f sub)

/-- Chooses fields one after another. -/
def ofList (entries : List (String × Pick)) : Selection :=
  entries.foldl (fun s entry => s.insert entry.1 entry.2) .nil

/-- The number of levels: one more than the deepest part, and none without a field. -/
def depth : Selection → Nat
  | .nil => 0
  | .whole _ rest => max 1 rest.depth
  | .part _ sub rest => max (1 + sub.depth) rest.depth

/-- Every field of the first selection has the same pick in the second one, in any order at any
level. -/
def picksWithin : Selection → Selection → Bool
  | .nil, _ => true
  | .whole field rest, other => other.get? field == some .whole && picksWithin rest other
  | .part field sub rest, other =>
      (match other.get? field with
        | some (.part otherSub) => sub.size == otherSub.size && picksWithin sub otherSub
        | _ => false) && picksWithin rest other

/-- Selections are equivalent when they choose the same fields with equivalent picks, whatever the
order of the fields. -/
def equivalent (s t : Selection) : Bool :=
  s.size == t.size && picksWithin s t

/-- No level chooses a field twice. -/
def Distinct : Selection → Prop
  | .nil => True
  | .whole field rest => field ∉ rest.fields ∧ rest.Distinct
  | .part field sub rest => field ∉ rest.fields ∧ sub.Distinct ∧ rest.Distinct

@[simp]
theorem toList_cons (field : String) (pick : Pick) (rest : Selection) :
    (cons field pick rest).toList = (field, pick) :: rest.toList := by
  cases pick <;> rfl

@[simp]
theorem get?_cons (field key : String) (pick : Pick) (rest : Selection) :
    (cons field pick rest).get? key = if field = key then some pick else rest.get? key := by
  cases pick <;> rfl

/-- What is replaced is the pick that the field had. -/
theorem getThenInsert?_eq (field : String) (pick : Pick) (s : Selection) :
    s.getThenInsert? field pick = (s.get? field, s.insert field pick) := by
  induction s with
  | nil => rfl
  | whole f rest ih => by_cases h : f = field <;> simp [getThenInsert?, get?, insert, h, ih]
  | part f sub rest _ ih => by_cases h : f = field <;> simp [getThenInsert?, get?, insert, h, ih]

/-- The field just chosen has the pick it was chosen with. -/
theorem get?_insert_self (field : String) (pick : Pick) (s : Selection) :
    (s.insert field pick).get? field = some pick := by
  induction s with
  | nil => simp [insert]
  | whole f rest ih => by_cases h : f = field <;> simp [insert, get?, h, ih]
  | part f sub rest _ ih => by_cases h : f = field <;> simp [insert, get?, h, ih]

/-- Choosing one field leaves the picks of the others. -/
theorem get?_insert_of_ne {field key : String} (pick : Pick) (s : Selection) (h : field ≠ key) :
    (s.insert field pick).get? key = s.get? key := by
  induction s with
  | nil => simp [insert, get?, h]
  | whole f rest ih =>
      by_cases hf : f = field
      · subst hf
        simp [insert, get?, h]
      · simp [insert, get?, hf, ih]
  | part f sub rest _ ih =>
      by_cases hf : f = field
      · subst hf
        simp [insert, get?, h]
      · simp [insert, get?, hf, ih]

end Selection
end SparseFields
